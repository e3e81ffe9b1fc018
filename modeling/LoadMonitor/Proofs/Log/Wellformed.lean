import LoadMonitor.Proofs.Log.Generated
import LoadMonitor.Proofs.Random.Guarded

/-!
# Batches are well formed

Log lines and queries are drawn once more with guarded draws. The tables have members and the
bounds have numbers between them, so no draw ends in a fault; and whatever is drawn looks as it
should.
-/

namespace LoadMonitor

/-! ## Guarded generation -/

namespace Guarded

variable {ρ : Type} [RandomSource ρ]

/-- A log line of normal operation. -/
def line (patience : Nat) : Guarded ρ LogEntry := do
  let level ← weighed Generator.levels patience
  let userId ← between patience 1000 9999
  let durationMs ← between patience 10 500
  let activity ← choose patience Generator.activities
  let service ← choose patience Generator.services
  return {
    level
    message := "Normal operation log - " ++ activity
    service
    attributes := .ofList
      [("user_id", .integer userId), ("duration_ms", .integer durationMs),
        ("status", .string (Generator.statusOf level))] }

/-- A batch of normal operation. -/
def batch (patience : Nat) : Guarded ρ (List LogEntry) := do
  let size ← betweenWide patience Generator.batchSize.1 Generator.batchSize.2
  repeated size (line patience)

/-- A log line of a load test with batches of the given size. -/
def burstLine (patience size : Nat) : Guarded ρ LogEntry := do
  let level ← choose patience Generator.burstLevels
  return {
    level
    message := "High load test log"
    service := Generator.burstService
    attributes := .ofList [("load_test", .bool true), ("batch_size", .integer size)] }

/-- A batch of the load test. -/
def burst (patience : Nat) : Guarded ρ (List LogEntry) := do
  let size ← betweenWide patience Generator.burstSize.1 Generator.burstSize.2
  repeated size (burstLine patience size)

/-- One of the queries of normal operation. -/
def query (patience : Nat) : Guarded ρ String := choose patience Generator.queries

theorem line_eq (patience : Nat) :
    (line patience : Guarded ρ LogEntry) = liftM (Generator.line patience : Gen ρ LogEntry) := by
  unfold line Generator.line Generator.level
  -- The tables and the bounds are fixed, so that whatever is asked for can be seen to be there.
  rw [weighed_eq, between_eq patience (by decide), between_eq patience (by decide),
    choose_eq patience (by decide), choose_eq patience (by decide)]
  simp only [liftM_bind, liftM_pure]

theorem batch_eq (patience : Nat) :
    (batch patience : Guarded ρ (List LogEntry)) =
      liftM (Generator.batch patience : Gen ρ (List LogEntry)) := by
  unfold batch Generator.batch
  rw [betweenWide_eq patience (by decide), line_eq]
  simp only [repeated_liftM, liftM_bind]

theorem burstLine_eq (patience size : Nat) :
    (burstLine patience size : Guarded ρ LogEntry) =
      liftM (Generator.burstLine patience size : Gen ρ LogEntry) := by
  unfold burstLine Generator.burstLine
  rw [choose_eq patience (by decide)]
  simp only [liftM_bind, liftM_pure]

theorem burst_eq (patience : Nat) :
    (burst patience : Guarded ρ (List LogEntry)) =
      liftM (Generator.burst patience : Gen ρ (List LogEntry)) := by
  unfold burst Generator.burst
  rw [betweenWide_eq patience (by decide)]
  simp only [burstLine_eq, repeated_liftM, liftM_bind]

theorem query_eq (patience : Nat) :
    (query patience : Guarded ρ String) = liftM (Generator.query patience : Gen ρ String) :=
  choose_eq patience (by decide)

end Guarded

/-! ## Whatever is generated -/

namespace Generator

/-- Every batch that is drawn, from whatever source, has a size within its bounds and nothing but
lines of its kind; those of a load test know the size of the very batch in which they stand. A
query that is drawn is one of the table. Guarded draws generate the same, so that none of them
ends in a fault. -/
theorem batches_wellFormed {ρ : Type} [RandomSource ρ] (patience : Nat) (source source' : ρ) :
    (∀ lines, (batch patience).run source = some (lines, source') →
      (10 ≤ lines.length ∧ lines.length ≤ 50) ∧ ∀ e ∈ lines, e.IsNormal) ∧
    (∀ lines, (burst patience).run source = some (lines, source') →
      (500 ≤ lines.length ∧ lines.length ≤ 1000) ∧ ∀ e ∈ lines, e.IsBurst lines.length) ∧
    (∀ sql, (query patience).run source = some (sql, source') → sql ∈ queries) ∧
    (Guarded.batch patience : Guarded ρ (List LogEntry)) =
      liftM (batch patience : Gen ρ (List LogEntry)) ∧
    (Guarded.burst patience : Guarded ρ (List LogEntry)) =
      liftM (burst patience : Gen ρ (List LogEntry)) ∧
    (Guarded.query patience : Guarded ρ String) = liftM (query patience : Gen ρ String) := by
  refine ⟨?_, ?_, ?_, Guarded.batch_eq patience, Guarded.burst_eq patience,
    Guarded.query_eq patience⟩
  · intro lines hrun
    exact batch_yields patience source lines source' hrun
  · intro lines hrun
    exact burst_yields patience source lines source' hrun
  · intro sql hrun
    exact query_yields patience source sql source' hrun

/-! ## A source of zeros -/

/-- A source that hands out nothing but zeros. -/
structure Zeros where
  deriving DecidableEq, Repr

instance : RandomSource Zeros := ⟨fun s => (0, s)⟩

/-- What leaves the source as it is yields the same again and again. -/
theorem repeated_run {ρ α : Type} {g : Gen ρ α} {source : ρ} {a : α}
    (h : g.run source = some (a, source)) (n : Nat) :
    (Gen.repeated n g).run source = some (List.replicate n a, source) := by
  induction n with
  | zero => rfl
  | succ n ih =>
      unfold Gen.repeated
      rw [StateT.run_bind, h, Option.bind_eq_bind, Option.bind_some, StateT.run_bind, ih]
      rfl

/-- The log line of the load test that is drawn from zeros. -/
def firstBurstLine : LogEntry where
  level := .info
  message := "High load test log"
  service := burstService
  attributes := .ofList [("load_test", .bool true), ("batch_size", .integer 500)]

theorem burst_zeros :
    (burst 1).run (⟨⟩ : Zeros) = some (List.replicate 500 firstBurstLine, ⟨⟩) := by
  have hsize : (Uniform.betweenWide 1 burstSize.1 burstSize.2).run (⟨⟩ : Zeros) = some (500, ⟨⟩) :=
    rfl
  have hline : (burstLine 1 500).run (⟨⟩ : Zeros) = some (firstBurstLine, ⟨⟩) := rfl
  unfold burst
  rw [StateT.run_bind, hsize, Option.bind_eq_bind, Option.bind_some]
  exact repeated_run hline 500

/-- From zeros the shortest batches are drawn, and the first of all queries. -/
theorem batches_wellFormed_zeros : ∃ lines sql,
    (batch 1).run (⟨⟩ : Zeros) = some (lines, ⟨⟩) ∧ (∀ e ∈ lines, e.IsNormal) ∧
    (burst 1).run (⟨⟩ : Zeros) = some (List.replicate 500 firstBurstLine, ⟨⟩) ∧
    firstBurstLine.IsBurst 500 ∧
    (query 1).run (⟨⟩ : Zeros) = some (sql, ⟨⟩) ∧ sql ∈ queries := by
  obtain ⟨hbatch, hburst, hquery, -⟩ := batches_wellFormed 1 (⟨⟩ : Zeros) ⟨⟩
  refine ⟨_, _, rfl, (hbatch _ rfl).2, burst_zeros, ?_, rfl, hquery _ rfl⟩
  have hmem : firstBurstLine ∈ List.replicate 500 firstBurstLine :=
    List.mem_replicate.mpr ⟨by decide, rfl⟩
  have hline := (hburst _ burst_zeros).2 firstBurstLine hmem
  rwa [List.length_replicate] at hline

end Generator
end LoadMonitor
