import LoadMonitor.Log.Generator
import LoadMonitor.Proofs.Random.Draw

/-!
# What is generated

What every generated log line looks like, how many of them stand in a batch, and which queries are
put, for every random source. A batch is drawn line by line, so a law of one line is a law of all.
-/

namespace LoadMonitor

/-! ## Log lines -/

/-- A log line of normal operation. -/
structure LogEntry.IsNormal (e : LogEntry) : Prop where
  service : e.service ∈ Generator.services
  message : ∃ activity ∈ Generator.activities, e.message = "Normal operation log - " ++ activity
  /-- These three attributes and no others, in the order of their keys. -/
  attributes : ∃ userId durationMs : Nat, (1000 ≤ userId ∧ userId ≤ 9999) ∧
    (10 ≤ durationMs ∧ durationMs ≤ 500) ∧
    e.attributes =
      [("duration_ms", .integer durationMs),
        ("status", .string (if e.level = .error then "failed" else "success")),
        ("user_id", .integer userId)]

/-- A log line of a load test with batches of the given size. -/
structure LogEntry.IsBurst (size : Nat) (e : LogEntry) : Prop where
  level : e.level = .info ∨ e.level = .warning ∨ e.level = .error
  service : e.service = "load-test"
  message : e.message = "High load test log"
  attributes : e.attributes = [("batch_size", .integer size), ("load_test", .bool true)]

namespace Generator

variable {ρ : Type} [RandomSource ρ]

theorem line_yields (patience : Nat) :
    (line patience : Gen ρ LogEntry).Yields LogEntry.IsNormal := by
  have hlevel : (level patience : Gen ρ LogLevel).Yields fun _ => True :=
    fun _ _ _ _ => trivial
  refine hlevel.bind fun level _ => ?_
  refine (Uniform.between_yields patience (by decide)).bind fun userId huserId => ?_
  refine (Uniform.between_yields patience (by decide)).bind fun durationMs hdurationMs => ?_
  refine (Uniform.choose_yields patience activities).bind fun activity hactivity => ?_
  refine (Uniform.choose_yields patience services).bind fun service hservice => .pure ?_
  constructor
  case service => exact hservice
  case message => exact ⟨activity, hactivity, rfl⟩
  case attributes =>
    refine ⟨userId, durationMs, huserId, hdurationMs, ?_⟩
    have hkeys : "duration_ms" < "user_id" ∧ "status" < "user_id" ∧ ¬"status" < "duration_ms" := by
      decide
    simp only [JsonMembers.ofList, List.foldl_cons, List.foldl_nil, JsonMembers.insert, hkeys,
      String.reduceEq, if_true, if_false, statusOf]

theorem burstLine_yields (patience size : Nat) :
    (burstLine patience size : Gen ρ LogEntry).Yields (LogEntry.IsBurst size) := by
  refine (Uniform.choose_yields patience burstLevels).bind fun level hlevel => .pure ?_
  constructor
  case level => simpa [burstLevels] using hlevel
  case service => rfl
  case message => rfl
  case attributes =>
    have hkeys : "batch_size" < "load_test" := by decide
    simp only [JsonMembers.ofList, List.foldl_cons, List.foldl_nil, JsonMembers.insert, hkeys,
      String.reduceEq, if_true, if_false]

/-! ## Batches -/

/-- A drawn size, and as many log lines, each of which may know the size. -/
theorem sized_yields {patience : Nat} (bounds : Nat × Nat) {g : Nat → Gen ρ LogEntry}
    {P : Nat → LogEntry → Prop} (h : bounds.1 ≤ bounds.2)
    (hline : ∀ size, (g size).Yields (P size)) :
    (do let size ← Uniform.betweenWide patience bounds.1 bounds.2
        Gen.repeated size (g size) : Gen ρ (List LogEntry)).Yields
      fun batch => (bounds.1 ≤ batch.length ∧ batch.length ≤ bounds.2) ∧
        ∀ e ∈ batch, P batch.length e := by
  refine (Uniform.betweenWide_yields patience h).bind fun size hsize => ?_
  refine ((hline size).repeated size).mono fun batch hbatch => ?_
  rw [hbatch.1]
  exact ⟨hsize, hbatch.2⟩

theorem batch_yields (patience : Nat) :
    (batch patience : Gen ρ (List LogEntry)).Yields
      fun lines => (10 ≤ lines.length ∧ lines.length ≤ 50) ∧ ∀ e ∈ lines, e.IsNormal :=
  sized_yields batchSize (by decide) fun _ => line_yields patience

theorem burst_yields (patience : Nat) :
    (burst patience : Gen ρ (List LogEntry)).Yields
      fun lines => (500 ≤ lines.length ∧ lines.length ≤ 1000) ∧
        ∀ e ∈ lines, e.IsBurst lines.length :=
  sized_yields burstSize (by decide) fun size => burstLine_yields patience size

theorem query_yields (patience : Nat) :
    (query patience : Gen ρ String).Yields (· ∈ queries) :=
  Uniform.choose_yields patience queries

end Generator
end LoadMonitor
