import LoadMonitor.Proofs.Load.Logbook
import LoadMonitor.Proofs.Load.Segment
import LoadMonitor.Proofs.Random.Chance
import LoadMonitor.Proofs.Run.Solo
import Mathlib.Algebra.Ring.Nat

/-!
# The figures of a phase

A phase counts what it submits as it goes along. Its figures are those of the calls that others
see, at every position within the phase; and since each iteration is drawn as a whole, the number
of iterations can be read off the calls once the phase is over.
-/

namespace LoadMonitor

/-! ## Calls -/

namespace Submission

/-- The log lines of a call that posts some. -/
def batch? : Submission → Option (List LogEntry)
  | logs _ batch => some batch
  | query _ => none

/-- The text of a call that puts a query. -/
def sql? : Submission → Option String
  | logs _ _ => none
  | query sql => some sql

/-- The batches of the calls that post log lines, in their order. -/
def batches (calls : List Submission) : List (List LogEntry) := calls.filterMap batch?

/-- The texts of the calls that put queries, in their order. -/
def sqls (calls : List Submission) : List String := calls.filterMap sql?

theorem sum_records (calls : List Submission) :
    (calls.map records).sum = ((batches calls).map List.length).sum := by
  induction calls with
  | nil => rfl
  | cons call calls ih =>
      cases call with
      | logs endpoint batch => exact congrArg (batch.length + ·) ih
      | query sql => exact (Nat.zero_add _).trans ih

theorem sum_queries (calls : List Submission) :
    (calls.map queries).sum = (sqls calls).length := by
  induction calls with
  | nil => rfl
  | cons call calls ih =>
      cases call with
      | logs endpoint batch => exact (Nat.zero_add _).trans ih
      | query sql => exact (Nat.add_comm 1 _).trans (congrArg (· + 1) ih)

end Submission

/-- The calls of a phase by which its iterations are counted. -/
def Phase.rounds (calls : List Submission) : Phase → Nat
  | normal _ => (Submission.batches calls).length
  | high _ => (Submission.batches calls).length
  | slow _ => (Submission.sqls calls).length

/-- The figures of a phase are those of its calls. -/
structure PhaseStats.Tells (stats : PhaseStats) (phase : Phase) (calls : List Submission) :
    Prop where
  iterations : stats.iterations = phase.rounds calls
  records : stats.records = ((Submission.batches calls).map List.length).sum
  queries : stats.queries = (Submission.sqls calls).length

/-! ## Counting along -/

namespace Stint

/-- What a phase has done, read off its events alone. -/
def ofEvents (events : List Event) : Stint := events.foldl enter ⟨0, []⟩

@[simp] theorem ofEvents_append (events : List Event) (event : Event) :
    ofEvents (events ++ [event]) = (ofEvents events).enter event := by
  unfold ofEvents
  rw [List.foldl_append]
  rfl

/-- The calls of a phase are entered one by one. -/
theorem submissions_ofEvents (events : List Event) :
    (ofEvents events).submissions = Event.submissions events := by
  induction events using List.reverseRecOn with
  | nil => rfl
  | append_singleton events event ih =>
      rw [ofEvents_append, submissions_enter, ih, Event.submissions_append]
      cases hevent : event.submission? <;> simp [Event.submissions, hevent]

/-- The figures of what a phase has done. -/
def figures (s : Stint) : PhaseStats :=
  ⟨s.iterations, (s.submissions.map Submission.records).sum,
    (s.submissions.map Submission.queries).sum⟩

end Stint

namespace PhaseState

variable {ρ : Type}

/-- What a position carries along, if it is not still waiting for a word. -/
def progress? : PhaseState ρ → Option (Progress ρ)
  | starting _ progress => some progress
  | timing _ _ progress => some progress
  | checking _ progress => some progress
  | submitting _ _ _ progress => some progress
  | pausing _ progress => some progress
  | finished progress => some progress
  | drawing => none

@[simp] theorem progress?_again (progress : Progress ρ) (allowance : Allowance) :
    (again progress allowance).progress? = some progress := by
  cases allowance with
  | span started duration => rfl
  | count left => cases left <;> rfl

@[simp] theorem progress?_submit (allowance : Allowance) (progress : Progress ρ)
    (ss : List Submission) : (submit allowance progress ss).progress? = some progress := by
  cases ss <;> rfl

@[simp] theorem progress?_start (source : ρ) (phase : Phase) :
    (start source phase).progress? = some ⟨source, .zero⟩ := by
  cases phase with
  | slow count => exact progress?_again _ _
  | _ => rfl

/-- The figures of a position are those of what has been done. -/
def Counts (stint : Stint) (s : PhaseState ρ) : Prop :=
  ∀ progress, s.progress? = some progress → progress.stats = stint.figures

namespace Counts

variable {stint : Stint} {progress : Progress ρ}

theorem of_eq {s : PhaseState ρ} (hprogress : s.progress? = some progress)
    (h : progress.stats = stint.figures) : s.Counts stint := by
  intro progress' hprogress'
  rw [← Option.some.inj (hprogress.symm.trans hprogress')]
  exact h

theorem start {source : ρ} {phase : Phase} : (start source phase).Counts ⟨0, []⟩ :=
  of_eq (progress?_start source phase) rfl

/-- Each step counts what it does. -/
theorem step [RandomSource ρ] {pacing : Pacing} {patience : Nat} {phase : Phase}
    {s t : PhaseState ρ} {e : Effect (PhaseState ρ)} {event : Event} (h : s.Counts stint)
    (heffect : s.effect pacing patience phase = some e) (htakes : e.Takes event t) :
    t.Counts (stint.enter event) := by
  cases s with
  | starting duration progress => cases heffect; cases htakes; exact of_eq rfl (h _ rfl)
  | timing started duration progress =>
      cases heffect; cases htakes with
      | clock now => dsimp only; split <;> exact of_eq rfl (h _ rfl)
  | checking allowance progress =>
      cases heffect; cases htakes with
      | isRunning running =>
          cases running with
          | false => exact of_eq rfl (h _ rfl)
          | true =>
              unfold iterate
              cases hdraw : (phase.iteration pacing patience).run progress.source with
              | none => intro _ hnone; cases hnone
              | some drawn =>
                  -- The iteration is counted as it begins, before anything of it is submitted.
                  refine of_eq (progress?_submit _ _ _) ?_
                  unfold Progress.begun
                  rw [h _ rfl]
                  rfl
  | submitting allowance next rest progress =>
      cases heffect; cases htakes with
      | submit =>
          refine of_eq (progress?_submit _ _ _) ?_
          unfold Progress.count
          rw [h _ rfl]
          simp [Stint.figures, Stint.enter]
  | pausing allowance progress =>
      cases heffect; cases htakes with
      | pause running =>
          cases running with
          | true => exact of_eq (progress?_again _ _) (h _ rfl)
          | false => exact of_eq rfl (h _ rfl)
  | finished progress => cases heffect
  | drawing => cases heffect

end Counts
end PhaseState

/-! ## Iterations and their calls -/

namespace Phase

/-- Each iteration has one call by which it is counted. -/
theorem rounds_flatten {phase : Phase} {its : List (List Submission)}
    (h : ∀ ss ∈ its, phase.IsIteration ss) : phase.rounds its.flatten = its.length := by
  induction its with
  | nil => cases phase <;> rfl
  | cons ss its ih =>
      obtain ⟨hss, hits⟩ := List.forall_mem_cons.mp h
      have hone : phase.rounds (ss ++ its.flatten) = phase.rounds its.flatten + 1 := by
        cases phase with
        | normal duration =>
            obtain ⟨batch, -, rfl | ⟨query, -, rfl⟩⟩ := hss
            · rfl
            · rfl
        | high duration => obtain ⟨batch, -, rfl⟩ := hss; rfl
        | slow count => obtain rfl := hss; rfl
      rw [List.flatten_cons, hone, ih hits, List.length_cons]

/-- What the probability of a query makes of an iteration of normal operation. -/
structure Asks (probability : Binary64) (ss : List Submission) : Prop where
  /-- There is no query if the probability is no number or not above zero. -/
  never : probability.isNaN = true ∨ probability.le .zero = true →
    ∃ batch, ss = [.logs .ingest batch]
  /-- There is one if the probability is one or more. -/
  always : Binary64.one.le probability = true →
    ∃ batch sql, ss = [.logs .ingest batch, .query sql]

variable {ρ : Type} [RandomSource ρ] {pacing : Pacing}

theorem iteration_never (duration : Duration) (patience : Nat)
    (h : Chance.ofProbability pacing.queryProbability = ⟨0⟩) :
    ((normal duration).iteration pacing patience : Gen ρ (List Submission)).Yields
      fun ss => ∃ batch, ss = [.logs .ingest batch] := by
  refine (Generator.batch_yields patience).bind fun batch _ => ?_
  rw [h]
  refine Chance.decide_zero_yields.bind fun asks hasks => .ite (fun hyes => ?_) fun _ => ?_
  · rw [hasks] at hyes
    cases hyes
  · exact .pure ⟨batch, rfl⟩

theorem iteration_always (duration : Duration) (patience : Nat)
    (h : Chance.ofProbability pacing.queryProbability = ⟨Nat.pow 2 64⟩) :
    ((normal duration).iteration pacing patience : Gen ρ (List Submission)).Yields
      fun ss => ∃ batch sql, ss = [.logs .ingest batch, .query sql] := by
  refine (Generator.batch_yields patience).bind fun batch _ => ?_
  rw [h]
  refine Chance.decide_sure_yields.bind fun asks hasks => .ite (fun _ => ?_) fun hno => ?_
  · exact (Generator.query_yields patience).bind fun sql _ => .pure ⟨batch, sql, rfl⟩
  · exact absurd hasks hno

theorem iteration_asks (pacing : Pacing) (duration : Duration) (patience : Nat) :
    ((normal duration).iteration pacing patience : Gen ρ (List Submission)).Yields
      (Asks pacing.queryProbability) := by
  intro source ss source' hdraw
  constructor
  case never =>
    intro hprobability
    refine iteration_never duration patience ?_ source ss source' hdraw
    rcases hprobability with hnan | hle
    · exact Chance.ofProbability_of_isNaN hnan
    · obtain ⟨n, hn⟩ := (Binary64.position_of_le hle).1
      exact Chance.ofProbability_of_le hn ((Binary64.le_iff hn Binary64.position_zero).mp hle)
  case always =>
    intro hge
    refine iteration_always duration patience ?_ source ss source' hdraw
    obtain ⟨n, hn⟩ := (Binary64.position_of_le hge).2
    exact Chance.ofProbability_of_ge hn ((Binary64.le_iff Binary64.position_one hn).mp hge)

/-- What is drawn in a row are iterations of the phase, with queries as the probability has it. -/
theorem drawn_of_steps {probability : Binary64} {phase : Phase} {source source' : ρ}
    {its : List (List Submission)} (h : Steps (phase.Draws probability) source its source') :
    ∀ ss ∈ its, phase.IsIteration ss ∧ ∀ duration, phase = .normal duration →
      Asks probability ss := by
  refine h.forall_labels (P := fun ss => phase.IsIteration ss ∧ ∀ duration,
    phase = .normal duration → Asks probability ss) ?_
  rintro source ss source' ⟨pacing, patience, rfl, hdraw⟩
  refine ⟨iteration_yields pacing patience phase source ss source' hdraw, ?_⟩
  rintro duration rfl
  exact iteration_asks pacing duration patience source ss source' hdraw

end Phase

/-! ## Runs of a phase -/

namespace PhaseState

variable {ρ : Type} [RandomSource ρ] {pacing : Pacing} {patience : Nat} {phase : Phase}
  {source : ρ} {run : RunState} {moves : List Move} {s : Solo (PhaseState ρ)}
  {progress : Progress ρ}

/-- At every position of a run, what has been done is drawn from the source and is counted. -/
theorem counted_of_run
    (h : Steps (Solo.Step (effect pacing patience phase)) ⟨run, start source phase⟩ moves s) :
    s.state.Keeps pacing.queryProbability phase source (.ofEvents (Move.events moves)) ∧
      s.state.Counts (.ofEvents (Move.events moves)) := by
  refine ((effect_only pacing patience phase).imp Event.OfLoad.plain).invariant
    (P := fun _ events s => s.Keeps pacing.queryProbability phase source (.ofEvents events) ∧
      s.Counts (.ofEvents events)) h ⟨.start, .start⟩ ?_ id
  rintro run events a b e event ⟨hkeeps, hcounts⟩ heffect htakes -
  rw [Stint.ofEvents_append]
  exact ⟨hkeeps.step rfl heffect htakes, hcounts.step heffect htakes⟩

/-- A phase that is over has submitted the iterations that it has counted, one after the other. -/
theorem iterations_of_run
    (h : Steps (Solo.Step (effect pacing patience phase)) ⟨run, start source phase⟩ moves s)
    (hover : s.state = .finished progress) :
    ∃ its : List (List Submission), Event.submissions (Move.events moves) = its.flatten ∧
      its.length = progress.stats.iterations ∧ ∀ ss ∈ its, phase.IsIteration ss ∧
        ∀ duration, phase = .normal duration → Phase.Asks pacing.queryProbability ss := by
  obtain ⟨hkeeps, hcounts⟩ := counted_of_run h
  rw [hover] at hkeeps hcounts
  obtain ⟨its, hdrawn, hlength, hsubmissions⟩ := hkeeps
  rw [Stint.submissions_ofEvents] at hsubmissions
  refine ⟨its, hsubmissions, ?_, Phase.drawn_of_steps hdrawn⟩
  rw [hcounts progress rfl]
  exact hlength.symm

/-- The figures of a phase that is over tell its calls. -/
theorem tells_of_run
    (h : Steps (Solo.Step (effect pacing patience phase)) ⟨run, start source phase⟩ moves s)
    (hover : s.state = .finished progress) :
    progress.stats.Tells phase (Event.submissions (Move.events moves)) := by
  obtain ⟨-, hcounts⟩ := counted_of_run h
  have hstats := hcounts progress (by rw [hover]; rfl)
  unfold Stint.figures at hstats
  rw [Stint.submissions_ofEvents] at hstats
  constructor
  case iterations =>
    obtain ⟨its, hsubmissions, hlength, hits⟩ := iterations_of_run h hover
    rw [hsubmissions, Phase.rounds_flatten fun ss hss => (hits ss hss).1, hlength]
  case records => rw [hstats, Submission.sum_records]
  case queries => rw [hstats, Submission.sum_queries]

/-- Where queries have no chance, none is put at any time. -/
theorem no_query_of_run {duration : Duration}
    (h : Steps (Solo.Step (effect pacing patience (.normal duration)))
      ⟨run, start source (.normal duration)⟩ moves s)
    (hnever : pacing.queryProbability.isNaN = true ∨ pacing.queryProbability.le .zero = true) :
    Submission.sqls (Event.submissions (Move.events moves)) = [] := by
  obtain ⟨its, source', hdrawn, -, hprefix⟩ := (counted_of_run h).1.part
  rw [Stint.submissions_ofEvents] at hprefix
  -- Even an iteration that is under way is the beginning of one without a query.
  have hnone : Submission.sqls its.flatten = [] := by
    apply List.filterMap_eq_nil_iff.mpr
    intro call hcall
    obtain ⟨ss, hss, hcall⟩ := List.mem_flatten.mp hcall
    have hasks := (Phase.drawn_of_steps hdrawn ss hss).2 duration rfl
    obtain ⟨batch, rfl⟩ := hasks.never hnever
    rw [List.mem_singleton.mp hcall]
    rfl
  exact List.prefix_nil.mp (hnone ▸ hprefix.filterMap Submission.sql?)

end PhaseState
end LoadMonitor
