import LoadMonitor.Load.Phase
import LoadMonitor.Proofs.Log.Generated
import LoadMonitor.Proofs.Run.Event

/-!
# The segment of a phase

What a phase does, told as the list of its events: it enters, goes through rounds, and is
either left in full or cut short. A cut falls between two rounds, since the flag is looked at
before the first submission of a round and after the last one.
-/

namespace LoadMonitor

/-! ## Iterations -/

/-- What one iteration of a phase may submit. -/
def Phase.IsIteration : Phase → List Submission → Prop
  | normal _, ss => ∃ batch : List LogEntry, (10 ≤ batch.length ∧ batch.length ≤ 50) ∧
      (ss = [.logs .ingest batch] ∨
        ∃ query ∈ Generator.queries, ss = [.logs .ingest batch, .query query])
  | high _, ss => ∃ batch : List LogEntry, (500 ≤ batch.length ∧ batch.length ≤ 1000) ∧
      ss = [.logs .bulk batch]
  | slow _, ss => ss = [.query Generator.slowQuery]

/-- Whatever an iteration draws is one that the phase allows. -/
theorem Phase.iteration_yields {ρ : Type} [RandomSource ρ] (pacing : Pacing) (patience : Nat)
    (phase : Phase) :
    (phase.iteration pacing patience : Gen ρ (List Submission)).Yields phase.IsIteration := by
  cases phase with
  | normal duration =>
      refine (Generator.batch_yields patience).bind fun batch hbatch => ?_
      refine Gen.Yields.bind (P := fun _ => True) (fun _ _ _ _ => trivial) fun asks _ => ?_
      refine .ite (fun _ => ?_) (fun _ => ?_)
      · refine (Generator.query_yields patience).bind fun query hquery => .pure ?_
        exact ⟨batch, hbatch.1, .inr ⟨query, hquery, rfl⟩⟩
      · exact .pure ⟨batch, hbatch.1, .inl rfl⟩
  | high duration =>
      exact (Generator.burst_yields patience).bind fun batch hbatch => .pure ⟨batch, hbatch.1, rfl⟩
  | slow count => exact .pure rfl

/-- A full segment as it is sent: its iterations, exactly as many as a counted phase has. -/
def Phase.IsSegment (phase : Phase) (iterations : List (List Submission)) : Prop :=
  (∀ ss ∈ iterations, phase.IsIteration ss) ∧ ∀ n, phase = .slow n → iterations.length = n

/-! ## Allowances -/

/-- How a phase begins, and what it allows from then on. -/
def Phase.Enters : Phase → List Event → Allowance → Prop
  | normal duration, es, a => ∃ now, es = [.timed now] ∧ a = .span now duration
  | high duration, es, a => ∃ now, es = [.timed now] ∧ a = .span now duration
  | slow count, es, a => es = [] ∧ a = .count count

/-- What a phase has left after a number of rounds. -/
def Phase.Leaves : Phase → Nat → Allowance → Prop
  | normal duration, _, a => ∃ started, a = .span started duration
  | high duration, _, a => ∃ started, a = .span started duration
  | slow count, rounds, a => ∃ left, a = .count left ∧ rounds + left = count

namespace Allowance

/-- The check of what is left lets another round begin. -/
def Opens : Allowance → List Event → Prop
  | span started duration, es => ∃ now, es = [.timed now] ∧ now.since started < duration
  | count left, es => es = [] ∧ 0 < left

/-- The check of what is left ends the phase: the time has elapsed, or the count is used up. -/
def Closes : Allowance → List Event → Prop
  | span started duration, es => ∃ now, es = [.timed now] ∧ duration ≤ now.since started
  | count left, es => es = [] ∧ left = 0

theorem Opens.silent {a : Allowance} {gate : List Event} (h : a.Opens gate) :
    Event.Silent gate := by
  cases a with
  | span started duration => obtain ⟨now, rfl, -⟩ := h; exact ⟨rfl, rfl⟩
  | count left => obtain ⟨rfl, -⟩ := h; exact ⟨rfl, rfl⟩

theorem Closes.silent {a : Allowance} {gate : List Event} (h : a.Closes gate) :
    Event.Silent gate := by
  cases a with
  | span started duration => obtain ⟨now, rfl, -⟩ := h; exact ⟨rfl, rfl⟩
  | count left => obtain ⟨rfl, -⟩ := h; exact ⟨rfl, rfl⟩

end Allowance

namespace Phase

variable {pacing : Pacing} {phase : Phase} {events : List Event}
  {iterations : List (List Submission)} {allowance : Allowance}

theorem Enters.silent (h : phase.Enters events allowance) : Event.Silent events := by
  cases phase with
  | normal duration => obtain ⟨now, rfl, -⟩ := h; exact ⟨rfl, rfl⟩
  | high duration => obtain ⟨now, rfl, -⟩ := h; exact ⟨rfl, rfl⟩
  | slow count => obtain ⟨rfl, -⟩ := h; exact ⟨rfl, rfl⟩

theorem Enters.leaves (h : phase.Enters events allowance) : phase.Leaves 0 allowance := by
  cases phase with
  | normal duration => obtain ⟨now, -, rfl⟩ := h; exact ⟨now, rfl⟩
  | high duration => obtain ⟨now, -, rfl⟩ := h; exact ⟨now, rfl⟩
  | slow count => obtain ⟨-, rfl⟩ := h; exact ⟨count, rfl, Nat.zero_add count⟩

/-- Only phases of slow queries are counted. -/
theorem Leaves.counted {rounds left : Nat} (h : phase.Leaves rounds (.count left)) :
    ∃ n, phase = .slow n := by
  cases phase with
  | normal duration => obtain ⟨_, h⟩ := h; cases h
  | high duration => obtain ⟨_, h⟩ := h; cases h
  | slow count => exact ⟨count, rfl⟩

/-- A round that was let in uses up one of a number of rounds, and nothing of a span. -/
theorem Leaves.spend {rounds : Nat} {gate : List Event} (h : phase.Leaves rounds allowance)
    (hopen : allowance.Opens gate) : phase.Leaves (rounds + 1) (PhaseState.spend allowance) := by
  cases phase with
  | normal duration => obtain ⟨started, rfl⟩ := h; exact ⟨started, rfl⟩
  | high duration => obtain ⟨started, rfl⟩ := h; exact ⟨started, rfl⟩
  | slow count =>
      obtain ⟨left, rfl, hleft⟩ := h
      have hpos : 0 < left := hopen.2
      exact ⟨left - 1, rfl, by omega⟩

/-! ## Rounds -/

/-- What follows the check of the allowance: the flag is found set, an iteration is submitted,
and a pause tells whether the flag is still set. -/
def round (pacing : Pacing) (phase : Phase) (ss : List Submission) (running : Bool) :
    List Event :=
  .looked true :: ss.map .submitted ++ [.paused (pacing.delay phase) running]

theorem submissions_round (ss : List Submission) (running : Bool) :
    Event.submissions (phase.round pacing ss running) = ss := by
  show Event.submissions (ss.map .submitted ++ [.paused (pacing.delay phase) running]) = ss
  rw [Event.submissions_append, Event.submissions_map_submitted]
  exact List.append_nil ss

theorem printings_round (ss : List Submission) (running : Bool) :
    Event.printings (phase.round pacing ss running) = [] := by
  show Event.printings (ss.map .submitted ++ [.paused (pacing.delay phase) running]) = []
  rw [Event.printings_append, Event.printings_map_submitted]
  rfl

/-- The phase has gone through whole rounds, and the allowance is what they have left. -/
inductive Through (pacing : Pacing) (phase : Phase) :
    List Event → List (List Submission) → Allowance → Prop where
  | enter {events : List Event} {allowance : Allowance} :
      phase.Enters events allowance → Through pacing phase events [] allowance
  | again {events gate : List Event} {iterations : List (List Submission)}
      {ss : List Submission} {allowance : Allowance} :
      Through pacing phase events iterations allowance → allowance.Opens gate →
      phase.IsIteration ss →
      Through pacing phase (events ++ gate ++ phase.round pacing ss true)
        (iterations ++ [ss]) (PhaseState.spend allowance)

/-- All events of a phase that ends by itself. -/
inductive Full (pacing : Pacing) (phase : Phase) :
    List Event → List (List Submission) → Prop where
  | closed {events gate : List Event} {iterations : List (List Submission)}
      {allowance : Allowance} :
      Through pacing phase events iterations allowance → allowance.Closes gate →
      Full pacing phase (events ++ gate) iterations

/-- All events of a phase that ends because the flag is found cleared, before a round or in
the pause of one. -/
inductive Cut (pacing : Pacing) (phase : Phase) :
    List Event → List (List Submission) → Prop where
  | refused {events gate : List Event} {iterations : List (List Submission)}
      {allowance : Allowance} :
      Through pacing phase events iterations allowance → allowance.Opens gate →
      Cut pacing phase (events ++ gate ++ [.looked false]) iterations
  | woken {events gate : List Event} {iterations : List (List Submission)}
      {ss : List Submission} {allowance : Allowance} :
      Through pacing phase events iterations allowance → allowance.Opens gate →
      phase.IsIteration ss →
      Cut pacing phase (events ++ gate ++ phase.round pacing ss false) (iterations ++ [ss])

/-! ## What whole rounds have in common -/

namespace Through

theorem isIteration (h : Through pacing phase events iterations allowance) :
    ∀ ss ∈ iterations, phase.IsIteration ss := by
  induction h with
  | enter _ => simp
  | again _ _ hss ih =>
      intro ss hmem
      rcases List.mem_append.mp hmem with hmem | hmem
      · exact ih ss hmem
      · rwa [List.mem_singleton.mp hmem]

theorem leaves (h : Through pacing phase events iterations allowance) :
    phase.Leaves iterations.length allowance := by
  induction h with
  | enter henter => exact henter.leaves
  | again _ hopen _ ih =>
      rw [List.length_append, List.length_singleton]
      exact ih.spend hopen

theorem submissions (h : Through pacing phase events iterations allowance) :
    Event.submissions events = iterations.flatten := by
  induction h with
  | enter henter => exact henter.silent.1
  | again _ hopen _ ih =>
      simp only [Event.submissions_append, submissions_round, ih, hopen.silent.1,
        List.append_nil, List.flatten_append, List.flatten_singleton]

theorem printings (h : Through pacing phase events iterations allowance) :
    Event.printings events = [] := by
  induction h with
  | enter henter => exact henter.silent.2
  | again _ hopen _ ih =>
      simp only [Event.printings_append, printings_round, ih, hopen.silent.2, List.append_nil]

/-- Whole rounds can always be followed by more of them until the phase ends by itself. -/
theorem complete (h : Through pacing phase events iterations allowance) :
    ∃ seg more, Full pacing phase seg (iterations ++ more) := by
  cases allowance with
  | span started duration =>
      have hclose : (Allowance.span started duration).Closes [.timed (duration + started)] :=
        ⟨_, rfl, by simp [Duration.since, Duration.le_iff]⟩
      exact ⟨_, [], by rw [List.append_nil]; exact .closed h hclose⟩
  | count left =>
      induction left generalizing events iterations with
      | zero => exact ⟨_, [], by rw [List.append_nil]; exact .closed h ⟨rfl, rfl⟩⟩
      | succ left ih =>
          -- A count that is left can only be one of slow queries, which are all alike.
          have hss : phase.IsIteration [.query Generator.slowQuery] := by
            obtain ⟨n, rfl⟩ := h.leaves.counted
            rfl
          obtain ⟨seg, more, hfull⟩ := ih (h.again ⟨rfl, Nat.succ_pos left⟩ hss)
          exact ⟨seg, _ :: more, by rwa [List.append_assoc] at hfull⟩

end Through

/-! ## Segments that are full or cut -/

theorem Full.isSegment (h : Full pacing phase events iterations) :
    phase.IsSegment iterations := by
  obtain ⟨hthrough, hclose⟩ := h
  refine ⟨hthrough.isIteration, ?_⟩
  rintro n rfl
  obtain ⟨left, rfl, hleft⟩ := hthrough.leaves
  obtain ⟨-, rfl⟩ := hclose
  exact hleft

theorem Full.submissions (h : Full pacing phase events iterations) :
    Event.submissions events = iterations.flatten := by
  obtain ⟨hthrough, hclose⟩ := h
  rw [Event.submissions_append, hthrough.submissions, hclose.silent.1, List.append_nil]

theorem Full.printings (h : Full pacing phase events iterations) :
    Event.printings events = [] := by
  obtain ⟨hthrough, hclose⟩ := h
  rw [Event.printings_append, hthrough.printings, hclose.silent.2, List.append_nil]

theorem Cut.isIteration (h : Cut pacing phase events iterations) :
    ∀ ss ∈ iterations, phase.IsIteration ss := by
  cases h with
  | refused hthrough _ => exact hthrough.isIteration
  | woken hthrough hopen hss => exact (hthrough.again hopen hss).isIteration

theorem Cut.submissions (h : Cut pacing phase events iterations) :
    Event.submissions events = iterations.flatten := by
  cases h with
  | refused hthrough hopen =>
      rw [Event.submissions_looked, Event.submissions_append, hthrough.submissions,
        hopen.silent.1, List.append_nil]
  | woken hthrough hopen _ =>
      simp only [Event.submissions_append, submissions_round, hthrough.submissions,
        hopen.silent.1, List.append_nil, List.flatten_append, List.flatten_singleton]

theorem Cut.printings (h : Cut pacing phase events iterations) :
    Event.printings events = [] := by
  cases h with
  | refused hthrough hopen =>
      rw [Event.printings_looked, Event.printings_append, hthrough.printings, hopen.silent.2,
        List.append_nil]
  | woken hthrough hopen _ =>
      simp only [Event.printings_append, printings_round, hthrough.printings, hopen.silent.2,
        List.append_nil]

/-- What a cut has left out can be made good: its iterations begin a full segment. -/
theorem Cut.complete (h : Cut pacing phase events iterations) :
    ∃ seg more, Full pacing phase seg (iterations ++ more) := by
  cases h with
  | refused hthrough _ => exact hthrough.complete
  | woken hthrough hopen hss => exact (hthrough.again hopen hss).complete

theorem exists_full (pacing : Pacing) (phase : Phase) :
    ∃ seg iterations, Full pacing phase seg iterations := by
  obtain ⟨events, allowance, henter⟩ : ∃ events allowance, phase.Enters events allowance := by
    cases phase with
    | normal duration => exact ⟨_, _, .zero, rfl, rfl⟩
    | high duration => exact ⟨_, _, .zero, rfl, rfl⟩
    | slow count => exact ⟨_, _, rfl, rfl⟩
  have hthrough : Through pacing phase events [] allowance := .enter henter
  exact hthrough.complete

end Phase
end LoadMonitor
