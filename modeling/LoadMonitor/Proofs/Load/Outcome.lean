import LoadMonitor.Proofs.Load.Position
import LoadMonitor.Proofs.Log.Wellformed
import LoadMonitor.Proofs.Run.Kinds
import LoadMonitor.Proofs.Run.Solo

/-!
# How a plan ends

A plan is completed exactly if nobody has stopped the run before the last look at its flag.
Then every phase was told in full. Otherwise what was submitted could have been the beginning
of a full course.
-/

namespace LoadMonitor.LoadDriver

variable {ρ : Type} {outcome : LoadOutcome} {source source' : ρ}

theorem proceed_ne_finished (number : Nat) (rest : LoadPlan) :
    proceed number source rest ≠ finished outcome source' := by
  cases rest <;> exact fun h => by cases h

theorem phased_ne_finished (number : Nat) (phase : Phase) (rest : LoadPlan)
    (state : PhaseState ρ) : phased number phase rest state ≠ finished outcome source' := by
  cases state <;> exact fun h => by cases h

variable [RandomSource ρ] {pacing : Pacing} {patience : Nat} {plan : LoadPlan}
  {run run' : RunState} {moves : List Move}

/-- Every run leads to a position whose past it is. -/
theorem past_of_run {s : Solo (LoadDriver ρ)}
    (h : Steps (Solo.Step (effect pacing patience)) ⟨run, start plan source⟩ moves s) :
    s.state.Past pacing plan s.run.running (Move.events moves) := by
  refine ((effect_only pacing patience).imp Event.OfLoad.plain).invariant
    (P := fun flag events s => s.Past pacing plan flag events) h .start ?_ Past.stop
  intro run events a b e event hpast heffect htakes hagrees
  exact hpast.step heffect htakes hagrees

/-- The last step of the driver is a look at the flag, and decides the outcome. -/
theorem last_look {s t : LoadDriver ρ} {e : Effect (LoadDriver ρ)} {event : Event}
    (heffect : s.effect pacing patience = some e) (htakes : e.Takes event t)
    (hlast : t = finished outcome source') :
    ∃ running, event = .looked running ∧ (outcome = .completed ↔ running = true) := by
  cases s with
  | choosing number phase rest source =>
      cases heffect; cases htakes with
      | isRunning running => cases running <;> cases hlast
  | announcing number phase rest source =>
      cases heffect; cases htakes with
      | print => exact absurd hlast (phased_ne_finished number phase rest _)
  | running number phase rest state =>
      obtain ⟨_, next, -, -, rfl⟩ := Thread.takes_map heffect htakes
      exact absurd hlast (phased_ne_finished number phase rest next)
  | noting number rest progress =>
      cases heffect; cases htakes with
      | log => exact absurd hlast (proceed_ne_finished (number + 1) rest)
  | concluding source =>
      cases heffect; cases htakes with
      | isRunning running =>
          -- Both outcomes are reached from here, and the flag says which.
          refine ⟨running, rfl, ?_⟩
          cases running <;> cases hlast <;> simp
  | finished outcome source => cases heffect

/-- A plan is completed exactly if the flag was set to begin with and has not been cleared
before the last look at it. A completed plan was told in full. Of one that is interrupted
whole iterations were submitted, in order and for announced phases only, and they begin a
full course. -/
theorem course_of_outcome
    (h : Steps (Solo.Step (effect pacing patience)) ⟨run, start plan source⟩ moves
      ⟨run', finished outcome source'⟩) :
    (∃ before running after, moves = before ++ .own (.looked running) :: after ∧
      Move.events after = [] ∧
      (outcome = .completed ↔ run.running = true ∧ ∀ m ∈ before, ¬m.Clears)) ∧
    (outcome = .completed → ∃ told played, Move.events moves = told ++ [.looked true] ∧
      LoadPlan.Done pacing plan told played ∧
      List.Forall₂ Phase.IsSegment plan played ∧
      Event.submissions (Move.events moves) = played.flatten.flatten) ∧
    (outcome = .interrupted → ∃ begun played, begun <+: plan ∧
      Event.printings (Move.events moves) = LoadPlan.announcements begun ∧
      List.Forall₂ (fun phase its => ∀ ss ∈ its, Phase.IsIteration phase ss) begun played ∧
      Event.submissions (Move.events moves) = played.flatten.flatten ∧
      ∃ told whole, LoadPlan.Done pacing plan told whole ∧ played.flatten <+: whole.flatten) := by
  have hpast := past_of_run h
  refine ⟨?_, ?_, ?_⟩
  · obtain ⟨-, hsame⟩ | ⟨before, event, after, a, b, rfl, hafter, hbefore, hlast, hstate⟩ :=
      Solo.last_own h
    · exact absurd hsame.symm (proceed_ne_finished 1 plan)
    · cases hlast with
      | own heffect htakes hagrees =>
          obtain ⟨running, rfl, houtcome⟩ := last_look heffect htakes hstate
          refine ⟨before, running, after, rfl, hafter, ?_⟩
          have hrunning : running = a.run.running := hagrees
          -- The flag is never set again, so the last look tells about all moves before it.
          rw [houtcome, hrunning, Solo.running_iff hbefore]
  · rintro rfl
    obtain ⟨told, played, htold, hdone⟩ := hpast
    refine ⟨told, played, htold, hdone, hdone.segments, ?_⟩
    rw [htold, Event.submissions_looked, hdone.submissions]
  · rintro rfl
    obtain ⟨begun, played, hbegun, hbroken⟩ := hpast
    exact ⟨begun, played, hbegun, hbroken.printings, hbroken.iterations, hbroken.submissions,
      hbroken.complete hbegun⟩

/-! ## A stop within an iteration -/

/-- Normal load for a second, and then slow queries. -/
def normalThenSlow : LoadPlan := [.normal (.ofSecs 1), .slow 2]

/-- With a query in every iteration. -/
def inquiring : Pacing := { Pacing.byDefault with queryProbability := .infinity false }

set_option maxRecDepth 10000 in
/-- Somebody stops the run between the batch of the first iteration and its query. -/
theorem woken_run : ∃ (batch : List LogEntry) (query : String) (moves : List Move),
    Steps (Solo.Step (effect inquiring 1)) ⟨.fresh, start normalThenSlow (⟨⟩ : Generator.Zeros)⟩
      moves ⟨⟨false, true⟩, finished .interrupted ⟨⟩⟩ ∧
    Event.submissions (Move.events moves) = [.logs .ingest batch, .query query] :=
  ⟨_, _, _, .head (.own rfl (.isRunning true) rfl) <| .head (.own rfl .print trivial) <|
    .head (.own rfl (.clock .zero) trivial) <| .head (.own rfl (.clock .zero) trivial) <|
    .head (.own rfl (.isRunning true) rfl) <| .head (.own rfl .submit trivial) <|
    .head .stop <| .head (.own rfl .submit trivial) <| .head (.own rfl (.pause false) rfl) <|
    .head (.own rfl .log trivial) <| .head (.own rfl (.isRunning false) rfl) <|
    .head (.own rfl (.isRunning false) rfl) <| .refl _, rfl⟩

/-- The query is submitted none the less, and nothing after it. -/
theorem course_of_outcome_woken : ∃ (batch : List LogEntry) (query : String) (moves : List Move),
    Steps (Solo.Step (effect inquiring 1)) ⟨.fresh, start normalThenSlow (⟨⟩ : Generator.Zeros)⟩
      moves ⟨⟨false, true⟩, finished .interrupted ⟨⟩⟩ ∧
    Event.submissions (Move.events moves) = [.logs .ingest batch, .query query] ∧
    ∃ begun played, begun <+: normalThenSlow ∧
      Event.printings (Move.events moves) = LoadPlan.announcements begun ∧
      List.Forall₂ (fun phase its => ∀ ss ∈ its, Phase.IsIteration phase ss) begun played ∧
      Event.submissions (Move.events moves) = played.flatten.flatten ∧
      ∃ told whole, LoadPlan.Done inquiring normalThenSlow told whole ∧
        played.flatten <+: whole.flatten := by
  obtain ⟨batch, query, moves, hrun, hsubmissions⟩ := woken_run
  exact ⟨batch, query, moves, hrun, hsubmissions, (course_of_outcome hrun).2.2 rfl⟩

end LoadMonitor.LoadDriver
