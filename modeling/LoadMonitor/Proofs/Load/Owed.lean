import LoadMonitor.Proofs.Load.Position

/-!
# What the load driver owes

The flag is looked at before an iteration and not within one, so an iteration that was begun
is finished. Every position owes the submissions that are left of it, and while the flag is
cleared nothing is added to them.
-/

namespace LoadMonitor

variable {ρ : Type}

/-- The submissions that are left of the iteration that was begun. -/
def PhaseState.owed : PhaseState ρ → List Submission
  | submitting _ next rest _ => next :: rest
  | _ => []

def LoadDriver.owed : LoadDriver ρ → List Submission
  | running _ _ _ state => state.owed
  | _ => []

namespace PhaseState

@[simp] theorem owed_submit (allowance : Allowance) (progress : Progress ρ)
    (ss : List Submission) : (submit allowance progress ss).owed = ss := by
  cases ss <;> rfl

@[simp] theorem owed_again (progress : Progress ρ) (allowance : Allowance) :
    (again progress allowance).owed = [] := by
  cases allowance with
  | span started duration => rfl
  | count left => cases left <;> rfl

@[simp] theorem owed_start (source : ρ) (phase : Phase) : (start source phase).owed = [] := by
  cases phase with
  | normal duration => rfl
  | high duration => rfl
  | slow count => exact owed_again ⟨source, .zero⟩ (.count count)

/-- While the run is stopped, a step sends what it takes from what is owed. -/
theorem owed_step [RandomSource ρ] {pacing : Pacing} {patience : Nat} {phase : Phase}
    {s t : PhaseState ρ} {e : Effect (PhaseState ρ)} {event : Event} {run : RunState}
    (hrun : run.running = false) (heffect : s.effect pacing patience phase = some e)
    (htakes : e.Takes event t) (hagrees : event.Agrees run) :
    Event.submissions [event] ++ t.owed = s.owed := by
  cases s with
  | starting duration progress =>
      cases heffect; cases htakes with
      | clock now => rfl
  | timing started duration progress =>
      cases heffect; cases htakes with
      | clock now =>
          -- Whether the time has elapsed or not, nothing is begun by the check.
          show (ite _ _ _ : PhaseState ρ).owed = []
          split <;> rfl
  | checking allowance progress =>
      cases heffect; cases htakes with
      | isRunning running =>
          obtain rfl : running = false := Eq.trans hagrees hrun
          rfl
  | submitting allowance next rest progress =>
      cases heffect; cases htakes with
      | submit =>
          rw [owed_submit]
          rfl
  | pausing allowance progress =>
      cases heffect; cases htakes with
      | pause running =>
          obtain rfl : running = false := Eq.trans hagrees hrun
          rfl
  | finished progress => cases heffect
  | drawing => cases heffect

end PhaseState

namespace LoadDriver

@[simp] theorem owed_phased (number : Nat) (phase : Phase) (rest : LoadPlan)
    (state : PhaseState ρ) : (phased number phase rest state).owed = state.owed := by
  cases state <;> rfl

@[simp] theorem owed_proceed (number : Nat) (source : ρ) (rest : LoadPlan) :
    (proceed number source rest).owed = [] := by
  cases rest <;> rfl

theorem owed_step [RandomSource ρ] {pacing : Pacing} {patience : Nat} {s t : LoadDriver ρ}
    {e : Effect (LoadDriver ρ)} {event : Event} {run : RunState} (hrun : run.running = false)
    (heffect : s.effect pacing patience = some e) (htakes : e.Takes event t)
    (hagrees : event.Agrees run) : Event.submissions [event] ++ t.owed = s.owed := by
  cases s with
  | choosing number phase rest source =>
      cases heffect; cases htakes with
      | isRunning running => cases running <;> rfl
  | announcing number phase rest source =>
      cases heffect; cases htakes with
      | print =>
          rw [owed_phased, PhaseState.owed_start]
          rfl
  | running number phase rest state =>
      obtain ⟨_, next, hinner, hnext, rfl⟩ := Thread.takes_map heffect htakes
      rw [owed_phased]
      exact PhaseState.owed_step hrun hinner hnext hagrees
  | noting number rest progress =>
      cases heffect; cases htakes with
      | log =>
          rw [owed_proceed]
          rfl
  | concluding source =>
      cases heffect; cases htakes with
      | isRunning running => rfl
  | finished outcome source => cases heffect

/-- What is owed belongs to an iteration of one of the phases, and the last events are those of
this iteration. -/
theorem Past.owed {pacing : Pacing} {plan : LoadPlan} {flag : Bool} {events : List Event}
    {s : LoadDriver ρ} (h : s.Past pacing plan flag events) (howed : s.owed ≠ []) :
    ∃ phase ∈ plan, ∃ front sent, events = front ++ .looked true :: sent.map .submitted ∧
      phase.IsIteration (sent ++ s.owed) := by
  cases s with
  | running number phase rest state =>
      obtain ⟨past, segment, rfl, ⟨done, played, rfl, -⟩, hstate⟩ := h
      cases state with
      | submitting allowance next rest' progress =>
          obtain ⟨front, sent, rfl, -, hiter⟩ := hstate
          refine ⟨phase, by simp, past ++ .looked true ::
            .printed (announcement number phase) :: front, sent, by simp, hiter⟩
      | _ => exact absurd rfl howed
  | _ => exact absurd rfl howed

end LoadDriver
end LoadMonitor
