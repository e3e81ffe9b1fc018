import LoadMonitor.Proofs.Run.Crowd

/-!
# Stops and the flag

The flag of a run state and what its listeners see, beside the stops that have tested the flag:
how they fit together, and what one step of a stop does to them. Calls of other kinds do not
come up here, since none of them changes anything about it.
-/

namespace LoadMonitor

/-- The stop has found the flag set and cleared it: it answers, or has answered, that it did. -/
def Stopping.HasCleared : Stopping → Prop
  | testing => False
  | notifying => True
  | announcing => True
  | finished first => first = true

/-- The call is the stop that has cleared the flag. Of each call it is given how far it has come
as a stop, once it has tested the flag. -/
def Clears {ι : Type} (stops : ι → Option Stopping) (c : ι) : Prop :=
  ∃ stage, stops c = some stage ∧ stage.HasCleared

/-- How the flag and what the listeners see fit to the stops that have tested the flag. -/
structure Latched {ι : Type} (run : RunState) (stops : ι → Option Stopping) : Prop where
  cleared : run.running = false ↔ ∃ c, Clears stops c
  single : ∀ {c c' : ι}, Clears stops c → Clears stops c' → c = c'
  tested : ∀ {c : ι} {stage : Stopping}, stops c = some stage → run.running = false
  announced : run.announced = true ↔ ∃ c, stops c = some (.finished true)

namespace Latched

variable {ι : Type} {run run' : RunState} {stops : ι → Option Stopping} {c : ι}
  {stage : Stopping}

/-- No listener runs ahead of the flag. -/
theorem stopped_of_announced (h : Latched run stops) (hannounced : run.announced = true) :
    run.running = false := by
  obtain ⟨c, hc⟩ := h.announced.mp hannounced
  exact h.tested hc

/-- While the flag is set no stop has tested it. -/
theorem untested (h : Latched run stops) (hrun : run.running = true) (c : ι) : stops c = none := by
  cases hstop : stops c with
  | none => rfl
  | some stage => exact absurd (h.tested hstop) (by simp [hrun])

variable [DecidableEq ι]

/-- A stop clears the flag. -/
theorem clear (h : Latched run stops) (hrun : run.running = true) :
    Latched { run with running := false } (Function.update stops c (some .notifying)) := by
  -- No other stop has tested the flag yet, so all four clauses are about this one.
  have honly : ∀ {c' stage}, Function.update stops c (some .notifying) c' = some stage →
      c' = c ∧ stage = .notifying := by
    intro c' stage hstage
    by_cases hc : c' = c
    · subst hc
      simpa [eq_comm] using hstage
    · simp [hc, h.untested hrun c'] at hstage
  constructor
  · exact ⟨fun _ => ⟨c, .notifying, Function.update_self .., trivial⟩, fun _ => rfl⟩
  · rintro c₁ c₂ ⟨_, h₁, -⟩ ⟨_, h₂, -⟩
    rw [(honly h₁).1, (honly h₂).1]
  · intro _ _ _
    rfl
  · have hlisteners : run.announced = false := by
      by_contra hannounced
      simpa [hrun] using h.stopped_of_announced (by simpa using hannounced)
    simp only [hlisteners, Bool.false_eq_true, false_iff, not_exists]
    intro c' hc'
    cases (honly hc').2

/-- A stop goes on after the flag was cleared. Its success is settled; listeners learn of the
stop when it returns with success. -/
theorem go_on (h : Latched run stops) (hrun : run.running = false)
    (hrun' : run'.running = false) (hsuccess : stage.HasCleared ↔ Clears stops c)
    (hbefore : stops c ≠ some (.finished true))
    (hannounced : run'.announced = true ↔ run.announced = true ∨ stage = .finished true) :
    Latched run' (Function.update stops c (some stage)) := by
  -- Which stop has cleared the flag was settled before, so the clauses carry over.
  have hclears : ∀ c', Clears (Function.update stops c (some stage)) c' ↔ Clears stops c' := by
    intro c'
    by_cases hc : c' = c
    · subst hc
      rw [← hsuccess]
      simp [Clears]
    · simp [Clears, hc]
  constructor
  · simp only [hrun', hclears, true_iff]
    exact h.cleared.mp hrun
  · intro c₁ c₂ h₁ h₂
    exact h.single ((hclears c₁).mp h₁) ((hclears c₂).mp h₂)
  · intro _ _ _
    exact hrun'
  · rw [hannounced, h.announced]
    constructor
    · rintro (⟨c', hc'⟩ | rfl)
      · have hne : c' ≠ c := by rintro rfl; exact hbefore hc'
        exact ⟨c', by rwa [Function.update_of_ne hne]⟩
      · exact ⟨c, Function.update_self ..⟩
    · rintro ⟨c', hc'⟩
      by_cases hc : c' = c
      · subst hc
        exact .inr (by simpa using hc')
      · exact .inl ⟨c', by rwa [Function.update_of_ne hc] at hc'⟩

end Latched

/-- How far the call has come, if it is a stop that has tested the flag. -/
def RunCall.tested? : RunCall → Option Stopping
  | stopping .testing => none
  | stopping stage => some stage
  | _ => none

/-- A stop that has taken a step has tested the flag. -/
theorem RunCall.tested?_advance (stage : Stopping) (run : RunState) :
    (stopping (stage.advance run).1).tested? = some (stage.advance run).1 := by
  cases stage with
  | testing => cases hrun : run.running <;> simp [Stopping.advance, tested?, hrun]
  | _ => rfl

/-! ## One step of the stops -/

section

variable {ι : Type} [DecidableEq ι]

/-- What a step of any call does to the flag and to the stops: nothing, or one stop that has not
returned goes on. -/
inductive StopStep (run : RunState) (stops : ι → Option Stopping) :
    RunState → (ι → Option Stopping) → Prop where
  | aside : StopStep run stops run stops
  | advance {c : ι} {stage : Stopping} :
      stops c = (RunCall.stopping stage).tested? → (∀ first, stage ≠ .finished first) →
      StopStep run stops (stage.advance run).2
        (Function.update stops c (some (stage.advance run).1))

namespace StopStep

variable {run run' : RunState} {stops stops' : ι → Option Stopping} {c : ι}

/-- The flag is not set again. -/
theorem running (h : StopStep run stops run' stops') (hrun : run.running = false) :
    run'.running = false := by
  cases h with
  | aside => exact hrun
  | @advance c stage _ _ => cases stage <;> simp [Stopping.advance, hrun]

/-- The stop that clears the flag goes on by waking the pauses. -/
theorem notifying (h : StopStep run stops run' stops') (hbefore : run.running = true)
    (hafter : run'.running = false) : ∃ c, stops' c = some .notifying := by
  cases h with
  | aside => simp [hbefore] at hafter
  | @advance c stage _ _ =>
      cases stage with
      | testing => exact ⟨c, by simp [Stopping.advance, hbefore]⟩
      | _ => simp [Stopping.advance, hbefore] at hafter

/-- The stop that has cleared the flag remains the one that did. -/
theorem clears (h : StopStep run stops run' stops') (hc : Clears stops c) : Clears stops' c := by
  cases h with
  | aside => exact hc
  | @advance c' stage hstage _ =>
      by_cases hne : c = c'
      · subst hne
        obtain ⟨old, hold, hcleared⟩ := hc
        rw [hstage] at hold
        refine ⟨_, Function.update_self .., ?_⟩
        cases stage with
        | testing => cases hold
        | notifying => trivial
        | announcing => rfl
        | finished first => cases hold; exact hcleared
      · simpa [Clears, hne] using hc

/-- A stop that has returned stays where it is. -/
theorem finished {first : Bool} (h : StopStep run stops run' stops')
    (hc : stops c = some (.finished first)) : stops' c = some (.finished first) := by
  cases h with
  | aside => exact hc
  | @advance c' stage hstage hreturned =>
      have hne : c ≠ c' := by
        rintro rfl
        rw [hstage] at hc
        cases stage with
        | finished _ => exact hreturned _ rfl
        | _ => cases hc
      rwa [Function.update_of_ne hne]

theorem latched (h : StopStep run stops run' stops') (hlatched : Latched run stops) :
    Latched run' stops' := by
  cases h with
  | aside => exact hlatched
  | @advance c stage hc hreturned =>
      cases stage with
      | testing =>
          have hnone : stops c = none := hc
          cases hrun : run.running with
          | true =>
              simp only [Stopping.advance, hrun, if_true]
              exact hlatched.clear hrun
          -- The flag is cleared already: this stop goes on to answer that it was not the first.
          | false =>
              simp only [Stopping.advance, hrun, Bool.false_eq_true, if_false]
              apply hlatched.go_on hrun hrun
              · simp [Stopping.HasCleared, Clears, hnone]
              · simp [hnone]
              · simp
      | notifying =>
          have hat : stops c = some .notifying := hc
          apply hlatched.go_on (hlatched.tested hat) (hlatched.tested hat)
          · simp [Stopping.advance, Stopping.HasCleared, Clears, hat]
          · simp [hat]
          · simp [Stopping.advance]
      -- Only now do listeners hear of it.
      | announcing =>
          have hat : stops c = some .announcing := hc
          have hrun : (Stopping.announcing.advance run).2.running = false := hlatched.tested hat
          apply hlatched.go_on (hlatched.tested hat) hrun
          · simp [Stopping.advance, Stopping.HasCleared, Clears, hat]
          · simp [hat]
          · simp [Stopping.advance]
      | finished first => exact absurd rfl (hreturned first)

end StopStep
end

end LoadMonitor
