import LoadMonitor.Proofs.Run.Event
import LoadMonitor.Rehearsal.World

/-!
# Rehearsals as lists of events

A thread that is played leaves a list of events behind. What is known of the events of a thread
in any company holds of them, since every step of a rehearsal is one that the thread can take.
-/

namespace LoadMonitor.Rehearsal

variable {ω σ τ : Type} [Service ω] {effect : Thread σ} {s : σ} {e : Effect σ} {w : Rehearsal ω}

/-! ## Steps -/

/-- The step as others see it. -/
def event (w : Rehearsal ω) : Effect σ → Event
  | .isRunning _ => .looked w.run.running
  | .stop _ => .stopped w.stop.1
  | .pause delay _ => .paused delay (w.run.pauseAlone w.now delay).1
  | .clock _ => .timed w.now
  | .checkLive _ => .checkedLive (w.call Service.checkLive).1
  | .health _ => .readHealth (w.call Service.health).1
  | .metrics _ => .readMetrics (w.call Service.metrics).1
  | .alerts _ => .readAlerts (w.call Service.alerts).1
  | .submit submission _ => .submitted submission
  | .write text _ => .wrote text (w.write text).1
  | .flush _ => .flushed w.flush.1
  | .print text _ => .printed text
  | .lockScreen _ => .lockedScreen
  | .unlockScreen _ => .unlockedScreen
  | .launch _ => .launched
  | .join _ => .joined 0
  | .log line _ => .logged line

theorem perform_takes (w : Rehearsal ω) (e : Effect σ) :
    e.Takes (w.event e) (w.perform e).1 := by
  cases e <;> constructor

/-! ## Plays -/

/-- The events of a thread that is played. -/
def trace (effect : Thread σ) : Nat → σ → Rehearsal ω → List Event
  | 0, _, _ => []
  | steps + 1, s, w =>
    match effect s with
    | none => []
    | some e => w.event e :: trace effect steps (w.perform e).1 (w.perform e).2

theorem play_over (h : effect s = none) (steps : Nat) (w : Rehearsal ω) :
    w.play effect steps s = (s, w) := by
  cases steps <;> simp only [play, h]

theorem trace_over (h : effect s = none) (steps : Nat) (w : Rehearsal ω) :
    w.trace effect steps s = [] := by
  cases steps <;> simp only [trace, h]

theorem play_step (h : effect s = some e) (steps : Nat) (w : Rehearsal ω) :
    w.play effect (steps + 1) s = (w.perform e).2.play effect steps (w.perform e).1 := by
  simp only [play, h]

theorem trace_step (h : effect s = some e) (steps : Nat) (w : Rehearsal ω) :
    w.trace effect (steps + 1) s =
      w.event e :: (w.perform e).2.trace effect steps (w.perform e).1 := by
  simp only [trace, h]

/-- More steps only add events. -/
theorem trace_prefix {fewer steps : Nat} (h : fewer ≤ steps) (s : σ) (w : Rehearsal ω) :
    w.trace effect fewer s <+: w.trace effect steps s := by
  induction fewer generalizing steps s w with
  | zero => exact List.nil_prefix
  | succ fewer ih =>
      cases steps with
      | zero => exact absurd h (Nat.not_succ_le_zero fewer)
      | succ steps =>
          cases heffect : effect s with
          | none => exact trace_over heffect (fewer + 1) w ▸ List.nil_prefix
          | some e =>
              rw [trace_step heffect, trace_step heffect, List.cons_prefix_cons]
              exact ⟨rfl, ih (Nat.le_of_succ_le_succ h) _ _⟩

/-- What every step keeps holds after any number of them; the events so far are part of the
statement. -/
theorem play_invariant {P : List Event → σ → Rehearsal ω → Prop}
    (keep : ∀ past s e w, P past s w → effect s = some e →
      P (past ++ [w.event e]) (w.perform e).1 (w.perform e).2)
    (start : P [] s w) (steps : Nat) :
    P (w.trace effect steps s) (w.play effect steps s).1 (w.play effect steps s).2 := by
  -- The induction is on the steps to come, so the events before them vary.
  suffices ∀ past, P past s w → P (past ++ w.trace effect steps s) (w.play effect steps s).1
      (w.play effect steps s).2 from this [] start
  clear start
  induction steps generalizing s w with
  | zero =>
      intro past hpast
      rw [trace, play, List.append_nil]
      exact hpast
  | succ steps ih =>
      intro past hpast
      cases h : effect s with
      | none =>
          rw [play_over h, trace_over h, List.append_nil]
          exact hpast
      | some e =>
          rw [play_step h, trace_step h, List.append_cons]
          exact ih _ (keep past s e w hpast h)

/-- A thread comes to its end if its steps make a number smaller. -/
theorem play_ends {left : σ → Nat}
    (hless : ∀ s e event t, effect s = some e → e.Takes event t → left t < left s)
    {steps : Nat} (hsteps : left s ≤ steps) (w : Rehearsal ω) :
    effect (w.play effect steps s).1 = none := by
  induction steps generalizing s w with
  | zero =>
      cases h : effect s with
      | none => exact h
      | some e =>
          have hfirst := hless s e _ _ h (w.perform_takes e)
          omega
  | succ steps ih =>
      cases h : effect s with
      | none => rw [play_over h]; exact h
      | some e =>
          rw [play_step h]
          have hfirst := hless s e _ _ h (w.perform_takes e)
          exact ih (by omega) _

end LoadMonitor.Rehearsal
