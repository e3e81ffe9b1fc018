import LoadMonitor.Dashboard.Loop
import LoadMonitor.Load.Driver
import LoadMonitor.Proofs.Run.Event
import LoadMonitor.Proofs.Run.Solo

/-!
# What each thread can do

The load driver and the dashboard are seen with a few kinds of events only. None of them stops
the run, takes the screen or concerns another thread; whatever goes beyond that is the work of
the main thread around them.
-/

namespace LoadMonitor

namespace Event

/-- The event stops nothing, takes or frees nothing, and concerns no other thread. -/
def Plain : Event → Prop
  | stopped _ => False
  | lockedScreen => False
  | unlockedScreen => False
  | launched => False
  | joined _ => False
  | _ => True

/-- An event of the load driver. -/
def OfLoad : Event → Prop
  | looked _ => True
  | paused _ _ => True
  | timed _ => True
  | submitted _ => True
  | printed _ => True
  | logged _ => True
  | _ => False

/-- An event of the dashboard. -/
def OfDashboard : Event → Prop
  | looked _ => True
  | paused _ _ => True
  | readHealth _ => True
  | readMetrics _ => True
  | readAlerts _ => True
  | wrote _ _ => True
  | flushed _ => True
  | logged _ => True
  | _ => False

theorem OfLoad.plain {event : Event} (h : event.OfLoad) : event.Plain := by
  cases event <;> first | exact h | trivial

theorem OfDashboard.plain {event : Event} (h : event.OfDashboard) : event.Plain := by
  cases event <;> first | exact h | trivial

theorem Plain.move {event : Event} (h : event.Plain) (run : RunState) : event.move run = run := by
  cases event with
  | stopped first => exact h.elim
  | _ => rfl

end Event

/-- Every event of the thread has the property. -/
def Thread.Only {σ : Type} (P : Event → Prop) (effect : Thread σ) : Prop :=
  ∀ (s : σ) (e : Effect σ) (event : Event) (t : σ), effect s = some e → e.Takes event t → P event

/-- So has every event of a thread that is seen through a function. -/
theorem Thread.Only.through {σ τ : Type} {P : Event → Prop} {effect : Thread σ}
    (h : effect.Only P) {f : σ → τ} {s : σ} {e : Effect τ} {event : Event} {t : τ}
    (heffect : (effect s).map (·.map f) = some e) (htakes : e.Takes event t) : P event := by
  obtain ⟨_, _, hinner, hnext, -⟩ := Thread.takes_map heffect htakes
  exact h _ _ _ _ hinner hnext

theorem Thread.Only.imp {σ : Type} {P Q : Event → Prop} {effect : Thread σ}
    (h : effect.Only P) (hPQ : ∀ {event : Event}, P event → Q event) : effect.Only Q :=
  fun s e event t heffect htakes => hPQ (h s e event t heffect htakes)

/-- What a thread of plain events keeps in company. Its own steps leave the flag as it is, so what
is kept may depend on it as long as it also stands if others stop the run. -/
theorem Thread.Only.invariant {σ : Type} {effect : Thread σ} {P : Bool → List Event → σ → Prop}
    (honly : effect.Only Event.Plain) {s t : Solo σ} {moves : List Move}
    (h : Steps (Solo.Step effect) s moves t) (start : P s.run.running [] s.state)
    (keep : ∀ {run : RunState} {events : List Event} {a b : σ} {e : Effect σ} {event : Event},
      P run.running events a → effect a = some e → e.Takes event b → event.Agrees run →
        P run.running (events ++ [event]) b)
    (stop : ∀ {flag : Bool} {events : List Event} {a : σ}, P flag events a → P false events a) :
    P t.run.running (Move.events moves) t.state := by
  refine h.invariant (P := fun ms s => P s.run.running (Move.events ms) s.state) start ?_
  intro past a move b hpast hstep
  rw [Move.events_append]
  cases hstep with
  | own heffect htakes hagrees =>
      rw [(honly _ _ _ _ heffect htakes).move]
      exact keep hpast heffect htakes hagrees
  | stop =>
      rw [RunState.running_stop]
      show P false (Move.events past ++ []) a.state
      rw [List.append_nil]
      exact stop hpast

/-! ## The dashboard -/

theorem Writing.effect_only : Writing.effect.Only Event.OfDashboard := by
  intro s e event t heffect htakes
  cases s with
  | pending text rest => cases heffect; cases htakes; trivial
  | finished result => cases heffect

theorem Tick.effect_only : Tick.effect.Only Event.OfDashboard := by
  intro s e event t heffect htakes
  cases s with
  | drawing writing => exact Writing.effect_only.through heffect htakes
  | finished result => cases heffect
  | _ => cases heffect; cases htakes; trivial

theorem Dashboard.effect_only (refresh : Duration) :
    (Dashboard.effect refresh).Only Event.OfDashboard := by
  intro s e event t heffect htakes
  cases s with
  | ticking frames tick => exact Tick.effect_only.through heffect htakes
  | finished frames => cases heffect
  | _ => cases heffect; cases htakes; trivial

/-! ## The load driver -/

section

variable {ρ : Type} [RandomSource ρ] (pacing : Pacing) (patience : Nat)

theorem PhaseState.effect_only (phase : Phase) :
    (PhaseState.effect pacing patience phase : Thread (PhaseState ρ)).Only Event.OfLoad := by
  intro s e event t heffect htakes
  cases s with
  | finished progress => cases heffect
  | drawing => cases heffect
  | _ => cases heffect; cases htakes; trivial

theorem LoadDriver.effect_only :
    (LoadDriver.effect pacing patience : Thread (LoadDriver ρ)).Only Event.OfLoad := by
  intro s e event t heffect htakes
  cases s with
  | running number phase rest state =>
      exact (PhaseState.effect_only pacing patience phase).through heffect htakes
  | finished outcome source => cases heffect
  | _ => cases heffect; cases htakes; trivial

end
end LoadMonitor
