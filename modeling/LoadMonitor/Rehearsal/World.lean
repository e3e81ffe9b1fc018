import LoadMonitor.Rehearsal.Screen
import LoadMonitor.Run.Effect
import LoadMonitor.Run.Pause
import LoadMonitor.Service.Interface

/-!
# Rehearsals

A world in which a thread can be played without a network, a terminal or any waiting: the
clock moves only when a thread pauses, and then by the whole delay.
-/

namespace LoadMonitor

/-- Everything a thread can act on, for a service with states `ω`. -/
structure Rehearsal (ω : Type) where
  run : RunState
  now : Duration
  service : ω
  screen : ScriptedScreen
  log : Array Diagnostic
  /-- Whether something was written while the run was active. -/
  wroteWhileRunning : Bool

namespace Rehearsal

variable {ω σ α : Type}

/-- A world at the beginning of a run. -/
def fresh (service : ω) (screen : ScriptedScreen) : Rehearsal ω :=
  ⟨.fresh, .zero, service, screen, #[], false⟩

/-- Stop the run. -/
def stop (w : Rehearsal ω) : Bool × Rehearsal ω :=
  let (first, run) := w.run.stop
  (first, { w with run, log := w.log ++ RunState.stopLog first })

/-- Stop the run if the condition holds. -/
def stopIf (w : Rehearsal ω) (condition : Bool) : Rehearsal ω :=
  if condition then w.stop.2 else w

/-- Call the service. A run that is stopped by the call is stopped before the answer comes. -/
def call (w : Rehearsal ω) (f : RunState → ω → Served ω α) : α × Rehearsal ω :=
  let served := f w.run w.service
  let w := { w with service := served.service }.stopIf served.stops
  (served.answer, { w with log := w.log ++ served.log })

/-- Write a text to the screen. -/
def write (w : Rehearsal ω) (text : String) : Except WriteError Unit × Rehearsal ω :=
  let (result, stops, screen) := w.screen.write text.toUTF8
  let w := { w with screen, wroteWhileRunning := w.wroteWhileRunning || w.run.running }
  (result, w.stopIf stops)

/-- Flush the screen. -/
def flush (w : Rehearsal ω) : Except WriteError Unit × Rehearsal ω :=
  let (result, stops, screen) := w.screen.flush
  (result, { w with screen }.stopIf stops)

/-- Take the step of a thread that is alone: the state of the thread and the world
afterwards. -/
def perform [Service ω] (w : Rehearsal ω) : Effect σ → σ × Rehearsal ω
  | .isRunning next => (next w.run.running, w)
  | .stop next => let (first, w) := w.stop; (next first, w)
  | .pause delay next =>
    let (running, now) := w.run.pauseAlone w.now delay
    (next running, { w with now })
  | .clock next => (next w.now, w)
  | .checkLive next => let (a, w) := w.call Service.checkLive; (next a, w)
  | .health next => let (a, w) := w.call Service.health; (next a, w)
  | .metrics next => let (a, w) := w.call Service.metrics; (next a, w)
  | .alerts next => let (a, w) := w.call Service.alerts; (next a, w)
  | .submit submission next => (next, (w.call (Service.submit submission)).2)
  | .write text next => let (result, w) := w.write text; (next result, w)
  | .flush next => let (result, w) := w.flush; (next result, w)
  | .print text next => (next, (w.write text).2)
  | .lockScreen next => (next, w)
  | .unlockScreen next => (next, w)
  | .launch next => (next, w)
  | .join next => (next 0, w)
  | .log line next => (next, { w with log := w.log.push line })

/-- Play a thread to its end, for at most the given number of steps. -/
def play [Service ω] (effect : Thread σ) : Nat → σ → Rehearsal ω → σ × Rehearsal ω
  | 0, s, w => (s, w)
  | steps + 1, s, w =>
    match effect s with
    | none => (s, w)
    | some e =>
      let (s, w) := w.perform e
      play effect steps s w

end Rehearsal
end LoadMonitor
