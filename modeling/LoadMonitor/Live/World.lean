import LoadMonitor.Client.Networked
import LoadMonitor.Demo.MainThread
import LoadMonitor.Live.Network
import LoadMonitor.Log.Timestamp
import LoadMonitor.Run.Pause
import Std.Sync.Mutex
import Std.Time.DateTime.Timestamp

/-!
# The world

The steps of threads carried out: on the screen, over the network and in real time.
-/

namespace LoadMonitor.Live

/-- What the threads of a run share. -/
structure World where
  run : IO.Ref RunState
  session : IO.Ref Session
  config : DemoConfig
  /-- Held by the thread that is writing. -/
  screen : Std.BaseMutex
  /-- The number of frames that the thread of the dashboard will report. -/
  dashboard : IO.Ref (Task (Except IO.Error Nat))

namespace World

/-- The world at the beginning of a run. -/
def start (config : DemoConfig) (client : Client) : IO World := do
  return {
    run := ← IO.mkRef .fresh
    session := ← IO.mkRef (.start client)
    config
    screen := (← Std.Mutex.new ()).mutex
    dashboard := ← IO.mkRef (.pure (.ok 0)) }

/-- Stop the run: whether this call cleared the flag. -/
def stop (w : World) : IO Bool := w.run.modifyGet (·.stop)

/-- The present time. -/
def now : IO Duration := return ⟨← IO.monoNanosNow⟩

/-- Carry on a pause to its end; the answer is the flag. A parked thread is taken off the bench
after every slice of time, for no reason at all if its deadline has not come by then. -/
partial def pause (w : World) : Pausing → IO Bool
  | .finished running => return running
  | .parked deadline => do
    let left := (deadline.nanos - (← IO.monoNanosNow)) / 1000000 + 1
    IO.sleep (UInt32.ofNat (min left sliceMillis.toNat))
    w.pause ((Pausing.parked deadline).expire (← now)).wake
  | stage => do w.pause (stage.look (← now) (← w.run.get))

/-- The text of the present time. -/
def timestamp : IO String := do
  let now ← Std.Time.Timestamp.now
  return Timestamp.text (now.toNanosecondsSinceUnixEpoch.val.toNat / 1000)

/-- Make a call: meet with the network first, and take the result into the session then. -/
def call {α : Type} (w : World) (request : NetworkedService → ServiceCall)
    (serve : RunState → NetworkedService → Served NetworkedService α) : IO α := do
  let run ← w.run.get
  let undecided : NetworkedService :=
    ⟨← w.session.get, fun _ _ => ⟨.error .closed, .zero, false⟩, ← timestamp⟩
  let what := request undecided
  let timeout := match what with
    | .checkLive => w.config.client.livenessTimeout
    | _ => w.config.client.requestTimeout
  let encounter ← match undecided.session.client.request what with
    | .ok r => meet run (return (← w.run.get).announced) timeout r
    | .error _ => pure ⟨.error .closed, .zero, false⟩
  w.session.modifyGet fun session =>
    let served := serve run { undecided with session, network := fun _ _ => encounter }
    (served.answer, served.service.session)

/-- Write a text to the screen. -/
def write (text : String) : IO (Except WriteError Unit) := do
  try
    (← IO.getStdout).putStr text
    return .ok ()
  catch e => return .error (.device (toString e))

/-- Push what was written out to the screen. -/
def flush : IO (Except WriteError Unit) := do
  try
    (← IO.getStdout).flush
    return .ok ()
  catch e => return .error (.device (toString e))

/-- Do something with the screen, alone. A thread that holds the screen is alone already. -/
def alone {α : Type} (w : World) (holds : Bool) (act : IO α) : IO α := do
  if holds then act
  else
    w.screen.lock
    try act finally w.screen.unlock

/-- Carry out a step of a thread that holds the screen or does not; the answer also tells
whether it holds the screen afterwards. -/
def perform {σ : Type} (w : World) (launch : IO Nat) (holds : Bool) (e : Effect σ) :
    IO (σ × Bool) := do
  match e with
  | .isRunning next => return (next (← w.run.get).running, holds)
  | .stop next => return (next (← w.stop), holds)
  | .pause delay next => return (next (← w.pause (.entering delay)), holds)
  | .clock next => return (next (← now), holds)
  | .checkLive next => return (next (← w.call (fun _ => .checkLive) Service.checkLive), holds)
  | .health next => return (next (← w.call (fun _ => .health) Service.health), holds)
  | .metrics next => return (next (← w.call (fun _ => .metrics) Service.metrics), holds)
  | .alerts next => return (next (← w.call (fun _ => .alerts) Service.alerts), holds)
  | .submit submission next =>
    w.call (·.callOf submission) (Service.submit submission)
    return (next, holds)
  | .write text next => return (next (← w.alone holds (write text)), holds)
  | .flush next => return (next (← w.alone holds flush), holds)
  | .print text next =>
    let _ ← w.alone holds (do let _ ← write text; flush)
    return (next, holds)
  | .lockScreen next =>
    w.screen.lock
    return (next, true)
  | .unlockScreen next =>
    let _ ← flush
    w.screen.unlock
    return (next, false)
  | .launch next =>
    w.dashboard.set (← IO.asTask launch .dedicated)
    return (next, holds)
  | .join next =>
    let frames ← IO.ofExcept (← IO.wait (← w.dashboard.get))
    return (next frames, holds)
  | .log line next =>
    if line.level == .error then IO.eprintln line.text
    return (next, holds)

/-- Run a thread to its end. -/
partial def play {σ : Type} (w : World) (launch : IO Nat) (effect : Thread σ) (holds : Bool)
    (s : σ) : IO σ := do
  match effect s with
  | none => return s
  | some e =>
    let (s, holds) ← w.perform launch holds e
    w.play launch effect holds s

/-- Run the thread of the dashboard: the number of its frames. -/
def redraw (w : World) : IO Nat := do
  let ended ← w.play (pure 0) (Dashboard.effect w.config.refresh) false .start
  return ended.frames?.getD 0

/-- Run the main thread: how the demo ended, if it did. -/
def demo {ρ : Type} [RandomSource ρ] (w : World) (patience : Nat) (source : ρ) :
    IO (Option (Except WriteError DemoOutcome)) := do
  let ended ← w.play w.redraw (Demo.effect w.config patience) false (.start source)
  return ended.result?

end World
end LoadMonitor.Live
