import LoadMonitor.Diagnostic
import LoadMonitor.Duration
import LoadMonitor.Log.Record
import LoadMonitor.Service.Failure
import LoadMonitor.Service.Snapshot

/-!
# Threads in steps

A thread is described by its states. In each state it takes one step on the world outside
it, and an effect names that step together with the state in which every answer leaves the
thread. Nothing else of a thread can be seen by another one, so the possible runs of
several threads are the interleavings of their effects.
-/

namespace LoadMonitor

/-- One step of a thread with states `σ`. -/
inductive Effect (σ : Type) where
  /-- Look at the flag of the run. -/
  | isRunning (next : Bool → σ)
  /-- Stop the run; the answer tells whether this call cleared the flag. -/
  | stop (next : Bool → σ)
  /-- Pause, for less than the delay if the run is stopped; the answer is the flag. -/
  | pause (delay : Duration) (next : Bool → σ)
  /-- Look at the monotonic clock. -/
  | clock (next : Duration → σ)
  | checkLive (next : Except PrecheckError Unit → σ)
  | health (next : Except Failure HealthSnapshot → σ)
  | metrics (next : Except Failure (List MetricSnapshot) → σ)
  | alerts (next : Except Failure (List AlertSnapshot) → σ)
  /-- Send something; what becomes of it is not told. -/
  | submit (submission : Submission) (next : σ)
  /-- Write a text to the screen. -/
  | write (text : String) (next : Except WriteError Unit → σ)
  /-- Push what was written out to the screen. -/
  | flush (next : Except WriteError Unit → σ)
  /-- Print a text on the screen, with no return for a thread that cannot print. -/
  | print (text : String) (next : σ)
  /-- Take the screen for this thread alone. -/
  | lockScreen (next : σ)
  | unlockScreen (next : σ)
  /-- Begin the thread that redraws the screen. -/
  | launch (next : σ)
  /-- Wait for that thread to end; the answer is the number of its frames. -/
  | join (next : Nat → σ)
  | log (line : Diagnostic) (next : σ)

/-- The same step for a thread whose states are seen through a function. -/
def Effect.map {σ τ : Type} (f : σ → τ) : Effect σ → Effect τ
  | isRunning next => .isRunning fun b => f (next b)
  | stop next => .stop fun b => f (next b)
  | pause delay next => .pause delay fun b => f (next b)
  | clock next => .clock fun t => f (next t)
  | checkLive next => .checkLive fun a => f (next a)
  | health next => .health fun a => f (next a)
  | metrics next => .metrics fun a => f (next a)
  | alerts next => .alerts fun a => f (next a)
  | submit submission next => .submit submission (f next)
  | write text next => .write text fun a => f (next a)
  | flush next => .flush fun a => f (next a)
  | print text next => .print text (f next)
  | lockScreen next => .lockScreen (f next)
  | unlockScreen next => .unlockScreen (f next)
  | launch next => .launch (f next)
  | join next => .join fun n => f (next n)
  | log line next => .log line (f next)

/-- A thread: its step in each state, none once it has ended. -/
abbrev Thread (σ : Type) := σ → Option (Effect σ)

/-! ## Writing several texts -/

/-- Texts that are still to be written one after the other, or how the writing ended. -/
inductive Writing where
  | pending (text : String) (rest : List String)
  | finished (result : Except WriteError Unit)

namespace Writing

def start : List String → Writing
  | [] => finished (.ok ())
  | text :: rest => pending text rest

/-- Writing goes on until a text is refused. -/
def effect : Thread Writing
  | pending text rest => some <| .write text fun
    | .ok _ => start rest
    | .error e => finished (.error e)
  | finished _ => none

end Writing
end LoadMonitor
