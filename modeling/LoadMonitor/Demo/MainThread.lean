import LoadMonitor.Demo.Config
import LoadMonitor.Load.Driver

/-!
# The demo

The main thread of a demo: check that the service is alive, launch the dashboard, run the
plan, and bring everything to an end. The run is stopped first and the last words are written
afterwards, so that a dashboard which still looks at the flag draws no further frame. If the last
words cannot be written the thread leaves at once, without waiting for the dashboard.
-/

namespace LoadMonitor

/-! ## Outcomes -/

/-- How a demo ended. -/
inductive DemoOutcome where
  /-- Every phase ran to its end. -/
  | completed
  /-- The run was stopped. -/
  | interrupted
  /-- The precheck failed, so nothing was run. -/
  | serviceUnavailable
  deriving DecidableEq, Repr

/-- The outcome of a demo whose load ended in the given way. -/
def LoadOutcome.demo : LoadOutcome → DemoOutcome
  | completed => .completed
  | interrupted => .interrupted

/-- The outcome of a demo that failed its precheck. -/
def PrecheckError.demo : PrecheckError → DemoOutcome
  | cancelled => .interrupted
  | _ => .serviceUnavailable

/-- The last words of a demo whose load ended in the given way. -/
def LoadOutcome.farewell (webDashboardUrl : String) : LoadOutcome → String
  | completed => "\nDemo complete! Check " ++ webDashboardUrl ++ " for the web dashboard.\n"
  | interrupted => "\nDemo stopped by user.\n"

/-- What the user is told about a precheck that failed, in the pieces in which it is
written. -/
def PrecheckError.advice : PrecheckError → List String
  | cancelled => ["\nDemo stopped by user.\n"]
  | e@(unhealthy _) =>
    ["Error: Click-Lite services are not responding properly (" ++ e.message ++ ").\n",
      "Please ensure the backend is running on port 20002.\n"]
  | e@(unreachable _ _) =>
    ["Error: Cannot connect to Click-Lite services (" ++ e.message ++ ").\n",
      "Please ensure:\n",
      "1. Backend is running: cd backend && go run main.go\n",
      "2. Frontend is running: cd frontend && pnpm dev\n"]

/-! ## The farewell -/

/-- Where a thread stands that ends the run and says so. -/
inductive Farewell where
  | stopping (outcome : LoadOutcome)
  | speaking (outcome : LoadOutcome)
  | finished (result : Except WriteError Unit)

/-- The thread that ends the run and says so. -/
def Farewell.effect (webDashboardUrl : String) : Thread Farewell
  | stopping outcome => some <| .stop fun _ => speaking outcome
  | speaking outcome => some <| .write (outcome.farewell webDashboardUrl) finished
  | finished _ => none

/-! ## The main thread -/

/-- Where the main thread of a demo stands. -/
inductive Demo (ρ : Type) where
  | prechecking (source : ρ)
  /-- About to log why the precheck failed. -/
  | excusing (error : PrecheckError)
  /-- Telling the user why the precheck failed. -/
  | advising (error : PrecheckError) (writing : Writing)
  /-- About to print the first line. -/
  | greeting (source : ρ)
  /-- About to print the blank line after it. -/
  | spacing (source : ρ)
  | launching (source : ρ)
  | driving (driver : LoadDriver ρ)
  /-- About to take the screen for the last words. -/
  | locking (outcome : LoadOutcome)
  | parting (outcome : LoadOutcome) (farewell : Farewell)
  /-- About to give the screen back. -/
  | unlocking (outcome : LoadOutcome) (result : Except WriteError Unit)
  /-- Waiting for the dashboard to end. -/
  | joining (outcome : LoadOutcome)
  /-- About to log how the demo ended. -/
  | closing (outcome : LoadOutcome) (frames : Nat)
  | finished (result : Except WriteError DemoOutcome)

namespace Demo

variable {ρ : Type} [RandomSource ρ]

/-- The beginning of a demo. -/
def start (source : ρ) : Demo ρ := prechecking source

def precheckFailed (e : PrecheckError) : Diagnostic :=
  .debug ("Liveness precheck failed: " ++ e.message)

def ended (outcome : LoadOutcome) (frames : Nat) : Diagnostic :=
  .debug ("Demo finished with " ++ outcome.label ++ " after " ++ toString frames
    ++ " dashboard frames")

/-- Go on with the advice, or with what follows it. -/
def advised (error : PrecheckError) : Writing → Demo ρ
  | .finished (.ok _) => finished (.ok error.demo)
  | .finished (.error e) => finished (.error e)
  | writing => advising error writing

/-- Go on with the plan, or with what follows it. -/
def driven : LoadDriver ρ → Demo ρ
  | .finished outcome _ => locking outcome
  | driver => driving driver

/-- Go on with the farewell, or with what follows it. -/
def parted (outcome : LoadOutcome) : Farewell → Demo ρ
  | .finished result => unlocking outcome result
  | farewell => parting outcome farewell

/-- The main thread of a demo. -/
def effect (config : DemoConfig) (patience : Nat) : Thread (Demo ρ)
  | prechecking source => some <| .checkLive fun
    | .ok _ => greeting source
    | .error e => excusing e
  | excusing e => some <| .log (precheckFailed e) (advised e (.start e.advice))
  | advising e writing => writing.effect.map (·.map (advised e))
  | greeting source => some <| .print "Starting Click-Lite Monitoring Demo...\n" (spacing source)
  | spacing source => some <| .print "\n" (launching source)
  | launching source => some <| .launch (driving (.start config.plan source))
  | driving driver => (driver.effect config.pacing patience).map (·.map driven)
  | locking outcome => some <| .lockScreen (parting outcome (.stopping outcome))
  | parting outcome farewell =>
    (farewell.effect config.webDashboardUrl).map (·.map (parted outcome))
  | unlocking outcome result => some <| .unlockScreen <| match result with
    | .ok _ => joining outcome
    | .error e => finished (.error e)
  | joining outcome => some <| .join (closing outcome)
  | closing outcome frames => some <| .log (ended outcome frames) (finished (.ok outcome.demo))
  | finished _ => none

/-- The result once the main thread has returned. -/
def result? : Demo ρ → Option (Except WriteError DemoOutcome)
  | finished result => some result
  | _ => none

end Demo

/-- Whether the operations are summed up after a demo that ended in the given way. Without a
demo there is nothing worth a summary, whatever the precheck has left on record. -/
def DemoConfig.sumsUp (c : DemoConfig) (outcome : DemoOutcome) : Bool :=
  c.showSummary && outcome != .serviceUnavailable

end LoadMonitor
