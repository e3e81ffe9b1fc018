import LoadMonitor.CommandLine.Help
import LoadMonitor.CommandLine.Parser
import LoadMonitor.Demo.MainThread
import LoadMonitor.Live.World
import LoadMonitor.Random.ChaCha
import LoadMonitor.Report.Printing
import Std.Async.Signal

/-!
# The program

Reads the command line, runs the demo and shows the summary. An interrupt does not end the
program: it stops the run, and everything winds down by itself.
-/

namespace LoadMonitor.Live

/-- The number of words that a draw may look at. -/
def patience : Nat := Nat.pow 2 62

/-- The seed of a run. -/
def seedOf (config : DemoConfig) : IO UInt64 := do
  match config.seed with
  | some seed => return seed
  | none =>
    let bytes ← IO.getRandomBytes 8
    return bytes.toList.foldl (fun n b => n * 256 + b.toUInt64) 0

/-- Stop the run at the first interrupt. -/
def stopOnInterrupt (w : World) : IO Unit := do
  let waiter ← Std.Async.Signal.Waiter.mk .sigint true
  let interrupted ← waiter.wait
  let _ ← IO.mapTask (fun _ => do let _ ← w.stop; return ()) interrupted

/-- Show the summary of a run. -/
def summarize (w : World) : IO Unit := do
  let (text, _) := Summary.shown (← w.session.get).report
  let _ ← World.write text
  let _ ← World.flush

/-- Run a demo: the status with which the program ends. -/
def runDemo (config : DemoConfig) : IO UInt32 := do
  match Client.ofBase config.client.baseUrl with
  | .error e =>
    IO.eprint e.report
    return 1
  | .ok client =>
    let w ← World.start config client
    stopOnInterrupt w
    match ← w.demo patience (ChaCha.ofSeed (← seedOf config)) with
    | some (.ok outcome) =>
      if config.sumsUp outcome then summarize w
      return 0
    | some (.error e) =>
      IO.eprintln ("Error: " ++ e.message)
      return 1
    | none => return 1

end LoadMonitor.Live

open LoadMonitor in
def main (arguments : List String) : IO UInt32 := do
  let environmentUrl ← IO.getEnv Help.environmentVariable
  match CliSettings.read arguments with
  | .error .help =>
    IO.print (Help.text environmentUrl)
    return 0
  | .error (.usage e) =>
    IO.eprint (Help.usageText e)
    return 2
  | .ok settings => Live.runDemo (settings.config environmentUrl)
