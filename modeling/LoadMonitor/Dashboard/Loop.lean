import LoadMonitor.Dashboard.Frame
import LoadMonitor.Run.Effect

/-!
# The dashboard

Ticks with pauses between them until the run is stopped. A tick redraws the screen once: it wipes
it, asks the service three questions, and shows either their answers or the one line of an error.
A tick that fails is logged and changes nothing else.
-/

namespace LoadMonitor

/-! ## Ticks -/

/-- Where the dashboard stands within a tick. -/
inductive Tick where
  | clearing
  | askingHealth
  | askingMetrics (health : HealthSnapshot)
  | askingAlerts (health : HealthSnapshot) (metrics : List MetricSnapshot)
  | drawing (writing : Writing)
  | flushing
  | finished (result : Except WriteError Unit)

namespace Tick

/-- The line that is shown in place of a frame. -/
def errorLine (f : Failure) : String := "Error updating dashboard: " ++ f.text ++ "\n"

/-- What is shown after a failed read: nothing if the run was stopped, as there is no next
frame, and one line otherwise. -/
def failurePieces (f : Failure) : List String := if f.isStopped then [] else [errorLine f]

/-- Write texts, then flush. -/
def drawn : Writing → Tick
  | .finished (.ok _) => flushing
  | .finished (.error e) => finished (.error e)
  | writing => drawing writing

/-- Show texts. -/
def display (pieces : List String) : Tick := drawn (.start pieces)

def effect : Thread Tick
  | clearing => some <| .write Frame.clearScreen fun
    | .ok _ => askingHealth
    | .error e => finished (.error e)
  | askingHealth => some <| .health fun
    | .ok health => askingMetrics health
    | .error f => display (failurePieces f)
  | askingMetrics health => some <| .metrics fun
    | .ok metrics => askingAlerts health metrics
    | .error f => display (failurePieces f)
  | askingAlerts health metrics => some <| .alerts fun
    | .ok alerts => display (Frame.pieces ⟨health, metrics, alerts⟩)
    | .error f => display (failurePieces f)
  | drawing writing => writing.effect.map (·.map drawn)
  | flushing => some <| .flush finished
  | finished _ => none

end Tick

/-! ## The loop -/

/-- Where the dashboard stands; every state carries the number of ticks that were begun and
are over. -/
inductive Dashboard where
  /-- About to look at the flag. -/
  | checking (frames : Nat)
  | ticking (frames : Nat) (tick : Tick)
  /-- About to log that a tick failed. -/
  | complaining (frames : Nat) (error : WriteError)
  | pausing (frames : Nat)
  /-- About to log that the loop is over. -/
  | leaving (frames : Nat)
  | finished (frames : Nat)

namespace Dashboard

/-- How long the dashboard pauses between ticks unless it is told otherwise. -/
def defaultRefresh : Duration := .ofSecs 2

def start : Dashboard := checking 0

/-- Go on with a tick, or with what follows it. -/
def ticked (frames : Nat) : Tick → Dashboard
  | .finished (.ok _) => pausing (frames + 1)
  | .finished (.error e) => complaining (frames + 1) e
  | tick => ticking frames tick

def drawFailed (e : WriteError) : Diagnostic :=
  .warning ("Failed to draw dashboard: " ++ e.message)

def stopped (frames : Nat) : Diagnostic :=
  .debug ("Dashboard stopped after " ++ toString frames ++ " frames")

/-- The dashboard that pauses for `refresh` after each tick. -/
def effect (refresh : Duration) : Thread Dashboard
  | checking frames => some <| .isRunning fun running =>
    if running then ticking frames .clearing else leaving frames
  | ticking frames tick => tick.effect.map (·.map (ticked frames))
  | complaining frames e => some <| .log (drawFailed e) (pausing frames)
  | pausing frames => some <| .pause refresh fun running =>
    if running then checking frames else leaving frames
  | leaving frames => some <| .log (stopped frames) (finished frames)
  | finished _ => none

/-- The number of frames once the loop is over. -/
def frames? : Dashboard → Option Nat
  | finished frames => some frames
  | _ => none

end Dashboard
end LoadMonitor
