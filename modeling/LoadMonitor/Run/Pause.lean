import LoadMonitor.Run.State
import LoadMonitor.Duration

/-!
# Pauses

A pause lasts for its whole delay unless the run is stopped. The thread looks at the flag
under the lock, gives the lock up as it parks, and looks again whenever it is woken.
-/

namespace LoadMonitor

/-- Where a thread stands in a pause. -/
inductive Pausing where
  /-- About to look at the flag for the first time. -/
  | entering (delay : Duration)
  /-- Parked until it is woken or the deadline passes. -/
  | parked (deadline : Duration)
  /-- Off the bench, by the deadline or by a wake-up, and about to look again. -/
  | woken (deadline : Duration) (timedOut : Bool)
  /-- Back at the caller with the value of the flag. -/
  | finished (running : Bool)
  deriving DecidableEq, Repr

namespace Pausing

/-- A thread that holds the lock looks at the flag and parks, parks again or returns. A
thread that was woken by its deadline does not park again. -/
def look (now : Duration) (r : RunState) : Pausing → Pausing
  | entering delay => if r.running then parked (now + delay) else finished r.running
  | woken deadline timedOut =>
    if timedOut || !r.running then finished r.running else parked deadline
  | parked deadline => parked deadline
  | finished running => finished running

/-- A notification, or no reason at all, takes a parked thread off the bench. -/
def wake : Pausing → Pausing
  | parked deadline => woken deadline false
  | p => p

/-- The deadline takes a parked thread off the bench once it has come. -/
def expire (now : Duration) : Pausing → Pausing
  | parked deadline => if deadline ≤ now then woken deadline true else parked deadline
  | p => p

/-- The answer of a pause that is over. -/
def answer : Pausing → Bool
  | finished running => running
  | _ => false

end Pausing

namespace RunState

/-- A pause with no other thread about: the answer and the time when it is over. A run
that is active stays so, and the whole delay passes. -/
def pauseAlone (r : RunState) (now delay : Duration) : Bool × Duration :=
  match (Pausing.entering delay).look now r with
  | .parked deadline =>
    ((((Pausing.parked deadline).expire deadline).look deadline r).answer, deadline)
  | p => (p.answer, now)

/-- A pause during which another thread stops the run: the answer of the pause, that of
the stop, and the state afterwards. -/
def pauseWhileStopped (r : RunState) (now delay : Duration) : Bool × Bool × RunState :=
  let paused := (Pausing.entering delay).look now r
  let (first, r) := r.stop
  ((paused.wake.look now r).answer, first, r)

end RunState
end LoadMonitor
