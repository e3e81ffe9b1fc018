import LoadMonitor.Diagnostic

/-!
# The run state

One flag decides whether the program keeps going. It is set when the run begins and
cleared at most once. Loops look at the flag itself; listeners look at a copy, which is
brought up to date a moment later, so a stop is made of separate steps between which
other threads may do anything.
-/

namespace LoadMonitor

/-- The flag of a run, and whether its clearing has been announced to the listeners. -/
structure RunState where
  running : Bool
  announced : Bool
  deriving DecidableEq, Repr

/-! ## Stopping in steps -/

/-- Where a thread stands in a call that stops the run. -/
inductive Stopping where
  /-- About to test the flag and clear it, under the lock. -/
  | testing
  /-- About to wake the threads that pause. -/
  | notifying
  /-- About to tell the listeners. -/
  | announcing
  /-- Back at the caller; true for the one call that cleared the flag. -/
  | finished (first : Bool)
  deriving DecidableEq, Repr

/-- One step of a stop. -/
def Stopping.advance : Stopping → RunState → Stopping × RunState
  | testing, r =>
    if r.running then (notifying, { r with running := false }) else (finished false, r)
  | notifying, r => (announcing, r)
  | announcing, r => (finished true, { r with announced := true })
  | finished first, r => (finished first, r)

namespace RunState

/-- The state at the beginning of a run. -/
def fresh : RunState := ⟨true, false⟩

instance : Inhabited RunState := ⟨fresh⟩

/-- What a listener answers when asked whether to shut down. -/
def isOver (r : RunState) : Bool := r.announced

/-- A stop from its first step to its last with no other thread in between: whether this
call cleared the flag, and the state afterwards. -/
def stop (r : RunState) : Bool × RunState :=
  let (s, r) := Stopping.testing.advance r
  let (s, r) := s.advance r
  let (s, r) := s.advance r
  match s with
  | .finished first => (first, r)
  | _ => (false, r)

/-- The stopping call leaves this line in the log. -/
def cleared : Diagnostic := .debug "Run state cleared"

/-- What a call of `stop` with the given result leaves in the log. -/
def stopLog (first : Bool) : List Diagnostic := if first then [cleared] else []

theorem stop_running (r : RunState) (h : r.running = true) : r.stop = (true, ⟨false, true⟩) := by
  simp [stop, Stopping.advance, h]

theorem stop_stopped (r : RunState) (h : r.running = false) : r.stop = (false, r) := by
  simp [stop, Stopping.advance, h]

theorem running_stop (r : RunState) : r.stop.2.running = false := by
  cases h : r.running
  · simp [stop_stopped r h, h]
  · simp [stop_running r h]

end RunState
end LoadMonitor
