import LoadMonitor.Run.Pause

/-!
# Handles and listeners

A run state is shared through handles, which can be copied and given up, and watched
through listeners. A listener that waits is also released when nobody is left who could
stop the run.
-/

namespace LoadMonitor

/-- Run states with everything that refers to them. Handles and listeners are numbered in
the order of their creation; a handle that was given up keeps its number. -/
structure RunHandles where
  states : List RunState
  handles : List (Option Nat)
  listeners : List Nat
  deriving Repr

namespace RunHandles

/-- One fresh run state with one handle. -/
def single : RunHandles := ⟨[.fresh], [some 0], []⟩

/-- The run state that a handle refers to, by number. -/
def target (p : RunHandles) (handle : Nat) : Option Nat := (p.handles[handle]?).join

/-- The run state that a listener watches, by number. -/
def watched (p : RunHandles) (listener : Nat) : Option Nat := p.listeners[listener]?

/-- The run state with the given number. -/
def state (p : RunHandles) (i : Nat) : RunState := p.states.getD i .fresh

/-- What a listener answers when it is asked whether to shut down. -/
def isOver (p : RunHandles) (listener : Nat) : Option Bool :=
  (p.watched listener).map fun i => (p.state i).isOver

/-- Add a run state with a handle of its own. -/
def create (p : RunHandles) : Nat × RunHandles :=
  (p.handles.length,
    { p with states := p.states ++ [.fresh], handles := p.handles ++ [some p.states.length] })

/-- Add a handle to a run state. -/
def share (p : RunHandles) (i : Nat) : Nat × RunHandles :=
  (p.handles.length, { p with handles := p.handles ++ [some i] })

/-- Add a listener to a run state. -/
def listen (p : RunHandles) (i : Nat) : Nat × RunHandles :=
  (p.listeners.length, { p with listeners := p.listeners ++ [i] })

/-- Give a handle up. -/
def release (p : RunHandles) (handle : Nat) : RunHandles :=
  { p with handles := p.handles.set handle none }

/-- Replace a run state. -/
def put (p : RunHandles) (i : Nat) (r : RunState) : RunHandles :=
  { p with states := p.states.set i r }

@[simp] theorem state_share (p : RunHandles) (i j : Nat) : (p.share i).2.state j = p.state j := rfl

@[simp] theorem state_listen (p : RunHandles) (i j : Nat) :
    (p.listen i).2.state j = p.state j := rfl

@[simp] theorem state_release (p : RunHandles) (handle j : Nat) :
    (p.release handle).state j = p.state j := rfl

theorem state_put (p : RunHandles) {i : Nat} (r : RunState) (h : i < p.states.length) :
    (p.put i r).state i = r := by
  simp [state, put, h]

@[simp] theorem length_put (p : RunHandles) (i : Nat) (r : RunState) :
    (p.put i r).states.length = p.states.length := by
  simp [put]

/-- Stop a run. -/
def stop (p : RunHandles) (i : Nat) : Bool × RunHandles :=
  let (first, r) := (p.state i).stop
  (first, p.put i r)

/-- Whether some handle still refers to the run state. -/
def isShared (p : RunHandles) (i : Nat) : Bool := p.handles.any (· == some i)

/-- Whether a listener that waits for the stop of the run is released. -/
def isReleased (p : RunHandles) (i : Nat) : Bool :=
  (p.state i).isOver || !p.isShared i

end RunHandles
end LoadMonitor
