import LoadMonitor.Service.Failure

/-!
# A scripted screen

A device that accepts a given number of bytes and refuses everything afterwards. It can
fail to flush, and it can stop the run at a given flush or refusal.
-/

namespace LoadMonitor

/-- What a scripted screen does, and what it has done so far. -/
structure ScriptedScreen where
  /-- The number of bytes that are accepted in all, if there is a limit. -/
  limit : Option Nat
  /-- How the screen refuses once the limit is reached. -/
  refusal : WriteError
  flushFailure : Option WriteError
  /-- The flush that stops the run. -/
  stopAtFlush : Option Nat
  /-- The refusal that stops the run. -/
  stopAtRefusal : Option Nat
  accepted : ByteArray
  flushes : Nat
  refusals : Nat

namespace ScriptedScreen

/-- A screen that accepts everything. -/
def unlimited : ScriptedScreen := ⟨none, .nothingAccepted, none, none, none, .empty, 0, 0⟩

/-- The number of bytes that are still accepted of `n` bytes. -/
def room (w : ScriptedScreen) (n : Nat) : Nat :=
  match w.limit with
  | none => n
  | some limit => min n (limit - w.accepted.size)

/-- Write bytes: the result, whether the run is stopped meanwhile, and the screen
afterwards. What there is room for is accepted even if the rest is refused. -/
def write (w : ScriptedScreen) (bytes : ByteArray) :
    Except WriteError Unit × Bool × ScriptedScreen :=
  let room := w.room bytes.size
  let accepted := w.accepted ++ bytes.extract 0 room
  if room = bytes.size then (.ok (), false, { w with accepted })
  else
    let refusals := w.refusals + 1
    (.error w.refusal, w.stopAtRefusal == some refusals, { w with accepted, refusals })

/-- Flush: the result, whether the run is stopped meanwhile, and the screen afterwards. -/
def flush (w : ScriptedScreen) : Except WriteError Unit × Bool × ScriptedScreen :=
  let flushes := w.flushes + 1
  let result := match w.flushFailure with
    | none => .ok ()
    | some e => .error e
  (result, w.stopAtFlush == some flushes, { w with flushes })

end ScriptedScreen
end LoadMonitor
