import LoadMonitor.Service.Interface

/-!
# A scripted service

A service whose answers are prepared, and which stops the run at chosen calls.
-/

namespace LoadMonitor

/-- A number for each kind of call. -/
structure CallNumbers (α : Type) where
  live : α
  health : α
  metrics : α
  alerts : α
  submissions : α
  deriving DecidableEq, Repr

/-- Prepared answers for the first, second and later calls of each kind, the last answer
being repeated; and the calls that stop the run. -/
structure ScriptedService where
  live : Option PrecheckError
  health : List (Except Failure HealthSnapshot)
  metrics : List (Except Failure (List MetricSnapshot))
  alerts : List (Except Failure (List AlertSnapshot))
  stopAt : CallNumbers (Option Nat)
  /-- The calls made so far. -/
  calls : CallNumbers Nat
  submitted : Array Submission

namespace ScriptedService

/-- The entry of a script for the call with the given number, counted from one. -/
def entry {α : Type} (script : List (Except Failure α)) (number : Nat) : Except Failure α :=
  match script[min number script.length - 1]? with
  | some answer => answer
  | none => .error (.fault "no answer")

instance : Service ScriptedService where
  checkLive _ s :=
    let number := s.calls.live + 1
    { answer := match s.live with
        | none => .ok ()
        | some e => .error e
      service := { s with calls := { s.calls with live := number } }
      log := []
      stops := s.stopAt.live == some number }
  health _ s :=
    let number := s.calls.health + 1
    { answer := entry s.health number
      service := { s with calls := { s.calls with health := number } }
      log := []
      stops := s.stopAt.health == some number }
  metrics _ s :=
    let number := s.calls.metrics + 1
    { answer := entry s.metrics number
      service := { s with calls := { s.calls with metrics := number } }
      log := []
      stops := s.stopAt.metrics == some number }
  alerts _ s :=
    let number := s.calls.alerts + 1
    { answer := entry s.alerts number
      service := { s with calls := { s.calls with alerts := number } }
      log := []
      stops := s.stopAt.alerts == some number }
  submit submission _ s :=
    let number := s.calls.submissions + 1
    { answer := ()
      service := { s with
        calls := { s.calls with submissions := number }
        submitted := s.submitted.push submission }
      log := []
      stops := s.stopAt.submissions == some number }
  unanswered _ s := { s with calls := { s.calls with health := s.calls.health + 1 } }

end ScriptedService
end LoadMonitor
