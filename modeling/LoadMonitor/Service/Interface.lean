import LoadMonitor.Log.Record
import LoadMonitor.Run.State
import LoadMonitor.Service.Failure
import LoadMonitor.Service.Snapshot

/-!
# Services

What a service does with a call, as a function of its own state and of the state of the run.
-/

namespace LoadMonitor

/-- What a call comes to: the answer, the service afterwards, what is logged meanwhile, and
whether the run is stopped meanwhile. -/
structure Served (ω α : Type) where
  answer : α
  service : ω
  log : List Diagnostic
  stops : Bool

/-- A service with states `ω`. -/
class Service (ω : Type) where
  checkLive : RunState → ω → Served ω (Except PrecheckError Unit)
  health : RunState → ω → Served ω (Except Failure HealthSnapshot)
  metrics : RunState → ω → Served ω (Except Failure (List MetricSnapshot))
  alerts : RunState → ω → Served ω (Except Failure (List AlertSnapshot))
  submit : Submission → RunState → ω → Served ω Unit
  /-- Ask for the health without ever getting an answer. -/
  unanswered : RunState → ω → ω

end LoadMonitor
