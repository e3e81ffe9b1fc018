import LoadMonitor.Binary64.Rounding

/-!
# What the service reports about itself

Health, metrics and alerts as they are at one moment.
-/

namespace LoadMonitor

/-! ## Health -/

/-- The overall state of the service. -/
inductive HealthStatus where
  | ok
  | degraded
  | down
  | unknown
  deriving DecidableEq, Repr, Inhabited

namespace HealthStatus

/-- The name of a status on the wire. -/
def label : HealthStatus → String
  | ok => "ok"
  | degraded => "degraded"
  | down => "down"
  | unknown => "unknown"

/-- The status with the given name; every other name is an unknown status. -/
def ofLabel (name : String) : HealthStatus :=
  if name = "ok" then ok else if name = "degraded" then degraded
  else if name = "down" then down else unknown

end HealthStatus

/-- The health of the service. -/
structure HealthSnapshot where
  status : HealthStatus
  version : String
  uptimeSeconds : Binary64
  deriving DecidableEq, Repr

/-! ## Metrics -/

/-- A named measurement. -/
structure MetricSnapshot where
  name : String
  value : Binary64
  deriving DecidableEq, Repr

/-! ## Alerts -/

/-- How grave an alert is. -/
inductive AlertSeverity where
  | critical
  | warning
  | info
  | unknown
  deriving DecidableEq, Repr, Inhabited

namespace AlertSeverity

/-- The name of a severity on the wire. -/
def label : AlertSeverity → String
  | critical => "critical"
  | warning => "warning"
  | info => "info"
  | unknown => "unknown"

/-- The severity with the given name; every other name is an unknown severity. -/
def ofLabel (name : String) : AlertSeverity :=
  if name = "critical" then critical else if name = "warning" then warning
  else if name = "info" then info else unknown

end AlertSeverity

/-- An alert that is active. -/
structure AlertSnapshot where
  severity : AlertSeverity
  name : String
  message : String
  deriving DecidableEq, Repr

/-! ## Everything a frame shows -/

/-- The answers of one round of reads. -/
structure Snapshot where
  health : HealthSnapshot
  metrics : List MetricSnapshot
  alerts : List AlertSnapshot
  deriving DecidableEq, Repr

namespace Snapshot

/-- The value of the first metric with the given name, zero if there is none. -/
def metric (s : Snapshot) (name : String) : Binary64 :=
  match s.metrics.find? (·.name == name) with
  | some m => m.value
  | none => Binary64.zero

end Snapshot
end LoadMonitor
