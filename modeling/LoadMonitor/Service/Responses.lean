import LoadMonitor.Json.Record
import LoadMonitor.Service.Snapshot

/-!
# Responses

How the answers of the service are read. Almost every field may be missing and then has a
default; whatever else an answer holds is passed over.
-/

namespace LoadMonitor

open Json

/-! ## Health -/

/-- The fields of a health report that have been read. -/
structure HealthDraft where
  status : Option HealthStatus
  version : Option String
  uptimeSeconds : Option Binary64

/-- A health report: all of its fields may be missing. -/
def healthFormat : Format HealthDraft HealthSnapshot where
  name := "HealthSnapshot"
  fields :=
    [{ name := "status", required := false, isSet := (·.status.isSome)
       read := fun draft bs => do
         let (name, bs) ← readName bs
         return ({ draft with status := some (.ofLabel name) }, bs) },
      { name := "version", required := false, isSet := (·.version.isSome)
        read := fun draft bs => do
          let (version, bs) ← readText "a string" bs
          return ({ draft with version := some version }, bs) },
      { name := "uptime_seconds", required := false, isSet := (·.uptimeSeconds.isSome)
        read := fun draft bs => do
          let (seconds, bs) ← readDouble bs
          return ({ draft with uptimeSeconds := some seconds }, bs) }]
  blank := ⟨none, none, none⟩
  finish draft :=
    ⟨draft.status.getD .unknown, draft.version.getD "unknown", draft.uptimeSeconds.getD .zero⟩

/-! ## Metrics -/

/-- The fields of a metric that have been read. -/
structure MetricDraft where
  name : Option String
  value : Option Binary64

/-- A metric: both of its fields have to be there. -/
def metricFormat : Format MetricDraft MetricSnapshot where
  name := "MetricSnapshot"
  fields :=
    [{ name := "name", required := true, isSet := (·.name.isSome)
       read := fun draft bs => do
         let (name, bs) ← readText "a string" bs
         return ({ draft with name := some name }, bs) },
      { name := "value", required := true, isSet := (·.value.isSome)
        read := fun draft bs => do
          let (value, bs) ← readDouble bs
          return ({ draft with value := some value }, bs) }]
  blank := ⟨none, none⟩
  finish draft := ⟨draft.name.getD "", draft.value.getD .zero⟩

/-- The metrics: a record whose only field is their list. -/
def metricsFormat : Format (Option (List MetricSnapshot)) (List MetricSnapshot) where
  name := "MetricsResponse"
  fields :=
    [{ name := "metrics", required := false, isSet := (·.isSome)
       read := fun _ bs => do
         let (metrics, bs) ← readList metricFormat.read bs
         return (some metrics, bs) }]
  blank := none
  finish draft := draft.getD []

/-! ## Alerts -/

/-- The fields of an alert that have been read. -/
structure AlertDraft where
  severity : Option AlertSeverity
  name : Option String
  message : Option String

/-- An alert: only its message may be missing. -/
def alertFormat : Format AlertDraft AlertSnapshot where
  name := "AlertSnapshot"
  fields :=
    [{ name := "severity", required := true, isSet := (·.severity.isSome)
       read := fun draft bs => do
         let (name, bs) ← readName bs
         return ({ draft with severity := some (.ofLabel name) }, bs) },
      { name := "name", required := true, isSet := (·.name.isSome)
        read := fun draft bs => do
          let (name, bs) ← readText "a string" bs
          return ({ draft with name := some name }, bs) },
      { name := "message", required := false, isSet := (·.message.isSome)
        read := fun draft bs => do
          let (message, bs) ← readText "a string" bs
          return ({ draft with message := some message }, bs) }]
  blank := ⟨none, none, none⟩
  finish draft := ⟨draft.severity.getD .unknown, draft.name.getD "", draft.message.getD ""⟩

/-- The active alerts: a record whose only field is their list. -/
def alertsFormat : Format (Option (List AlertSnapshot)) (List AlertSnapshot) where
  name := "AlertsResponse"
  fields :=
    [{ name := "alerts", required := false, isSet := (·.isSome)
       read := fun _ bs => do
         let (alerts, bs) ← readList alertFormat.read bs
         return (some alerts, bs) }]
  blank := none
  finish draft := draft.getD []

end LoadMonitor
