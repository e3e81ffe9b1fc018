import LoadMonitor.Json.Value

/-!
# Log records

The synthetic log lines that are sent to the service.
-/

namespace LoadMonitor

/-- The level of a log line. -/
inductive LogLevel where
  | debug
  | info
  | warning
  | error
  deriving DecidableEq, Repr, Inhabited

namespace LogLevel

/-- The name of a level on the wire. -/
def label : LogLevel → String
  | debug => "debug"
  | info => "info"
  | warning => "warning"
  | error => "error"

/-- The level with the given name. -/
def ofLabel? (name : String) : Option LogLevel :=
  [debug, info, warning, error].find? (·.label == name)

end LogLevel

/-- A log line before it is dated. -/
structure LogEntry where
  level : LogLevel
  message : String
  service : String
  attributes : JsonMembers
  deriving Repr

/-- A log line as the service accepts it. -/
structure LogRecord where
  level : LogLevel
  message : String
  service : String
  timestamp : String
  attributes : JsonMembers
  deriving Repr

/-- Date a log line. -/
def LogEntry.dated (e : LogEntry) (timestamp : String) : LogRecord :=
  ⟨e.level, e.message, e.service, timestamp, e.attributes⟩

/-- The JSON object of a record, its members in the order of the fields. -/
def LogRecord.toJson (r : LogRecord) : JsonValue :=
  .object
    [("level", .string r.level.label), ("message", .string r.message),
      ("service", .string r.service), ("timestamp", .string r.timestamp),
      ("attributes", .object r.attributes)]

/-- The two routes for log lines. -/
inductive IngestRoute where
  /-- For small batches. -/
  | ingest
  /-- For large batches. -/
  | bulk
  deriving DecidableEq, Repr

/-- The path of a route, below the base address of the service. -/
def IngestRoute.path : IngestRoute → String
  | ingest => "ingest/logs"
  | bulk => "ingest/bulk"

/-- Something that is sent to the service and whose answer nobody waits for. -/
inductive Submission where
  | logs (endpoint : IngestRoute) (batch : List LogEntry)
  | query (sql : String)
  deriving Repr

namespace Submission

/-- The number of log lines in a submission. -/
def records : Submission → Nat
  | logs _ batch => batch.length
  | query _ => 0

/-- The number of queries in a submission. -/
def queries : Submission → Nat
  | logs _ _ => 0
  | query _ => 1

end Submission
end LoadMonitor
