import LoadMonitor.Log.Record
import LoadMonitor.Random.Choice

/-!
# Generated log lines and queries

Log lines as a running system would write them, large batches for the load test, and the
queries that are put to the service.
-/

namespace LoadMonitor.Generator

/-! ## Tables -/

/-- The smallest and largest size of a batch in normal operation. -/
def batchSize : Nat × Nat := (10, 50)

/-- The smallest and largest size of a batch in the load test. -/
def burstSize : Nat × Nat := (500, 1000)

/-- How often each level comes up in normal operation. -/
def levelWeights : List (LogLevel × Nat) :=
  [(.debug, 10), (.info, 70), (.warning, 15), (.error, 5)]

/-- The levels of the load test, equally likely. -/
def burstLevels : List LogLevel := [.info, .warning, .error]

def services : List String := ["web", "api", "worker", "cache"]

def burstService : String := "load-test"

def activities : List String :=
  ["User login", "API request", "Data processed", "Cache hit", "Task completed"]

/-- The queries that normal operation puts now and then. -/
def queries : List String :=
  ["SELECT COUNT(*) FROM logs WHERE level = 'error'",
    "SELECT service, COUNT(*) as count FROM logs GROUP BY service",
    "SELECT * FROM logs ORDER BY timestamp DESC LIMIT 100",
    "SELECT level, COUNT(*) FROM logs WHERE timestamp > datetime('now', '-5 minutes') "
      ++ "GROUP BY level"]

/-- A query over the last hour that takes the service some time. -/
def slowQuery : String :=
  "
SELECT
    service,
    level,
    DATE_TRUNC('minute', timestamp) as minute,
    COUNT(*) as count,
    AVG(CAST(json_extract(attributes, '$.duration_ms') as FLOAT)) as avg_duration
FROM logs
WHERE timestamp > datetime('now', '-1 hour')
GROUP BY service, level, minute
ORDER BY minute DESC, count DESC
"

/-! ## Draws -/

variable {ρ : Type} [RandomSource ρ]

/-- The levels of normal operation. -/
def levels : WeightedChoice LogLevel := ⟨levelWeights, by decide⟩

/-- A level of normal operation. -/
def level (patience : Nat) : Gen ρ LogLevel := levels.draw patience

/-- What the attribute for the result of an activity says at the given level. -/
def statusOf (level : LogLevel) : String := if level = .error then "failed" else "success"

/-- A log line of normal operation. -/
def line (patience : Nat) : Gen ρ LogEntry := do
  let level ← level patience
  let userId ← Uniform.between patience 1000 9999
  let durationMs ← Uniform.between patience 10 500
  let activity ← Uniform.choose patience activities
  let service ← Uniform.choose patience services
  return {
    level
    message := "Normal operation log - " ++ activity
    service
    attributes := .ofList
      [("user_id", .integer userId), ("duration_ms", .integer durationMs),
        ("status", .string (statusOf level))] }

/-- A batch of normal operation. -/
def batch (patience : Nat) : Gen ρ (List LogEntry) := do
  let size ← Uniform.betweenWide patience batchSize.1 batchSize.2
  Gen.repeated size (line patience)

/-- A log line of a load test with batches of the given size. -/
def burstLine (patience size : Nat) : Gen ρ LogEntry := do
  let level ← Uniform.choose patience burstLevels
  return {
    level
    message := "High load test log"
    service := burstService
    attributes := .ofList [("load_test", .bool true), ("batch_size", .integer size)] }

/-- A batch of the load test. -/
def burst (patience : Nat) : Gen ρ (List LogEntry) := do
  let size ← Uniform.betweenWide patience burstSize.1 burstSize.2
  Gen.repeated size (burstLine patience size)

/-- One of the queries of normal operation. -/
def query (patience : Nat) : Gen ρ String := Uniform.choose patience queries

end LoadMonitor.Generator
