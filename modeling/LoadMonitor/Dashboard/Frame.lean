import LoadMonitor.Binary64.Basic
import LoadMonitor.Binary64.Decimal
import LoadMonitor.Service.Snapshot

/-!
# Frames

The text that shows one snapshot, line by line, and how its colours, its counts and its uptime
are written.
-/

/-!
## Colours

What a terminal is sent to change the colour of the text that follows.
-/

namespace LoadMonitor.Colour

/-- The colour in which a terminal writes by itself. -/
def plain : String := "\x1b[0m"

def red : String := "\x1b[91m"

def green : String := "\x1b[92m"

def yellow : String := "\x1b[93m"

def blue : String := "\x1b[94m"

def ofStatus : HealthStatus → String
  | .ok => green
  | .degraded => yellow
  | .down => red
  | .unknown => plain

def ofSeverity : AlertSeverity → String
  | .critical => red
  | .warning => yellow
  | .info => blue
  | .unknown => plain

/-- A text in a colour, and back to the plain one behind it. -/
def paint (colour text : String) : String := colour ++ text ++ plain

end LoadMonitor.Colour

/-!
## Grouped whole numbers

A measured value rounded to a whole number and written with a comma before every third digit from
the right.
-/

namespace LoadMonitor.Grouped

/-- Put a comma wherever a positive multiple of three digits follows. -/
def digits : List Char → List Char
  | [] => []
  | [c] => [c]
  | c :: d :: rest =>
    if (d :: rest).length % 3 = 0 then c :: ',' :: digits (d :: rest)
    else c :: digits (d :: rest)

/-- The whole number shown for a value: the nearest one, a half going away from zero, held
at the largest 64-bit integer; zero for a NaN. -/
def magnitude (x : Binary64) : Nat :=
  if x.isNaN then 0
  else if x.isInfinite then Nat.pow 2 64 - 1
  else Nat.min x.roundedMagnitude (Nat.pow 2 64 - 1)

/-- A minus sign is shown for values that round to something below zero. -/
def showsMinus (x : Binary64) : Bool :=
  !x.isNaN && x.negative && (x.isInfinite || x.roundedMagnitude != 0)

/-- The value rounded to a whole number, its digits grouped. -/
def text (x : Binary64) : String :=
  let shown := digits (Nat.toDigits 10 (magnitude x))
  String.ofList (if showsMinus x then '-' :: shown else shown)

end LoadMonitor.Grouped

/-!
## Uptime

How long the service has been up, in whole days, hours and minutes.
-/

namespace LoadMonitor

/-- An uptime cut to whole minutes. -/
structure Uptime where
  days : Nat
  hours : Nat
  minutes : Nat
  deriving DecidableEq, Repr

namespace Uptime

/-- Split a number of whole seconds; what is left of a minute is dropped. -/
def ofSeconds (total : Nat) : Uptime :=
  ⟨total / 86400, total % 86400 / 3600, total % 3600 / 60⟩

def text (u : Uptime) : String :=
  toString u.days ++ "d " ++ toString u.hours ++ "h " ++ toString u.minutes ++ "m"

/-- The uptime that is reported as a number of seconds, held between zero and the largest 64-bit
integer. -/
def ofReport (seconds : Binary64) : Uptime := ofSeconds seconds.truncate

end Uptime
end LoadMonitor

/-! ## The frame -/

namespace LoadMonitor.Frame

/-- Wipe the screen and go to its upper left corner. -/
def clearScreen : String := "\x1b[2J\x1b[H"

/-- The number of columns of a frame. -/
def width : Nat := 80

/-- The number of alerts that are shown. -/
def maxAlerts : Nat := 5

def title : String := "CLICK-LITE MONITORING DASHBOARD"

/-- A line of one character. -/
def rule (c : Char) (n : Nat) : String := String.ofList (List.replicate n c)

/-- A text in the middle of a line, with the odd blank behind it. -/
def centered (n : Nat) (text : String) : String :=
  let gap := n - text.length
  rule ' ' (gap / 2) ++ text ++ rule ' ' (gap - gap / 2)

/-- A measurement with one place after the point. -/
def measured (s : Snapshot) (label metric unit : String) : String :=
  label ++ ": " ++ (s.metric metric).fixed 1 ++ " " ++ unit

/-- A count with its digits grouped. -/
def counted (s : Snapshot) (label metric : String) : String :=
  label ++ ": " ++ Grouped.text (s.metric metric)

def alertLine (a : AlertSnapshot) : String :=
  Colour.paint (Colour.ofSeverity a.severity) ("[" ++ a.severity.label.toUpper ++ "]")
    ++ " " ++ a.name ++ ": " ++ a.message

def alertLines (alerts : List AlertSnapshot) : List String :=
  if alerts.isEmpty then [Colour.paint Colour.green "No active alerts"]
  else (alerts.take maxAlerts).map alertLine

/-- The lines of a frame, without their line ends. -/
def lines (s : Snapshot) : List String :=
  [rule '=' width,
    centered width title,
    rule '=' width,
    "",
    "System Status: "
      ++ Colour.paint (Colour.ofStatus s.health.status) s.health.status.label.toUpper,
    "Version: " ++ s.health.version,
    "Uptime: " ++ (Uptime.ofReport s.health.uptimeSeconds).text,
    "",
    "KEY METRICS:",
    rule '-' (width / 2),
    measured s "Ingestion Rate" "ingestion_rate_per_second" "logs/sec",
    measured s "Query Rate" "query_rate_per_second" "queries/sec",
    counted s "Total Logs" "total_logs_ingested",
    counted s "Total Queries" "total_queries_executed",
    "",
    "PERFORMANCE:",
    rule '-' (width / 2),
    measured s "Avg Query Duration" "query_duration_ms_avg" "ms",
    measured s "P99 Query Duration" "query_duration_ms_p99" "ms",
    "",
    "ACTIVE ALERTS:",
    rule '-' (width / 2)]
  ++ alertLines s.alerts ++
  ["", "Press Ctrl+C to stop monitoring..."]

/-- The pieces in which a frame is written: its lines with their ends. -/
def pieces (s : Snapshot) : List String := (lines s).map (· ++ "\n")

/-- The whole text of a frame. -/
def text (s : Snapshot) : String := String.join (pieces s)

end LoadMonitor.Frame
