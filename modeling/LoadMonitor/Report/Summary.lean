import LoadMonitor.Binary64.Rounding
import LoadMonitor.Diagnostic
import LoadMonitor.Duration

/-!
# Operations and their summaries

Every call of the service leaves a record: what was called, whether it failed and how long it
took. A summary has one row for each operation, in the order of their names. Times are
milliseconds, taken from whole microseconds; sums and quotients are rounded step by step, as
doubles are.
-/

namespace LoadMonitor

/-- The record of a call. The time is absent until the call is over. -/
structure OperationRecord where
  operation : String
  failed : Bool
  elapsed : Option Duration
  deriving DecidableEq, Repr

namespace OperationRecord

/-- The record of a call that has just begun. -/
def begun (operation : String) : OperationRecord := ⟨operation, false, none⟩

/-- The record of a call that is over. -/
def finish (r : OperationRecord) (failed : Bool) (elapsed : Duration) : OperationRecord :=
  { r with failed, elapsed := some elapsed }

end OperationRecord

/-- The figures of one operation. -/
structure OperationSummary where
  operation : String
  average : Binary64
  least : Binary64
  greatest : Binary64
  total : Nat
  errors : Nat
  deriving DecidableEq, Repr

namespace Summary

/-! ## Groups -/

/-- Records by their operations, in strictly ascending order of the names. -/
abbrev Groups := List (String × Array OperationRecord)

/-- Put a record behind the others of its operation. -/
def enter (r : OperationRecord) : Groups → Groups
  | [] => [(r.operation, #[r])]
  | (name, own) :: rest =>
    if r.operation = name then (name, own.push r) :: rest
    else if r.operation < name then (r.operation, #[r]) :: (name, own) :: rest
    else (name, own) :: enter r rest

/-- The records of each operation, in the order in which they were made. -/
def groups (records : List OperationRecord) : Groups :=
  records.foldl (fun gs r => enter r gs) []

/-! ## Figures -/

/-- A time in milliseconds. -/
def milliseconds (d : Duration) : Binary64 := Binary64.ofNat d.micros / 1000

/-- The sum of times, added up from the first to the last. -/
def sum (times : List Binary64) : Binary64 := times.foldl (· + ·) 0

/-- The mean of times, zero if there are none. -/
def average (times : List Binary64) : Binary64 :=
  if times.isEmpty then 0 else sum times / Binary64.ofNat times.length

/-- The least of the times, zero if there are none. -/
def least : List Binary64 → Binary64
  | [] => 0
  | t :: ts => ts.foldl Binary64.min t

/-- The greatest of the times, zero if there are none. -/
def greatest : List Binary64 → Binary64
  | [] => 0
  | t :: ts => ts.foldl Binary64.max t

/-- The row of an operation with the given records. -/
def row (name : String) (own : List OperationRecord) : OperationSummary :=
  let times := own.filterMap fun r => r.elapsed.map milliseconds
  { operation := name
    average := average times
    least := least times
    greatest := greatest times
    total := own.length
    errors := own.countP (·.failed) }

/-- The rows of all operations. -/
def rows (records : List OperationRecord) : List OperationSummary :=
  (groups records).map fun (name, own) => row name own.toList

end Summary
end LoadMonitor
