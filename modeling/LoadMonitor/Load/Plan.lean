import LoadMonitor.Binary64.Decimal
import LoadMonitor.Duration

/-!
# Plans

What the load driver does and how fast: the phases in their order, and the delays between
the iterations of each kind of phase.
-/

namespace LoadMonitor

/-- A stretch of the load. -/
inductive Phase where
  /-- Small mixed batches with a query now and then. -/
  | normal (duration : Duration)
  /-- Large batches in quick succession. -/
  | high (duration : Duration)
  /-- A fixed number of expensive queries. -/
  | slow (count : Nat)
  deriving DecidableEq, Repr

/-- The phase as it is announced. -/
def Phase.text : Phase → String
  | normal d => "Normal operation (" ++ toString d.secs ++ " seconds)"
  | high d => "High load test (" ++ toString d.secs ++ " seconds)"
  | slow n => "Slow query test (" ++ toString n ++ " queries)"

/-- Phases in the order in which they are run. -/
abbrev LoadPlan := List Phase

namespace LoadPlan

/-- Normal load, a burst of high load, slow queries, and normal load again. -/
def standard (normal high : Duration) (slow : Nat) (recovery : Duration) : LoadPlan :=
  [.normal normal, .high high, .slow slow, .normal recovery]

def byDefault : LoadPlan := standard (.ofSecs 60) (.ofSecs 30) 10 (.ofSecs 30)

end LoadPlan

/-- The delay after an iteration of each kind of phase, and how often an iteration of normal
load puts a query. -/
structure Pacing where
  normalDelay : Duration
  highDelay : Duration
  slowDelay : Duration
  queryProbability : Binary64
  deriving DecidableEq, Repr

namespace Pacing

def byDefault : Pacing :=
  ⟨.ofSecs 1, .ofMillis 100, .ofMillis 500, .ofDecimal false 3 (-1)⟩

/-- The delay after an iteration of the given phase. -/
def delay (p : Pacing) : Phase → Duration
  | .normal _ => p.normalDelay
  | .high _ => p.highDelay
  | .slow _ => p.slowDelay

end Pacing

/-- What a phase has submitted. -/
structure PhaseStats where
  iterations : Nat
  records : Nat
  queries : Nat
  deriving DecidableEq, Repr

namespace PhaseStats

def zero : PhaseStats := ⟨0, 0, 0⟩

/-- The figures as they are logged. -/
def text (s : PhaseStats) : String :=
  "PhaseStats \x7b iterations: " ++ toString s.iterations ++ ", records: " ++ toString s.records
    ++ ", queries: " ++ toString s.queries ++ " \x7d"

end PhaseStats
end LoadMonitor
