import LoadMonitor.Binary64.Rounding
import LoadMonitor.Random.Source

/-!
# Choices

What is drawn from a source: a yes with a given probability, one of so many numbers that are all
equally likely, and values in proportion to their weights.
-/

namespace LoadMonitor

/-!
## Chances

A yes with a given probability. One is a sure yes and draws nothing; any other probability is
compared with a 64-bit double word.
-/

/-- A probability as the number of double words, of the `2 ^ 64`, that mean yes. -/
structure Chance where
  favourable : Nat
  deriving DecidableEq, Repr

namespace Chance

/-- The chance for a probability given as a double. What is not a number is no chance, and
values outside the range from zero to one are moved to its nearer end. -/
def ofProbability (p : Binary64) : Chance :=
  if p.isNaN || p.negative then ⟨0⟩
  else if p.isInfinite || Binary64.unit ≤ p.magnitude then ⟨Nat.pow 2 64⟩
  else ⟨p.magnitude * Nat.pow 2 64 / Binary64.unit⟩

variable {ρ : Type} [RandomSource ρ]

/-- Decide whether the chance comes true. -/
def decide (c : Chance) : Gen ρ Bool :=
  if c.favourable = Nat.pow 2 64 then return true
  else do return (← Gen.doubleWord) < c.favourable

end Chance
end LoadMonitor

/-!
## Uniform choices

A word `v` of `width` bits becomes a number below `count` by widening multiplication: the upper
half of `v * count` is the number, and the lower half decides whether the word is accepted, so
that every number has the same number of accepted words.
-/

namespace LoadMonitor.Uniform

/-- The largest lower half that is accepted: `count` shifted until its top bit is the top
bit of the word, less one. -/
def zone (width count : Nat) : Nat := count * Nat.pow 2 (width - Binary64.bitLength count) - 1

/-- The number below `count` that the word `v` stands for, if the word is accepted. -/
def accept (width count v : Nat) : Option Nat :=
  let product := v * count
  if product % Nat.pow 2 width ≤ zone width count then some (product / Nat.pow 2 width) else none

variable {ρ α : Type} [RandomSource ρ]

/-- A number from `low` to `high`, from 32-bit words. -/
def between (patience low high : Nat) : Gen ρ Nat := do
  return low + (← Gen.drawUntil Gen.word (accept 32 (high + 1 - low)) patience)

/-- A number from `low` to `high`, from 64-bit double words. -/
def betweenWide (patience low high : Nat) : Gen ρ Nat := do
  return low + (← Gen.drawUntil Gen.doubleWord (accept 64 (high + 1 - low)) patience)

/-- A member of a list, every position being equally likely. An empty list has none. -/
def choose (patience : Nat) (items : List α) : Gen ρ α :=
  Gen.drawUntil Gen.word (fun v => (accept 32 items.length v).bind fun i => items[i]?) patience

end LoadMonitor.Uniform

/-!
## Weighted choices

Values are drawn in proportion to their weights. A word is turned into a number below the total
weight by widening multiplication, words beyond a zone being refused, and the number falls into
the stretch of exactly one entry.
-/

namespace LoadMonitor

/-- Why a list of weights cannot be sampled. -/
inductive WeightsError where
  | noEntries
  | allZero
  deriving DecidableEq, Repr

namespace WeightsError

def headline : String := "Invalid sampling weights"

def message : WeightsError → String
  | noEntries => "No weights provided in distribution"
  | allZero => "All weights are zero in distribution"

end WeightsError

/-- The sum of the weights of entries. -/
def totalWeight {α : Type} : List (α × Nat) → Nat
  | [] => 0
  | (_, weight) :: rest => weight + totalWeight rest

/-- Values with their weights, at least one of which is not zero. -/
structure WeightedChoice (α : Type) where
  entries : List (α × Nat)
  total_pos : 0 < totalWeight entries

namespace WeightedChoice

variable {ρ α : Type}

/-- The choice among the entries; there has to be one with a positive weight. -/
def ofEntries (entries : List (α × Nat)) : Except WeightsError (WeightedChoice α) :=
  if h : 0 < totalWeight entries then .ok ⟨entries, h⟩
  else .error (if entries.isEmpty then .noEntries else .allZero)

/-- The sum of all weights. -/
def total (s : WeightedChoice α) : Nat := totalWeight s.entries

/-- The entry into whose stretch the number falls, the stretches lying side by side in the
order of the entries. -/
def stretch : List (α × Nat) → Nat → Option α
  | [], _ => none
  | (a, w) :: rest, x => if x < w then some a else stretch rest (x - w)

/-- The largest lower half of a product that is accepted. -/
def zone (total : Nat) : Nat := Nat.pow 2 32 - 1 - (Nat.pow 2 32 - total) % total

/-- The value that the word stands for, if the word is accepted. -/
def pick (s : WeightedChoice α) (v : Nat) : Option α :=
  if v * s.total % Nat.pow 2 32 ≤ zone s.total then
    stretch s.entries (v * s.total / Nat.pow 2 32)
  else none

/-- Draw a value. -/
def draw [RandomSource ρ] (s : WeightedChoice α) (patience : Nat) : Gen ρ α :=
  Gen.drawUntil Gen.word s.pick patience

end WeightedChoice
end LoadMonitor
