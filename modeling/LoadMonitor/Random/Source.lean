/-!
# Random sources

A random source hands out 32-bit words one after the other. A draw takes words from
the source until one is accepted; since a source may refuse to offer an acceptable word
for ever, every draw is given a bound on the words it may look at, and `none` means that
it was still looking when the bound was reached.
-/

namespace LoadMonitor

/-- A source of 32-bit words with the given state. -/
class RandomSource (ρ : Type) where
  /-- The next word and the state after it. -/
  next : ρ → UInt32 × ρ

/-- A computation that takes words from a source and may run out of patience. -/
abbrev Gen (ρ α : Type) := StateT ρ Option α

namespace Gen

variable {ρ α : Type} [RandomSource ρ]

/-- One word, as a natural number below `2 ^ 32`. -/
def word : Gen ρ Nat := fun s =>
  let (w, s') := RandomSource.next s
  some (w.toNat, s')

/-- Two words as a natural number below `2 ^ 64`, the low half first. -/
def doubleWord : Gen ρ Nat := do
  let low ← word
  let high ← word
  return low + Nat.pow 2 32 * high

/-- Draw until a value is accepted, looking at no more than `patience` values. -/
def drawUntil (draw : Gen ρ Nat) (accept : Nat → Option α) : Nat → Gen ρ α
  | 0 => fun _ => none
  | patience + 1 => do
    match accept (← draw) with
    | some a => return a
    | none => drawUntil draw accept patience

/-- Repeat a computation and collect what it yields. -/
def repeated (n : Nat) (g : Gen ρ α) : Gen ρ (List α) :=
  match n with
  | 0 => return []
  | n + 1 => do
    let a ← g
    let rest ← repeated n g
    return a :: rest

end Gen
end LoadMonitor
