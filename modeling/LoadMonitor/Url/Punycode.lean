import LoadMonitor.Text.Split

/-!
# Punycode

The form of a host label in ASCII: its ASCII characters, a dash, and the other characters as
gaps between code points, each a numeral of variable length in base 36 whose thresholds
adapt to what has been written.
-/

namespace LoadMonitor.Url.Punycode

/-- The digit with the given value: letters first, then the decimal digits. -/
def digit (d : Nat) : Char := if d < 26 then Char.ofNat (97 + d) else Char.ofNat (48 + (d - 26))

/-- The value of a digit in lower case. -/
def digitValue? (c : Char) : Option Nat :=
  if 'a' ≤ c ∧ c ≤ 'z' then some (c.toNat - 97)
  else if '0' ≤ c ∧ c ≤ '9' then some (c.toNat - 48 + 26)
  else none

/-- The threshold of a digit at position `k`, counted in steps of 36. -/
def threshold (k bias : Nat) : Nat := min 26 (max 1 (k - bias))

theorem threshold_pos (k bias : Nat) : 0 < threshold k bias := by
  simp only [threshold]
  omega

/-- Divide until the rest is small, counting 36 for each division. -/
def shrink (delta k : Nat) : Nat × Nat :=
  if 455 < delta then shrink (delta / 35) (k + 36) else (delta, k)
termination_by delta
decreasing_by exact Nat.div_lt_self (by omega) (by omega)

/-- The bias after a gap; the first gap counts less. -/
def adapt (delta count : Nat) (isFirst : Bool) : Nat :=
  let delta := if isFirst then delta / 700 else delta / 2
  let (delta, k) := shrink (delta + delta / count) 0
  k + 36 * delta / (delta + 38)

/-- The numeral of a gap. -/
def numeral (bias k n : Nat) : List Char :=
  let t := threshold k bias
  if n < t then [digit n]
  else digit (t + (n - t) % (36 - t)) :: numeral bias (k + 36) ((n - t) / (36 - t))
termination_by n
decreasing_by
  have := threshold_pos k bias
  exact Nat.lt_of_le_of_lt (Nat.div_le_self _ _) (by omega)

/-- What encoding carries from one code point to the next. -/
structure Progress where
  out : List Char
  delta : Nat
  bias : Nat
  done : Nat

/-- Pass a character while the code point `n` is inserted. -/
def pass (basics n : Nat) (p : Progress) (c : Char) : Progress :=
  if c.toNat < n then { p with delta := p.delta + 1 }
  else if c.toNat = n then
    { out := p.out ++ numeral p.bias 36 p.delta
      delta := 0
      bias := adapt p.delta (p.done + 1) (p.done == basics)
      done := p.done + 1 }
  else p

/-- Insert the code points that are left, in ascending order; `start` is the least one that
has not been considered. -/
def insertAll (input : List Char) (basics : Nat) : List Nat → Nat → Progress → Progress
  | [], _, p => p
  | n :: rest, start, p =>
    let p := { p with delta := p.delta + (n - start) * (p.done + 1) }
    let p := input.foldl (pass basics n) p
    insertAll input basics rest (n + 1) { p with delta := p.delta + 1 }

/-- Add a number to numbers in strictly ascending order. -/
def insertNumber (n : Nat) : List Nat → List Nat
  | [] => [n]
  | m :: rest =>
    if n = m then m :: rest else if n < m then n :: m :: rest else m :: insertNumber n rest

/-- The encoded form of a label. -/
def encode (input : List Char) : List Char :=
  let basic := input.filter (·.toNat < 128)
  let others := (input.filter (128 ≤ ·.toNat)).foldr (fun c ns => insertNumber c.toNat ns) []
  let lead := if basic.isEmpty then [] else basic ++ ['-']
  lead ++ (insertAll input basic.length others 128 ⟨[], 0, 72, basic.length⟩).out

/-- Read the numeral of a gap: its value and the digits after it. -/
def readNumeral (bias : Nat) : Nat → Nat → Nat → List Char → Option (Nat × List Char)
  | _, _, _, [] => none
  | k, weight, sum, c :: rest => do
    let d ← digitValue? c
    let t := threshold k bias
    let sum := sum + d * weight
    if d < t then return (sum, rest)
    else readNumeral bias (k + 36) (weight * (36 - t)) sum rest

/-- Insert the characters of the gaps that are left. Each takes a digit at least, so the
number of digits bounds the number of gaps. -/
def decodeGaps : Nat → List Char → Nat → Nat → Nat → List Char → Option (List Char)
  | _, [], _, _, _, out => some out
  | 0, _ :: _, _, _, _, _ => none
  | gaps + 1, digits, n, i, bias, out => do
    let (gap, rest) ← readNumeral bias 36 1 0 digits
    let isFirst := i == 0
    let count := out.length + 1
    let n := n + (i + gap) / count
    let i := (i + gap) % count
    if n.isValidChar then
      decodeGaps gaps rest n (i + 1) (adapt gap count isFirst)
        (out.take i ++ Char.ofNat n :: out.drop i)
    else none

/-- Decode a label. -/
def decode (cs : List Char) : Option (List Char) :=
  match cutAtLastChar '-' cs with
  | (some basic, digits) => decodeGaps digits.length digits 128 0 72 basic
  | (none, digits) => decodeGaps digits.length digits 128 0 72 []

end LoadMonitor.Url.Punycode
