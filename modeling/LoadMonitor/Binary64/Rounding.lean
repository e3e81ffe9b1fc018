import LoadMonitor.Binary64.Basic

/-!
# Rounding to the nearest double

Every arithmetic operation takes the exact result, a quotient of naturals with a
sign, and rounds it once: to the nearest double, and of two equally near to the one
with an even significand. Beyond the largest finite double the result is infinite.
-/

namespace LoadMonitor.Binary64

/-- The quotient rounded to the nearest integer, a half going to the even neighbour. -/
def nearestEven (n d : Nat) : Nat :=
  let q := n / d
  let r := n % d
  if 2 * r < d then q else if 2 * r = d then q + q % 2 else q + 1

/-- The number of binary digits of `n`. -/
def bitLength (n : Nat) : Nat := if n = 0 then 0 else Nat.log2 n + 1

/-- The double nearest to `n / d` smallest steps, with the given sign. The step between
neighbours around the value is `2 ^ shift` smallest steps. -/
def ofSteps (negative : Bool) (n d : Nat) : Binary64 :=
  let shift := bitLength (n / d) - 53
  let m := nearestEven n (d * Nat.pow 2 shift)
  if m = 0 then assemble negative 0 0
  else
    let exponent :=
      if m < Nat.pow 2 52 then 0 else if m < Nat.pow 2 53 then shift + 1 else shift + 2
    if 2047 ≤ exponent then infinity negative
    else assemble negative exponent (if m < Nat.pow 2 53 then m % Nat.pow 2 52 else 0)

/-- The double nearest to the quotient `n / d`. -/
def ofQuotient (negative : Bool) (n d : Nat) : Binary64 := ofSteps negative (n * unit) d

/-- The double nearest to a natural number. -/
def ofNat (n : Nat) : Binary64 := ofQuotient false n 1

/-- The double nearest to an integer. -/
def ofInt (i : Int) : Binary64 := ofQuotient (i < 0) i.natAbs 1

instance (n : Nat) : OfNat Binary64 n := ⟨ofNat n⟩

/-! ## Arithmetic -/

/-- The exact sum, rounded. A sum that is exactly zero is positive unless both terms
carry a minus sign. -/
def add (x y : Binary64) : Binary64 :=
  if x.isNaN || y.isNaN then nan
  else if x.isInfinite then (if y.isInfinite && x.negative != y.negative then nan else x)
  else if y.isInfinite then y
  else
    let sum := x.scaled + y.scaled
    let negative := if sum = 0 then x.negative && y.negative else sum < 0
    ofSteps negative sum.natAbs 1

/-- The exact product, rounded. -/
def mul (x y : Binary64) : Binary64 :=
  let negative := x.negative != y.negative
  if x.isNaN || y.isNaN then nan
  else if x.isInfinite || y.isInfinite then
    if (x.isFinite && x.magnitude == 0) || (y.isFinite && y.magnitude == 0) then nan
    else infinity negative
  else ofSteps negative (x.magnitude * y.magnitude) unit

/-- The exact quotient, rounded. -/
def div (x y : Binary64) : Binary64 :=
  let negative := x.negative != y.negative
  if x.isNaN || y.isNaN then nan
  else if x.isInfinite then (if y.isInfinite then nan else infinity negative)
  else if y.isInfinite then assemble negative 0 0
  else if y.magnitude = 0 then (if x.magnitude = 0 then nan else infinity negative)
  else ofSteps negative (x.magnitude * unit) y.magnitude

instance : Add Binary64 := ⟨add⟩
instance : Mul Binary64 := ⟨mul⟩
instance : Div Binary64 := ⟨div⟩

end LoadMonitor.Binary64
