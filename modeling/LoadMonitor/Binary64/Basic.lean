/-!
# Double precision numbers

A double is its 64-bit pattern, so every operation of the library on doubles is
integer arithmetic: a finite double is the integer `scaled` times `2 ^ (-1074)`,
the smallest positive step of the format.
-/

namespace LoadMonitor

/-- A double precision number, given by its bit pattern. -/
structure Binary64 where
  bits : UInt64
  deriving DecidableEq, Repr, Inhabited

namespace Binary64

/-! ## Fields -/

/-- Whether the sign bit is set; zeros and NaNs carry a sign bit as well. -/
def negative (x : Binary64) : Bool := x.bits.toNat / Nat.pow 2 63 % 2 == 1

/-- The eleven exponent bits. -/
def exponent (x : Binary64) : Nat := x.bits.toNat / Nat.pow 2 52 % Nat.pow 2 11

/-- The fifty-two fraction bits. -/
def fraction (x : Binary64) : Nat := x.bits.toNat % Nat.pow 2 52

def isNaN (x : Binary64) : Bool := x.exponent == 2047 && x.fraction != 0

def isInfinite (x : Binary64) : Bool := x.exponent == 2047 && x.fraction == 0

def isFinite (x : Binary64) : Bool := x.exponent != 2047

/-! ## Exact value -/

/-- The magnitude of a finite double in units of `2 ^ (-1074)`: a subnormal is its
fraction, a normal number has a leading one and a shift. -/
def magnitude (x : Binary64) : Nat :=
  if x.exponent = 0 then x.fraction else (Nat.pow 2 52 + x.fraction) * Nat.pow 2 (x.exponent - 1)

/-- The exact value of a finite double in units of `2 ^ (-1074)`. -/
def scaled (x : Binary64) : Int :=
  if x.negative then -(x.magnitude : Int) else x.magnitude

/-- The number of smallest steps in one. -/
def unit : Nat := Nat.pow 2 1074

/-! ## Special values -/

/-- The pattern with the given sign, exponent bits and fraction bits. -/
def assemble (negative : Bool) (exponent fraction : Nat) : Binary64 :=
  ⟨UInt64.ofNat ((if negative then Nat.pow 2 63 else 0) + exponent * Nat.pow 2 52 + fraction)⟩

def zero : Binary64 := ⟨0⟩

def infinity (negative : Bool) : Binary64 := assemble negative 2047 0

/-- The quiet NaN. -/
def nan : Binary64 := assemble false 2047 (Nat.pow 2 51)

instance : Zero Binary64 := ⟨zero⟩

/-- The same magnitude with the other sign. -/
def neg (x : Binary64) : Binary64 := assemble (!x.negative) x.exponent x.fraction

/-! ## Order -/

/-- A double as a point of the line on which the infinities lie beyond every finite
value; a NaN is nowhere on it. -/
def position (x : Binary64) : Option Int :=
  if x.isNaN then none
  else if x.isInfinite then
    some (if x.negative then -(Nat.pow 2 2100 : Nat) else (Nat.pow 2 2100 : Nat))
  else some x.scaled

/-- Strictly below; nothing is below or above a NaN and the two zeros are equal. -/
def lt (x y : Binary64) : Bool :=
  match x.position, y.position with
  | some a, some b => a < b
  | _, _ => false

/-- Below or equal; false as soon as a NaN takes part. -/
def le (x y : Binary64) : Bool :=
  match x.position, y.position with
  | some a, some b => a ≤ b
  | _, _ => false

/-- The smaller of the two, and the other one if one is a NaN. -/
def min (x y : Binary64) : Binary64 :=
  if x.isNaN || y.lt x then y else x

/-- The larger of the two, and the other one if one is a NaN. -/
def max (x y : Binary64) : Binary64 :=
  if x.isNaN || x.lt y then y else x

/-! ## Integer parts -/

/-- The value cut toward zero and held between zero and the largest 64-bit integer;
a NaN gives zero. -/
def truncate (x : Binary64) : Nat :=
  if x.isNaN || x.negative then 0
  else if x.isInfinite then Nat.pow 2 64 - 1
  else Nat.min (x.magnitude / unit) (Nat.pow 2 64 - 1)

/-- The magnitude rounded to the nearest integer, a half going away from zero. -/
def roundedMagnitude (x : Binary64) : Nat := (2 * x.magnitude + unit) / (2 * unit)

end Binary64
end LoadMonitor
