import LoadMonitor.Binary64.Decimal

/-!
# The shortest text of a double

The fewest digits that are read back as the same double, and of those the nearest to it.
-/

namespace LoadMonitor.Binary64

/-- A decimal: the value is `digits * 10 ^ exponent`. -/
structure Decimal where
  digits : Nat
  exponent : Int
  deriving DecidableEq, Repr

/-- The numbers that are rounded to a positive finite double, in quarters of a smallest step:
the least and the greatest, and whether these two are among them. -/
structure RoundingInterval where
  low : Nat
  high : Nat
  closed : Bool
  deriving DecidableEq, Repr

/-- The interval around a positive finite double. Below a power of two the neighbours are
closer to each other. -/
def roundingInterval (x : Binary64) : RoundingInterval :=
  let step := Nat.pow 2 (x.exponent - 1)
  let below := if x.fraction = 0 ∧ 1 < x.exponent then step else 2 * step
  ⟨4 * x.magnitude - below, 4 * x.magnitude + 2 * step, x.fraction % 2 == 0⟩

/-- The power of ten at or below `n / unit`, for a value below one: search downward. -/
def orderBelowOne : Nat → Nat → Nat
  | 0, _ => 0
  | steps + 1, n => if unit ≤ 10 * n then 1 else 1 + orderBelowOne steps (10 * n)

/-- The exponent of the first digit of a positive finite double. -/
def order (x : Binary64) : Int :=
  if unit ≤ x.magnitude then ((Nat.toDigits 10 (x.magnitude / unit)).length : Int) - 1
  else -(orderBelowOne 400 x.magnitude : Int)

/-- Quarters of a smallest step as a fraction of `10 ^ exponent`: numerator and denominator. -/
def onGrid (quarters : Nat) (exponent : Int) : Nat × Nat :=
  if exponent < 0 then (quarters * Nat.pow 10 exponent.natAbs, 4 * unit)
  else (quarters, 4 * unit * Nat.pow 10 exponent.toNat)

/-- Whether `digits * 10 ^ exponent` lies in the interval. -/
def RoundingInterval.contains (i : RoundingInterval) (digits : Nat) (exponent : Int) : Bool :=
  let (low, d) := onGrid i.low exponent
  let (high, _) := onGrid i.high exponent
  let v := digits * d
  if i.closed then low ≤ v && v ≤ high else low < v && v < high

/-- The decimal with the given exponent that is read back, if there is one: the nearest one to
the double, the even one of two. -/
def candidate? (x : Binary64) (exponent : Int) : Option Decimal :=
  let i := x.roundingInterval
  let (n, d) := onGrid (4 * x.magnitude) exponent
  let nearest := nearestEven n d
  let other := if nearest * d ≤ n then nearest + 1 else nearest - 1
  if i.contains nearest exponent then some ⟨nearest, exponent⟩
  else if i.contains other exponent then some ⟨other, exponent⟩
  else none

/-- Try numbers of digits in ascending order. -/
def shortestFrom (x : Binary64) : Nat → Int → Decimal
  | 0, exponent =>
    let (numerator, denominator) := onGrid (4 * x.magnitude) exponent
    ⟨numerator / denominator, exponent⟩
  | more + 1, exponent =>
    match candidate? x exponent with
    | some decimal => decimal
    | none => shortestFrom x more (exponent - 1)

/-- Drop zeros at the end of the digits. -/
def Decimal.trim : Nat → Decimal → Decimal
  | 0, d => d
  | steps + 1, d =>
    if d.digits % 10 = 0 ∧ d.digits ≠ 0 then Decimal.trim steps ⟨d.digits / 10, d.exponent + 1⟩
    else d

/-- The shortest decimal of a positive finite double. -/
def shortest (x : Binary64) : Decimal := (shortestFrom x 17 x.order).trim 20

/-- A decimal with the point where it belongs, or with an exponent from `10 ^ 16` upward and
below `10 ^ (-5)`. -/
def Decimal.text (d : Decimal) : List Char :=
  let ds := Nat.toDigits 10 d.digits
  let length : Int := ds.length
  let point := length + d.exponent
  if 0 ≤ d.exponent ∧ point ≤ 16 then
    ds ++ List.replicate d.exponent.toNat '0' ++ ['.', '0']
  else if 0 < point ∧ point ≤ 16 then
    ds.take point.toNat ++ '.' :: ds.drop point.toNat
  else if -5 < point ∧ point ≤ 0 then
    '0' :: '.' :: List.replicate (-point).toNat '0' ++ ds
  else
    let mantissa := match ds with
      | [c] => [c]
      | c :: rest => c :: '.' :: rest
      | [] => []
    mantissa ++ 'e' :: (toString (point - 1)).toList

/-- The shortest text of a double. -/
def shortestText (x : Binary64) : String :=
  if x.isNaN then "NaN"
  else
    let body :=
      if x.isInfinite then "inf".toList
      else if x.magnitude = 0 then "0.0".toList
      else x.shortest.text
    String.ofList (if x.negative then '-' :: body else body)

end LoadMonitor.Binary64
