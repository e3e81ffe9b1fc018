import LoadMonitor.Binary64.Rounding

/-!
# Decimal text of doubles

Reading takes a decimal numeral to the nearest double. Printing with a fixed number of
places rounds the exact binary value once, a tie going to the even digit.
-/

namespace LoadMonitor.Binary64

/-! ## Reading -/

/-- The double nearest to `digits * 10 ^ exponent`. Exponents far outside the range of the
format are settled by the number of digits alone. -/
def ofDecimal (negative : Bool) (digits : Nat) (exponent : Int) : Binary64 :=
  let order := (Nat.toDigits 10 digits).length + exponent
  if digits = 0 ∨ order < -330 then assemble negative 0 0
  else if order > 310 then infinity negative
  else if exponent < 0 then ofQuotient negative digits (Nat.pow 10 (-exponent).toNat)
  else ofQuotient negative (digits * Nat.pow 10 exponent.toNat) 1

/-- The value of a list of decimal digits, most significant first. -/
def digitsValue (cs : List Char) : Nat :=
  cs.foldl (fun n c => 10 * n + (c.toNat - '0'.toNat)) 0

/-- An optional sign; true for minus. -/
def splitSign : List Char → Bool × List Char
  | '-' :: cs => (true, cs)
  | '+' :: cs => (false, cs)
  | cs => (false, cs)

/-- An exponent part: nothing at all, or the letter e with an optional sign and digits. -/
def readExponent : List Char → Option Int
  | [] => some 0
  | c :: cs =>
    if c = 'e' ∨ c = 'E' then
      let (negative, ds) := splitSign cs
      if ds.isEmpty || !ds.all Char.isDigit then none
      else some (if negative then -(digitsValue ds : Int) else digitsValue ds)
    else none

/-- An unsigned numeral with an optional fraction and exponent; at least one digit has to
stand before the exponent. -/
def readMagnitude (negative : Bool) (cs : List Char) : Option Binary64 :=
  let whole := cs.takeWhile Char.isDigit
  let rest := cs.dropWhile Char.isDigit
  let (places, tail) := match rest with
    | '.' :: more => (more.takeWhile Char.isDigit, more.dropWhile Char.isDigit)
    | other => ([], other)
  if whole.isEmpty && places.isEmpty then none
  else (readExponent tail).map fun e =>
    ofDecimal negative (digitsValue (whole ++ places)) (e - places.length)

/-- Read a decimal numeral, an infinity or a NaN; the words are accepted in any case. -/
def ofText? (text : String) : Option Binary64 :=
  let (negative, cs) := splitSign text.toList
  match String.ofList (cs.map Char.toLower) with
  | "nan" => some nan
  | "inf" | "infinity" => some (infinity negative)
  | _ => readMagnitude negative cs

/-! ## Printing -/

/-- A natural number written with at least `width` digits, zeros leading. -/
def paddedDigits (width n : Nat) : List Char :=
  let ds := Nat.toDigits 10 n
  List.replicate (width - ds.length) '0' ++ ds

/-- A finite magnitude with a fixed number of places after the point. -/
def fixedMagnitude (places : Nat) (x : Binary64) : List Char :=
  let n := nearestEven (x.magnitude * Nat.pow 10 places) unit
  let whole := Nat.toDigits 10 (n / Nat.pow 10 places)
  if places = 0 then whole else whole ++ '.' :: paddedDigits places (n % Nat.pow 10 places)

/-- A double with a fixed number of places; zeros and infinities keep their sign. -/
def fixed (places : Nat) (x : Binary64) : String :=
  if x.isNaN then "NaN"
  else
    let body := if x.isInfinite then "inf".toList else fixedMagnitude places x
    String.ofList (if x.negative then '-' :: body else body)

/-- The sixteen hexadecimal digits of the bit pattern. -/
def hex (x : Binary64) : String :=
  let ds := Nat.toDigits 16 x.bits.toNat
  String.ofList (List.replicate (16 - ds.length) '0' ++ ds)

end LoadMonitor.Binary64
