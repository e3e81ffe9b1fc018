import LoadMonitor.Binary64.Decimal
import LoadMonitor.Json.Scanner

/-!
# Numerals

The numerals of JSON, and the numbers that they stand for. A numeral with a fraction or an
exponent is evaluated in doubles: its leading digits as far as they fit into 64 bits, scaled
by a power of ten.
-/

namespace LoadMonitor.Json

/-- A numeral. -/
structure Numeral where
  negative : Bool
  /-- The digits before the point. -/
  whole : List Nat
  /-- The digits after the point, if there is one. -/
  places : Option (List Nat)
  /-- The exponent, if there is one. -/
  exponent : Option Int
  deriving DecidableEq, Repr

/-! ## Reading -/

/-- The value of a digit. -/
def digitValue (b : UInt8) : Nat := b.toNat - 0x30

/-- The value of digits. -/
def digitsValue (ds : List Nat) : Nat := ds.foldl (fun n d => 10 * n + d) 0

/-- Read digits as far as they go. -/
def readDigits (bs : Bytes) : List Nat × Bytes :=
  ((bs.takeWhile isDigit).map digitValue, bs.dropWhile isDigit)

/-- Read digits, of which there has to be one. If the text ends before it, that counts as
`atEnd`. -/
def readSomeDigits (atEnd : DecodeError) (bs : Bytes) : Reading (List Nat × Bytes) :=
  match bs with
  | [] => .error atEnd
  | b :: _ => if isDigit b then .ok (readDigits bs) else .error .malformed

/-- Read the digits before the point. A zero stands alone. -/
def readWhole (atEnd : DecodeError) (bs : Bytes) : Reading (List Nat × Bytes) := do
  let (ds, rest) ← readSomeDigits atEnd bs
  match ds with
  | 0 :: _ :: _ => throw .malformed
  | _ => return (ds, rest)

/-- Read a point with digits, if there is one. -/
def readPlaces (atEnd : DecodeError) (bs : Bytes) : Reading (Option (List Nat) × Bytes) :=
  match bs with
  | b :: rest =>
    if b = byte '.' then do
      let (ds, rest) ← readSomeDigits atEnd rest
      return (some ds, rest)
    else .ok (none, bs)
  | [] => .ok (none, [])

/-- Read the sign of an exponent: true for minus. -/
def readSign (bs : Bytes) : Bool × Bytes :=
  match bs with
  | b :: rest =>
    if b = byte '-' then (true, rest)
    else if b = byte '+' then (false, rest)
    else (false, bs)
  | [] => (false, [])

/-- Read an exponent, if there is one. -/
def readExponent (atEnd : DecodeError) (bs : Bytes) : Reading (Option Int × Bytes) :=
  match bs with
  | b :: rest =>
    if b = byte 'e' || b = byte 'E' then do
      let (negative, rest) := readSign rest
      let (ds, rest) ← readSomeDigits atEnd rest
      return (some (if negative then -(digitsValue ds : Int) else digitsValue ds), rest)
    else .ok (none, bs)
  | [] => .ok (none, [])

/-- Read a numeral after its sign. -/
def readUnsigned (atEnd : DecodeError) (negative : Bool) (bs : Bytes) :
    Reading (Numeral × Bytes) := do
  let (whole, bs) ← readWhole atEnd bs
  let (places, bs) ← readPlaces atEnd bs
  let (exponent, bs) ← readExponent atEnd bs
  return (⟨negative, whole, places, exponent⟩, bs)

/-- Read a numeral. If the text ends within it, that counts as `atEnd`. -/
def readNumeral (atEnd : DecodeError) (bs : Bytes) : Reading (Numeral × Bytes) :=
  match bs with
  | b :: rest => if b = byte '-' then readUnsigned atEnd true rest else readUnsigned atEnd false bs
  | [] => readUnsigned atEnd false []

/-! ## Value -/

/-- A number: an integer of at most 64 bits, or a double. -/
inductive Number where
  | integer (value : Int)
  | floating (value : Binary64)
  deriving DecidableEq, Repr

/-- The nearest double. -/
def Number.toBinary64 : Number → Binary64
  | integer i => .ofInt i
  | floating x => x

/-- How a number is named where it was not expected. -/
def Number.found : Number → Found
  | integer i => .integer i
  | floating x => .floating x

/-- Append digits to a number as long as it stays below `2 ^ 64`: the number, and the digits
that did not fit. -/
def takeDigits : Nat → List Nat → Nat × List Nat
  | n, [] => (n, [])
  | n, d :: ds => if 10 * n + d < Nat.pow 2 64 then takeDigits (10 * n + d) ds else (n, d :: ds)

/-- A power of ten. -/
def powerOfTen (n : Nat) : Binary64 := .ofDecimal false 1 n

/-- Scale by a negative power of ten: in steps that doubles can hold, until nothing is left. -/
def scaleDown : Nat → Binary64 → Nat → Binary64
  | 0, x, _ => x
  | steps + 1, x, places =>
    if places ≤ 308 then x / powerOfTen places
    else if x = 0 then x
    else scaleDown steps (x / powerOfTen 308) (places - 308)

/-- Scale by a power of ten, unless the result is beyond all doubles. -/
def scale (x : Binary64) (exponent : Int) : Option Binary64 :=
  if exponent < 0 then
    let places := exponent.natAbs
    some (scaleDown (places / 308 + 1) x places)
  else if exponent ≤ 308 then
    let y := x * powerOfTen exponent.toNat
    if y.isInfinite then none else some y
  else if x = 0 then some x
  else none

/-- A magnitude with its sign. -/
def signed (negative : Bool) (x : Binary64) : Binary64 := if negative then x.neg else x

/-- The number of a numeral, if doubles reach so far. -/
def Numeral.value (n : Numeral) : Option Number :=
  let (significand, dropped) := takeDigits 0 n.whole
  if dropped.isEmpty && n.places.isNone && n.exponent.isNone then
    if !n.negative then some (.integer significand)
    else if significand = 0 ∨ Nat.pow 2 63 < significand then
      some (.floating (signed true (.ofNat significand)))
    else some (.integer (-(significand : Int)))
  else
    let places := n.places.getD []
    let (significand, unused) := takeDigits significand places
    let shift := (dropped.length : Int) - (places.length - unused.length : Nat)
    (scale (.ofNat significand) (shift + n.exponent.getD 0)).map
      fun x => .floating (signed n.negative x)

/-- Read the number of a numeral. -/
def readNumber (bs : Bytes) : Reading (Number × Bytes) := do
  let (n, rest) ← readNumeral .truncated bs
  match n.value with
  | some x => return (x, rest)
  | none => throw .malformed

end LoadMonitor.Json
