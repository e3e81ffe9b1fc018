import LoadMonitor.Binary64.Basic

/-!
# Scanning JSON

The smallest parts of a JSON text, read from a list of bytes: blanks, words and strings. What
is read is always the beginning of the list, and the first thing that is wrong decides how
reading fails.
-/

namespace LoadMonitor.Json

abbrev Bytes := List UInt8

/-! ## Failures -/

/-- What was found where something else was expected. -/
inductive Found where
  | null
  | boolean (value : Bool)
  | integer (value : Int)
  | floating (value : Binary64)
  | string (value : String)
  | sequence
  | map
  deriving DecidableEq, Repr

/-- How a well-formed value can differ from what was expected. -/
inductive Mismatch where
  | wrongType (found : Found) (expected : String)
  | missingField (field : String)
  | duplicateField (field : String)
  /-- A sequence with too few elements. -/
  | tooShort (length : Nat) (expected : String)
  deriving DecidableEq, Repr

/-- Why reading fails. -/
inductive DecodeError where
  /-- The text ends too early. -/
  | truncated
  /-- The text is not JSON. -/
  | malformed
  /-- The text may well be JSON, but not of the expected form. -/
  | mismatch (reason : Mismatch)
  deriving DecidableEq, Repr

/-- The result of reading, or why it failed. What reads a value yields the bytes behind it as
well. -/
abbrev Reading := Except DecodeError

/-! ## Bytes -/

/-- The byte of an ASCII character. -/
def byte (c : Char) : UInt8 := UInt8.ofNat c.toNat

def isBlank (b : UInt8) : Bool := b == 0x20 || b == 0x0a || b == 0x0d || b == 0x09

def isDigit (b : UInt8) : Bool := 0x30 ≤ b && b ≤ 0x39

/-- The bytes from the first that is not blank. -/
def skipBlanks (bs : Bytes) : Bytes := bs.dropWhile isBlank

/-- Read the given bytes. -/
def expectBytes : Bytes → Bytes → Reading Bytes
  | [], bs => .ok bs
  | _ :: _, [] => .error .truncated
  | w :: ws, b :: bs => if b = w then expectBytes ws bs else .error .malformed

/-- What is left of the word `null` after its first letter. -/
def nullRest : Bytes := "ull".toUTF8.toList

/-- What is left of the word `true` after its first letter. -/
def trueRest : Bytes := "rue".toUTF8.toList

/-- What is left of the word `false` after its first letter. -/
def falseRest : Bytes := "alse".toUTF8.toList

/-! ## Escapes -/

/-- The byte that a letter after a backslash stands for. -/
def shortEscape? (b : UInt8) : Option UInt8 :=
  if b == byte '"' || b == byte '\\' || b == byte '/' then some b
  else if b == byte 'b' then some 0x08
  else if b == byte 'f' then some 0x0c
  else if b == byte 'n' then some 0x0a
  else if b == byte 'r' then some 0x0d
  else if b == byte 't' then some 0x09
  else none

def hexValue? (b : UInt8) : Option Nat :=
  if isDigit b then some (b.toNat - 0x30)
  else if 0x61 ≤ b && b ≤ 0x66 then some (b.toNat - 0x61 + 10)
  else if 0x41 ≤ b && b ≤ 0x46 then some (b.toNat - 0x41 + 10)
  else none

/-- The unit that four hexadecimal digits stand for. -/
def unit? (a b c d : UInt8) : Option Nat := do
  let a ← hexValue? a
  let b ← hexValue? b
  let c ← hexValue? c
  let d ← hexValue? d
  return ((a * 16 + b) * 16 + c) * 16 + d

/-- Read four hexadecimal digits. Fewer than four bytes are too few, whatever they are. -/
def readUnit : Bytes → Reading (Nat × Bytes)
  | a :: b :: c :: d :: rest =>
    match unit? a b c d with
    | some n => .ok (n, rest)
    | none => .error .malformed
  | _ => .error .truncated

/-- The first half of a character beyond the sixteen-bit range. -/
def isLeadingUnit (n : Nat) : Bool := 0xd800 ≤ n && n ≤ 0xdbff

/-- The second half of a character beyond the sixteen-bit range. -/
def isTrailingUnit (n : Nat) : Bool := 0xdc00 ≤ n && n ≤ 0xdfff

/-- The character that two halves make. -/
def pairValue (lead trail : Nat) : Nat := (lead - 0xd800) * 1024 + (trail - 0xdc00) + 0x10000

/-- The UTF-8 bytes of a code point. -/
def codePointBytes (n : Nat) : Bytes := (String.singleton (Char.ofNat n)).toUTF8.toList

/-- Read the second half of a character after its first half. -/
def readTrailing (lead : Nat) (bs : Bytes) : Reading (Bytes × Bytes) := do
  let bs ← expectBytes [byte '\\'] bs
  let bs ← expectBytes [byte 'u'] bs
  let (trail, bs) ← readUnit bs
  if isTrailingUnit trail then return (codePointBytes (pairValue lead trail), bs)
  else throw .malformed

/-- Read what follows a backslash: the bytes that it stands for. -/
def readEscape : Bytes → Reading (Bytes × Bytes)
  | [] => .error .truncated
  | b :: rest =>
    match shortEscape? b with
    | some c => .ok ([c], rest)
    | none =>
      if b = byte 'u' then do
        let (n, rest) ← readUnit rest
        if isTrailingUnit n then throw .malformed
        else if isLeadingUnit n then readTrailing n rest
        else return (codePointBytes n, rest)
      else .error .malformed

/-- Pass over what follows a backslash. Halves of characters need not be in pairs. -/
def skipEscape : Bytes → Reading Bytes
  | [] => .error .truncated
  | b :: rest =>
    if (shortEscape? b).isSome then .ok rest
    else if b = byte 'u' then (readUnit rest).map Prod.snd
    else .error .malformed

/-! ## Strings -/

/-- Read a string after its opening quote, up to the closing one: the bytes that it stands
for. The number bounds the pieces that are read. -/
def readPieces : Nat → Bytes → Reading (Bytes × Bytes)
  | _, [] => .error .truncated
  | 0, _ :: _ => .error .truncated
  | pieces + 1, b :: rest =>
    if b = byte '"' then .ok ([], rest)
    else if b = byte '\\' then do
      let (cs, rest) ← readEscape rest
      let (more, rest) ← readPieces pieces rest
      return (cs ++ more, rest)
    else if b < 0x20 then .error .malformed
    else do
      let (more, rest) ← readPieces pieces rest
      return (b :: more, rest)

/-- Read a string after its opening quote. Its bytes have to be UTF-8. -/
def readString (bs : Bytes) : Reading (String × Bytes) := do
  let (cs, rest) ← readPieces bs.length bs
  match String.fromUTF8? ⟨cs.toArray⟩ with
  | some s => return (s, rest)
  | none => throw .malformed

/-- Pass over a string after its opening quote, whatever its bytes stand for. -/
def skipPieces : Nat → Bytes → Reading Bytes
  | _, [] => .error .truncated
  | 0, _ :: _ => .error .truncated
  | pieces + 1, b :: rest =>
    if b = byte '"' then .ok rest
    else if b = byte '\\' then do skipPieces pieces (← skipEscape rest)
    else if b < 0x20 then .error .malformed
    else skipPieces pieces rest

/-- Pass over a string after its opening quote. -/
def skipString (bs : Bytes) : Reading Bytes := skipPieces bs.length bs

end LoadMonitor.Json
