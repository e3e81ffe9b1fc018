import LoadMonitor.Text.Split
import LoadMonitor.Url.Encoding

/-!
# Numeric hosts

IPv4 addresses with their many spellings, and IPv6 addresses with their compressed form.
-/

namespace LoadMonitor.Url

/-- The value of digits in the given base. -/
def numeralValue (base : Nat) (cs : List Char) : Option Nat :=
  cs.foldl (fun n c => do
    let n ← n
    let d ← hexValue? c
    if d < base then some (base * n + d) else none) (some 0)

/-! ## IPv4 -/

namespace Ipv4

/-- A part of an address: decimal, octal after a leading zero, hexadecimal after `0x`. -/
def readPart (cs : List Char) : Option Nat :=
  match cs with
  | [] => none
  | ['0'] => some 0
  | '0' :: c :: rest =>
    if c = 'x' ∨ c = 'X' then numeralValue 16 rest else numeralValue 8 (c :: rest)
  | _ => numeralValue 10 cs

/-- The parts of an address; a dot at the end makes no part of its own. -/
def splitParts (cs : List Char) : List (List Char) :=
  let parts := splitAtChars (· == '.') cs
  if 1 < parts.length && parts.getLast? == some [] then parts.dropLast else parts

/-- Whether a host is meant as an address: its last part is a number. -/
def looksNumeric (cs : List Char) : Bool :=
  match (splitParts cs).getLast? with
  | none => false
  | some part => (!part.isEmpty && part.all Char.isDigit) || (readPart part).isSome

/-- The address of parts: all but the last are bytes from the top, and the last one fills
the bytes that are left. -/
def ofParts (parts : List Nat) : Option Nat :=
  match parts.reverse with
  | [] => none
  | last :: front =>
    let bytes := front.reverse
    if bytes.length < 4 ∧ bytes.all (· < 256) ∧ last < Nat.pow 256 (4 - bytes.length) then
      some (bytes.foldl (fun n b => 256 * n + b) 0 * Nat.pow 256 (4 - bytes.length) + last)
    else none

/-- Read an address. -/
def read (cs : List Char) : Option Nat := (splitParts cs).mapM readPart >>= ofParts

/-- The text of an address: four decimal bytes. -/
def text (address : Nat) : List Char :=
  ['.'].intercalate
    ([address / 16777216 % 256, address / 65536 % 256, address / 256 % 256, address % 256].map
      (Nat.toDigits 10))

end Ipv4

/-! ## IPv6 -/

namespace Ipv6

/-- A group of one to four hexadecimal digits. -/
def readGroup (cs : List Char) : Option Nat :=
  if cs.isEmpty || 4 < cs.length then none else numeralValue 16 cs

/-- A decimal byte without a superfluous zero. -/
def readByte (cs : List Char) : Option Nat :=
  match cs with
  | [] => none
  | '0' :: _ :: _ => none
  | _ => (numeralValue 10 cs).filter (· < 256)

/-- An IPv4 address in place of the last two groups. -/
def readTail (cs : List Char) : Option (List Nat) :=
  match (splitAtChars (· == '.') cs).mapM readByte with
  | some [a, b, c, d] => some [256 * a + b, 256 * c + d]
  | _ => none

/-- The last group, or an IPv4 address if one may stand there. -/
def readLast (mayBeIpv4 : Bool) (cs : List Char) : Option (List Nat) :=
  if mayBeIpv4 && cs.contains '.' then readTail cs else (readGroup cs).map ([·])

/-- Groups with colons between them. -/
def readGroups (mayEndIpv4 : Bool) (cs : List Char) : Option (List Nat) :=
  if cs.isEmpty then some []
  else
    let parts := splitAtChars (· == ':') cs
    do
      let front ← parts.dropLast.mapM readGroup
      let last ← readLast mayEndIpv4 (parts.getLast?.getD [])
      return front ++ last

/-- The part before the first two colons in a row, and the part after them if there are any. -/
def cutAtGap : List Char → List Char × Option (List Char)
  | [] => ([], none)
  | ':' :: ':' :: rest => ([], some rest)
  | c :: rest =>
    let (before, after) := cutAtGap rest
    (c :: before, after)

/-- Read an address: eight groups, or fewer with a gap that stands for one zero or more. -/
def read (cs : List Char) : Option (List Nat) :=
  match cutAtGap cs with
  | (all, none) => (readGroups true all).filter (·.length == 8)
  | (before, some after) => do
    let front ← readGroups false before
    let back ← readGroups true after
    if front.length + back.length < 8 then
      some (front ++ List.replicate (8 - front.length - back.length) 0 ++ back)
    else none

/-- The number of zeros at the beginning of a list. -/
def leadingZeros (groups : List Nat) : Nat := (groups.takeWhile (· == 0)).length

/-- The start and length of the first of the longest runs of zeros. -/
def longestGap : Nat → List Nat → Nat × Nat
  | _, [] => (0, 0)
  | i, g :: rest =>
    let here := leadingZeros (g :: rest)
    let later := longestGap (i + 1) rest
    if later.2 ≤ here then (i, here) else later

/-- Groups in hexadecimal with colons between them. -/
def groupsText (groups : List Nat) : List Char :=
  [':'].intercalate (groups.map (Nat.toDigits 16))

/-- The text of an address. The longest run of at least two zeros becomes a gap. -/
def text (groups : List Nat) : List Char :=
  let (start, length) := longestGap 0 groups
  if length < 2 then groupsText groups
  else groupsText (groups.take start) ++ ':' :: ':' :: groupsText (groups.drop (start + length))

end Ipv6
end LoadMonitor.Url
