import LoadMonitor.Json.Skip

/-!
# JSON trees

A whole JSON text as a tree. Every string has to be readable and every numeral has to be
within the reach of doubles; the members of an object are kept in their order, with all of
their repetitions.
-/

namespace LoadMonitor.Json

/-- A parsed value. -/
inductive Tree where
  | null
  | bool (value : Bool)
  | number (numeral : Numeral)
  | string (value : String)
  | array (items : List Tree)
  | object (members : List (String × Tree))
  deriving Repr

/-- Read a numeral whose number doubles can reach. -/
def readTreeNumeral (bs : Bytes) : Reading (Tree × Bytes) := do
  let (n, rest) ← readNumeral .truncated bs
  if n.value.isSome then return (.number n, rest) else throw .malformed

mutual

/-- Read a value. The number bounds the steps. -/
def readTree : Nat → Bytes → Reading (Tree × Bytes)
  | 0, _ => .error .truncated
  | steps + 1, bs =>
    match skipBlanks bs with
    | [] => .error .truncated
    | b :: rest =>
      if b = byte 'n' then do return (.null, ← expectBytes nullRest rest)
      else if b = byte 't' then do return (.bool true, ← expectBytes trueRest rest)
      else if b = byte 'f' then do return (.bool false, ← expectBytes falseRest rest)
      else if b = byte '"' then do
        let (s, rest) ← readString rest
        return (.string s, rest)
      else if b = byte '[' then do
        let (items, rest) ← readItems steps true rest
        return (.array items, rest)
      else if b = byte '\x7b' then do
        let (members, rest) ← readMembers steps true rest
        return (.object members, rest)
      else if b = byte '-' || isDigit b then readTreeNumeral (b :: rest)
      else .error .malformed

/-- Read what is left of a sequence. -/
def readItems : Nat → Bool → Bytes → Reading (List Tree × Bytes)
  | 0, _, _ => .error .truncated
  | steps + 1, isFirst, bs =>
    match skipBlanks bs with
    | [] => .error .truncated
    | b :: rest =>
      if b = byte ']' then .ok ([], rest)
      else if isFirst || b = byte ',' then do
        let (item, rest) ← readTree steps (if isFirst then b :: rest else rest)
        let (items, rest) ← readItems steps false rest
        return (item :: items, rest)
      else .error .malformed

/-- Read what is left of an object. -/
def readMembers : Nat → Bool → Bytes → Reading (List (String × Tree) × Bytes)
  | 0, _, _ => .error .truncated
  | steps + 1, isFirst, bs =>
    match skipBlanks bs with
    | [] => .error .truncated
    | b :: rest =>
      if b = byte '\x7d' then .ok ([], rest)
      else if isFirst || b = byte ',' then do
        let (member, rest) ← readMember steps (if isFirst then b :: rest else rest)
        let (members, rest) ← readMembers steps false rest
        return (member :: members, rest)
      else .error .malformed

/-- Read a member of an object. -/
def readMember : Nat → Bytes → Reading ((String × Tree) × Bytes)
  | 0, _ => .error .truncated
  | steps + 1, bs => do
    let rest ← expectBytes [byte '"'] (skipBlanks bs)
    let (key, rest) ← readString rest
    let rest ← skipColon rest
    let (value, rest) ← readTree steps rest
    return ((key, value), rest)

end

/-- Nothing but blanks may follow the value of a text. -/
def expectEnd (bs : Bytes) : Reading Unit :=
  if (skipBlanks bs).isEmpty then .ok () else .error .malformed

/-- More steps than reading a text can take. -/
def stepsFor (bs : Bytes) : Nat := 2 * bs.length + 2

/-- The tree of a text. -/
def Tree.ofBytes (bs : Bytes) : Reading Tree := do
  let (tree, rest) ← readTree (stepsFor bs) bs
  expectEnd rest
  return tree

end LoadMonitor.Json
