import LoadMonitor.Json.Tree

/-!
# Reading records

Records are read from a JSON text as it comes, without a tree: from an object whose members
stand in any order, or from a sequence that gives the fields in their order. Members that are
not fields are passed over.
-/

namespace LoadMonitor.Json

/-! ## Single values -/

/-- The failure for a value of another kind than the expected one: the value itself is read
first, unless it is a sequence or an object. -/
def wrongType {α : Type} (expected : String) (bs : Bytes) : Reading α :=
  let failure (found : Found) : Reading α := .error (.mismatch (.wrongType found expected))
  match skipBlanks bs with
  | [] => .error .truncated
  | b :: rest =>
    if b = byte 'n' then do
      let _ ← expectBytes nullRest rest
      failure .null
    else if b = byte 't' then do
      let _ ← expectBytes trueRest rest
      failure (.boolean true)
    else if b = byte 'f' then do
      let _ ← expectBytes falseRest rest
      failure (.boolean false)
    else if b = byte '"' then do
      let (s, _) ← readString rest
      failure (.string s)
    else if b = byte '[' then failure .sequence
    else if b = byte '\x7b' then failure .map
    else if b = byte '-' || isDigit b then do
      let (n, _) ← readNumber (b :: rest)
      failure n.found
    else .error .malformed

/-- Read a string. -/
def readText (expected : String) (bs : Bytes) : Reading (String × Bytes) :=
  match skipBlanks bs with
  | [] => .error .truncated
  | b :: rest => if b = byte '"' then readString rest else wrongType expected bs

/-- Read a number as a double. -/
def readDouble (bs : Bytes) : Reading (Binary64 × Bytes) :=
  match skipBlanks bs with
  | [] => .error .truncated
  | b :: rest =>
    if b = byte '-' || isDigit b then do
      let (n, rest) ← readNumber (b :: rest)
      return (n.toBinary64, rest)
    else wrongType "f64" bs

/-- Read a null. -/
def readNull (bs : Bytes) : Reading Bytes :=
  match skipBlanks bs with
  | [] => .error .truncated
  | b :: rest => if b = byte 'n' then expectBytes nullRest rest else wrongType "unit" bs

/-- Read the name of an alternative: a string, or an object whose only member has that name
and the value null. -/
def readName (bs : Bytes) : Reading (String × Bytes) :=
  match skipBlanks bs with
  | [] => .error .truncated
  | b :: rest =>
    if b = byte '"' then readString rest
    else if b = byte '\x7b' then do
      let (name, rest) ← readText "variant identifier" rest
      let rest ← skipColon rest
      let rest ← readNull rest
      let rest ← expectBytes [byte '\x7d'] (skipBlanks rest)
      return (name, rest)
    else .error .malformed

/-! ## Sequences -/

/-- Go to the next element of a sequence, if there is one. -/
def nextItem (isFirst : Bool) (bs : Bytes) : Reading (Option Bytes) :=
  match skipBlanks bs with
  | [] => .error .truncated
  | b :: rest =>
    if b = byte ']' then .ok none
    else if isFirst then .ok (some (b :: rest))
    else if b = byte ',' then
      match skipBlanks rest with
      | [] => .error .truncated
      | c :: more => if c = byte ']' then .error .malformed else .ok (some (c :: more))
    else .error .malformed

/-- Read the bracket that ends a sequence. -/
def endItems (bs : Bytes) : Reading Bytes := expectBytes [byte ']'] (skipBlanks bs)

/-- Read the elements that are left of a sequence. -/
def readListItems {α : Type} (read : Bytes → Reading (α × Bytes)) :
    Nat → Bool → Bytes → Reading (List α × Bytes)
  | 0, _, _ => .error .truncated
  | steps + 1, isFirst, bs => do
    match ← nextItem isFirst bs with
    | none => return ([], bs)
    | some bs =>
      let (item, bs) ← read bs
      let (items, bs) ← readListItems read steps false bs
      return (item :: items, bs)

/-- Read a sequence. -/
def readList {α : Type} (read : Bytes → Reading (α × Bytes)) (bs : Bytes) :
    Reading (List α × Bytes) :=
  match skipBlanks bs with
  | [] => .error .truncated
  | b :: rest =>
    if b = byte '[' then do
      let (items, rest) ← readListItems read (stepsFor rest) true rest
      return (items, ← endItems rest)
    else wrongType "a sequence" bs

/-! ## Records -/

/-- A field of a record that is read into a draft of type `δ`. -/
structure Field (δ : Type) where
  name : String
  /-- Whether the field has to be there. -/
  required : Bool
  /-- Whether the draft has the field. -/
  isSet : δ → Bool
  /-- Read the value of the field into the draft. -/
  read : δ → Bytes → Reading (δ × Bytes)

/-- How a record of type `α` is read: its name, its fields in their order, the draft without
any field, and the record that a draft makes in which all required fields are set. -/
structure Format (δ α : Type) where
  name : String
  fields : List (Field δ)
  blank : δ
  finish : δ → α

namespace Format

variable {δ α : Type}

/-- The record as it is named where something else was found. -/
def expected (f : Format δ α) : String := "struct " ++ f.name

/-- The record of a draft. The first required field that is not set is missing. -/
def complete (f : Format δ α) (draft : δ) : Reading α :=
  match f.fields.find? fun field => field.required && !field.isSet draft with
  | some field => .error (.mismatch (.missingField field.name))
  | none => .ok (f.finish draft)

/-- Read the value of a member, or pass over it if its key is not a field. -/
def readMember (f : Format δ α) (key : String) (draft : δ) (bs : Bytes) :
    Reading (δ × Bytes) :=
  match f.fields.find? (·.name == key) with
  | some field =>
    if field.isSet draft then .error (.mismatch (.duplicateField key))
    else do field.read draft (← skipColon bs)
  | none => do
    let bs ← skipColon bs
    return (draft, ← skipValue (stepsFor bs) bs)

/-- Read the members that are left of an object. -/
def readMembers (f : Format δ α) : Nat → Bool → δ → Bytes → Reading (δ × Bytes)
  | 0, _, _, _ => .error .truncated
  | steps + 1, isFirst, draft, bs =>
    match skipBlanks bs with
    | [] => .error .truncated
    | b :: rest =>
      if b = byte '\x7d' then .ok (draft, rest)
      else if isFirst || b = byte ',' then do
        let rest ← expectBytes [byte '"'] (if isFirst then b :: rest else skipBlanks rest)
        let (key, rest) ← readString rest
        let (draft, rest) ← f.readMember key draft rest
        f.readMembers steps false draft rest
      else .error .malformed

/-- Read the fields that are left from a sequence; `position` is the number of fields that have
been read. A field that need not be there may be missing at the end. -/
def readPositions (f : Format δ α) : List (Field δ) → Nat → δ → Bytes → Reading (δ × Bytes)
  | [], _, draft, bs => .ok (draft, bs)
  | field :: fields, position, draft, bs => do
    match ← nextItem (position == 0) bs with
    | none =>
      if field.required then
        throw (.mismatch (.tooShort position
          (f.expected ++ " with " ++ toString f.fields.length ++ " elements")))
      else f.readPositions fields (position + 1) draft bs
    | some bs =>
      let (draft, bs) ← field.read draft bs
      f.readPositions fields (position + 1) draft bs

/-- Read a record. -/
def read (f : Format δ α) (bs : Bytes) : Reading (α × Bytes) :=
  match skipBlanks bs with
  | [] => .error .truncated
  | b :: rest =>
    if b = byte '\x7b' then do
      let (draft, rest) ← f.readMembers (stepsFor rest) true f.blank rest
      return (← f.complete draft, rest)
    else if b = byte '[' then do
      let (draft, rest) ← f.readPositions f.fields 0 f.blank rest
      let rest ← endItems rest
      return (f.finish draft, rest)
    else wrongType f.expected bs

/-- Read a record that makes up a whole text. -/
def ofBytes (f : Format δ α) (bs : Bytes) : Reading α := do
  let (record, rest) ← f.read bs
  expectEnd rest
  return record

end Format
end LoadMonitor.Json
