import LoadMonitor.Binary64.Shortest

/-!
# JSON values

Values that are sent to the service, and their compact text.
-/

namespace LoadMonitor

/-- A JSON value. The members of an object are listed in the order in which they are
written. -/
inductive JsonValue where
  | null
  | bool (value : Bool)
  | integer (value : Int)
  | double (value : Binary64)
  | string (value : String)
  | array (items : List JsonValue)
  | object (members : List (String × JsonValue))
  deriving Repr

/-- The members of an object. -/
abbrev JsonMembers := List (String × JsonValue)

namespace JsonMembers

/-- Set a member. The keys stay in ascending order, and a member whose key is already there
is replaced. -/
def insert (key : String) (value : JsonValue) : JsonMembers → JsonMembers
  | [] => [(key, value)]
  | (k, v) :: rest =>
    if key = k then (key, value) :: rest
    else if key < k then (key, value) :: (k, v) :: rest
    else (k, v) :: insert key value rest

/-- Members set one after the other. -/
def ofList (members : List (String × JsonValue)) : JsonMembers :=
  members.foldl (fun ms m => ms.insert m.1 m.2) []

end JsonMembers

/-! ## Text -/

namespace JsonValue

/-- A hexadecimal digit in lower case. -/
def hexDigit (n : Nat) : Char := Nat.digitChar n

/-- A character inside a string. Only the quote, the backslash and the control characters
are escaped. -/
def escapeChar (c : Char) : List Char :=
  if c = '"' then ['\\', '"']
  else if c = '\\' then ['\\', '\\']
  else if c = '\x08' then ['\\', 'b']
  else if c = '\t' then ['\\', 't']
  else if c = '\n' then ['\\', 'n']
  else if c = '\x0c' then ['\\', 'f']
  else if c = '\r' then ['\\', 'r']
  else if c.toNat < 0x20 then
    ['\\', 'u', '0', '0', hexDigit (c.toNat / 16), hexDigit (c.toNat % 16)]
  else [c]

/-- A double with the fewest digits that tell it from every other one. What is not finite has
no numeral and becomes a null. -/
def numeral (x : Binary64) : List Char :=
  if x.isFinite then x.shortestText.toList else ['n', 'u', 'l', 'l']

/-- A string in quotes. -/
def quote (s : String) : List Char := '"' :: (s.toList.flatMap escapeChar ++ ['"'])

mutual

/-- The text of a value, without any blank. -/
def chars : JsonValue → List Char
  | null => ['n', 'u', 'l', 'l']
  | bool true => ['t', 'r', 'u', 'e']
  | bool false => ['f', 'a', 'l', 's', 'e']
  | integer i => (toString i).toList
  | double x => numeral x
  | string s => quote s
  | array items => '[' :: (itemChars items ++ [']'])
  | object members => '\x7b' :: (memberChars members ++ ['\x7d'])

/-- The texts of values with commas between them. -/
def itemChars : List JsonValue → List Char
  | [] => []
  | [v] => chars v
  | v :: w :: rest => chars v ++ ',' :: itemChars (w :: rest)

/-- The texts of members with commas between them. -/
def memberChars : List (String × JsonValue) → List Char
  | [] => []
  | [(k, v)] => quote k ++ ':' :: chars v
  | (k, v) :: m :: rest => quote k ++ ':' :: (chars v ++ ',' :: memberChars (m :: rest))

end

/-- The compact text of a value. -/
def text (v : JsonValue) : String := String.ofList v.chars

end JsonValue
end LoadMonitor
