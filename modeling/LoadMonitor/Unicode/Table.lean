import LoadMonitor.Text.Split

/-!
# Tables of characters

A property of characters as a list of spans of code points. Tables are written as texts: the
spans in ascending order with blanks between them, each as `first`, as `first-last`, or as
`first~last` if it holds every other code point only, and where a table says more than that
after it as `=value`. All numbers are hexadecimal.
-/

namespace LoadMonitor.Unicode

/-- Code points at equal distances, with what a table says about them. -/
structure CodeSpan where
  first : Nat
  last : Nat
  step : Nat
  values : List Nat

/-- The spans of a table in ascending order. -/
structure CodeTable where
  spans : Array CodeSpan

/-- The value of a hexadecimal digit in small letters. -/
def hexDigitValue (c : Char) : Nat := if c.isDigit then c.toNat - 48 else c.toNat - 87

/-- The value of a hexadecimal numeral. -/
def hexValue (digits : List Char) : Nat := digits.foldl (fun n c => 16 * n + hexDigitValue c) 0

namespace CodeSpan

/-- Read a span without its values. -/
def ofBounds (bounds : List Char) (values : List Nat) : CodeSpan :=
  match cutAtChar '-' bounds with
  | (first, some last) => ⟨hexValue first, hexValue last, 1, values⟩
  | (_, none) =>
    match cutAtChar '~' bounds with
    | (first, some last) => ⟨hexValue first, hexValue last, 2, values⟩
    | (point, none) => ⟨hexValue point, hexValue point, 1, values⟩

/-- Read a span. Several values have dots between them. -/
def ofText (text : List Char) : CodeSpan :=
  match cutAtChar '=' text with
  | (bounds, some values) => ofBounds bounds ((splitAtChars (· == '.') values).map hexValue)
  | (bounds, none) => ofBounds bounds []

/-- Whether a code point belongs to a span. -/
def contains (s : CodeSpan) (n : Nat) : Bool :=
  s.first ≤ n && n ≤ s.last && (n - s.first) % s.step == 0

end CodeSpan

namespace CodeTable

/-- Read a table from its lines. -/
def ofRows (rows : List String) : CodeTable :=
  let spans := rows.flatMap fun row =>
    ((splitAtChars (· == ' ') row.toList).filter (!·.isEmpty)).map CodeSpan.ofText
  ⟨spans.toArray⟩

/-- The span around a code point among those from `low` up to `high`. -/
def search (spans : Array CodeSpan) (n low high : Nat) : Option CodeSpan :=
  if low < high then
    let middle := (low + high) / 2
    match spans[middle]? with
    | none => none
    | some s =>
      if n < s.first then search spans n low middle
      else if s.last < n then search spans n (middle + 1) high
      else some s
  else none
termination_by high - low

/-- The span that a code point belongs to. -/
def find? (t : CodeTable) (n : Nat) : Option CodeSpan :=
  (search t.spans n 0 t.spans.size).filter (·.contains n)

def contains (t : CodeTable) (c : Char) : Bool := (t.find? c.toNat).isSome

/-- The values of a character. -/
def values? (t : CodeTable) (c : Char) : Option (List Nat) := (t.find? c.toNat).map (·.values)

/-- The first value of a character, zero if the table has none for it. -/
def value (t : CodeTable) (c : Char) : Nat :=
  match t.values? c with
  | some (value :: _) => value
  | _ => 0

/-- The code points that a character stands for: one at the same distance from the value as the
character from the first of its span, or all of several values. -/
def replacement? (t : CodeTable) (c : Char) : Option (List Nat) :=
  (t.find? c.toNat).map fun s =>
    match s.values with
    | [value] => [value + (c.toNat - s.first)]
    | values => values

end CodeTable
end LoadMonitor.Unicode
