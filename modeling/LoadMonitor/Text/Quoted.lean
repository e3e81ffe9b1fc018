import LoadMonitor.Unicode.Visibility

/-!
# Quoted text

A text in quotes on one line: characters that cannot be seen, or only together with the one
before them, are written as escapes.
-/

namespace LoadMonitor.Quoted

/-- Whether a character is shown as it is. -/
def isVisible (c : Char) : Bool :=
  if c.toNat < 0x7f then 0x20 ≤ c.toNat else !Unicode.unseen.contains c

/-- A character between quotes. -/
def escapeChar (c : Char) : List Char :=
  if c = '\x00' then ['\\', '0']
  else if c = '\t' then ['\\', 't']
  else if c = '\r' then ['\\', 'r']
  else if c = '\n' then ['\\', 'n']
  else if c = '"' then ['\\', '"']
  else if c = '\\' then ['\\', '\\']
  else if isVisible c then [c]
  else '\\' :: 'u' :: '\x7b' :: (Nat.toDigits 16 c.toNat ++ ['\x7d'])

/-- A text between quotes. -/
def chars (s : String) : List Char := '"' :: (s.toList.flatMap escapeChar ++ ['"'])

/-- A text in quotes. -/
def text (s : String) : String := String.ofList (chars s)

end LoadMonitor.Quoted
