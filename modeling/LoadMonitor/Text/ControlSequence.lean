/-!
# Control sequences

Texts for a terminal hold sequences that are not shown but change how it shows the rest. Where
there is no terminal they are dropped, and with them all controls that are not blanks. A
sequence that is not complete takes what follows it along.
-/

namespace LoadMonitor.ControlSequence

/-- What has been read of a sequence. -/
inductive Reading where
  /-- No sequence: what comes is shown. -/
  | text
  /-- The escape character, perhaps with signs after it. -/
  | escape
  | escapeSigns
  /-- A bracket, and after it parameters, signs, or what is not well-formed. -/
  | bracket
  | parameters
  | signs
  | malformed
  /-- A string of the device, up to its first letter, and all of it after that. -/
  | deviceHead
  | deviceParameters
  | deviceSigns
  | deviceMalformed
  | deviceText
  /-- A string for the system. -/
  | systemText
  /-- Any other string. -/
  | otherText
  deriving DecidableEq, Repr

namespace Reading

/-- Whether a string ends at the byte that ends strings where characters are single bytes. -/
def endsAtByte : Reading → Bool
  | deviceMalformed | deviceText | otherText => true
  | _ => false

/-- Whether controls within what is being read are carried out on the way. -/
def allowsControls : Reading → Bool
  | text | escape | escapeSigns | bracket | parameters | signs | malformed => true
  | _ => false

/-- What has been read after a character that is neither a control nor beyond ASCII. -/
def afterVisible (r : Reading) (c : Char) : Reading :=
  let isSign := c ≤ '/'
  let isParameter := '0' ≤ c && c ≤ ';'
  let isMark := '<' ≤ c && c ≤ '?'
  match r with
  | text => text
  | escape =>
    if isSign then escapeSigns
    else if c == '[' then bracket
    else if c == ']' then systemText
    else if c == 'P' then deviceHead
    else if c == 'X' || c == '^' || c == '_' then otherText
    else text
  | escapeSigns => if isSign then escapeSigns else text
  | bracket =>
    if isSign then signs else if isParameter || isMark then parameters else text
  | parameters =>
    if isSign then signs else if isParameter then parameters else if isMark then malformed else text
  | signs => if isSign then signs else if isParameter || isMark then malformed else text
  | malformed => if isSign || isParameter || isMark then malformed else text
  | deviceHead =>
    if isSign then deviceSigns else if isParameter || isMark then deviceParameters else deviceText
  | deviceParameters =>
    if isSign then deviceSigns
    else if isParameter then deviceParameters
    else if isMark then deviceMalformed
    else deviceText
  | deviceSigns =>
    if isSign then deviceSigns
    else if isParameter || isMark then deviceMalformed
    else deviceText
  | deviceMalformed => deviceMalformed
  | deviceText => deviceText
  | systemText => systemText
  | otherText => otherText

end Reading

/-- Controls that are blanks: they are shown. -/
def isBlankControl (c : Char) : Bool := c == '\t' || c == '\n' || c == '\x0c' || c == '\r'

/-- The last bytes of the UTF-8 form of a character. -/
def trailingBytes (c : Char) : List UInt8 := ((String.singleton c).toUTF8.toList).drop 1

/-- Read a character: what has been read then, and whether the character is shown. -/
def step (r : Reading) (c : Char) : Reading × Bool :=
  if c == '\x1b' then (.escape, false)
  else if c == '\x18' || c == '\x1a' then (.text, false)
  else if c.toNat < 0x20 then
    if r.allowsControls then if isBlankControl c then (.text, true) else (r, false)
    else if r == .systemText && c == '\x07' then (.text, false)
    else (r, false)
  else if c == '\x7f' then (r, false)
  else if c.toNat < 0x7f then (r.afterVisible c, r == .text)
  else if r == .text then (.text, true)
  else if r.endsAtByte && (trailingBytes c).contains 0x9c then (.text, false)
  else (r, false)

/-- The characters that are shown. -/
def shownFrom (r : Reading) : List Char → List Char
  | [] => []
  | c :: cs =>
    let (r, isShown) := step r c
    if isShown then c :: shownFrom r cs else shownFrom r cs

/-- A text without control sequences. -/
def dropped (text : String) : String := String.ofList (shownFrom .text text.toList)

end LoadMonitor.ControlSequence
