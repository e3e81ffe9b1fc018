import LoadMonitor.Text.Split
import LoadMonitor.Unicode.Direction
import LoadMonitor.Unicode.Joining
import LoadMonitor.Unicode.NameMapping
import LoadMonitor.Unicode.Normal
import LoadMonitor.Url.Punycode

/-!
# Domain names

A domain name in the one form in which it is stored: small letters, and labels with
characters beyond ASCII in their encoded form. A name is refused if one of its characters is
not allowed in names, if a label would not be read again as the same label, or if a label
would be shown in an order that misleads.
-/

namespace LoadMonitor.Url.Domain

/-! ## Characters -/

/-- What a character of a name stands for: nothing if it is dropped, a small letter for a
capital, several characters for some that are composed. No name holds some characters. -/
def mapped? (c : Char) : Option (List Char) :=
  if c.toNat < 128 then some [c.toLower]
  else if Unicode.ignored.contains c then some []
  else if Unicode.disallowed.contains c then none
  else some ((Unicode.mapped.replacement? c).elim [c] (·.map Char.ofNat))

/-- The characters that a name stands for. -/
def mappedAll? : List Char → Option (List Char)
  | [] => some []
  | c :: cs =>
    match mapped? c, mappedAll? cs with
    | some front, some rest => some (front ++ rest)
    | _, _ => none

/-- Characters that no name may hold: controls, blanks, and delimiters of addresses. -/
def isForbidden (c : Char) : Bool :=
  c.toNat ≤ 0x20 || c.toNat == 0x7f || "%#/:<>?@[\\]^|".toList.contains c

/-- Whether all characters are ASCII. -/
def isAscii (cs : List Char) : Bool := cs.all (·.toNat < 128)

/-! ## Joiners -/

/-- The character that keeps two letters apart which would be connected. -/
def nonJoiner : Char := '\u200c'

/-- The character that connects two letters. -/
def joiner : Char := '\u200d'

/-- Whether letters on both sides would be connected; what stands before is listed from the
end. -/
def wouldJoin (before after : List Char) : Bool :=
  let next := fun cs : List Char => (cs.dropWhile Unicode.transparent.contains).head?
  (next before).any (fun c => Unicode.dualJoining.contains c || Unicode.leftJoining.contains c)
    && (next after).any fun c => Unicode.dualJoining.contains c || Unicode.rightJoining.contains c

/-- Whether joiners and non-joiners stand only where they show: after a mark that silences a
vowel, and non-joiners between letters that would be connected. What stands before is listed
from the end. -/
def joinersShow (before : List Char) : List Char → Bool
  | [] => true
  | c :: rest =>
    (!(c == nonJoiner || c == joiner)
        || before.head?.any (Unicode.combiningClass · == 9)
        || (c == nonJoiner && wouldJoin before rest))
      && joinersShow (c :: before) rest

/-! ## Directions -/

/-- Parts of characters that are written from right to left. -/
def isTurned : Unicode.Direction → Bool
  | .right | .arabic | .arabicDigit => true
  | _ => false

/-- Whether a name with this character is written in two directions. -/
def turns (c : Char) : Bool := isTurned (Unicode.Direction.ofChar c)

/-- Parts that may stand anywhere in a label after its beginning. -/
def isNeutral : Unicode.Direction → Bool
  | .europeanDigit | .numberSeparator | .commonSeparator | .numberTerminator | .neutral | .hidden
  | .mark => true
  | _ => false

/-- The parts of the characters of a label, without the marks at its end. -/
def withoutLastMarks (cs : List Char) : List Unicode.Direction :=
  ((cs.map Unicode.Direction.ofChar).reverse.dropWhile (· == .mark)).reverse

/-- Whether a label keeps its order next to labels of the other direction: it begins with a
letter, holds letters of one direction only, and ends with a letter or a digit. A label from
right to left has digits of one kind only. -/
def keepsOrder : List Char → Bool
  | [] => true
  | first :: rest =>
    let parts := withoutLastMarks rest
    let isLetter := fun d => d == Unicode.Direction.right || d == .arabic
    match Unicode.Direction.ofChar first with
    | .left =>
      parts.all (fun d => isNeutral d || d == .left)
        && parts.getLast?.all fun d => d == .left || d == .europeanDigit
    | .right | .arabic =>
      parts.all (fun d => isNeutral d || isLetter d || d == .arabicDigit)
        && (parts.getLast?.all fun d => isLetter d || d == .europeanDigit || d == .arabicDigit)
        && !(parts.contains .europeanDigit && parts.contains .arabicDigit)
    | _ => false

/-! ## Labels -/

/-- Whether a label may be shown: it does not begin with a mark, its joiners show, and it holds
nothing that is forbidden. -/
def mayBeShown (label : List Char) : Bool :=
  !label.head?.any Unicode.marks.contains && joinersShow [] label && !label.any isForbidden

/-- What an encoded label says, if it is the encoded form of a label with characters beyond
ASCII and all of them stand for themselves. -/
def readEncoded? (body : List Char) : Option (List Char) :=
  if 2000 < body.length then none
  else match Punycode.decode body with
    | none => none
    | some label =>
      if !isAscii label && Punycode.encode label == body && Unicode.normal label == label
          && label.all (fun c => mapped? c == some [c]) then some label
      else none

/-- A label as it is stored and as it is shown. -/
structure Label where
  stored : List Char
  shown : List Char
  deriving DecidableEq, Repr

/-- Whether a label begins like an encoded one. -/
def looksEncoded : List Char → Bool
  | 'x' :: 'n' :: '-' :: '-' :: _ => true
  | _ => false

/-- Read a label: as it is, encoded already, or with characters beyond ASCII. What such a label
says may not look encoded. -/
def readLabel? (label : List Char) : Option Label :=
  if isAscii label then
    if looksEncoded label then
      match readEncoded? (label.drop 4) with
      | some shown => if mayBeShown shown && !looksEncoded shown then some ⟨label, shown⟩ else none
      | none => none
    else if mayBeShown label then some ⟨label, label⟩
    else none
  else if mayBeShown label && !looksEncoded label && label.length ≤ 1000 then
    some ⟨'x' :: 'n' :: '-' :: '-' :: Punycode.encode label, label⟩
  else none

/-- Read all labels of a name. -/
def readLabels? : List (List Char) → Option (List Label)
  | [] => some []
  | label :: rest =>
    match readLabel? label, readLabels? rest with
    | some l, some ls => some (l :: ls)
    | _, _ => none

/-! ## Names -/

/-- The stored form of a name, if it may be stored. -/
def ofChars? (cs : List Char) : Option (List Char) :=
  match mappedAll? cs with
  | none => none
  | some name =>
    match readLabels? (splitAtChars (· == '.') (Unicode.normal name)) with
    | none => none
    | some labels =>
      if labels.any (·.shown.any turns) && !labels.all (keepsOrder ·.shown) then none
      else some (['.'].intercalate (labels.map (·.stored)))

end LoadMonitor.Url.Domain
