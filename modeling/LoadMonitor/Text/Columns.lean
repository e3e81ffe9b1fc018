import LoadMonitor.Unicode.Emoji
import LoadMonitor.Unicode.Joining
import LoadMonitor.Unicode.Width

/-!
# Columns

How many columns of a terminal a text takes. Most characters take one, ideographs and pictures
take two, and marks take none; but some characters are shown as one with those that follow:
pictures with selectors, skin tones and joiners, flags, and ligatures of several scripts. So a
text is measured from its end, each character in view of what follows it.
-/

namespace LoadMonitor.Columns

/-! ## Single characters -/

/-- The columns of a character by itself. -/
def ofChar (c : Char) : Nat :=
  if c.toNat ≤ 0xa0 then 1
  else if c.toNat == 0x17d8 then 3
  else if Unicode.zeroWidth.contains c then 0
  else if Unicode.wide.contains c then 2
  else 1

/-! ## What follows -/

/-- The script of a ligature that the text ahead may be the end of. -/
inductive Ligature where
  /-- The second letter, to be joined to its first letter by a joiner. -/
  | hebrew (joined : Bool)
  | buginese (joined : Bool)
  | oldTurkic (joined : Bool)
  /-- A consonant, to be joined by a joiner or by a letter that joins consonants. -/
  | tifinagh (joined : Bool)
  /-- The vowel of Buginese before a joined letter. -/
  | bugineseVowel
  /-- The letter that joins consonants of Tifinagh, before a consonant. -/
  | tifinaghJoiner
  | lisu
  | khmer
  /-- A vowel of Kirat Rai that is written as one with the vowel before it. -/
  | kiratRaiE
  | kiratRaiAi
  deriving DecidableEq, Repr

/-- The tags at the end of a flag of a region, read from their end. -/
inductive Tags where
  | closing
  | letters (count : Nat)
  | digits (count : Nat)
  deriving DecidableEq, Repr

/-- The beginning of the text ahead, as far as the character before it may become a part of
it. -/
inductive Ahead where
  | plain
  | lineFeed
  | skinTone
  /-- One half of a flag, or a row of them. -/
  | flagHalf
  | flagHalves
  | picture
  /-- A picture with a joiner before it, or with a key cap and a joiner. -/
  | joinedPicture
  | joinedKey
  /-- Halves of flags before a joiner and a picture: one, an even number, an odd number. -/
  | joinedHalf
  | joinedEven
  | joinedOdd
  | joinedTags (tags : Tags)
  /-- A selector that makes a quotation mark wide. -/
  | wideSelector
  /-- An alef, perhaps with marks before it. -/
  | alef
  | ligature (kind : Ligature)
  deriving DecidableEq, Repr

/-- What follows a character: the text ahead, and the selectors between it and the character, for
a picture or for text. -/
structure Following where
  ahead : Ahead
  asPicture : Bool
  asText : Bool
  deriving DecidableEq, Repr

namespace Ahead

/-- Whether selectors and marks that are not shown leave the text ahead in reach. -/
def isLigature : Ahead → Bool
  | alef | ligature _ => true
  | _ => false

/-- Whether a selector for pictures leaves the text ahead in reach. -/
def takesPicture : Ahead → Bool
  | joinedPicture | joinedKey => true
  | ahead => ahead.isLigature

end Ahead

namespace Following

/-- Nothing that matters. -/
def none : Following := ⟨.plain, false, false⟩

def of (ahead : Ahead) : Following := ⟨ahead, false, false⟩

/-- Put a selector for pictures before what follows. -/
def selectPicture (f : Following) : Following :=
  if f.ahead.takesPicture then { f with asPicture := true } else ⟨.plain, true, false⟩

/-- Put a selector for text before what follows. -/
def selectText (f : Following) : Following :=
  if f.ahead.isLigature then { f with asText := true } else ⟨.plain, false, true⟩

/-- Drop the selectors for pictures. -/
def dropPicture (f : Following) : Following :=
  if f.ahead.isLigature then { f with asPicture := false } else none

/-- Drop the selectors for text. -/
def dropText (f : Following) : Following :=
  if f.ahead.isLigature then { f with asText := false } else none

end Following

/-! ## Classes of characters -/

/-- Whether a character lies between two code points. -/
def isBetween (c : Char) (first last : Nat) : Bool := first ≤ c.toNat && c.toNat ≤ last

/-- Characters that a selector after them turns into text, save those that stand for words. -/
def isTextBase (c : Char) : Bool :=
  Unicode.pictures.contains c && Unicode.styled.contains c
    && !isBetween c 0x1f200 0x1f2ff

/-- Marks that are not shown and do not come between the parts of a ligature. -/
def isUnshownMark (c : Char) : Bool :=
  c.toNat == 0x34f || isBetween c 0x17b4 0x17b5 || isBetween c 0x180b 0x180d || c.toNat == 0x180f
    || isBetween c 0xfe00 0xfe0f || isBetween c 0xe0100 0xe01ef

/-- The joiner. -/
def joiner : Char := '\u200d'

def isAlef (c : Char) : Bool :=
  isBetween c 0x622 0x623 || c.toNat == 0x625 || c.toNat == 0x627 || isBetween c 0x671 0x673
    || c.toNat == 0x675 || isBetween c 0x773 0x774 || isBetween c 0x870 0x882

def isLam (c : Char) : Bool :=
  c.toNat == 0x644 || isBetween c 0x6b5 0x6b8 || c.toNat == 0x76a || c.toNat == 0x8a6
    || c.toNat == 0x8c7

/-- Letters of Khmer that can be written below another letter. -/
def isKhmerSubscript (c : Char) : Bool :=
  isBetween c 0x1780 0x1782 || isBetween c 0x1784 0x1787 || isBetween c 0x1789 0x178c
    || isBetween c 0x178e 0x1793 || isBetween c 0x1795 0x1798
    || isBetween c 0x179b 0x179d || c.toNat == 0x17a0 || c.toNat == 0x17a2 || c.toNat == 0x17a7
    || isBetween c 0x17ab 0x17ac || c.toNat == 0x17af

def isTifinaghConsonant (c : Char) : Bool := isBetween c 0x2d31 0x2d65 || c.toNat == 0x2d6f

def isFlagHalf (c : Char) : Bool := isBetween c 0x1f1e6 0x1f1ff

def isSkinTone (c : Char) : Bool := isBetween c 0x1f3fb 0x1f3ff

/-- What a character is the beginning of, whatever follows it. -/
def begins (c : Char) : Following :=
  if c.toNat == 0x5dc then .of (.ligature (.hebrew false))
  else if isAlef c then .of .alef
  else if isKhmerSubscript c then .of (.ligature .khmer)
  else if c.toNat == 0x1a10 then .of (.ligature (.buginese false))
  else if isTifinaghConsonant c then .of (.ligature (.tifinagh false))
  else if isBetween c 0xa4fc 0xa4fd then .of (.ligature .lisu)
  else if c.toNat == 0xfe01 then .of .wideSelector
  else if c.toNat == 0xfe0e then ⟨.plain, false, true⟩
  else if c.toNat == 0xfe0f then ⟨.plain, true, false⟩
  else if c.toNat == 0x10c03 then .of (.ligature (.oldTurkic false))
  else if c.toNat == 0x16d67 then .of (.ligature .kiratRaiE)
  else if c.toNat == 0x16d68 then .of (.ligature .kiratRaiAi)
  else if isFlagHalf c then .of .flagHalf
  else if isSkinTone c then .of .skinTone
  else if Unicode.pictures.contains c then .of .picture
  else .none

/-! ## Parts of one whole -/

/-- What a tag, or the flag that tags belong to, makes of the tags after it: a flag with three tags
or more is a picture. -/
def tagged (tags : Tags) (c : Char) : Option Ahead :=
  let isLetter := isBetween c 0xe0061 0xe007a
  let isDigit := isBetween c 0xe0030 0xe0039
  let isFlag := c.toNat == 0x1f3f4
  match tags with
  | .closing =>
    if isLetter then some (.joinedTags (.letters 1))
    else if isDigit then some (.joinedTags (.digits 1))
    else none
  | .letters n =>
    if isLetter && n < 6 then some (.joinedTags (.letters (n + 1)))
    else if isDigit && n ≤ 3 then some (.joinedTags (.digits 1))
    else if isFlag && 3 ≤ n then some .picture
    else none
  | .digits n =>
    if isDigit && n < 3 then some (.joinedTags (.digits (n + 1)))
    else if isFlag && n == 3 then some .picture
    else none

/-- What a character adds to a ligature that follows it, if it is a part of it, and what then
follows the character before. -/
def ligated (kind : Ligature) (c : Char) : Option (Int × Following) :=
  match kind with
  | .hebrew true => if c.toNat == 0x5d0 then some (0, .none) else none
  | .khmer => if c.toNat == 0x17d2 then some (-1, .none) else none
  | .buginese true => if c.toNat == 0x1a17 then some (0, .of (.ligature .bugineseVowel)) else none
  | .bugineseVowel => if c.toNat == 0x1a15 then some (0, .none) else none
  | .tifinagh joined =>
    if c.toNat == 0x2d7f then some (1, .of (.ligature .tifinaghJoiner))
    else if joined && isTifinaghConsonant c then some (0, .none)
    else none
  | .tifinaghJoiner => if isTifinaghConsonant c then some (-1, .none) else none
  | .lisu => if isBetween c 0xa4f8 0xa4fb then some (0, .none) else none
  | .oldTurkic true => if c.toNat == 0x10c32 then some (0, .none) else none
  | .kiratRaiE =>
    if c.toNat == 0x16d63 || c.toNat == 0x16d69 then some (0, .none)
    else if c.toNat == 0x16d67 then some (0, .of (.ligature .kiratRaiAi))
    else if c.toNat == 0x16d68 then some (1, .of (.ligature .kiratRaiE))
    else none
  | .kiratRaiAi => if c.toNat == 0x16d63 then some (0, .none) else none
  | .hebrew false | .buginese false | .oldTurkic false => none

/-- What a character adds to the text ahead if it is a part of it, and what then follows the
character before. -/
def attached (ahead : Ahead) (c : Char) : Option (Int × Following) :=
  match ahead with
  | .alef =>
    if isLam c then some (0, .none)
    else if Unicode.zeroWidth.contains c && Unicode.transparent.contains c then some (0, .of .alef)
    else none
  | .ligature kind => ligated kind c
  | .skinTone =>
    if Unicode.toned.contains c then some (0, .of .picture)
    else if c == joiner then some (0, .of .joinedPicture)
    else none
  | .flagHalf => if isFlagHalf c then some (1, .of .flagHalves) else none
  | .flagHalves =>
    if isFlagHalf c then some (1, .of .flagHalves)
    else if c == joiner then some (0, .of .joinedPicture)
    else none
  | .picture => if c == joiner then some (0, .of .joinedPicture) else none
  | .joinedPicture =>
    if c.toNat == 0x20e3 then some (0, .of .joinedKey)
    else if isFlagHalf c then some (1, .of .joinedHalf)
    else if isSkinTone c then some (0, .of .skinTone)
    else if c.toNat == 0xe007f then some (0, .of (.joinedTags .closing))
    else if begins c == .of .picture then some (0, .of .picture)
    else none
  | .joinedHalf => if isFlagHalf c then some (-1, .of .joinedEven) else none
  | .joinedEven =>
    if isFlagHalf c then some (3, .of .joinedOdd)
    else if c == joiner then some (0, .of .joinedPicture)
    else none
  | .joinedOdd =>
    if isFlagHalf c then some (-1, .of .joinedEven)
    else if c == joiner then some (0, .of .joinedPicture)
    else none
  | .joinedTags tags => (tagged tags c).map fun ahead => (0, .of ahead)
  | .wideSelector =>
    if isBetween c 0x2018 0x2019 || isBetween c 0x201c 0x201d then some (2, .none) else none
  | .plain | .lineFeed | .joinedKey => none

/-- Put a joiner before a ligature. -/
def joinedLigature : Ligature → Ligature
  | .hebrew _ => .hebrew true
  | .buginese _ => .buginese true
  | .oldTurkic _ => .oldTurkic true
  | .tifinagh _ => .tifinagh true
  | kind => kind

/-- Measure a character beyond the first two blocks. -/
def addOther (c : Char) (f : Following) : Int × Following :=
  let alone := ((ofChar c : Int), begins c)
  if f == .none then alone
  else if c.toNat == 0xfe0f then (0, f.selectPicture)
  else if c.toNat == 0xfe0e then (0, f.selectText)
  else if f.asText && isTextBase c then (1, .none)
  else
    let f := if f.asText then f.dropText else f
    match f.ahead with
    | .ligature kind =>
      if c == joiner then (0, { f with ahead := .ligature (joinedLigature kind) })
      else if isUnshownMark c then (0, f)
      else (ligated kind c).getD alone
    | ahead => (attached ahead c).getD alone

/-- The columns that a character adds in view of what follows it, and what then follows the
character before. -/
def add (c : Char) (f : Following) : Int × Following :=
  if f.asPicture && Unicode.styled.contains c then
    (if f.ahead.takesPicture && !f.ahead.isLigature then 0 else 2, .of .picture)
  else
    let f := if f.asPicture then f.dropPicture else f
    if 0xa0 < c.toNat then addOther c f
    else if c == '\n' then (1, .of .lineFeed)
    else if c == '\r' && f == .of .lineFeed then (0, .none)
    else (1, .none)

/-- Measure a text from its end. -/
def measure (cs : List Char) : Int × Following :=
  cs.foldr (fun c (sum, f) => ((add c f).1 + sum, (add c f).2)) (0, .none)

/-- The columns of a text. -/
def ofChars (cs : List Char) : Nat := (measure cs).1.toNat

end LoadMonitor.Columns
