import LoadMonitor.Unicode.Composition
import LoadMonitor.Unicode.Mark

/-!
# Composed form

Texts that look the same can be made of different characters: a letter with a mark is one
character or two, and marks that do not touch each other can stand in any order. In the
composed form the marks stand in the order of their classes and whatever can be one character
is one. Syllables of Hangul are composed by arithmetic, everything else by a table.
-/

namespace LoadMonitor.Unicode

/-- The class of a mark; zero for everything that does not move. -/
def combiningClass (c : Char) : Nat := combiningClasses.value c

/-! ## Hangul -/

namespace Hangul

/-- The first syllable. -/
def syllables : Nat := 0xac00

/-- The first leading consonant, of 19. -/
def leads : Nat := 0x1100

/-- The first vowel, of 21. -/
def vowels : Nat := 0x1161

/-- What stands before the first of the 27 final consonants: no final consonant. -/
def finals : Nat := 0x11a7

/-- The parts of a syllable. -/
def parts? (n : Nat) : Option (List Nat) :=
  if syllables ≤ n ∧ n < syllables + 19 * 21 * 28 then
    let i := n - syllables
    let last := if i % 28 = 0 then [] else [finals + i % 28]
    some ((leads + i / (21 * 28)) :: (vowels + i % (21 * 28) / 28) :: last)
  else none

/-- The syllable of two parts, of which the first may be a syllable already. -/
def compose? (a b : Nat) : Option Nat :=
  if leads ≤ a ∧ a < leads + 19 ∧ vowels ≤ b ∧ b < vowels + 21 then
    some (syllables + ((a - leads) * 21 + (b - vowels)) * 28)
  else if syllables ≤ a ∧ a < syllables + 19 * 21 * 28 ∧ (a - syllables) % 28 = 0
      ∧ finals < b ∧ b < finals + 28 then
    some (a + (b - finals))
  else none

end Hangul

/-! ## Taking apart -/

/-- The characters that a character is made of, the first of two that the table names being
taken apart in its turn. -/
def takenApart (inner : Char → List Char) (c : Char) : List Char :=
  match Hangul.parts? c.toNat, compositions.values? c with
  | some parts, _ => parts.map Char.ofNat
  | none, some [a, b] => inner (Char.ofNat a) ++ [Char.ofNat b]
  | none, _ => [c]

/-- The characters that a character is made of when it is taken apart at most as often as the
bound says. -/
def decompose : Nat → Char → List Char
  | 0, c => [c]
  | bound + 1, c => takenApart (decompose bound) c

/-- No character is made of more than four. -/
def decomposed (cs : List Char) : List Char := cs.flatMap (decompose 3)

/-! ## Order of marks -/

/-- Put a mark before all marks of higher classes that follow it directly. -/
def insertMark (c : Char) : List Char → List Char
  | [] => [c]
  | d :: rest =>
    if combiningClass d < combiningClass c ∧ combiningClass d ≠ 0 then d :: insertMark c rest
    else c :: d :: rest

/-- Bring the marks into the order of their classes, those of one class staying as they are. -/
def ordered (cs : List Char) : List Char :=
  cs.foldr (fun c rest => if combiningClass c = 0 then c :: rest else insertMark c rest) []

/-! ## Putting together -/

/-- All pairs of the table that make one character, under a single number for each pair. -/
def pairNumber (a b : Nat) : Nat := a * 0x110000 + b

/-- The table by pairs. -/
def compositionsByPair : CodeTable :=
  let spans := compositions.spans.toList.filterMap fun s =>
    match s.values with
    | [a, b] => some (CodeSpan.mk (pairNumber a b) (pairNumber a b) 1 [s.first])
    | _ => none
  ⟨(spans.mergeSort fun s t => s.first ≤ t.first).toArray⟩

/-- The character that a character and a mark make. -/
def compose? (a b : Char) : Option Char :=
  match Hangul.compose? a.toNat b.toNat with
  | some n => some (Char.ofNat n)
  | none => (compositionsByPair.find? (pairNumber a.toNat b.toNat)).bind fun s =>
      s.values.head?.map Char.ofNat

/-- What waits to be put together: the last character that a mark can be combined with, and the
marks after it that were not, the last one first. -/
structure Waiting where
  base : Char
  marks : List Char

/-- Whether a mark after others can be combined with the character before them. It is out of its
reach if the mark before it is of no lower class. -/
def inReach (marks : List Char) (c : Char) : Bool :=
  match marks with
  | [] => true
  | mark :: _ => combiningClass mark < combiningClass c

/-- Take in a character: what is settled by it, and what waits then. -/
def Waiting.take (w : Waiting) (c : Char) : List Char × Waiting :=
  match if inReach w.marks c then compose? w.base c else none with
  | some composed => ([], ⟨composed, w.marks⟩)
  | none =>
    if combiningClass c = 0 then (w.base :: w.marks.reverse, ⟨c, []⟩)
    else ([], ⟨w.base, c :: w.marks⟩)

/-- Put characters together with what waits before them. -/
def composeFrom (w : Waiting) : List Char → List Char
  | [] => w.base :: w.marks.reverse
  | c :: rest =>
    let next := w.take c
    next.1 ++ composeFrom next.2 rest

/-- Put characters together, after marks that have nothing to be combined with. -/
def composed : List Char → List Char
  | [] => []
  | c :: rest => if combiningClass c = 0 then composeFrom ⟨c, []⟩ rest else c :: composed rest

/-- The composed form of a text. ASCII is in that form. -/
def normal (cs : List Char) : List Char :=
  if cs.all (·.toNat < 128) then cs else composed (ordered (decomposed cs))

end LoadMonitor.Unicode
