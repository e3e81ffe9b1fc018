import LoadMonitor.Proofs.Text.Split
import LoadMonitor.Proofs.Unicode.Table
import LoadMonitor.Unicode.NameMapping
import LoadMonitor.Unicode.Normal

/-!
# What the tables of characters say about each other

Three tables say which characters do not stand for themselves in a name, and a fourth which
characters are made of two others. They fit together: what a character stands for stands for
itself, what is made of two characters stands for itself just if both of them do, and nothing can
be taken apart more than three times.
-/

namespace LoadMonitor.Unicode

/-- Tables by their spans. -/
structure NameTables where
  ignored : List CodeSpan
  disallowed : List CodeSpan
  mapped : List CodeSpan
  compositions : List CodeSpan

/-- What the characters of a span stand for. -/
def CodeSpan.images (s : CodeSpan) : List CodeSpan :=
  match s.values with
  | [value] => [⟨value, value + (s.last - s.first), s.step, []⟩]
  | values => values.map fun value => ⟨value, value, 1, []⟩

/-- The syllables of Hangul. -/
def syllableSet : Nat := bitsOf [⟨0xac00, 0xd7a3, 1, []⟩]

/-- What syllables of Hangul are made of. -/
def jamoSet : Nat :=
  bitsOf [⟨0x1100, 0x1112, 1, []⟩, ⟨0x1161, 0x1175, 1, []⟩, ⟨0x11a8, 0x11c2, 1, []⟩]

/-- The unified ideographs of the first plane. -/
def ideographSet : Nat := bitsOf [⟨0x4e00, 0x9fff, 1, []⟩]

theorem testBit_ideographSet {n : Nat} :
    ideographSet.testBit n = true ↔ 0x4e00 ≤ n ∧ n ≤ 0x9fff := by
  rw [ideographSet, testBit_bitsOf]
  simp [CodeSpan.contains_iff, Nat.mod_one]

namespace NameTables

variable (t : NameTables)

/-- Characters that do not stand for themselves in a name. -/
def changing : Nat := bitsOf t.ignored ||| bitsOf t.disallowed ||| bitsOf t.mapped

/-- What characters of names stand for. -/
def images : Nat := bitsOf (t.mapped.flatMap (·.images))

/-- Characters that can be taken apart more often than `k` times. -/
def level : Nat → Nat
  | 0 => syllableSet ||| bitsOf t.compositions
  | k + 1 => bitsOfList <|
      (t.compositions.filter fun s => (level k).testBit (s.values.headD 0)).map (·.first)

/-- What characters are made of. -/
def parts : Nat := bitsOfList (t.compositions.flatMap (·.values))

/-- Whether a span is a single character that is made of two, of which the second one cannot be
taken apart and which both stand for themselves just if the character does. -/
def isPair (s : CodeSpan) : Bool :=
  match s.values with
  | [a, b] => s.first == s.last && [s.first, a, b].all (·.isValidChar)
      && !syllableSet.testBit s.first && !(t.level 0).testBit b
      && t.changing.testBit s.first == (t.changing.testBit a || t.changing.testBit b)
  | _ => false

/-- Tables that fit together. -/
structure Consistent : Prop where
  ignored : CodeTable.ascending t.ignored = true
  disallowed : CodeTable.ascending t.disallowed = true
  mapped : CodeTable.ascending t.mapped = true
  compositions : CodeTable.ascending t.compositions = true
  ascii : t.changing % 2 ^ 128 = bitsOf [⟨0x41, 0x5a, 1, []⟩]
  images : t.images &&& t.changing = 0
  pairs : t.compositions.all t.isPair = true
  level : t.level 3 = 0
  hangul : (syllableSet ||| jamoSet) &&& t.changing = 0
  jamo : jamoSet &&& t.level 0 = 0
  ideographs : ideographSet &&& (t.changing ||| t.level 0 ||| t.parts) = 0
  dot : (t.level 0 ||| t.parts).testBit 0x2e = false

/-! The kernel checks this in two parts, which need not be kept in memory together. -/

/-- The part about what characters stand for. -/
def MappingsFit : Prop :=
  CodeTable.ascending t.ignored = true ∧ CodeTable.ascending t.disallowed = true ∧
    CodeTable.ascending t.mapped = true ∧ t.changing % 2 ^ 128 = bitsOf [⟨0x41, 0x5a, 1, []⟩] ∧
    t.images &&& t.changing = 0 ∧ (syllableSet ||| jamoSet) &&& t.changing = 0

/-- The part about what characters are made of. -/
def CompositionsFit : Prop :=
  CodeTable.ascending t.compositions = true ∧ t.compositions.all t.isPair = true ∧
    t.level 3 = 0 ∧ jamoSet &&& t.level 0 = 0 ∧
    ideographSet &&& (t.changing ||| t.level 0 ||| t.parts) = 0 ∧
    (t.level 0 ||| t.parts).testBit 0x2e = false

instance : Decidable t.MappingsFit := inferInstanceAs (Decidable (_ ∧ _))

instance : Decidable t.CompositionsFit := inferInstanceAs (Decidable (_ ∧ _))

variable {t} in
theorem Consistent.of_fit (hmappings : t.MappingsFit) (hcompositions : t.CompositionsFit) :
    t.Consistent := by
  obtain ⟨hignored, hdisallowed, hmapped, hascii, himages, hhangul⟩ := hmappings
  obtain ⟨hascending, hpairs, hlevel, hjamo, hideographs, hdot⟩ := hcompositions
  exact ⟨hignored, hdisallowed, hmapped, hascending, hascii, himages, hpairs, hlevel, hhangul,
    hjamo, hideographs, hdot⟩

end NameTables

/-- The tables. -/
def nameTables : NameTables where
  ignored := ignored.spans.toList
  disallowed := disallowed.spans.toList
  mapped := mapped.spans.toList
  compositions := compositions.spans.toList

/-- What holds of the tables that lines spell holds of those that are read from the lines. -/
theorem of_spelled {P : NameTables → Prop} {ri rd rm rc : List String}
    {ti td tm tc : List (List Char)} (hi : Spelled ri ti) (hd : Spelled rd td)
    (hm : Spelled rm tm) (hc : Spelled rc tc)
    (h : P ⟨spelledSpans ti, spelledSpans td, spelledSpans tm, spelledSpans tc⟩) :
    P ⟨(CodeTable.ofRows ri).spans.toList, (CodeTable.ofRows rd).spans.toList,
      (CodeTable.ofRows rm).spans.toList, (CodeTable.ofRows rc).spans.toList⟩ := by
  rwa [CodeTable.spans_of_spelled hi, CodeTable.spans_of_spelled hd, CodeTable.spans_of_spelled hm,
    CodeTable.spans_of_spelled hc]

set_option maxRecDepth 100000 in
theorem nameTables_mappingsFit : nameTables.MappingsFit := by
  apply of_spelled (P := NameTables.MappingsFit)
  iterate 4
    · repeat apply Spelled.cons
      apply Spelled.nil
  · decide +kernel

set_option maxRecDepth 100000 in
theorem nameTables_compositionsFit : nameTables.CompositionsFit := by
  apply of_spelled (P := NameTables.CompositionsFit)
  iterate 4
    · repeat apply Spelled.cons
      apply Spelled.nil
  · decide +kernel

theorem nameTables_consistent : nameTables.Consistent :=
  .of_fit nameTables_mappingsFit nameTables_compositionsFit

/-! ## Pairs -/

/-- The table makes a character of two others. -/
def Pair (c a b : Char) : Prop :=
  ∃ s ∈ compositions.spans.toList, s.first = c.toNat ∧ s.values = [a.toNat, b.toNat]

/-- Whether a character can be taken apart. -/
def isComposite (c : Char) : Bool := (nameTables.level 0).testBit c.toNat

/-- Whether a character does not stand for itself in a name. -/
def isChanging (c : Char) : Bool := nameTables.changing.testBit c.toNat

/-- Every span of the table of compositions is a pair. -/
theorem exists_pair {s : CodeSpan} (hs : s ∈ compositions.spans.toList) :
    ∃ c a b : Char, s.first = c.toNat ∧ s.last = c.toNat ∧ s.values = [a.toNat, b.toNat] ∧
      syllableSet.testBit c.toNat = false ∧ isComposite b = false ∧
      isChanging c = (isChanging a || isChanging b) := by
  have h := List.all_eq_true.mp nameTables_consistent.pairs s hs
  rw [NameTables.isPair] at h
  split at h
  · next a b hvalues =>
      simp only [List.all_cons, List.all_nil, Bool.and_true, Bool.and_eq_true, beq_iff_eq,
        decide_eq_true_eq, Bool.not_eq_true'] at h
      obtain ⟨⟨⟨⟨hlast, hc, ha, hb⟩, hsyllable⟩, hcomposite⟩, hchanging⟩ := h
      refine ⟨.ofNat s.first, .ofNat a, .ofNat b, ?_⟩
      simp only [isComposite, isChanging, toNat_ofNat hc, toNat_ofNat ha, toNat_ofNat hb]
      exact ⟨trivial, hlast.symm, hvalues, hsyllable, hcomposite, hchanging⟩
  · cases h

namespace Pair

variable {c a b : Char}

theorem facts (h : Pair c a b) : syllableSet.testBit c.toNat = false ∧ isComposite b = false ∧
    isChanging c = (isChanging a || isChanging b) := by
  obtain ⟨s, hs, hfirst, hvalues⟩ := h
  obtain ⟨c', a', b', hfirst', -, hvalues', hfacts⟩ := exists_pair hs
  rw [hvalues] at hvalues'
  obtain ⟨ha, hb⟩ : a.toNat = a'.toNat ∧ b.toNat = b'.toNat := by simpa using hvalues'
  rw [Char.toNat_inj.mp (hfirst.symm.trans hfirst'), Char.toNat_inj.mp ha, Char.toNat_inj.mp hb]
  exact hfacts

theorem values? (h : Pair c a b) : compositions.values? c = some [a.toNat, b.toNat] := by
  obtain ⟨s, hs, hfirst, hvalues⟩ := h
  obtain ⟨c', -, -, hfirst', hlast', -⟩ := exists_pair hs
  have hcontains : s.contains c.toNat = true := by
    simp [CodeSpan.contains, hfirst, hlast', ← hfirst']
  rw [CodeTable.values?, CodeTable.find?_eq_some nameTables_consistent.compositions hs hcontains,
    Option.map_some, hvalues]

theorem isComposite (h : Pair c a b) : isComposite c = true := by
  obtain ⟨s, hs, hfirst, hvalues⟩ := h
  obtain ⟨c', -, -, hfirst', hlast', -⟩ := exists_pair hs
  rw [Unicode.isComposite, NameTables.level, Nat.testBit_or, Bool.or_eq_true]
  refine .inr (testBit_bitsOf.mpr ⟨s, hs, ?_⟩)
  simp [CodeSpan.contains, hfirst, hlast', ← hfirst']

/-- A character can be taken apart once more than its first part. -/
theorem level (h : Pair c a b) {k : Nat} (ha : (nameTables.level k).testBit a.toNat = true) :
    (nameTables.level (k + 1)).testBit c.toNat = true := by
  obtain ⟨s, hs, hfirst, hvalues⟩ := h
  rw [NameTables.level, testBit_bitsOfList]
  exact List.mem_map.mpr ⟨s, List.mem_filter.mpr ⟨hs, by simpa [hvalues] using ha⟩, hfirst⟩

theorem mem_parts (h : Pair c a b) : nameTables.parts.testBit a.toNat = true ∧
    nameTables.parts.testBit b.toNat = true := by
  obtain ⟨s, hs, -, hvalues⟩ := h
  simp only [NameTables.parts, testBit_bitsOfList, List.mem_flatMap]
  exact ⟨⟨s, hs, by simp [hvalues]⟩, ⟨s, hs, by simp [hvalues]⟩⟩

end Pair

/-- What the table of compositions says about a character. -/
theorem compositions_values? (c : Char) :
    (compositions.values? c = none ∧ (bitsOf compositions.spans.toList).testBit c.toNat = false) ∨
      ∃ a b, Pair c a b := by
  cases hfind : compositions.find? c.toNat with
  | none =>
      refine .inl ⟨by rw [CodeTable.values?, hfind, Option.map_none], ?_⟩
      have hcontains := CodeTable.contains_eq_testBit (c := c) nameTables_consistent.compositions
      rw [← CodeTable.bits, ← hcontains, CodeTable.contains, hfind, Option.isSome_none]
  | some s =>
      obtain ⟨hs, hcontains⟩ := CodeTable.mem_of_find? hfind
      obtain ⟨c', a, b, hfirst, hlast, hvalues, -⟩ := exists_pair hs
      refine .inr ⟨a, b, s, hs, ?_, hvalues⟩
      rw [CodeSpan.contains_iff] at hcontains
      omega

theorem toNat_lt (c : Char) : c.toNat < 0x110000 := by
  have h : c.toNat.isValidChar := c.valid
  simp only [Nat.isValidChar] at h
  omega

/-- The table by pairs holds pairs of the table only. -/
theorem compositionsByPair_find? {a b : Char} {s : CodeSpan}
    (h : compositionsByPair.find? (pairNumber a.toNat b.toNat) = some s) :
    ∃ c : Char, s.values = [c.toNat] ∧ Pair c a b := by
  obtain ⟨hs, hcontains⟩ := CodeTable.mem_of_find? h
  rw [compositionsByPair, List.mem_mergeSort, List.mem_filterMap] at hs
  obtain ⟨t, ht, hpair⟩ := hs
  obtain ⟨c, a', b', hfirst, -, hvalues, -⟩ := exists_pair ht
  rw [hvalues] at hpair
  cases hpair
  have hb := toNat_lt b
  have hb' := toNat_lt b'
  rw [CodeSpan.contains_iff] at hcontains
  simp only [pairNumber] at hcontains
  have ha : a'.toNat = a.toNat := by omega
  have hb : b'.toNat = b.toNat := by omega
  exact ⟨c, by rw [hfirst], t, ht, hfirst, by rw [hvalues, ha, hb]⟩

namespace CodeTable

variable {t : CodeTable} {c : Char}

/-- What a table puts in place of a character is an image of a span. -/
theorem testBit_of_mem_replacement? {points : List Nat} (h : t.replacement? c = some points) {p : Nat}
    (hp : p ∈ points) : (bitsOf (t.spans.toList.flatMap (·.images))).testBit p = true := by
  obtain ⟨s, hfind, hpoints⟩ := Option.map_eq_some_iff.mp h
  obtain ⟨hs, hcontains⟩ := mem_of_find? hfind
  obtain ⟨hfirst, hlast, hstep⟩ := CodeSpan.contains_iff.mp hcontains
  rw [testBit_bitsOf]
  suffices himage : ∃ i ∈ s.images, i.contains p = true by
    obtain ⟨i, hi, hip⟩ := himage
    exact ⟨i, List.mem_flatMap.mpr ⟨s, hs, hi⟩, hip⟩
  rw [← hpoints] at hp
  rw [CodeSpan.images]
  rcases hvalues : s.values with _ | ⟨value, _ | ⟨second, rest⟩⟩
  · rw [hvalues] at hp
    cases hp
  · rw [hvalues] at hp
    obtain rfl := List.mem_singleton.mp hp
    refine ⟨_, List.mem_singleton_self _, CodeSpan.contains_iff.mpr ?_⟩
    simp only [Nat.add_sub_cancel_left, hstep]
    exact ⟨Nat.le_add_right .., by omega, trivial⟩
  · rw [hvalues] at hp
    exact ⟨⟨p, p, 1, []⟩, List.mem_map.mpr ⟨p, hp, rfl⟩, CodeSpan.contains_iff.mpr (by simp)⟩

end CodeTable

/-! ## What characters of names stand for -/

theorem isChanging_eq (c : Char) : isChanging c =
    (ignored.bits.testBit c.toNat || disallowed.bits.testBit c.toNat ||
      mapped.bits.testBit c.toNat) := by
  rw [isChanging, NameTables.changing, Nat.testBit_or, Nat.testBit_or]
  rfl

/-- Of the ASCII characters only capitals stand for others. -/
theorem testBit_changing_ascii {n : Nat} (h : n < 128) :
    nameTables.changing.testBit n = true ↔ 0x41 ≤ n ∧ n ≤ 0x5a := by
  rw [← testBit_mod_of_lt h, nameTables_consistent.ascii, testBit_bitsOf]
  simp [CodeSpan.contains_iff, Nat.mod_one]

/-- Characters that are not in the tables stand for themselves. -/
theorem isChanging_eq_false {c : Char} (hignored : ignored.contains c = false)
    (hdisallowed : disallowed.contains c = false) (hmapped : mapped.replacement? c = none) :
    isChanging c = false := by
  rw [CodeTable.contains_eq_testBit nameTables_consistent.ignored] at hignored
  rw [CodeTable.contains_eq_testBit nameTables_consistent.disallowed] at hdisallowed
  rw [isChanging_eq, hignored, hdisallowed, Bool.false_or, Bool.false_or, ← Bool.not_eq_true]
  intro hbit
  obtain ⟨s, hs⟩ := CodeTable.exists_find?_of_testBit nameTables_consistent.mapped hbit
  rw [CodeTable.replacement?, hs] at hmapped
  cases hmapped

/-- What the table of mappings puts in place of a character stands for itself. -/
theorem isChanging_of_mem_replacement? {c : Char} {points : List Nat}
    (h : mapped.replacement? c = some points) {p : Nat} (hp : p ∈ points) :
    isChanging (Char.ofNat p) = false := by
  by_cases hvalid : p.isValidChar
  · rw [isChanging, toNat_ofNat hvalid]
    exact testBit_eq_false_of_and_eq_zero nameTables_consistent.images
      (CodeTable.testBit_of_mem_replacement? h hp)
  · have hzero : (Char.ofNat p).toNat = 0 := by
      rw [Char.ofNat, dif_neg hvalid]
      rfl
    rw [isChanging, hzero, ← Bool.not_eq_true, testBit_changing_ascii (Nat.zero_lt_succ _)]
    omega

end LoadMonitor.Unicode
