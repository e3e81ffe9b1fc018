import LoadMonitor.Proofs.Unicode.Consistency

/-!
# Composed form is composed already

Putting a text into composed form a second time changes nothing.

Composing can be undone: if the parts of a text cannot be taken apart any further and its marks
stand in order, then taking the composed text apart and ordering the marks gives the parts again. A
mark that is put together with a character passes only marks of other classes, so that ordering
puts it back to its place.
-/

namespace LoadMonitor.Unicode

/-! ## Taking apart -/

theorem isComposite_eq (c : Char) : isComposite c =
    (syllableSet.testBit c.toNat || (bitsOf compositions.spans.toList).testBit c.toNat) := by
  rw [isComposite, NameTables.level, Nat.testBit_or]
  rfl

theorem testBit_syllables {n : Nat} : syllableSet.testBit n = true ↔ 0xac00 ≤ n ∧ n ≤ 0xd7a3 := by
  simp [syllableSet, testBit_bitsOf, CodeSpan.contains_iff, Nat.mod_one]

theorem testBit_jamo {n : Nat} : jamoSet.testBit n = true ↔ 0x1100 ≤ n ∧ n ≤ 0x1112 ∨
    0x1161 ≤ n ∧ n ≤ 0x1175 ∨ 0x11a8 ≤ n ∧ n ≤ 0x11c2 := by
  simp [jamoSet, testBit_bitsOf, CodeSpan.contains_iff, Nat.mod_one]

namespace Hangul

theorem parts?_eq_none_iff {n : Nat} : parts? n = none ↔ syllableSet.testBit n = false := by
  rw [← Bool.not_eq_true, testBit_syllables, parts?, Hangul.syllables]
  split
  · next h =>
    simp only [reduceCtorEq, false_iff]
    omega
  · next h =>
    simp only [true_iff]
    omega

/-- The parts of a syllable are jamo. -/
theorem parts_jamo {n m : Nat} {parts : List Nat} (h : parts? n = some parts) (hm : m ∈ parts) :
    jamoSet.testBit m = true := by
  rw [testBit_jamo]
  rw [parts?] at h
  split at h
  · next hn =>
    obtain rfl := Option.some.inj h
    rw [List.mem_cons, List.mem_cons] at hm
    unfold Hangul.syllables at hn hm
    unfold leads vowels finals at hm
    rcases hm with hm | hm | hm
    · omega
    · omega
    · split at hm
      · cases hm
      · rw [List.mem_singleton] at hm
        omega
  · cases h

end Hangul

/-- What a character is made of in one step. -/
inductive Made (c : Char) : Prop
  | syllable (parts : List Nat) (h : Hangul.parts? c.toNat = some parts)
  | pair (a b : Char) (h : Pair c a b)
  | single (h : isComposite c = false)

theorem made (c : Char) : Made c := by
  cases hparts : Hangul.parts? c.toNat with
  | some parts => exact .syllable parts hparts
  | none =>
      rcases compositions_values? c with ⟨-, hnone⟩ | ⟨a, b, hpair⟩
      · exact .single (by rw [isComposite_eq, Hangul.parts?_eq_none_iff.mp hparts, hnone]; rfl)
      · exact .pair a b hpair

theorem takenApart_syllable {c : Char} {parts : List Nat} (h : Hangul.parts? c.toNat = some parts)
    (inner : Char → List Char) : takenApart inner c = parts.map Char.ofNat := by
  rw [takenApart, h]

theorem takenApart_pair {c a b : Char} (h : Pair c a b) (inner : Char → List Char) :
    takenApart inner c = inner a ++ [b] := by
  rw [takenApart, Hangul.parts?_eq_none_iff.mpr h.facts.1, h.values?]
  simp only [Char.ofNat_toNat]

theorem takenApart_single {c : Char} (h : isComposite c = false) (inner : Char → List Char) :
    takenApart inner c = [c] := by
  rw [isComposite_eq, Bool.or_eq_false_iff] at h
  rw [takenApart, Hangul.parts?_eq_none_iff.mpr h.1]
  rcases compositions_values? c with ⟨hnone, -⟩ | ⟨a, b, hpair⟩
  · rw [hnone]
  · have hcomposite := hpair.isComposite
    rw [isComposite_eq, h.1, h.2] at hcomposite
    cases hcomposite

theorem decompose_single {c : Char} (h : isComposite c = false) (k : Nat) :
    decompose k c = [c] := by
  cases k with
  | zero => rfl
  | succ k => rw [decompose, takenApart_single h]

/-- A jamo cannot be taken apart. -/
theorem isComposite_of_jamo {c : Char} (h : jamoSet.testBit c.toNat = true) :
    isComposite c = false :=
  testBit_eq_false_of_and_eq_zero nameTables_consistent.jamo h

theorem toNat_ofNat_jamo {n : Nat} (h : jamoSet.testBit n = true) : (Char.ofNat n).toNat = n := by
  rw [testBit_jamo] at h
  exact toNat_ofNat (.inl (by omega))

/-- Whether a character can be taken apart more often than `k` times. -/
def isDeeper (k : Nat) (c : Char) : Bool := (nameTables.level k).testBit c.toNat

theorem Pair.isDeeper_left {c a b : Char} (h : Pair c a b) {k : Nat}
    (hc : isDeeper (k + 1) c = false) : isDeeper k a = false := by
  rw [← Bool.not_eq_true] at hc ⊢
  exact fun ha => hc (h.level ha)

/-- Taking apart once more changes nothing where it has come to an end. -/
theorem decompose_succ {k : Nat} {c : Char} (h : isDeeper k c = false) :
    decompose (k + 1) c = decompose k c := by
  induction k generalizing c with
  | zero => exact decompose_single h 1
  | succ k ih =>
      cases made c with
      | syllable parts hparts =>
          rw [decompose, takenApart_syllable hparts, decompose, takenApart_syllable hparts]
      | pair a b hpair =>
          rw [decompose, takenApart_pair hpair, ih (hpair.isDeeper_left h), decompose,
            takenApart_pair hpair]
      | single hsingle => rw [decompose_single hsingle, decompose_single hsingle]

/-- What is taken apart to the end cannot be taken apart any further. -/
theorem isComposite_of_mem_decompose {k : Nat} {c d : Char} (h : isDeeper k c = false)
    (hd : d ∈ decompose k c) : isComposite d = false := by
  induction k generalizing c with
  | zero =>
      rw [decompose, List.mem_singleton] at hd
      rw [hd]
      exact h
  | succ k ih =>
      cases made c with
      | syllable parts hparts =>
          rw [decompose, takenApart_syllable hparts, List.mem_map] at hd
          obtain ⟨n, hn, rfl⟩ := hd
          have hjamo := Hangul.parts_jamo hparts hn
          exact isComposite_of_jamo (by rwa [toNat_ofNat_jamo hjamo])
      | pair a b hpair =>
          rw [decompose, takenApart_pair hpair, List.mem_append, List.mem_singleton] at hd
          rcases hd with hd | rfl
          · exact ih (hpair.isDeeper_left h) hd
          · exact hpair.facts.2.1
      | single hsingle =>
          rw [decompose_single hsingle, List.mem_singleton] at hd
          rwa [hd]

/-- No character can be taken apart more than three times. -/
theorem isDeeper_three (c : Char) : isDeeper 3 c = false := by
  rw [isDeeper, nameTables_consistent.level, Nat.zero_testBit]

theorem isComposite_of_mem_decomposed {cs : List Char} {d : Char} (h : d ∈ decomposed cs) :
    isComposite d = false := by
  obtain ⟨c, -, hd⟩ := List.mem_flatMap.mp h
  exact isComposite_of_mem_decompose (isDeeper_three c) hd

theorem decomposed_of_isComposite {cs : List Char} (h : ∀ c ∈ cs, isComposite c = false) :
    decomposed cs = cs := by
  induction cs with
  | nil => rfl
  | cons c rest ih =>
      obtain ⟨hc, hrest⟩ := List.forall_mem_cons.mp h
      rw [decomposed, List.flatMap_cons, decompose_single hc, ← decomposed, ih hrest,
        List.singleton_append]

theorem decomposed_append (cs ds : List Char) :
    decomposed (cs ++ ds) = decomposed cs ++ decomposed ds := List.flatMap_append

theorem decomposed_cons (c : Char) (cs : List Char) :
    decomposed (c :: cs) = decompose 3 c ++ decomposed cs := List.flatMap_cons

/-! ## Putting two characters together -/

/-- How two characters make one. -/
inductive Makes (a b c : Char) : Prop
  | pair (h : Pair c a b)
  | hangul (h : Hangul.compose? a.toNat b.toNat = some c.toNat)

/-- Hangul is composed to syllables. -/
theorem Hangul.syllable_of_compose? {a b n : Nat} (h : Hangul.compose? a b = some n) :
    syllableSet.testBit n = true := by
  rw [testBit_syllables]
  rw [Hangul.compose?] at h
  unfold Hangul.syllables Hangul.leads Hangul.vowels Hangul.finals at h
  split at h
  · obtain rfl := Option.some.inj h
    omega
  · split at h
    · obtain rfl := Option.some.inj h
      omega
    · cases h

theorem makes_of_compose? {a b c : Char} (h : compose? a b = some c) : Makes a b c := by
  rw [compose?] at h
  split at h
  · next n hn =>
    obtain rfl := Option.some.inj h
    have hsyllable := testBit_syllables.mp (Hangul.syllable_of_compose? hn)
    exact .hangul (by rw [hn, toNat_ofNat (.inl (by omega))])
  · next hn =>
    cases hfind : compositionsByPair.find? (pairNumber a.toNat b.toNat) with
    | none =>
        rw [hfind] at h
        cases h
    | some s =>
        obtain ⟨c', hvalues, hpair⟩ := compositionsByPair_find? hfind
        rw [hfind, Option.bind_some, hvalues] at h
        obtain rfl : c' = c := by simpa using h
        exact .pair hpair

namespace Hangul

/-- The parts of a syllable by their numbers. -/
theorem parts?_eq {l v t : Nat} (hl : l < 19) (hv : v < 21) (ht : t < 28) :
    parts? (syllables + (l * 21 + v) * 28 + t) =
      some ((leads + l) :: (vowels + v) :: if t = 0 then [] else [finals + t]) := by
  have hindex : syllables + (l * 21 + v) * 28 + t - syllables = (l * 21 + v) * 28 + t := by omega
  have hlead : ((l * 21 + v) * 28 + t) / (21 * 28) = l := by omega
  have hvowel : ((l * 21 + v) * 28 + t) % (21 * 28) / 28 = v := by omega
  have hfinal : ((l * 21 + v) * 28 + t) % 28 = t := by omega
  rw [parts?, if_pos (by omega)]
  simp only [hindex, hlead, hvowel, hfinal]

/-- The parts of a composed syllable. -/
theorem parts?_of_compose? {a b n : Nat} (h : compose? a b = some n) :
    (jamoSet.testBit a = true ∧ parts? n = some [a, b]) ∨
      (∃ parts, parts? a = some parts ∧ parts? n = some (parts ++ [b])) := by
  rw [compose?] at h
  split at h
  · next hjamo =>
    obtain ⟨l, hl⟩ := Nat.exists_eq_add_of_le hjamo.1
    obtain ⟨v, hv⟩ := Nat.exists_eq_add_of_le hjamo.2.2.1
    subst hl hv
    simp only [Nat.add_sub_cancel_left, Option.some.injEq] at h
    subst h
    refine .inl ⟨testBit_jamo.mpr ?_, parts?_eq (by omega) (by omega) (Nat.zero_lt_succ 27)⟩
    unfold leads at hjamo ⊢
    omega
  · split at h
    · next hjamo =>
      obtain ⟨i, hi⟩ := Nat.exists_eq_add_of_le hjamo.1
      obtain ⟨t, ht⟩ := Nat.exists_eq_add_of_le (Nat.le_of_lt hjamo.2.2.2.1)
      subst hi ht
      simp only [Nat.add_sub_cancel_left, Option.some.injEq] at h hjamo
      subst h
      -- A syllable without a final part has an index that is a multiple of 28.
      have hindex : (i / (21 * 28) * 21 + i % (21 * 28) / 28) * 28 = i := by omega
      have hsyllable := parts?_eq (l := i / (21 * 28)) (v := i % (21 * 28) / 28) (by omega)
        (by omega) (Nat.zero_lt_succ 27)
      have hcomposed := parts?_eq (l := i / (21 * 28)) (v := i % (21 * 28) / 28) (t := t)
        (by omega) (by omega) (by omega)
      rw [hindex] at hsyllable hcomposed
      rw [if_neg (by omega)] at hcomposed
      exact .inr ⟨_, hsyllable, hcomposed⟩
    · cases h

end Hangul

/-- What is put behind another part is a jamo. -/
theorem Hangul.jamo_of_compose? {a b n : Nat} (h : Hangul.compose? a b = some n) :
    jamoSet.testBit b = true := by
  rw [testBit_jamo]
  rw [Hangul.compose?] at h
  unfold Hangul.vowels Hangul.finals at h
  split at h
  · omega
  · split at h
    · omega
    · cases h

/-- What two characters make is taken apart into them. -/
theorem Makes.decompose {a b c : Char} (h : Makes a b c) :
    Unicode.decompose 3 c = Unicode.decompose 3 a ++ [b] := by
  cases h with
  | pair h =>
      have ha : isDeeper 2 a = false := h.isDeeper_left (isDeeper_three c)
      rw [Unicode.decompose, takenApart_pair h, decompose_succ ha]
  | hangul h =>
      rcases Hangul.parts?_of_compose? h with ⟨hjamo, hparts⟩ | ⟨parts, ha, hparts⟩
      · rw [Unicode.decompose, takenApart_syllable hparts, decompose_single (isComposite_of_jamo hjamo)]
        simp
      · rw [Unicode.decompose, takenApart_syllable hparts, Unicode.decompose, takenApart_syllable ha]
        simp

/-! ## Order of marks -/

/-- Put a character before others whose marks are in order. -/
def place (c : Char) (rest : List Char) : List Char :=
  if combiningClass c = 0 then c :: rest else insertMark c rest

theorem ordered_eq (cs : List Char) : ordered cs = cs.foldr place [] := rfl

theorem ordered_cons (c : Char) (cs : List Char) : ordered (c :: cs) = place c (ordered cs) := by
  rw [ordered_eq, List.foldr_cons, ← ordered_eq]

theorem ordered_append (cs ds : List Char) : ordered (cs ++ ds) = cs.foldr place (ordered ds) := by
  rw [ordered_eq, List.foldr_append, ← ordered_eq]

/-- Marks of different classes can be inserted in any order. -/
theorem insertMark_comm {c d : Char} (hd : combiningClass d ≠ 0)
    (hlt : combiningClass d < combiningClass c) (cs : List Char) :
    insertMark c (insertMark d cs) = insertMark d (insertMark c cs) := by
  induction cs with
  | nil => 
      have hnot : ¬combiningClass c < combiningClass d := by omega
      simp [insertMark, hd, hlt, hnot]
  | cons e rest ih =>
      by_cases he : combiningClass e ≠ 0
      · rcases Nat.lt_or_ge (combiningClass e) (combiningClass d) with hed | hed
        · have hec := Nat.lt_trans hed hlt
          simp only [insertMark, hed, hec, he, ne_eq, not_false_eq_true, and_self, if_true, ih]
        · rcases Nat.lt_or_ge (combiningClass e) (combiningClass c) with hec | hec
          · simp [insertMark, Nat.not_lt_of_le hed, hec, he, hd, hlt]
          · have hnot : ¬combiningClass c < combiningClass d := by omega
            simp [insertMark, Nat.not_lt_of_le hed, Nat.not_lt_of_le hec, hd, hlt, hnot]
      · have hnot : ¬combiningClass c < combiningClass d := by omega
        simp [insertMark, he, hd, hlt, hnot]

/-- A mark can be written before marks of lower classes. -/
theorem ordered_mark_comm {c : Char} {marks : List Char}
    (h : ∀ m ∈ marks, combiningClass m ≠ 0 ∧ combiningClass m < combiningClass c)
    (rest : List Char) : ordered (c :: (marks ++ rest)) = ordered (marks ++ c :: rest) := by
  induction marks with
  | nil => rw [List.nil_append, List.nil_append]
  | cons m marks ih =>
      obtain ⟨⟨hm, hlt⟩, hmarks⟩ := List.forall_mem_cons.mp h
      have hc : combiningClass c ≠ 0 := by omega
      calc ordered (c :: (m :: marks ++ rest))
          = insertMark c (insertMark m (ordered (marks ++ rest))) := by
            simp [ordered_cons, place, hc, hm]
        _ = insertMark m (insertMark c (ordered (marks ++ rest))) := insertMark_comm hm hlt _
        _ = insertMark m (ordered (c :: (marks ++ rest))) := by
            simp [ordered_cons, place, hc]
        _ = ordered (m :: marks ++ c :: rest) := by
            rw [ih hmarks, List.cons_append, ordered_cons, place, if_neg hm]

/-- The marks of a text stand in order. -/
def InOrder : List Char → Prop
  | [] => True
  | c :: rest =>
    (∀ d ∈ rest.head?, combiningClass d = 0 ∨ combiningClass c ≤ combiningClass d) ∧ InOrder rest

theorem ordered_of_inOrder {cs : List Char} (h : InOrder cs) : ordered cs = cs := by
  induction cs with
  | nil => rfl
  | cons c rest ih =>
      rw [ordered_cons, ih h.2, place]
      split
      · rfl
      · cases rest with
        | nil => rfl
        | cons d rest =>
            have hd := h.1 d rfl
            rw [insertMark, if_neg (by omega)]

theorem insertMark_inOrder {c : Char} {cs : List Char} (h : InOrder cs) :
    InOrder (insertMark c cs) := by
  induction cs with
  | nil => exact ⟨nofun, trivial⟩
  | cons d rest ih =>
      rw [insertMark]
      split
      · next hd =>
        refine ⟨fun e he => ?_, ih h.2⟩
        cases rest with
        | nil =>
            obtain rfl : c = e := by simpa [insertMark] using he
            omega
        | cons f rest =>
            rw [insertMark] at he
            split at he
            · exact h.1 e he
            · obtain rfl : c = e := by simpa using he
              omega
      · next hd =>
        refine ⟨fun e he => ?_, h⟩
        obtain rfl : d = e := by simpa using he
        omega

theorem ordered_inOrder (cs : List Char) : InOrder (ordered cs) := by
  induction cs with
  | nil => trivial
  | cons c rest ih =>
      rw [ordered_cons, place]
      split
      · next hc => exact ⟨fun d _ => .inr (by omega), ih⟩
      · exact insertMark_inOrder ih

theorem mem_insertMark {c d : Char} {cs : List Char} : d ∈ insertMark c cs ↔ d = c ∨ d ∈ cs := by
  induction cs with
  | nil => rw [insertMark, List.mem_singleton]; simp
  | cons e rest ih =>
      rw [insertMark]
      split
      · rw [List.mem_cons, ih, List.mem_cons, or_left_comm]
      · rw [List.mem_cons]

theorem mem_ordered {d : Char} {cs : List Char} : d ∈ ordered cs ↔ d ∈ cs := by
  induction cs with
  | nil => rw [ordered_eq, List.foldr_nil]
  | cons c rest ih =>
      rw [ordered_cons, place]
      split
      · rw [List.mem_cons, ih, List.mem_cons]
      · rw [mem_insertMark, ih, List.mem_cons]

/-! ## Putting together -/

namespace Waiting

/-- What waits as a text. -/
def text (w : Waiting) : List Char := w.base :: w.marks.reverse

/-- What taking in a character can do. -/
inductive Takes (w : Waiting) (c : Char) : Prop
  /-- The character is put together with the one that waits. -/
  | makes (d : Char) (hreach : inReach w.marks c = true) (hmakes : Makes w.base c d)
      (h : w.take c = ([], ⟨d, w.marks⟩))
  /-- What waits is settled, and the character waits now. -/
  | settles (hclass : combiningClass c = 0) (h : w.take c = (w.text, ⟨c, []⟩))
  /-- The character is a mark that waits with the others. -/
  | waits (hclass : combiningClass c ≠ 0) (h : w.take c = ([], ⟨w.base, c :: w.marks⟩))

theorem takes (w : Waiting) (c : Char) : w.Takes c := by
  have htake := take.eq_def w c
  split at htake
  · next d hcompose =>
    split at hcompose
    · next hreach => exact .makes d hreach (makes_of_compose? hcompose) htake
    · cases hcompose
  · split at htake
    · next hclass => exact .settles hclass htake
    · next hclass => exact .waits hclass htake

/-- What waits is ready for a text if all marks stand in order and nothing but what waits first can
be taken apart. -/
structure Ready (w : Waiting) (rest : List Char) : Prop where
  moved : ∀ m ∈ w.marks, combiningClass m ≠ 0
  sorted : w.marks.Pairwise fun m m' => combiningClass m' ≤ combiningClass m
  next : ∀ c ∈ rest.head?, combiningClass c = 0 ∨ ∀ m ∈ w.marks, combiningClass m ≤ combiningClass c
  inOrder : InOrder rest
  single : ∀ c ∈ w.marks ++ rest, isComposite c = false

theorem Ready.decomposed_text {w : Waiting} {rest : List Char} (h : w.Ready rest) :
    decomposed w.text = decompose 3 w.base ++ w.marks.reverse := by
  rw [text, decomposed_cons, decomposed_of_isComposite fun c hc =>
    h.single c (List.mem_append_left _ (List.mem_reverse.mp hc))]

/-- All marks that wait are of lower classes than one that is within reach. -/
theorem Ready.lower {w : Waiting} {c : Char} {rest : List Char} (h : w.Ready (c :: rest))
    (hreach : inReach w.marks c = true) :
    ∀ m ∈ w.marks, combiningClass m ≠ 0 ∧ combiningClass m < combiningClass c := by
  intro m hm
  refine ⟨h.moved m hm, ?_⟩
  have hsorted := h.sorted
  cases hmarks : w.marks with
  | nil =>
      rw [hmarks] at hm
      cases hm
  | cons mark marks =>
      rw [hmarks] at hm hsorted hreach
      have hmark : combiningClass mark < combiningClass c := of_decide_eq_true hreach
      rcases List.mem_cons.mp hm with rfl | hm
      · exact hmark
      · exact Nat.lt_of_le_of_lt ((List.pairwise_cons.mp hsorted).1 m hm) hmark

/-- Taking in a character keeps what waits ready. -/
theorem Ready.take {w : Waiting} {c : Char} {rest : List Char} (h : w.Ready (c :: rest)) :
    (w.take c).2.Ready rest := by
  have hsingle : ∀ d ∈ w.marks ++ rest, isComposite d = false := fun d hd => by
    refine h.single d ?_
    simp only [List.mem_append, List.mem_cons] at hd ⊢
    exact hd.imp_right .inr
  obtain ⟨hnext, hrest⟩ := h.inOrder
  cases w.takes c with
  | makes d hreach hmakes htake =>
      rw [htake]
      refine ⟨h.moved, h.sorted, fun e he => ?_, hrest, hsingle⟩
      rcases hnext e he with hzero | hle
      · exact .inl hzero
      · exact .inr fun m hm => Nat.le_trans (Nat.le_of_lt (h.lower hreach m hm).2) hle
  | settles hclass htake =>
      rw [htake]
      exact ⟨nofun, .nil, fun e he => .inr nofun, hrest,
        fun d hd => hsingle d (List.mem_append_right _ hd)⟩
  | waits hclass htake =>
      rw [htake]
      -- The marks are in order, so the next one has no lower class.
      have hbefore : ∀ m ∈ w.marks, combiningClass m ≤ combiningClass c :=
        (h.next c rfl).resolve_left hclass
      refine ⟨List.forall_mem_cons.mpr ⟨hclass, h.moved⟩,
        List.pairwise_cons.mpr ⟨hbefore, h.sorted⟩, fun e he => ?_, hrest, ?_⟩
      · rcases hnext e he with hzero | hle
        · exact .inl hzero
        · exact .inr (List.forall_mem_cons.mpr
            ⟨hle, fun m hm => Nat.le_trans (hbefore m hm) hle⟩)
      · exact List.forall_mem_cons.mpr ⟨h.single c (by simp), hsingle⟩

/-- Taking in a character is undone by taking apart and ordering. -/
theorem Ready.ordered_take {w : Waiting} {c : Char} {rest : List Char} (h : w.Ready (c :: rest))
    (t : List Char) :
    ordered (decomposed ((w.take c).1 ++ (w.take c).2.text) ++ t) =
      ordered (decomposed w.text ++ c :: t) := by
  have hc : decomposed [c] = [c] := decomposed_of_isComposite
    fun d hd => h.single d (by simp [List.mem_singleton.mp hd])
  have hready := h.take
  cases w.takes c with
  | makes d hreach hmakes htake =>
      rw [htake] at hready ⊢
      have hmoved : ∀ m ∈ w.marks.reverse,
          combiningClass m ≠ 0 ∧ combiningClass m < combiningClass c :=
        fun m hm => h.lower hreach m (List.mem_reverse.mp hm)
      rw [List.nil_append, hready.decomposed_text, h.decomposed_text, hmakes.decompose]
      simp only [List.append_assoc, List.singleton_append]
      -- The marks that are passed over have lower classes, so they can change places with `c`.
      rw [ordered_append, List.cons_append, ordered_mark_comm hmoved, ← ordered_append]
  | settles hclass htake =>
      rw [htake, decomposed_append]
      simp only [text, List.reverse_nil, hc, List.append_assoc, List.singleton_append]
  | waits hclass htake =>
      have htext : (⟨w.base, c :: w.marks⟩ : Waiting).text = w.text ++ [c] := by simp [text]
      rw [htake, List.nil_append, htext, decomposed_append, hc, List.append_assoc,
        List.singleton_append]

/-- Composing is undone by taking apart and ordering. -/
theorem Ready.ordered_composeFrom {w : Waiting} {rest : List Char} (h : w.Ready rest) :
    ordered (decomposed (composeFrom w rest)) = ordered (decomposed w.text ++ rest) := by
  induction rest generalizing w with
  | nil => rw [composeFrom, List.append_nil, text]
  | cons c rest ih =>
      rw [composeFrom, decomposed_append, ordered_append, ih h.take, ← ordered_append,
        ← List.append_assoc, ← decomposed_append, h.ordered_take]

end Waiting

/-- Composing a text whose marks stand in order is undone by taking apart and ordering. -/
theorem ordered_decomposed_composed {cs : List Char} (hin : InOrder cs)
    (hsingle : ∀ c ∈ cs, isComposite c = false) : ordered (decomposed (composed cs)) = ordered cs := by
  induction cs with
  | nil => rw [composed, decomposed, List.flatMap_nil]
  | cons c rest ih =>
      obtain ⟨hc, hrest⟩ := List.forall_mem_cons.mp hsingle
      rw [composed]
      split
      · have hready : Waiting.Ready ⟨c, []⟩ rest :=
          ⟨nofun, .nil, fun _ _ => .inr nofun, hin.2, hrest⟩
        rw [hready.ordered_composeFrom, hready.decomposed_text, decompose_single hc]
        simp
      · rw [decomposed_cons, decompose_single hc, List.singleton_append, ordered_cons, ih hin.2 hrest,
          ← ordered_cons]

/-- A text taken apart and put together. -/
def recomposed (cs : List Char) : List Char := composed (ordered (decomposed cs))

theorem recomposed_recomposed (cs : List Char) : recomposed (recomposed cs) = recomposed cs := by
  have hin := ordered_inOrder (decomposed cs)
  have hundo : ordered (decomposed (recomposed cs)) = ordered (decomposed cs) := by
    rw [recomposed, ordered_decomposed_composed hin
      fun c hc => isComposite_of_mem_decomposed (mem_ordered.mp hc), ordered_of_inOrder hin]
  rw [recomposed, hundo, ← recomposed]

end LoadMonitor.Unicode
