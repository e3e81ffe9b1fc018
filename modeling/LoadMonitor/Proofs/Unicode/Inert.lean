import LoadMonitor.Proofs.Text.Split
import LoadMonitor.Proofs.Unicode.Normal

/-!
# Characters that composing leaves alone

What characters share with their parts is kept by composing: characters that stand for themselves in
names are made of such characters and make such characters. A full stop is neither taken apart nor
put together with others, so every label of a name in composed form is in that form itself. The same
is true of ideographs, and a text of them is in composed form.
-/

namespace LoadMonitor.Unicode

/-! ## Properties that characters share with their parts -/

/-- A property of all that Hangul is written with, and of other characters just if their parts have
it. -/
structure Shared (p : Char → Prop) : Prop where
  pair : ∀ {c a b : Char}, Pair c a b → (p c ↔ p a ∧ p b)
  syllable : ∀ {c : Char}, syllableSet.testBit c.toNat = true → p c
  jamo : ∀ {c : Char}, jamoSet.testBit c.toNat = true → p c

namespace Shared

variable {p : Char → Prop}

theorem makes (h : Shared p) {a b c : Char} (hmakes : Makes a b c) (ha : p a) (hb : p b) : p c := by
  cases hmakes with
  | pair hpair => exact (h.pair hpair).mpr ⟨ha, hb⟩
  | hangul hhangul => exact h.syllable (Hangul.syllable_of_compose? hhangul)

theorem decompose (h : Shared p) {k : Nat} {c : Char} (hc : p c) :
    ∀ d ∈ Unicode.decompose k c, p d := by
  induction k generalizing c with
  | zero =>
      intro d hd
      rwa [List.mem_singleton.mp hd]
  | succ k ih =>
      intro d hd
      rw [Unicode.decompose] at hd
      cases made c with
      | syllable parts hparts =>
          rw [takenApart_syllable hparts, List.mem_map] at hd
          obtain ⟨n, hn, rfl⟩ := hd
          have hjamo := Hangul.parts_jamo hparts hn
          exact h.jamo (by rwa [toNat_ofNat_jamo hjamo])
      | pair a b hpair =>
          obtain ⟨ha, hb⟩ := (h.pair hpair).mp hc
          rw [takenApart_pair hpair, List.mem_append, List.mem_singleton] at hd
          rcases hd with hd | rfl
          · exact ih ha d hd
          · exact hb
      | single hsingle =>
          rw [takenApart_single hsingle, List.mem_singleton] at hd
          rwa [hd]

theorem composeFrom (h : Shared p) {w : Waiting} {rest : List Char} (hw : ∀ c ∈ w.text, p c)
    (hrest : ∀ c ∈ rest, p c) : ∀ c ∈ Unicode.composeFrom w rest, p c := by
  induction rest generalizing w with
  | nil => exact hw
  | cons c rest ih =>
      obtain ⟨hc, hrest⟩ := List.forall_mem_cons.mp hrest
      obtain ⟨hbase, hmarks⟩ := List.forall_mem_cons.mp hw
      rw [Unicode.composeFrom]
      refine List.forall_mem_append.mpr ?_
      cases w.takes c with
      | makes d hreach hmakes htake =>
          rw [htake]
          have hd := h.makes hmakes hbase hc
          exact ⟨List.forall_mem_nil _, ih (List.forall_mem_cons.mpr ⟨hd, hmarks⟩) hrest⟩
      | settles hclass htake =>
          rw [htake]
          exact ⟨hw, ih (List.forall_mem_singleton.mpr hc) hrest⟩
      | waits hclass htake =>
          rw [htake]
          refine ⟨List.forall_mem_nil _, ih (List.forall_mem_cons.mpr ⟨hbase, fun d hd => ?_⟩) hrest⟩
          rw [List.mem_reverse, List.mem_cons, ← List.mem_reverse] at hd
          rcases hd with rfl | hd
          · exact hc
          · exact hmarks d hd

theorem composed (h : Shared p) {cs : List Char} (hcs : ∀ c ∈ cs, p c) :
    ∀ c ∈ Unicode.composed cs, p c := by
  induction cs with
  | nil => exact hcs
  | cons c rest ih =>
      obtain ⟨hc, hrest⟩ := List.forall_mem_cons.mp hcs
      rw [Unicode.composed]
      split
      · exact h.composeFrom (List.forall_mem_singleton.mpr hc) hrest
      · exact List.forall_mem_cons.mpr ⟨hc, ih hrest⟩

theorem recomposed (h : Shared p) {cs : List Char} (hcs : ∀ c ∈ cs, p c) :
    ∀ c ∈ Unicode.recomposed cs, p c := by
  refine h.composed fun c hc => ?_
  obtain ⟨d, hd, hc⟩ := List.mem_flatMap.mp (mem_ordered.mp hc)
  exact h.decompose (hcs d hd) c hc

end Shared

/-- Standing for oneself is such a property. -/
theorem shared_isChanging : Shared fun c => isChanging c = false where
  pair := fun hpair => by rw [hpair.facts.2.2, Bool.or_eq_false_iff]
  syllable := fun hc => testBit_eq_false_of_and_eq_zero nameTables_consistent.hangul
    (by rw [Nat.testBit_or, hc, Bool.true_or])
  jamo := fun hc => testBit_eq_false_of_and_eq_zero nameTables_consistent.hangul
    (by rw [Nat.testBit_or, hc, Bool.or_true])

/-! ## Characters that stay as they are -/

/-- A character that is neither moved nor taken apart nor put together with others. -/
structure Inert (c : Char) : Prop where
  unmoved : combiningClass c = 0
  single : isComposite c = false
  part : nameTables.parts.testBit c.toNat = false
  jamo : jamoSet.testBit c.toNat = false

namespace Inert

variable {c : Char}

theorem compose?_left (h : Inert c) (d : Char) : compose? c d = none := by
  rw [Option.eq_none_iff_forall_ne_some]
  intro e he
  cases makes_of_compose? he with
  | pair hpair =>
      have := hpair.mem_parts.1
      rw [h.part] at this
      cases this
  | hangul hhangul =>
      rcases Hangul.parts?_of_compose? hhangul with ⟨hjamo, -⟩ | ⟨parts, hparts, -⟩
      · rw [h.jamo] at hjamo
        cases hjamo
      · have hsingle := h.single
        rw [isComposite_eq, Bool.or_eq_false_iff, ← Hangul.parts?_eq_none_iff, hparts] at hsingle
        cases hsingle.1

theorem compose?_right (h : Inert c) (d : Char) : compose? d c = none := by
  rw [Option.eq_none_iff_forall_ne_some]
  intro e he
  cases makes_of_compose? he with
  | pair hpair =>
      have := hpair.mem_parts.2
      rw [h.part] at this
      cases this
  | hangul hhangul =>
      have := Hangul.jamo_of_compose? hhangul
      rw [h.jamo] at this
      cases this

/-- Other characters and their parts are different from it. -/
theorem shared_ne (h : Inert c) : Shared (· ≠ c) where
  pair := fun hpair => by
    refine iff_of_true ?_ ⟨?_, ?_⟩ <;> rintro rfl
    · have := hpair.isComposite
      rw [h.single] at this
      cases this
    · have := hpair.mem_parts.1
      rw [h.part] at this
      cases this
    · have := hpair.mem_parts.2
      rw [h.part] at this
      cases this
  syllable := fun hd => by
    rintro rfl
    have hsingle := h.single
    rw [isComposite_eq, hd] at hsingle
    cases hsingle
  jamo := fun hd => by
    rintro rfl
    rw [h.jamo] at hd
    cases hd

theorem mem_of_mem_recomposed (h : Inert c) {cs : List Char} (hc : c ∈ recomposed cs) : c ∈ cs := by
  refine Classical.byContradiction fun hnot => ?_
  exact h.shared_ne.recomposed (fun d hd heq => hnot (heq ▸ hd)) c hc rfl

theorem decomposed_append (h : Inert c) (front back : List Char) :
    decomposed (front ++ c :: back) = decomposed front ++ c :: decomposed back := by
  rw [Unicode.decomposed_append, decomposed_cons, decompose_single h.single, List.singleton_append]

theorem insertMark_append (h : Inert c) (d : Char) (front back : List Char) :
    insertMark d (front ++ c :: back) = insertMark d front ++ c :: back := by
  induction front with
  | nil => simp [insertMark, h.unmoved]
  | cons e rest ih =>
      rw [List.cons_append, insertMark, insertMark, ih]
      split <;> rfl

theorem ordered_append (h : Inert c) (front back : List Char) :
    ordered (front ++ c :: back) = ordered front ++ c :: ordered back := by
  induction front with
  | nil => rw [List.nil_append, ordered_cons, place, if_pos h.unmoved, ordered_eq [], List.foldr_nil,
      List.nil_append]
  | cons d rest ih =>
      rw [List.cons_append, ordered_cons, ordered_cons, ih, place, place]
      split
      · rfl
      · exact h.insertMark_append d _ _

theorem take_left (h : Inert c) (marks : List Char) (d : Char) :
    Waiting.take ⟨c, marks⟩ d =
      if combiningClass d = 0 then (c :: marks.reverse, ⟨d, []⟩) else ([], ⟨c, d :: marks⟩) := by
  rw [Waiting.take]
  simp only [h.compose?_left, ite_self]

theorem take_right (h : Inert c) (w : Waiting) : w.take c = (w.text, ⟨c, []⟩) := by
  rw [Waiting.take]
  simp only [h.compose?_right, ite_self, if_pos h.unmoved, Waiting.text]

/-- Nothing is put together with an inert character. -/
theorem composeFrom_left (h : Inert c) (marks rest : List Char) :
    composeFrom ⟨c, marks⟩ rest = c :: marks.reverse ++ composed rest := by
  induction rest generalizing marks with
  | nil => rw [composeFrom, composed, List.append_nil]
  | cons d rest ih =>
      rw [composeFrom, h.take_left, composed]
      split
      · rfl
      · rw [ih]
        simp

theorem composeFrom_append (h : Inert c) (w : Waiting) (front back : List Char) :
    composeFrom w (front ++ c :: back) = composeFrom w front ++ c :: composed back := by
  induction front generalizing w with
  | nil =>
      rw [List.nil_append, composeFrom, composeFrom, h.take_right, h.composeFrom_left]
      rfl
  | cons d rest ih => rw [List.cons_append, composeFrom, ih, composeFrom, List.append_assoc]

theorem composed_append (h : Inert c) (front back : List Char) :
    composed (front ++ c :: back) = composed front ++ c :: composed back := by
  induction front with
  | nil =>
      rw [List.nil_append, composed, composed, if_pos h.unmoved, h.composeFrom_left]
      rfl
  | cons d rest ih =>
      rw [List.cons_append, composed, composed, h.composeFrom_append, ih]
      split <;> rfl

theorem recomposed_append (h : Inert c) (front back : List Char) :
    recomposed (front ++ c :: back) = recomposed front ++ c :: recomposed back := by
  rw [recomposed, h.decomposed_append, h.ordered_append, h.composed_append, recomposed, recomposed]

end Inert

/-- A text of inert characters stays as it is. -/
theorem recomposed_of_inert {cs : List Char} (h : ∀ c ∈ cs, Inert c) : recomposed cs = cs := by
  have hnil : recomposed [] = [] := by
    rw [recomposed, decomposed, List.flatMap_nil, ordered_eq, List.foldr_nil, composed]
  induction cs with
  | nil => exact hnil
  | cons c rest ih =>
      obtain ⟨hc, hrest⟩ := List.forall_mem_cons.mp h
      have happend := hc.recomposed_append [] rest
      rwa [List.nil_append, hnil, List.nil_append, ih hrest] at happend

/-! ## Full stops and ideographs -/

set_option maxRecDepth 10000 in
theorem combiningClasses_avoids : combiningClasses.Avoids (1 <<< 0x2e ||| ideographSet) := by
  apply CodeTable.avoids_ofRows
  · repeat apply Spelled.cons
    apply Spelled.nil
  · decide +kernel

/-- Neither the full stop nor ideographs are marks that move. -/
theorem combiningClass_eq_zero {c : Char}
    (h : (1 <<< 0x2e ||| ideographSet).testBit c.toNat = true) : combiningClass c = 0 := by
  rw [combiningClass, CodeTable.value_eq_zero (combiningClasses_avoids.testBit_eq_false h)]

theorem inert_dot : Inert '.' := by
  have hdot := nameTables_consistent.dot
  rw [Nat.testBit_or, Bool.or_eq_false_iff] at hdot
  constructor
  case unmoved =>
    refine combiningClass_eq_zero ?_
    rw [Nat.testBit_or, Nat.one_shiftLeft]
    exact Bool.or_eq_true_iff.mpr (.inl (Nat.testBit_two_pow_self ..))
  case single => exact hdot.1
  case part => exact hdot.2
  case jamo =>
    rw [← Bool.not_eq_true, testBit_jamo]
    decide

theorem ideograph_facts {c : Char} (h : ideographSet.testBit c.toNat = true) :
    isChanging c = false ∧ isComposite c = false ∧ nameTables.parts.testBit c.toNat = false := by
  have hfree := testBit_eq_false_of_and_eq_zero nameTables_consistent.ideographs h
  rw [Nat.testBit_or, Nat.testBit_or, Bool.or_eq_false_iff, Bool.or_eq_false_iff] at hfree
  exact ⟨hfree.1.1, hfree.1.2, hfree.2⟩

theorem inert_ideograph {c : Char} (h : ideographSet.testBit c.toNat = true) : Inert c := by
  obtain ⟨-, hsingle, hpart⟩ := ideograph_facts h
  constructor
  case unmoved =>
    refine combiningClass_eq_zero ?_
    rw [Nat.testBit_or, h, Bool.or_true]
  case single => exact hsingle
  case part => exact hpart
  case jamo =>
    rw [ideographSet, testBit_bitsOf] at h
    rw [← Bool.not_eq_true, testBit_jamo]
    simp only [List.mem_singleton, exists_eq_left, CodeSpan.contains_iff] at h
    omega

/-! ## Labels -/

/-- Characters that stand for themselves still do so in composed form. -/
theorem normal_isChanging {cs : List Char} (h : ∀ c ∈ cs, isChanging c = false) :
    ∀ c ∈ normal cs, isChanging c = false := by
  rw [normal]
  split
  · exact h
  · exact shared_isChanging.recomposed h

theorem normal_eq {cs : List Char} (h : recomposed cs = cs) : normal cs = cs := by
  rw [normal]
  split
  · rfl
  · exact h

/-- Every label of a name in composed form is in composed form. -/
theorem normal_of_mem_split {cs label : List Char}
    (h : label ∈ splitAtChars (· == '.') (normal cs)) : normal label = label := by
  by_cases hascii : cs.all (·.toNat < 128) = true
  · rw [normal, if_pos hascii] at h
    refine if_pos (List.all_eq_true.mpr fun c hc => ?_)
    exact List.all_eq_true.mp hascii c (mem_of_mem_splitAtChars h hc)
  · rw [normal, if_neg hascii] at h
    change label ∈ splitAtChars (· == '.') (recomposed cs) at h
    refine normal_eq ?_
    have hlabels : splitAtChars (· == '.') (recomposed (recomposed cs)) =
        (splitAtChars (· == '.') (recomposed cs)).map recomposed := by
      refine splitAtChars_map (fun ds c hc hmem => ?_) (fun front c back hc => ?_) (recomposed cs)
      · rw [beq_iff_eq.mp hc] at hmem ⊢
        exact inert_dot.mem_of_mem_recomposed hmem
      · rw [beq_iff_eq.mp hc]
        exact inert_dot.recomposed_append front back
    rw [recomposed_recomposed] at hlabels
    have hid : (splitAtChars (· == '.') (recomposed cs)).map recomposed =
      (splitAtChars (· == '.') (recomposed cs)).map id := by rw [← hlabels, List.map_id]
    exact List.map_inj_left.mp hid label h

end LoadMonitor.Unicode
