import LoadMonitor.Unicode.Table
import Mathlib.Algebra.Ring.Nat

/-!
# Looking up characters

The search in a table finds the span around a code point if there is one, provided that the spans
stand in ascending order. So a table is the set of the code points of its spans.

What tables say about each other is checked on such sets. A set is a number here, whose bits are
the code points in it: tables of many thousands of code points are then compared in few steps.
-/

namespace LoadMonitor.Unicode

theorem CodeSpan.contains_iff {s : CodeSpan} {n : Nat} :
    s.contains n = true ↔ s.first ≤ n ∧ n ≤ s.last ∧ (n - s.first) % s.step = 0 := by
  simp [CodeSpan.contains, and_assoc]

/-! ## Searching -/

namespace CodeTable

/-- The search finds spans of the table only. -/
theorem mem_of_search {spans : Array CodeSpan} {n low high : Nat} {s : CodeSpan}
    (h : search spans n low high = some s) : s ∈ spans := by
  fun_induction search spans n low high with
  | case1 low high hlt middle hnone => cases h
  | case2 low high hlt middle t ht hbelow ih => exact ih h
  | case3 low high hlt middle t ht hnot habove ih => exact ih h
  | case4 low high hlt middle t ht hnot hnot' =>
      cases h
      exact Array.mem_of_getElem? ht
  | case5 low high hge => cases h

/-- Spans are in ascending order if each ends before the next one begins. -/
def ascending : List CodeSpan → Bool
  | [] => true
  | [s] => s.first ≤ s.last
  | s :: t :: rest => s.first ≤ s.last && s.last < t.first && ascending (t :: rest)

/-- In ascending order every span ends before all later ones. -/
theorem pairwise_of_ascending {spans : List CodeSpan} (h : ascending spans = true) :
    (∀ s ∈ spans, s.first ≤ s.last) ∧ spans.Pairwise fun s t => s.last < t.first := by
  induction spans with
  | nil => exact ⟨nofun, .nil⟩
  | cons s rest ih =>
      cases rest with
      | nil =>
          refine ⟨fun u hu => ?_, List.pairwise_singleton _ _⟩
          rw [List.mem_singleton.mp hu]
          simpa [ascending] using h
      | cons t rest =>
          simp only [ascending, Bool.and_eq_true, decide_eq_true_eq] at h
          obtain ⟨⟨hs, hst⟩, hrest⟩ := h
          obtain ⟨hbounds, hpairs⟩ := ih hrest
          refine ⟨List.forall_mem_cons.mpr ⟨hs, hbounds⟩,
            List.pairwise_cons.mpr ⟨fun u hu => ?_, hpairs⟩⟩
          rcases List.mem_cons.mp hu with rfl | hu
          · exact hst
          · have ht := hbounds t List.mem_cons_self
            have htu := (List.pairwise_cons.mp hpairs).1 u hu
            omega

/-- In ascending order the search finds the span around a code point. -/
theorem search_eq_some {spans : Array CodeSpan} (h : ascending spans.toList = true)
    {n low high i : Nat} {s : CodeSpan} (hs : spans[i]? = some s) (hlow : low ≤ i) (hhigh : i < high)
    (hsize : high ≤ spans.size) (hfirst : s.first ≤ n) (hlast : n ≤ s.last) :
    search spans n low high = some s := by
  obtain ⟨hbounds, hpairs⟩ := pairwise_of_ascending h
  have hbefore : ∀ {j k : Nat} {t u : CodeSpan}, spans[j]? = some t → spans[k]? = some u → j < k →
      t.last < u.first := by
    intro j k t u ht hu hjk
    obtain ⟨hj, rfl⟩ := Array.getElem?_eq_some_iff.mp ht
    obtain ⟨hk, rfl⟩ := Array.getElem?_eq_some_iff.mp hu
    exact List.pairwise_iff_getElem.mp hpairs j k hj hk hjk
  have hbound : ∀ {j : Nat} {t : CodeSpan}, spans[j]? = some t → t.first ≤ t.last :=
    fun ht => hbounds _ (Array.mem_toList_iff.mpr (Array.mem_of_getElem? ht))
  fun_induction search spans n low high with
  | case1 low high hlt middle hnone =>
      have := Array.getElem?_eq_none_iff.mp hnone
      omega
  -- The middle span begins after `n`, so the span around `n` is in front of it.
  | case2 low high hlt middle t ht hbelow ih =>
      refine ih hlow (Nat.lt_of_not_le fun hle => ?_) (by omega)
      have := hbound ht
      rcases Nat.eq_or_lt_of_le hle with rfl | hlt'
      · rw [ht, Option.some.injEq] at hs
        subst hs
        omega
      · have := hbefore ht hs hlt'
        omega
  -- The middle span ends before `n`, so the span around `n` is behind it.
  | case3 low high hlt middle t ht hnot habove ih =>
      refine ih (Nat.lt_of_not_le fun hle => ?_) hhigh hsize
      rcases Nat.eq_or_lt_of_le hle with rfl | hlt'
      · rw [ht, Option.some.injEq] at hs
        subst hs
        omega
      · have := hbefore hs ht hlt'
        have := hbound hs
        omega
  -- The middle span is around `n`, and no two spans are.
  | case4 low high hlt middle t ht hnot hnot' =>
      rcases Nat.lt_trichotomy i middle with hi | rfl | hi
      · have := hbefore hs ht hi
        omega
      · rw [← ht, hs]
      · have := hbefore ht hs hi
        omega
  | case5 low high hge => omega

variable {t : CodeTable} {c : Char} {n : Nat} {s : CodeSpan}

theorem mem_of_find? (h : t.find? n = some s) : s ∈ t.spans.toList ∧ s.contains n = true := by
  obtain ⟨hsearch, hcontains⟩ := Option.filter_eq_some_iff.mp h
  exact ⟨Array.mem_toList_iff.mpr (mem_of_search hsearch), hcontains⟩

theorem find?_eq_some (h : ascending t.spans.toList = true) (hs : s ∈ t.spans.toList)
    (hn : s.contains n = true) : t.find? n = some s := by
  obtain ⟨i, hi, hget⟩ := Array.mem_iff_getElem.mp (Array.mem_toList_iff.mp hs)
  obtain ⟨hfirst, hlast, -⟩ := CodeSpan.contains_iff.mp hn
  rw [find?, search_eq_some h (Array.getElem?_eq_some_iff.mpr ⟨hi, hget⟩) (Nat.zero_le i) hi
    (Nat.le_refl _) hfirst hlast, Option.filter_some, if_pos hn]

end CodeTable

/-! ## Sets of code points -/

/-- The code points in a list, as the bits of a number. -/
def bitsOfList (ns : List Nat) : Nat := ns.foldl (fun set n => set ||| 1 <<< n) 0

/-- The code points of a span. -/
def CodeSpan.bits (s : CodeSpan) : Nat :=
  if s.step = 1 then (2 ^ (s.last + 1 - s.first) - 1) <<< s.first
  else bitsOfList ((List.range' s.first (s.last + 1 - s.first)).filter (s.contains ·))

/-- The code points of spans. They are put together from the lowest on, so that the numbers on the
way stay short as long as they can. -/
def bitsOf (spans : List CodeSpan) : Nat := spans.foldl (fun set s => set ||| s.bits) 0

theorem testBit_foldl_or {α : Type} {f : α → Nat} {as : List α} {set n : Nat} :
    (as.foldl (fun set a => set ||| f a) set).testBit n = true ↔
      set.testBit n = true ∨ ∃ a ∈ as, (f a).testBit n = true := by
  induction as generalizing set with
  | nil => simp
  | cons a rest ih => simp [ih, or_assoc]

theorem testBit_bitsOfList {ns : List Nat} {n : Nat} :
    (bitsOfList ns).testBit n = true ↔ n ∈ ns := by
  simp [bitsOfList, testBit_foldl_or, Nat.one_shiftLeft, Nat.testBit_two_pow]

theorem CodeSpan.testBit_bits {s : CodeSpan} {n : Nat} :
    s.bits.testBit n = true ↔ s.contains n = true := by
  rw [CodeSpan.bits]
  split
  · next hstep =>
      simp only [Nat.testBit_shiftLeft, Nat.testBit_two_pow_sub_one, CodeSpan.contains_iff, hstep,
        Nat.mod_one, Bool.and_eq_true, decide_eq_true_eq, and_true]
      omega
  · rw [testBit_bitsOfList, List.mem_filter, List.mem_range'_1, and_iff_right_iff_imp]
    intro h
    have := CodeSpan.contains_iff.mp h
    omega

theorem testBit_bitsOf {spans : List CodeSpan} {n : Nat} :
    (bitsOf spans).testBit n = true ↔ ∃ s ∈ spans, s.contains n = true := by
  simp [bitsOf, testBit_foldl_or, CodeSpan.testBit_bits]

/-- The part of a set below a bound. -/
theorem testBit_mod_of_lt {set n k : Nat} (h : n < k) :
    (set % 2 ^ k).testBit n = set.testBit n := by
  rw [Nat.testBit_mod_two_pow, decide_eq_true h, Bool.true_and]

/-- Sets without a common element. -/
theorem testBit_eq_false_of_and_eq_zero {a b n : Nat} (h : a &&& b = 0)
    (ha : a.testBit n = true) : b.testBit n = false := by
  have hboth : (a &&& b).testBit n = false := by rw [h, Nat.zero_testBit]
  simpa [Nat.testBit_and, ha] using hboth

namespace CodeTable

/-- The code points of a table. -/
def bits (t : CodeTable) : Nat := bitsOf t.spans.toList

variable {t : CodeTable} {c : Char} {n : Nat} {s : CodeSpan}

theorem testBit_of_find? (h : t.find? n = some s) : t.bits.testBit n = true :=
  testBit_bitsOf.mpr ⟨s, mem_of_find? h⟩

theorem find?_eq_none (h : t.bits.testBit n = false) : t.find? n = none := by
  rw [Option.eq_none_iff_forall_ne_some]
  intro s hs
  rw [testBit_of_find? hs] at h
  cases h

theorem values?_eq_none (h : t.bits.testBit c.toNat = false) : t.values? c = none := by
  rw [values?, find?_eq_none h, Option.map_none]

theorem replacement?_eq_none (h : t.bits.testBit c.toNat = false) : t.replacement? c = none := by
  rw [replacement?, find?_eq_none h, Option.map_none]

theorem value_eq_zero (h : t.bits.testBit c.toNat = false) : t.value c = 0 := by
  rw [value, values?_eq_none h]

theorem contains_eq_false (h : t.bits.testBit c.toNat = false) : t.contains c = false := by
  rw [contains, find?_eq_none h, Option.isSome_none]

theorem exists_find?_of_testBit (h : ascending t.spans.toList = true)
    (hn : t.bits.testBit n = true) : ∃ s, t.find? n = some s := by
  obtain ⟨s, hs, hcontains⟩ := testBit_bitsOf.mp hn
  exact ⟨s, find?_eq_some h hs hcontains⟩

theorem contains_eq_testBit (h : ascending t.spans.toList = true) :
    t.contains c = t.bits.testBit c.toNat := by
  rw [contains, Bool.eq_iff_iff, Option.isSome_iff_exists]
  exact ⟨fun ⟨_, hs⟩ => testBit_of_find? hs, exists_find?_of_testBit h⟩

end CodeTable

/-! ## Tables as they are written -/

/-- Lines and their characters. -/
inductive Spelled : List String → List (List Char) → Prop
  | nil : Spelled [] []
  | cons {rows : List String} {texts : List (List Char)} (text : List Char) :
      Spelled rows texts → Spelled (String.ofList text :: rows) (text :: texts)

/-- The spans that lines of a table hold. -/
def spansOf (texts : List (List Char)) : List CodeSpan :=
  texts.flatMap fun text =>
    ((splitAtChars (· == ' ') text).filter (!·.isEmpty)).map CodeSpan.ofText

/-- The spans of a table, read from the characters of its lines. -/
theorem CodeTable.spans_ofRows {rows : List String} {texts : List (List Char)}
    (h : Spelled rows texts) : (CodeTable.ofRows rows).spans.toList = spansOf texts := by
  have hrows : rows = texts.map String.ofList := by
    induction h with
    | nil => rfl
    | cons text _ ih => rw [ih, List.map_cons]
  rw [hrows]
  simp [CodeTable.ofRows, spansOf, List.flatMap_map]

/-! Comparing tables means reading all of their text in the kernel. The functions below read as
those of the model do, but with the recursors of texts and pairs themselves: this takes half as long
as the recursions that the others are compiled to. -/

/-- The pieces between separators. -/
noncomputable def piecesOf (isSeparator : Char → Bool) (text : List Char) : List (List Char) :=
  List.rec [[]] (fun c _ pieces =>
    Bool.rec (List.rec [[c]] (fun piece rest _ => (c :: piece) :: rest) pieces) ([] :: pieces)
      (isSeparator c)) text

theorem splitAtChars_eq {isSeparator : Char → Bool} {text : List Char} :
    splitAtChars isSeparator text = piecesOf isSeparator text := by
  induction text with
  | nil => rfl
  | cons c cs ih =>
      show splitAtChars isSeparator (c :: cs) =
        Bool.rec
          (List.rec [[c]] (fun piece rest _ => (c :: piece) :: rest) (piecesOf isSeparator cs))
          ([] :: piecesOf isSeparator cs) (isSeparator c)
      rw [splitAtChars, ih]
      cases isSeparator c <;> cases piecesOf isSeparator cs <;> rfl

/-- The parts before and after the first occurrence of a character. -/
noncomputable def partsAt (c : Char) (text : List Char) : List Char × Option (List Char) :=
  List.rec ([], none) (fun d ds parts =>
    Bool.rec (Prod.rec (fun before after => (d :: before, after)) parts) ([], some ds)
      (d == c)) text

theorem cutAtChar_eq {c : Char} {text : List Char} : cutAtChar c text = partsAt c text := by
  induction text with
  | nil => rfl
  | cons d ds ih =>
      show cutAtChar c (d :: ds) =
        Bool.rec (Prod.rec (fun before after => (d :: before, after)) (partsAt c ds)) ([], some ds)
          (d == c)
      rw [cutAtChar, ih]
      by_cases h : d = c
      · rw [if_pos h, beq_iff_eq.mpr h]
      · rw [if_neg h, beq_false_of_ne h]

/-- The value of a hexadecimal numeral. -/
noncomputable def numberOf (digits : List Char) : Nat :=
  List.rec (motive := fun _ => Nat → Nat) (fun n => n)
    (fun c _ rest n => rest (16 * n + hexDigitValue c)) digits 0

theorem hexValue_eq (digits : List Char) : hexValue digits = numberOf digits := by
  suffices h : ∀ n, digits.foldl (fun n c => 16 * n + hexDigitValue c) n =
      List.rec (motive := fun _ => Nat → Nat) (fun n => n)
        (fun c _ rest n => rest (16 * n + hexDigitValue c)) digits n from h 0
  induction digits with
  | nil => exact fun n => rfl
  | cons c cs ih => exact fun n => ih (16 * n + hexDigitValue c)

namespace CodeSpan

/-- A span without its values. -/
noncomputable def boundedBy (bounds : List Char) (values : List Nat) : CodeSpan :=
  match partsAt '-' bounds with
  | (first, some last) => ⟨numberOf first, numberOf last, 1, values⟩
  | (_, none) =>
    match partsAt '~' bounds with
    | (first, some last) => ⟨numberOf first, numberOf last, 2, values⟩
    | (point, none) => ⟨numberOf point, numberOf point, 1, values⟩

/-- A span with its values. -/
noncomputable def spelled (text : List Char) : CodeSpan :=
  match partsAt '=' text with
  | (bounds, some values) => boundedBy bounds ((piecesOf (· == '.') values).map numberOf)
  | (bounds, none) => boundedBy bounds []

theorem ofBounds_eq {bounds : List Char} {values : List Nat} :
    ofBounds bounds values = boundedBy bounds values := by
  rw [ofBounds, cutAtChar_eq, cutAtChar_eq, funext hexValue_eq]
  rfl

theorem ofText_eq {text : List Char} : ofText text = spelled text := by
  rw [ofText, cutAtChar_eq, funext hexValue_eq]
  simp only [splitAtChars_eq, ofBounds_eq]
  rfl

end CodeSpan

/-- The spans that lines of a table hold, as the kernel reads them. -/
noncomputable def spelledSpans (texts : List (List Char)) : List CodeSpan :=
  texts.flatMap fun text => ((piecesOf (· == ' ') text).filter (!·.isEmpty)).map CodeSpan.spelled

theorem CodeTable.spans_of_spelled {rows : List String} {texts : List (List Char)}
    (h : Spelled rows texts) : (CodeTable.ofRows rows).spans.toList = spelledSpans texts := by
  have hread : CodeSpan.ofText = CodeSpan.spelled := funext fun _ => CodeSpan.ofText_eq
  rw [spans_ofRows h, spansOf, spelledSpans]
  simp only [splitAtChars_eq, hread]

/-- The part of a table with certain first values. -/
def CodeTable.only (t : CodeTable) (p : Nat → Bool) : CodeTable :=
  ⟨t.spans.filter fun s => p (s.values.headD 0)⟩

theorem CodeTable.value_of_only {t : CodeTable} {p : Nat → Bool} {c : Char} (hzero : p 0 = false)
    (h : (t.only p).bits.testBit c.toNat = false) : p (t.value c) = false := by
  rw [← Bool.not_eq_true]
  intro hp
  rw [value] at hp
  split at hp
  · next v rest hvalues =>
    obtain ⟨s, hfind, hs⟩ := Option.map_eq_some_iff.mp hvalues
    obtain ⟨hmem, hcontains⟩ := mem_of_find? hfind
    have hbit : (t.only p).bits.testBit c.toNat = true := by
      refine testBit_bitsOf.mpr ⟨s, ?_, hcontains⟩
      rw [only, Array.toList_filter, List.mem_filter]
      exact ⟨hmem, by rw [hs]; exact hp⟩
    rw [h] at hbit
    cases hbit
  · rw [hzero] at hp
    cases hp

/-- A table has nothing in common with a set. -/
def CodeTable.Avoids (t : CodeTable) (set : Nat) : Prop := set &&& t.bits = 0

theorem CodeTable.avoids_ofRows {rows : List String} {texts : List (List Char)} {set : Nat}
    (h : Spelled rows texts) (hset : set &&& bitsOf (spelledSpans texts) = 0) :
    (CodeTable.ofRows rows).Avoids set := by
  rwa [Avoids, bits, spans_of_spelled h]

theorem CodeTable.only_avoids_ofRows {rows : List String} {texts : List (List Char)} {set : Nat}
    {p : Nat → Bool} (h : Spelled rows texts)
    (hset : set &&& bitsOf ((spelledSpans texts).filter fun s => p (s.values.headD 0)) = 0) :
    ((CodeTable.ofRows rows).only p).Avoids set := by
  rwa [Avoids, bits, only, Array.toList_filter, spans_of_spelled h]

theorem CodeTable.Avoids.testBit_eq_false {t : CodeTable} {set n : Nat} (h : t.Avoids set)
    (hn : set.testBit n = true) : t.bits.testBit n = false :=
  testBit_eq_false_of_and_eq_zero h hn

end LoadMonitor.Unicode
