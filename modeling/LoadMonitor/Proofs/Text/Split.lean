import LoadMonitor.Text.Split

/-!
# Texts character by character

A law of the ASCII characters can be checked on all of them. A cut at a separator is found again
when what should not hold it does not. So pieces that are written with separators between them are
the pieces that the text is cut into.
-/

namespace LoadMonitor

/-! ## Characters -/

theorem forall_ascii {p : Char → Prop} [DecidablePred p]
    (h : (List.range 128).all (fun n => p (Char.ofNat n)) = true) {c : Char} (hc : c.toNat < 128) :
    p c := by
  have hp := List.all_eq_true.mp h c.toNat (List.mem_range.mpr hc)
  rwa [decide_eq_true_eq, Char.ofNat_toNat] at hp

/-- A law of the characters of a text can be checked on them one after the other. -/
theorem forall_mem_of_all {p : Char → Prop} [DecidablePred p] {cs : List Char}
    (h : cs.all (fun c => p c) = true) : ∀ c ∈ cs, p c :=
  fun c hc => of_decide_eq_true (List.all_eq_true.mp h c hc)

/-- The code point of a character with a valid number. -/
theorem toNat_ofNat {n : Nat} (h : n.isValidChar) : (Char.ofNat n).toNat = n := by
  rw [Char.ofNat, dif_pos h]
  rfl

/-! ## Cutting at a character -/

theorem cutAtChar_of_not_mem {c : Char} {cs : List Char} (h : c ∉ cs) :
    cutAtChar c cs = (cs, none) := by
  induction cs with
  | nil => rfl
  | cons d rest ih =>
      obtain ⟨hd, hrest⟩ := List.ne_and_not_mem_of_not_mem_cons h
      rw [cutAtChar, if_neg (Ne.symm hd), ih hrest]

theorem cutAtChar_append {c : Char} {front : List Char} (h : c ∉ front) (back : List Char) :
    cutAtChar c (front ++ c :: back) = (front, some back) := by
  induction front with
  | nil => rw [List.nil_append, cutAtChar, if_pos rfl]
  | cons d rest ih =>
      obtain ⟨hd, hrest⟩ := List.ne_and_not_mem_of_not_mem_cons h
      rw [List.cons_append, cutAtChar, if_neg (Ne.symm hd), ih hrest]

/-- Two texts are alike before and after the first place at which a character stands. -/
theorem append_cons_inj {c : Char} {front front' back back' : List Char} (h : c ∉ front)
    (h' : c ∉ front') (heq : front ++ c :: back = front' ++ c :: back') :
    front = front' ∧ back = back' := by
  have hcut := congrArg (cutAtChar c) heq
  rw [cutAtChar_append h, cutAtChar_append h', Prod.mk.injEq, Option.some.injEq] at hcut
  exact hcut

theorem cutAtLastChar_of_not_mem {c : Char} {cs : List Char} (h : c ∉ cs) :
    cutAtLastChar c cs = (none, cs) := by
  induction cs with
  | nil => rfl
  | cons d rest ih =>
      obtain ⟨hd, hrest⟩ := List.ne_and_not_mem_of_not_mem_cons h
      rw [cutAtLastChar, ih hrest]
      simp only [if_neg (Ne.symm hd)]

theorem cutAtLastChar_append {c : Char} (front : List Char) {back : List Char} (h : c ∉ back) :
    cutAtLastChar c (front ++ c :: back) = (some front, back) := by
  induction front with
  | nil =>
      rw [List.nil_append, cutAtLastChar, cutAtLastChar_of_not_mem h]
      simp only [if_true]
  | cons d rest ih => rw [List.cons_append, cutAtLastChar, ih]

/-! ## Pieces -/

variable {isSeparator : Char → Bool}

theorem splitAtChars_of_forall {cs : List Char} (h : ∀ c ∈ cs, isSeparator c = false) :
    splitAtChars isSeparator cs = [cs] := by
  induction cs with
  | nil => rfl
  | cons c rest ih =>
      obtain ⟨hc, hrest⟩ := List.forall_mem_cons.mp h
      rw [splitAtChars, hc, ih hrest]
      rfl

theorem splitAtChars_append {front : List Char} (h : ∀ c ∈ front, isSeparator c = false) {c : Char}
    (hc : isSeparator c = true) (back : List Char) :
    splitAtChars isSeparator (front ++ c :: back) = front :: splitAtChars isSeparator back := by
  induction front with
  | nil => rw [List.nil_append, splitAtChars, if_pos hc]
  | cons d rest ih =>
      obtain ⟨hd, hrest⟩ := List.forall_mem_cons.mp h
      rw [List.cons_append, splitAtChars, hd, ih hrest]
      rfl

/-- A text has no separator, or a first one. -/
theorem exists_first_separator (isSeparator : Char → Bool) (cs : List Char) :
    (∀ c ∈ cs, isSeparator c = false) ∨
      ∃ front c back, cs = front ++ c :: back ∧ isSeparator c = true ∧
        ∀ c ∈ front, isSeparator c = false := by
  induction cs with
  | nil => exact .inl nofun
  | cons c rest ih =>
      cases hc : isSeparator c with
      | true => exact .inr ⟨[], c, rest, rfl, hc, nofun⟩
      | false =>
          rcases ih with hrest | ⟨front, d, back, rfl, hd, hfront⟩
          · exact .inl (List.forall_mem_cons.mpr ⟨hc, hrest⟩)
          · exact .inr ⟨c :: front, d, back, rfl, hd, List.forall_mem_cons.mpr ⟨hc, hfront⟩⟩

theorem splitAtChars_ne_nil (cs : List Char) : splitAtChars isSeparator cs ≠ [] := by
  rcases exists_first_separator isSeparator cs with hnone | ⟨front, c, back, rfl, hc, hfront⟩
  · rw [splitAtChars_of_forall hnone]
    nofun
  · rw [splitAtChars_append hfront hc]
    nofun

/-- No piece holds a separator. -/
theorem isSeparator_of_mem_splitAtChars {cs piece : List Char} {c : Char}
    (hpiece : piece ∈ splitAtChars isSeparator cs) (hc : c ∈ piece) : isSeparator c = false := by
  induction hlength : cs.length using Nat.strongRecOn generalizing cs with
  | ind n ih =>
      rcases exists_first_separator isSeparator cs with hnone | ⟨front, d, back, rfl, hd, hfront⟩
      · rw [splitAtChars_of_forall hnone, List.mem_singleton] at hpiece
        exact hnone c (hpiece ▸ hc)
      · rw [splitAtChars_append hfront hd, List.mem_cons] at hpiece
        rcases hpiece with rfl | hpiece
        · exact hfront c hc
        · rw [List.length_append, List.length_cons] at hlength
          exact ih back.length (by omega) hpiece rfl

theorem mem_of_mem_splitAtChars {cs piece : List Char} {c : Char}
    (hpiece : piece ∈ splitAtChars isSeparator cs) (hc : c ∈ piece) : c ∈ cs := by
  induction hlength : cs.length using Nat.strongRecOn generalizing cs with
  | ind n ih =>
      rcases exists_first_separator isSeparator cs with hnone | ⟨front, d, back, rfl, hd, hfront⟩
      · rw [splitAtChars_of_forall hnone, List.mem_singleton] at hpiece
        exact hpiece ▸ hc
      · rw [splitAtChars_append hfront hd, List.mem_cons] at hpiece
        rcases hpiece with rfl | hpiece
        · exact List.mem_append_left _ hc
        · rw [List.length_append, List.length_cons] at hlength
          exact List.mem_append_right _ (List.mem_cons_of_mem d
            (ih back.length (by omega) hpiece rfl))

/-- A function that leaves separators in place can be used on the pieces. -/
theorem splitAtChars_map {f : List Char → List Char}
    (hmem : ∀ cs c, isSeparator c = true → c ∈ f cs → c ∈ cs)
    (happend : ∀ front c back, isSeparator c = true → f (front ++ c :: back) = f front ++ c :: f back)
    (cs : List Char) :
    splitAtChars isSeparator (f cs) = (splitAtChars isSeparator cs).map f := by
  have hfree : ∀ cs, (∀ c ∈ cs, isSeparator c = false) → ∀ c ∈ f cs, isSeparator c = false := by
    intro cs hcs c hc
    rw [← Bool.not_eq_true]
    intro hsep
    rw [hcs c (hmem cs c hsep hc)] at hsep
    cases hsep
  induction hlength : cs.length using Nat.strongRecOn generalizing cs with
  | ind n ih =>
      rcases exists_first_separator isSeparator cs with hnone | ⟨front, c, back, rfl, hc, hfront⟩
      · rw [splitAtChars_of_forall hnone, splitAtChars_of_forall (hfree cs hnone), List.map_singleton]
      · rw [List.length_append, List.length_cons] at hlength
        rw [happend front c back hc, splitAtChars_append (hfree front hfront) hc,
          splitAtChars_append hfront hc, List.map_cons, ih back.length (by omega) back rfl]

theorem mem_intercalate {separator : List Char} {pieces : List (List Char)} {c : Char}
    (h : c ∈ separator.intercalate pieces) : c ∈ separator ∨ ∃ piece ∈ pieces, c ∈ piece := by
  induction pieces with
  | nil => cases h
  | cons piece rest ih =>
      cases rest with
      | nil =>
          rw [List.intercalate_singleton] at h
          exact .inr ⟨piece, List.mem_singleton_self piece, h⟩
      | cons next rest =>
          rw [List.intercalate_cons_cons, List.mem_append, List.mem_append] at h
          rcases h with (hpiece | hseparator) | hrest
          · exact .inr ⟨piece, List.mem_cons_self, hpiece⟩
          · exact .inl hseparator
          · exact (ih hrest).imp_right fun ⟨p, hp, hc⟩ => ⟨p, List.mem_cons_of_mem piece hp, hc⟩

/-- The pieces with the separators between them are the text. -/
theorem intercalate_splitAtChars (c : Char) (cs : List Char) :
    [c].intercalate (splitAtChars (· == c) cs) = cs := by
  induction hlength : cs.length using Nat.strongRecOn generalizing cs with
  | ind n ih =>
      rcases exists_first_separator (· == c) cs with hnone | ⟨front, d, back, rfl, hd, hfront⟩
      · rw [splitAtChars_of_forall hnone, List.intercalate_singleton]
      · rw [List.length_append, List.length_cons] at hlength
        rw [splitAtChars_append hfront hd, List.intercalate_cons_of_ne_nil (splitAtChars_ne_nil back),
          ih back.length (by omega) back rfl, beq_iff_eq.mp hd, List.append_assoc,
          List.singleton_append]

/-- Pieces with separators between them are found again. -/
theorem splitAtChars_intercalate {c : Char} (hc : isSeparator c = true) {pieces : List (List Char)}
    (hne : pieces ≠ []) (h : ∀ piece ∈ pieces, ∀ d ∈ piece, isSeparator d = false) :
    splitAtChars isSeparator ([c].intercalate pieces) = pieces := by
  induction pieces with
  | nil => exact absurd rfl hne
  | cons piece rest ih =>
      obtain ⟨hpiece, hrest⟩ := List.forall_mem_cons.mp h
      cases rest with
      | nil => rw [List.intercalate_singleton, splitAtChars_of_forall hpiece]
      | cons next rest =>
          rw [List.intercalate_cons_cons, List.append_assoc, List.singleton_append,
            splitAtChars_append hpiece hc, ih nofun hrest]

end LoadMonitor
