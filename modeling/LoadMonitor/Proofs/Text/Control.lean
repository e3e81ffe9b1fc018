import LoadMonitor.Binary64.Shortest
import LoadMonitor.Proofs.Text.Split
import LoadMonitor.Proofs.Unicode.Table
import LoadMonitor.Proofs.Url.Address
import LoadMonitor.Text.Quoted

/-!
# Texts without controls

A terminal does not show controls but obeys them: they end lines, move the place where it writes
and begin sequences of commands. A text without them stays on its line and commands nothing.
Numbers have no controls in them, and quoting leaves none of any text.
-/

namespace LoadMonitor

/-! ## Controls -/

/-- Characters that a terminal obeys: the controls of ASCII, and those beyond it. -/
def isObeyed (c : Char) : Bool := c.toNat < 0x20 || (0x7f ≤ c.toNat && c.toNat < 0xa0)

/-- A text without controls. -/
def Tame (s : String) : Prop := ∀ c ∈ s.toList, isObeyed c = false

theorem isObeyed_eq_false_iff {c : Char} :
    isObeyed c = false ↔ 0x20 ≤ c.toNat ∧ (c.toNat < 0x7f ∨ 0xa0 ≤ c.toNat) := by
  simp only [isObeyed, Bool.or_eq_false_iff, Bool.and_eq_false_iff, decide_eq_false_iff_not]
  omega

theorem isObeyed_digitChar {base d : Nat} (hbase : base ≤ 16) (h : d < base) :
    isObeyed d.digitChar = false := by
  have hall : ∀ d ∈ List.range 16, isObeyed d.digitChar = false := by decide
  exact hall d (List.mem_range.mpr (Nat.lt_of_lt_of_le h hbase))

theorem isObeyed_of_mem_toDigits {base n : Nat} {c : Char} (hbase : 1 < base) (hhex : base ≤ 16)
    (h : c ∈ Nat.toDigits base n) : isObeyed c = false := by
  obtain ⟨d, hd, rfl⟩ := Url.mem_toDigits hbase h
  exact isObeyed_digitChar hhex hd

/-! ## Texts put together -/

variable {s t : String} {cs : List Char}

theorem Tame.ofList (h : ∀ c ∈ cs, isObeyed c = false) : Tame (String.ofList cs) := by
  unfold Tame
  rwa [String.toList_ofList]

/-- The characters of a fixed text are looked at one by one. -/
theorem Tame.of_all (h : s.toList.all (fun c => isObeyed c = false) = true) : Tame s :=
  forall_mem_of_all h

theorem Tame.append (hs : Tame s) (ht : Tame t) : Tame (s ++ t) := by
  unfold Tame
  rw [String.toList_append, List.forall_mem_append]
  exact ⟨hs, ht⟩

theorem Tame.intercalate {texts : List String} (hs : Tame s) (h : ∀ text ∈ texts, Tame text) :
    Tame (s.intercalate texts) := by
  intro c hc
  rw [String.toList_intercalate] at hc
  rcases mem_intercalate hc with hc | ⟨piece, hpiece, hc⟩
  · exact hs c hc
  · obtain ⟨text, htext, rfl⟩ := List.mem_map.mp hpiece
    exact h text htext c hc

/-! ## Numbers -/

theorem tame_nat (n : Nat) : Tame (toString n) :=
  .ofList fun _ hc => isObeyed_of_mem_toDigits (by decide) (by decide) hc

theorem tame_int (i : Int) : Tame (toString i) := by
  cases i with
  | ofNat n => exact tame_nat n
  | negSucc n => exact Tame.append (.of_all (by decide)) (tame_nat (n + 1))

namespace Binary64

theorem tame_decimal (d : Decimal) : ∀ c ∈ d.text, isObeyed c = false := by
  have hdigits : ∀ c ∈ Nat.toDigits 10 d.digits, isObeyed c = false := fun c hc =>
    isObeyed_of_mem_toDigits (by decide) (by decide) hc
  have hzeros : ∀ n, ∀ c ∈ List.replicate n '0', isObeyed c = false := by
    intro n c hc
    rw [(List.mem_replicate.mp hc).2]
    decide
  have hpoint : isObeyed '.' = false ∧ isObeyed '0' = false ∧ isObeyed 'e' = false := by decide
  -- The notations in turn: zeros behind, a point inside, zeros in front, an exponent.
  unfold Decimal.text
  dsimp only
  split
  · simp only [List.forall_mem_append, List.forall_mem_cons]
    exact ⟨⟨hdigits, hzeros _⟩, hpoint.1, hpoint.2.1, List.forall_mem_nil _⟩
  split
  · simp only [List.forall_mem_append, List.forall_mem_cons]
    exact ⟨fun c hc => hdigits c (List.mem_of_mem_take hc), hpoint.1,
      fun c hc => hdigits c (List.mem_of_mem_drop hc)⟩
  split
  · simp only [List.forall_mem_append, List.forall_mem_cons]
    exact ⟨⟨hpoint.2.1, hpoint.1, hzeros _⟩, hdigits⟩
  · rw [List.forall_mem_append, List.forall_mem_cons]
    refine ⟨?_, hpoint.2.2, tame_int _⟩
    generalize Nat.toDigits 10 d.digits = ds at hdigits ⊢
    split
    · exact hdigits
    · simp only [List.forall_mem_cons] at hdigits ⊢
      exact ⟨hdigits.1, hpoint.1, hdigits.2⟩
    · exact List.forall_mem_nil _

theorem tame_shortestText (x : Binary64) : Tame x.shortestText := by
  unfold shortestText
  split
  · exact .of_all (by decide)
  · apply Tame.ofList
    have hbody : ∀ c ∈ (if x.isInfinite then "inf".toList
        else if x.magnitude = 0 then "0.0".toList else x.shortest.text), isObeyed c = false := by
      split
      · exact forall_mem_of_all (by decide)
      split
      · exact forall_mem_of_all (by decide)
      · exact tame_decimal _
    split
    · exact List.forall_mem_cons.mpr ⟨by decide, hbody⟩
    · exact hbody

end Binary64

/-! ## Quoted texts -/

namespace Unicode

variable {spans : List CodeSpan} {first last : Nat}

/-- The spans stand in ascending order, and the first of them has the given bounds. -/
def opensWith (first last : Nat) (spans : List CodeSpan) : Bool :=
  CodeTable.ascending spans &&
    spans.head?.any fun s => s.first == first && s.last == last && s.step == 1

theorem CodeTable.contains_of_opensWith {t : CodeTable} {c : Char}
    (h : opensWith first last t.spans.toList = true) (hfirst : first ≤ c.toNat)
    (hlast : c.toNat ≤ last) : t.contains c = true := by
  obtain ⟨hascending, hhead⟩ := Bool.and_eq_true_iff.mp h
  obtain ⟨s, hs, hbounds⟩ := (Option.any_eq_true _ _).mp hhead
  simp only [Bool.and_eq_true, beq_iff_eq] at hbounds
  have hspan : s.contains c.toNat = true := by
    rw [CodeSpan.contains_iff, hbounds.2, Nat.mod_one]
    omega
  rw [contains, find?_eq_some hascending (List.mem_of_mem_head? hs) hspan]
  rfl

theorem opensWith_ofRows {rows : List String} {texts : List (List Char)} (h : Spelled rows texts)
    (hopens : opensWith first last (spelledSpans texts) = true) :
    opensWith first last (CodeTable.ofRows rows).spans.toList = true := by
  rwa [CodeTable.spans_of_spelled h]

set_option maxRecDepth 10000 in
/-- The first characters beyond those of ASCII that are shown are controls. -/
theorem unseen_opensWith : opensWith 0x7f 0xa0 unseen.spans.toList = true := by
  apply opensWith_ofRows
  · repeat apply Spelled.cons
    apply Spelled.nil
  · decide +kernel

end Unicode

namespace Quoted

theorem isObeyed_of_isVisible {c : Char} (h : isVisible c = true) : isObeyed c = false := by
  rw [isObeyed_eq_false_iff]
  unfold isVisible at h
  split at h
  case isTrue hascii => exact ⟨of_decide_eq_true h, .inl hascii⟩
  case isFalse hbeyond =>
    -- What is not ASCII is shown only if it is not among the characters that cannot be seen.
    have hseen : Unicode.unseen.contains c = false := by simpa using h
    have hnot : ¬c.toNat ≤ 0xa0 := by
      intro hle
      rw [Unicode.CodeTable.contains_of_opensWith Unicode.unseen_opensWith
        (Nat.le_of_not_lt hbeyond) hle] at hseen
      cases hseen
    omega

theorem isObeyed_escapeChar (c : Char) : ∀ d ∈ escapeChar c, isObeyed d = false := by
  unfold escapeChar
  iterate 6
    split
    · exact forall_mem_of_all (by decide)
  split
  case isTrue hvisible =>
    rw [List.forall_mem_singleton]
    exact isObeyed_of_isVisible hvisible
  case isFalse =>
    simp only [List.forall_mem_append, List.forall_mem_cons]
    exact ⟨by decide, by decide, by decide,
      fun d hd => isObeyed_of_mem_toDigits (by decide) (by decide) hd, by decide,
        List.forall_mem_nil _⟩

/-- No control is left in a quoted text, whatever the text is. -/
theorem tame_text (s : String) : Tame (text s) := by
  apply Tame.ofList
  unfold chars
  rw [List.forall_mem_cons, List.forall_mem_append, List.forall_mem_singleton]
  refine ⟨by decide, ?_, by decide⟩
  intro d hd
  obtain ⟨c, -, hd⟩ := List.mem_flatMap.mp hd
  exact isObeyed_escapeChar c d hd

end Quoted
end LoadMonitor
