import LoadMonitor.Proofs.Binary64.Value
import LoadMonitor.Proofs.Dashboard.Contents
import LoadMonitor.Proofs.Json.Integer

/-!
# Grouped numbers are faithful

Commas only stand between the digits of a number, so the number can be read off the text again,
and they stand before every third digit from the right. The sign is that of the rounded value,
which may be zero where the value is not.
-/

namespace LoadMonitor

/-- Decimal digits of a number, without superfluous zeros. -/
structure IsNumeral (ds : List Char) (n : Nat) : Prop where
  digits : ∀ c ∈ ds, c.isDigit = true
  value : Nat.ofDigitChars 10 ds 0 = n
  ne_nil : ds ≠ []
  first : ds.head? = some '0' → ds = ['0']

theorem isNumeral_toDigits (n : Nat) : IsNumeral (Nat.toDigits 10 n) n where
  digits := Json.isDigit_of_mem_toDigits
  value := Nat.ofDigitChars_ten_toDigits
  ne_nil := Nat.toDigits_ne_nil
  first := by
    intro hzero
    rcases Nat.eq_zero_or_pos n with rfl | hpos
    · rfl
    · obtain ⟨d, ds, hdigits, hd⟩ := Json.toDigits_head hpos
      rw [hdigits, List.head?_cons, Option.some.injEq] at hzero
      exact absurd (hzero ▸ rfl) hd

namespace Grouped

/-! ## Groups -/

/-- Groups of three, before which there is one of one, two or three. -/
def InThrees : List (List Char) → Prop
  | [] => False
  | first :: rest => 1 ≤ first.length ∧ first.length ≤ 3 ∧ ∀ group ∈ rest, group.length = 3

/-- All digits but those of the first group come in threes. -/
theorem InThrees.length_flatten {first : List Char} {rest : List (List Char)}
    (h : InThrees (first :: rest)) :
    (first :: rest).flatten.length = first.length + 3 * rest.length := by
  obtain ⟨-, -, hrest⟩ := h
  rw [List.flatten_cons, List.length_append, Nat.add_left_cancel_iff]
  induction rest with
  | nil => rfl
  | cons group rest ih =>
      obtain ⟨hgroup, hrest⟩ := List.forall_mem_cons.mp hrest
      rw [List.flatten_cons, List.length_append, hgroup, ih hrest, List.length_cons]
      omega

/-- The digits are cut into groups, with commas between them. -/
theorem digits_inThrees {cs : List Char} (h : cs ≠ []) :
    ∃ first rest, InThrees (first :: rest) ∧ (first :: rest).flatten = cs ∧
      digits cs = [','].intercalate (first :: rest) := by
  induction cs using digits.induct with
  | case1 => exact absurd rfl h
  | case2 c => exact ⟨[c], [], ⟨Nat.le_refl 1, Nat.le_add_left 1 2, List.forall_mem_nil _⟩, rfl, rfl⟩
  | case3 c d cs hcomma ih =>
      obtain ⟨first, rest, hthrees, hflatten, hdigits⟩ := ih (List.cons_ne_nil d cs)
      have hlength := hthrees.length_flatten
      obtain ⟨hpos, hle, hrest⟩ := hthrees
      rw [hflatten] at hlength
      -- What follows is made of whole groups, so its first group is one of three.
      have hfirst : first.length = 3 := by omega
      refine ⟨[c], first :: rest, ⟨Nat.le_refl 1, Nat.le_add_left 1 2, ?_⟩, ?_, ?_⟩
      · exact List.forall_mem_cons.mpr ⟨hfirst, hrest⟩
      · rw [List.flatten_cons, hflatten, List.singleton_append]
      · rw [digits, if_pos hcomma, hdigits, List.intercalate_cons_cons]
        rfl
  | case4 c d cs hplain ih =>
      obtain ⟨first, rest, hthrees, hflatten, hdigits⟩ := ih (List.cons_ne_nil d cs)
      have hlength := hthrees.length_flatten
      obtain ⟨hpos, hle, hrest⟩ := hthrees
      rw [hflatten] at hlength
      -- The first group is not full yet.
      have hfirst : first.length < 3 := by
        by_contra hfull
        exact hplain (by omega)
      refine ⟨c :: first, rest, ⟨Nat.le_add_left 1 _, hfirst, hrest⟩, ?_, ?_⟩
      · rw [List.flatten_cons, List.cons_append, ← List.flatten_cons, hflatten]
      · rw [digits, if_neg hplain, hdigits]
        cases rest with
        | nil => rfl
        | cons => rfl

/-- Without the commas only the digits are left. -/
theorem filter_digits {cs : List Char} {p : Char → Bool} (hcomma : p ',' = false)
    (h : ∀ c ∈ cs, p c = true) : (digits cs).filter p = cs := by
  induction cs using digits.induct with
  | case1 => rfl
  | case2 c => exact List.filter_eq_self.mpr h
  | case3 c d cs hgroup ih =>
      obtain ⟨hc, hrest⟩ := List.forall_mem_cons.mp h
      rw [digits, if_pos hgroup, List.filter_cons_of_pos hc,
        List.filter_cons_of_neg (Bool.not_eq_true _ ▸ hcomma), ih hrest]
  | case4 c d cs hgroup ih =>
      obtain ⟨hc, hrest⟩ := List.forall_mem_cons.mp h
      rw [digits, if_neg hgroup, List.filter_cons_of_pos hc, ih hrest]

theorem head?_digits (cs : List Char) : (digits cs).head? = cs.head? := by
  cases cs using digits.induct with
  | case1 => rfl
  | case2 c => rfl
  | case3 c d cs hgroup => rw [digits, if_pos hgroup]; rfl
  | case4 c d cs hgroup => rw [digits, if_neg hgroup]; rfl

/-! ## The number and its sign -/

theorem magnitude_eq (x : Binary64) : magnitude x = x.nearestWhole := by
  unfold magnitude Binary64.nearestWhole
  rw [Binary64.round_value, Int.toNat_natCast]
  rfl

theorem showsMinus_iff (x : Binary64) : showsMinus x = true ↔ x.RoundsBelowZero := by
  unfold showsMinus Binary64.RoundsBelowZero
  rw [Binary64.round_value, Binary64.value_neg_iff, Int.natCast_ne_zero]
  -- Only what has a magnitude is rounded to something.
  have hmagnitude : x.roundedMagnitude ≠ 0 → x.magnitude ≠ 0 := by
    intro hrounded hzero
    refine hrounded (Nat.div_eq_of_lt ?_)
    have hunit := Binary64.unit_pos
    omega
  rcases x.kinds with ⟨hnan, hinfinite, hfinite⟩ | ⟨hnan, hinfinite, hfinite⟩ |
    ⟨hnan, hinfinite, hfinite⟩
  · simp [hnan, hinfinite, hfinite]
  · simp [hnan, hinfinite, hfinite]
  · simp only [hnan, hinfinite, hfinite, Bool.not_false, Bool.true_and, Bool.false_or,
      Bool.and_eq_true, bne_iff_ne, Bool.false_eq_true, false_and, false_or, true_and]
    exact ⟨fun ⟨hneg, hrounded⟩ => ⟨⟨hneg, hmagnitude hrounded⟩, hrounded⟩,
      fun ⟨⟨hneg, _⟩, hrounded⟩ => ⟨hneg, hrounded⟩⟩

theorem toList_text (x : Binary64) : (text x).toList =
    (if showsMinus x then ['-'] else []) ++ digits (Nat.toDigits 10 x.nearestWhole) := by
  unfold text
  dsimp only
  rw [String.toList_ofList, magnitude_eq]
  split <;> rfl

/-- Without commas and sign, the text is the numeral. -/
theorem filter_text (x : Binary64) :
    ((text x).toList.filter fun c => c ≠ ',' ∧ c ≠ '-') = Nat.toDigits 10 x.nearestWhole := by
  have hdigits : ∀ c ∈ Nat.toDigits 10 x.nearestWhole, decide (c ≠ ',' ∧ c ≠ '-') = true := by
    intro c hc
    rw [decide_eq_true_eq]
    constructor <;> rintro rfl
    · exact notMem_toDigits (by decide) _ hc
    · exact notMem_toDigits (by decide) _ hc
  rw [toList_text, List.filter_append, filter_digits (by decide) hdigits]
  split <;> rfl

theorem head?_text (x : Binary64) : (text x).toList.head? = some '-' ↔ x.RoundsBelowZero := by
  have hdigits : (digits (Nat.toDigits 10 x.nearestWhole)).head? ≠ some '-' := by
    rw [head?_digits]
    exact fun hhead => notMem_toDigits (by decide) _ (List.mem_of_mem_head? hhead)
  rw [toList_text, ← showsMinus_iff]
  cases showsMinus x with
  | true => exact iff_of_true rfl rfl
  | false => exact iff_of_false hdigits Bool.false_ne_true

/-- **Grouped numbers are faithful.** Without commas and sign, what is shown for a double is the
numeral of the nearest whole number; the commas cut its digits into groups of three, the first of
which may be shorter. There is a minus sign for what is rounded to a number below zero and for
nothing else. So the text tells the number and its sign, and they tell the text. -/
theorem text_faithful (x : Binary64) :
    IsNumeral ((text x).toList.filter fun c => c ≠ ',' ∧ c ≠ '-') x.nearestWhole ∧
      (∃ sign groups, (text x).toList = sign ++ [','].intercalate groups ∧
        (sign = [] ∨ sign = ['-']) ∧ InThrees groups ∧
        IsNumeral groups.flatten x.nearestWhole) ∧
      ((text x).toList.head? = some '-' ↔ x.RoundsBelowZero) ∧
      (x.isNaN = true ∨ x.isFinite = true ∧ -1 / 2 < x.value →
        (text x).toList.head? ≠ some '-') ∧
      ∀ y : Binary64, text x = text y ↔
        x.nearestWhole = y.nearestWhole ∧ (x.RoundsBelowZero ↔ y.RoundsBelowZero) := by
  have hnumeral := isNumeral_toDigits x.nearestWhole
  refine ⟨?_, ?_, head?_text x, ?_, fun y => ⟨fun heq => ?_, ?_⟩⟩
  · rw [filter_text]
    exact hnumeral
  · obtain ⟨first, rest, hthrees, hflatten, hdigits⟩ := digits_inThrees hnumeral.ne_nil
    refine ⟨_, first :: rest, hdigits ▸ toList_text x, ?_, hthrees, hflatten ▸ hnumeral⟩
    split
    · exact .inr rfl
    · exact .inl rfl
  · rw [Ne, head?_text]
    rintro (hnan | ⟨hfinite, habove⟩)
    · exact Binary64.not_roundsBelowZero_of_isNaN hnan
    · exact Binary64.not_roundsBelowZero_of_lt hfinite habove
  · -- The digits tell the number, and the first character tells the sign.
    refine ⟨toDigits_inj ?_, ?_⟩
    · rw [← filter_text, ← filter_text, heq]
    · rw [← head?_text, ← head?_text, heq]
  · rintro ⟨hnumber, hsign⟩
    have hminus : showsMinus x = showsMinus y := by
      rw [Bool.eq_iff_iff, showsMinus_iff, showsMinus_iff, hsign]
    rw [← String.toList_inj, toList_text, toList_text, hnumber, hminus]

end Grouped
end LoadMonitor
