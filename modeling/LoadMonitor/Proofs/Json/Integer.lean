import LoadMonitor.Json.Numeral
import LoadMonitor.Proofs.Json.Escape

/-!
# Integers are read back

The decimal text of an integer is a numeral, and if 64 bits are enough for the integer, the number of
the numeral is the integer itself and no double.
-/

namespace LoadMonitor.Json

/-! ## Digits -/

/-- The value of a decimal digit. -/
def decimalValue (c : Char) : Nat := c.toNat - '0'.toNat

theorem digit_range {c : Char} (h : c.isDigit = true) : 0x30 ≤ c.toNat ∧ c.toNat ≤ 0x39 := by
  have hval : '0'.val.toNat ≤ c.val.toNat ∧ c.val.toNat ≤ '9'.val.toNat := by
    simpa only [Char.isDigit, Bool.and_eq_true, decide_eq_true_eq, UInt32.le_iff_toNat_le] using h
  exact hval

theorem isDigit_byte {c : Char} (h : c.isDigit = true) : isDigit (byte c) = true := by
  obtain ⟨hlow, hhigh⟩ := digit_range h
  have hnat := byte_toNat (c := c) (by omega)
  simp only [isDigit, Bool.and_eq_true, decide_eq_true_eq, UInt8.le_iff_toNat_le, hnat]
  exact ⟨hlow, hhigh⟩

theorem digitValue_byte {c : Char} (h : c.isDigit = true) :
    digitValue (byte c) = decimalValue c := by
  obtain ⟨hlow, hhigh⟩ := digit_range h
  rw [digitValue, byte_toNat (by omega)]
  rfl

/-- What may stand behind a value: a comma, a closing bracket or the end of the text. -/
def Ends (rest : Bytes) : Prop :=
  ∀ b ∈ rest.head?, b = byte ',' ∨ b = byte ']' ∨ b = byte '\x7d'

/-- The digits of a text are read up to its end. -/
theorem readDigits_byte {cs : List Char} (hcs : ∀ c ∈ cs, c.isDigit = true) {rest : Bytes}
    (hrest : Ends rest) : readDigits (utf8 cs ++ rest) = (cs.map decimalValue, rest) := by
  induction cs with
  | nil =>
      cases rest with
      | nil => rfl
      | cons b rest =>
          have hb : isDigit b = false := by
            obtain rfl | rfl | rfl := hrest b rfl <;> decide
          simp [readDigits, hb]
  | cons c cs ih =>
      obtain ⟨hc, hcs⟩ := List.forall_mem_cons.mp hcs
      obtain ⟨hlow, hhigh⟩ := digit_range hc
      obtain ⟨hvalues, hbehind⟩ := Prod.mk.inj (ih hcs)
      rw [utf8_cons, utf8EncodeChar_ascii (by omega), List.append_assoc, List.singleton_append]
      simp only [readDigits, List.takeWhile_cons, List.dropWhile_cons, isDigit_byte hc, if_true,
        List.map_cons, digitValue_byte hc, hvalues, hbehind]

/-- A number other than zero does not begin with a zero. -/
theorem toDigits_head {n : Nat} (hn : 0 < n) :
    ∃ d ds, Nat.toDigits 10 n = d :: ds ∧ decimalValue d ≠ 0 := by
  induction n using Nat.strongRecOn with
  | ind n ih =>
      by_cases hlt : n < 10
      · refine ⟨_, [], Nat.toDigits_of_lt_base hlt, ?_⟩
        rw [decimalValue]
        show n.digitChar.toNat - 48 ≠ 0
        rw [Nat.toNat_digitChar_sub_48_of_lt_ten hlt]
        omega
      · obtain ⟨d, ds, hdigits, hd⟩ := ih (n / 10) (by omega) (by omega)
        refine ⟨d, ds ++ [(n % 10).digitChar], ?_, hd⟩
        rw [Nat.toDigits_of_base_le (by decide) (by omega), hdigits]
        rfl

/-! ## Numerals -/

/-- The numeral of an integer. -/
def Numeral.ofInt (i : Int) : Numeral where
  negative := decide (i < 0)
  whole := (Nat.toDigits 10 i.natAbs).map decimalValue
  places := none
  exponent := none

section Reading

variable (atEnd : DecodeError) {rest : Bytes} (hrest : Ends rest)

theorem isDigit_of_mem_toDigits {n : Nat} : ∀ c ∈ Nat.toDigits 10 n, c.isDigit = true :=
  fun _ => Nat.isDigit_of_mem_toDigits (by decide) (by decide)

theorem toDigits_bytes (n : Nat) (rest : Bytes) :
    ∃ b more, utf8 (Nat.toDigits 10 n) ++ rest = b :: more ∧ isDigit b = true := by
  obtain ⟨c, cs, hcs⟩ := List.exists_cons_of_ne_nil (Nat.toDigits_ne_nil (n := n) (b := 10))
  have hc := isDigit_of_mem_toDigits c (hcs ▸ List.mem_cons_self)
  obtain ⟨hlow, hhigh⟩ := digit_range hc
  refine ⟨byte c, utf8 cs ++ rest, ?_, isDigit_byte hc⟩
  rw [hcs, utf8_cons, utf8EncodeChar_ascii (by omega)]
  rfl

include hrest

theorem readWhole_toDigits (n : Nat) :
    readWhole atEnd (utf8 (Nat.toDigits 10 n) ++ rest) =
      .ok ((Nat.toDigits 10 n).map decimalValue, rest) := by
  have hread : readSomeDigits atEnd (utf8 (Nat.toDigits 10 n) ++ rest) =
      .ok ((Nat.toDigits 10 n).map decimalValue, rest) :=
    readSomeDigits_eq_ok.mpr
      ⟨toDigits_bytes n rest, readDigits_byte isDigit_of_mem_toDigits hrest⟩
  rw [readWhole, hread, Reading.ok_bind]
  dsimp only
  split
  next hzero =>
    -- A zero with digits behind it: the text of zero has none, and no other begins with one.
    obtain rfl | hn := Nat.eq_zero_or_pos n
    · cases hzero
    · obtain ⟨d, ds, hdigits, hd⟩ := toDigits_head hn
      rw [hdigits] at hzero
      exact absurd (List.cons.inj hzero).1 hd
  next => rfl

theorem readPlaces_ends : readPlaces atEnd rest = .ok (none, rest) := by
  cases rest with
  | nil => rfl
  | cons b rest => obtain rfl | rfl | rfl := hrest b rfl <;> rfl

theorem readExponent_ends : readExponent atEnd rest = .ok (none, rest) := by
  cases rest with
  | nil => rfl
  | cons b rest => obtain rfl | rfl | rfl := hrest b rfl <;> rfl

theorem readUnsigned_toDigits (negative : Bool) (n : Nat) :
    readUnsigned atEnd negative (utf8 (Nat.toDigits 10 n) ++ rest) =
      .ok (⟨negative, (Nat.toDigits 10 n).map decimalValue, none, none⟩, rest) := by
  simp [readUnsigned, readWhole_toDigits atEnd hrest, readPlaces_ends atEnd hrest,
    readExponent_ends atEnd hrest]

/-- The text of an integer is read as its numeral. -/
theorem readNumeral_integer (i : Int) :
    readNumeral atEnd (utf8 (toString i).toList ++ rest) = .ok (Numeral.ofInt i, rest) := by
  rw [Int.toString_eq_repr, Int.repr_eq_if]
  by_cases hi : 0 ≤ i
  · obtain ⟨b, more, hbs, hb⟩ := toDigits_bytes i.toNat rest
    have hminus : b ≠ byte '-' := by
      rintro rfl
      exact absurd hb (by decide)
    have habs : i.natAbs = i.toNat := by omega
    have hread := readUnsigned_toDigits atEnd hrest false i.toNat
    rw [if_pos hi, Nat.toList_repr, Numeral.ofInt, habs, decide_eq_false (by omega)]
    rw [hbs] at hread ⊢
    rw [readNumeral, if_neg hminus, hread]
  · have habs : i.natAbs = (-i).toNat := by omega
    have hread := readUnsigned_toDigits atEnd hrest true (-i).toNat
    rw [if_neg hi, String.toList_append, Nat.toList_repr, Numeral.ofInt, habs,
      decide_eq_true (by omega)]
    exact hread

end Reading

/-! ## Values -/

/-- A number only grows by more digits. -/
theorem le_foldl_digits (ds : List Nat) (n : Nat) : n ≤ ds.foldl (fun n d => 10 * n + d) n := by
  induction ds generalizing n with
  | nil => exact Nat.le_refl n
  | cons d ds ih => exact Nat.le_trans (by omega) (ih (10 * n + d))

/-- All digits are taken of a number below the limit. -/
theorem takeDigits_eq {ds : List Nat} {n : Nat}
    (h : ds.foldl (fun n d => 10 * n + d) n < Nat.pow 2 64) :
    takeDigits n ds = (ds.foldl (fun n d => 10 * n + d) n, []) := by
  induction ds generalizing n with
  | nil => rfl
  | cons d ds ih =>
      have hd : 10 * n + d < Nat.pow 2 64 := Nat.lt_of_le_of_lt (le_foldl_digits ds _) h
      rw [takeDigits, if_pos hd]
      exact ih h

theorem takeDigits_toDigits {n : Nat} (h : n < Nat.pow 2 64) :
    takeDigits 0 ((Nat.toDigits 10 n).map decimalValue) = (n, []) := by
  have hvalue : ((Nat.toDigits 10 n).map decimalValue).foldl (fun n d => 10 * n + d) 0 = n := by
    rw [List.foldl_map]
    exact Nat.ofDigitChars_ten_toDigits
  rw [takeDigits_eq (by rwa [hvalue]), hvalue]

/-- Integers for which 64 bits are enough, with a sign or without. -/
def InRange (i : Int) : Prop := -((Nat.pow 2 63 : Nat) : Int) ≤ i ∧ i < (Nat.pow 2 64 : Nat)

theorem Numeral.value_ofInt {i : Int} (h : InRange i) : (ofInt i).value = some (.integer i) := by
  obtain ⟨hlow, hhigh⟩ := h
  have hpow : Nat.pow 2 64 = 2 ^ 64 ∧ Nat.pow 2 63 = 2 ^ 63 := ⟨rfl, rfl⟩
  have htake := takeDigits_toDigits (n := i.natAbs) (by omega)
  simp only [Numeral.value, ofInt, htake, List.isEmpty_nil, Option.isNone_none, Bool.and_self,
    if_true, Bool.not_eq_true', decide_eq_false_iff_not]
  by_cases hi : i < 0
  · have hsign : ¬ (i.natAbs = 0 ∨ Nat.pow 2 63 < i.natAbs) := by omega
    have habs : -(i.natAbs : Int) = i := by omega
    rw [if_neg (not_not_intro hi), if_neg hsign, habs]
  · have habs : (i.natAbs : Int) = i := by omega
    rw [if_pos hi, habs]

end LoadMonitor.Json
