import LoadMonitor.Proofs.Binary64.Order
import Mathlib.Algebra.Order.Floor.Semifield
import Mathlib.Algebra.Order.Round
import Mathlib.Data.Rat.Floor
import Mathlib.Tactic.FieldSimp
import Mathlib.Tactic.Linarith

/-!
# Whole numbers from doubles

A finite double is a rational number. What is shown of it as a whole number is described by that
number: the part before the point, or the nearest whole number, held at the largest 64-bit integer.
-/

namespace LoadMonitor.Binary64

/-- The value of a finite double. -/
def value (x : Binary64) : ℚ := (x.scaled : ℚ) / (unit : ℚ)

/-- The largest 64-bit integer. -/
def limit : Nat := Nat.pow 2 64 - 1

variable {x y : Binary64} {a : Int}

/-! ## The part before the point -/

/-- The whole part of the value, held between zero and the largest 64-bit integer; zero for a
NaN. -/
def wholePart (x : Binary64) : Nat :=
  if x.isNaN then 0
  else if x.isInfinite then if x.negative then 0 else limit
  else Nat.min ⌊x.value⌋₊ limit

theorem floor_value (x : Binary64) : ⌊x.value⌋₊ = x.scaled.toNat / unit := by
  unfold value
  rcases Int.le_total 0 x.scaled with hle | hle
  · obtain ⟨n, hn⟩ := Int.eq_ofNat_of_zero_le hle
    rw [hn, Int.cast_natCast, Nat.floor_div_eq_div, Int.toNat_natCast]
  · rw [Int.toNat_of_nonpos hle, Nat.zero_div]
    exact Nat.floor_of_nonpos (div_nonpos_of_nonpos_of_nonneg (Int.cast_nonpos.mpr hle)
      (Nat.cast_nonneg unit))

theorem truncate_eq_wholePart (x : Binary64) : x.truncate = x.wholePart := by
  unfold truncate wholePart
  rw [floor_value, scaled]
  cases x.isNaN with
  | true => rfl
  | false =>
      cases x.negative with
      | false => rfl
      | true =>
          simp only [Bool.or_true, if_true, Bool.false_eq_true, if_false, Int.toNat_neg_natCast,
            Nat.zero_div]
          split
          · rfl
          · exact (Nat.min_eq_left (Nat.zero_le _)).symm

/-- Beyond every finite double the limit has long been reached. -/
theorem limit_le_far : limit ≤ Nat.pow 2 2100 / unit := by
  decide +kernel

/-- The whole part is read off the place on the line. -/
theorem wholePart_of_position (h : x.position = some a) :
    x.wholePart = Nat.min (a.toNat / unit) limit := by
  have hnan := isNaN_of_position h
  have hplace := Option.some.inj (h.symm.trans (position_of_not_isNaN hnan))
  unfold wholePart
  rw [hnan, if_neg Bool.false_ne_true]
  cases hinfinite : x.isInfinite with
  | false =>
      have ha : a = x.scaled := by rw [hplace, reach_of_isFinite hinfinite, scaled]
      rw [if_neg Bool.false_ne_true, floor_value, ha]
  | true =>
      have hreach : x.reach = Nat.pow 2 2100 := if_pos hinfinite
      rw [hplace, hreach, if_pos rfl]
      split
      · rw [Int.toNat_neg_natCast, Nat.zero_div]
        exact (Nat.min_eq_left (Nat.zero_le _)).symm
      · rw [Int.toNat_natCast]
        exact (Nat.min_eq_right limit_le_far).symm

/-- Larger doubles have larger whole parts. -/
theorem wholePart_mono (h : x.le y = true) : x.wholePart ≤ y.wholePart := by
  obtain ⟨⟨a, ha⟩, b, hb⟩ := position_of_le h
  have hle := (le_iff ha hb).mp h
  rw [wholePart_of_position ha, wholePart_of_position hb]
  have hquotient : a.toNat / unit ≤ b.toNat / unit := Nat.div_le_div_right (Int.toNat_le_toNat hle)
  exact Nat.le_min.mpr ⟨Nat.le_trans (Nat.min_le_left _ _) hquotient, Nat.min_le_right _ _⟩

/-! ## The nearest whole number -/

/-- The size of the value rounded to the nearest whole number, a half going away from zero, held at
the largest 64-bit integer; zero for a NaN. -/
def nearestWhole (x : Binary64) : Nat :=
  if x.isNaN then 0
  else if x.isInfinite then limit
  else Nat.min (round |x.value|).toNat limit

/-- What is shown is below zero: negative infinity, or a value that is rounded to a whole number
below zero. -/
def RoundsBelowZero (x : Binary64) : Prop :=
  x.isInfinite = true ∧ x.negative = true ∨
    x.isFinite = true ∧ x.value < 0 ∧ round |x.value| ≠ 0

/-- A double is a NaN, infinite or finite, and only one of them. -/
theorem kinds (x : Binary64) :
    x.isNaN = true ∧ x.isInfinite = false ∧ x.isFinite = false ∨
      x.isNaN = false ∧ x.isInfinite = true ∧ x.isFinite = false ∨
      x.isNaN = false ∧ x.isInfinite = false ∧ x.isFinite = true := by
  unfold isNaN isInfinite isFinite bne
  cases x.exponent == 2047 <;> cases x.fraction == 0 <;> decide

theorem abs_value (x : Binary64) : |x.value| = (x.magnitude : ℚ) / (unit : ℚ) := by
  unfold value scaled
  rw [abs_div, Nat.abs_cast]
  split
  · rw [Int.cast_neg, abs_neg, Int.cast_natCast, Nat.abs_cast]
  · rw [Int.cast_natCast, Nat.abs_cast]

theorem round_value (x : Binary64) : round |x.value| = (x.roundedMagnitude : Int) := by
  have hunit : (unit : ℚ) ≠ 0 := Nat.cast_ne_zero.mpr (Nat.ne_of_gt unit_pos)
  have hhalf : |x.value| + 1 / 2 = ((2 * x.magnitude + unit : Nat) : ℚ) / ((2 * unit : Nat) : ℚ) := by
    rw [abs_value]
    push_cast
    field_simp
  rw [round_eq, hhalf, Rat.floor_natCast_div_natCast]
  rfl

theorem value_neg_iff (x : Binary64) : x.value < 0 ↔ x.negative = true ∧ x.magnitude ≠ 0 := by
  have hunit : (0 : ℚ) < unit := Nat.cast_pos.mpr unit_pos
  unfold value scaled
  rw [div_lt_iff₀ hunit, zero_mul, Int.cast_lt_zero]
  cases x.negative with
  | false => simp
  | true => simp [Nat.pos_iff_ne_zero]

theorem not_roundsBelowZero_of_isNaN (h : x.isNaN = true) : ¬x.RoundsBelowZero := by
  have hkinds := x.kinds
  rw [h] at hkinds
  rintro (⟨hinfinite, -⟩ | ⟨hfinite, -⟩)
  · simp [hinfinite] at hkinds
  · simp [hfinite] at hkinds

/-- A value above minus one half is not rounded to anything below zero. -/
theorem not_roundsBelowZero_of_lt (hfinite : x.isFinite = true) (h : -1 / 2 < x.value) :
    ¬x.RoundsBelowZero := by
  rintro (⟨hinfinite, -⟩ | ⟨-, hneg, hround⟩)
  · have hkinds := x.kinds
    rw [hfinite, hinfinite] at hkinds
    simp at hkinds
  · rw [abs_of_neg hneg] at hround
    exact hround (round_eq_zero_iff.mpr ⟨by linarith, by linarith⟩)

end LoadMonitor.Binary64
