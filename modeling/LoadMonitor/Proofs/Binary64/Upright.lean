import LoadMonitor.Binary64.Rounding
import LoadMonitor.Proofs.Binary64.Order

/-!
# Doubles in the order of their patterns

Of doubles without a sign the one with the larger pattern is the larger one, and rounding never
turns the order of two values around. The pattern of a rounded value is found by counting: each
doubling of the step between neighbours is one more run of patterns.
-/

namespace LoadMonitor.Binary64

/-! ## Patterns -/

/-- The pattern of infinity; beyond it there are only NaNs and doubles with a sign. -/
def topPattern : Nat := 2047 * Nat.pow 2 52

/-- Neither a NaN nor signed. -/
def Upright (x : Binary64) : Prop := x.bits.toNat ≤ topPattern

variable {x y : Binary64}

theorem eq_of_bits (h : x.bits.toNat = y.bits.toNat) : x = y := by
  cases x; cases y
  rw [Binary64.mk.injEq]
  exact UInt64.toNat_inj.mp h

theorem Upright.negative_eq (h : x.Upright) : x.negative = false := by
  unfold Upright topPattern at h
  unfold negative
  simp only [Nat.pow_eq, Nat.reducePow] at h ⊢
  rw [Nat.div_eq_of_lt (by omega)]
  rfl

theorem Upright.exponent_eq (h : x.Upright) : x.exponent = x.bits.toNat / Nat.pow 2 52 := by
  unfold Upright topPattern at h
  unfold exponent
  simp only [Nat.pow_eq, Nat.reducePow] at h ⊢
  omega

theorem Upright.isNaN_eq (h : x.Upright) : x.isNaN = false := by
  have hexponent := h.exponent_eq
  unfold Upright topPattern at h
  unfold isNaN fraction
  rw [hexponent]
  simp only [Nat.pow_eq, Nat.reducePow] at h ⊢
  simp only [Bool.and_eq_false_iff, beq_eq_false_iff_ne, bne_eq_false_iff_eq]
  omega

theorem Upright.isInfinite_iff (h : x.Upright) :
    x.isInfinite = true ↔ x.bits.toNat = topPattern := by
  have hexponent := h.exponent_eq
  unfold Upright topPattern at h
  unfold isInfinite fraction topPattern
  rw [hexponent]
  simp only [Nat.pow_eq, Nat.reducePow] at h ⊢
  simp only [Bool.and_eq_true, beq_iff_eq]
  omega

theorem bits_assemble {e f : Nat} (he : e ≤ 2047) (hf : f < Nat.pow 2 52) :
    (assemble false e f).bits.toNat = e * Nat.pow 2 52 + f := by
  simp only [assemble, Bool.false_eq_true, if_false, UInt64.toNat_ofNat', Nat.pow_eq,
    Nat.reducePow] at hf ⊢
  omega

/-! ## The order -/

/-- The magnitude of a pattern, in smallest steps. -/
def magnitudeOf (pattern : Nat) : Nat :=
  let e := pattern / Nat.pow 2 52
  let f := pattern % Nat.pow 2 52
  if e = 0 then f else (Nat.pow 2 52 + f) * Nat.pow 2 (e - 1)

theorem Upright.magnitude_eq (h : x.Upright) : x.magnitude = magnitudeOf x.bits.toNat := by
  unfold magnitude magnitudeOf fraction
  rw [h.exponent_eq]

theorem magnitudeOf_lt (pattern : Nat) :
    magnitudeOf pattern < Nat.pow 2 52 * Nat.pow 2 (pattern / Nat.pow 2 52) := by
  have hf : pattern % Nat.pow 2 52 < Nat.pow 2 52 := Nat.mod_lt _ (Nat.two_pow_pos 52)
  unfold magnitudeOf
  generalize pattern / Nat.pow 2 52 = e, pattern % Nat.pow 2 52 = f at hf ⊢
  cases e with
  | zero => exact (Nat.mul_one (Nat.pow 2 52)).symm ▸ hf
  | succ e =>
      -- The leading one and the fraction are below twice the leading one.
      have hpos : 0 < Nat.pow 2 e := Nat.two_pow_pos e
      have hpow : Nat.pow 2 (e + 1) = Nat.pow 2 e * 2 := rfl
      rw [if_neg (Nat.succ_ne_zero e), Nat.add_sub_cancel, hpow, ← Nat.mul_assoc,
        Nat.mul_right_comm]
      exact Nat.mul_lt_mul_of_pos_right (by omega) hpos

theorem le_magnitudeOf {pattern : Nat} (h : 0 < pattern / Nat.pow 2 52) :
    Nat.pow 2 52 * Nat.pow 2 (pattern / Nat.pow 2 52 - 1) ≤ magnitudeOf pattern := by
  unfold magnitudeOf
  rw [if_neg (Nat.ne_of_gt h)]
  exact Nat.mul_le_mul_right _ (Nat.le_add_right _ _)

/-- A larger pattern has a larger magnitude. -/
theorem magnitudeOf_lt_magnitudeOf {a b : Nat} (h : a < b) : magnitudeOf a < magnitudeOf b := by
  have hle : a / Nat.pow 2 52 ≤ b / Nat.pow 2 52 := Nat.div_le_div_right (Nat.le_of_lt h)
  rcases Nat.lt_or_eq_of_le hle with hlt | heq
  · calc magnitudeOf a
      _ < Nat.pow 2 52 * Nat.pow 2 (a / Nat.pow 2 52) := magnitudeOf_lt a
      _ ≤ Nat.pow 2 52 * Nat.pow 2 (b / Nat.pow 2 52 - 1) :=
        Nat.mul_le_mul_left _ (Nat.pow_le_pow_right (by decide) (Nat.le_sub_one_of_lt hlt))
      _ ≤ magnitudeOf b := le_magnitudeOf (Nat.zero_lt_of_lt hlt)
  · have hf : a % Nat.pow 2 52 < b % Nat.pow 2 52 := by
      have ha := Nat.div_add_mod a (Nat.pow 2 52)
      have hb := Nat.div_add_mod b (Nat.pow 2 52)
      rw [heq] at ha
      omega
    unfold magnitudeOf
    rw [heq]
    dsimp only
    split
    · exact hf
    · exact Nat.mul_lt_mul_of_pos_right (by omega) (Nat.two_pow_pos _)

/-- How far from zero an upright double lies. -/
theorem Upright.reach_eq (h : x.Upright) : x.reach =
    if x.bits.toNat = topPattern then Nat.pow 2 2100 else magnitudeOf x.bits.toNat := by
  unfold reach
  simp only [h.isInfinite_iff, h.magnitude_eq]

/-- A bound on all finite doubles. -/
theorem magnitudeOf_lt_pow {pattern n : Nat} (h : pattern < topPattern) (hn : 52 + 2046 ≤ n) :
    magnitudeOf pattern < Nat.pow 2 n := by
  have hexponent : pattern / Nat.pow 2 52 ≤ 2046 := by
    unfold topPattern at h
    simp only [Nat.pow_eq, Nat.reducePow] at h ⊢
    omega
  calc magnitudeOf pattern
    _ < Nat.pow 2 52 * Nat.pow 2 (pattern / Nat.pow 2 52) := magnitudeOf_lt pattern
    _ = Nat.pow 2 (52 + pattern / Nat.pow 2 52) := (Nat.pow_add 2 _ _).symm
    _ ≤ Nat.pow 2 n := Nat.pow_le_pow_right (by decide) (by omega)

/-- Upright doubles are in the order of their patterns. -/
theorem Upright.lt_iff (hx : x.Upright) (hy : y.Upright) :
    x.lt y = true ↔ x.bits.toNat < y.bits.toNat := by
  -- Infinity has the last pattern, and a reach that is beyond those of all others.
  have hmono : ∀ {x y : Binary64}, x.Upright → y.Upright → x.bits.toNat < y.bits.toNat →
      x.reach < y.reach := by
    intro x y hx hy hlt
    have hfinite : x.bits.toNat < topPattern := Nat.lt_of_lt_of_le hlt hy
    rw [hx.reach_eq, hy.reach_eq, if_neg (Nat.ne_of_lt hfinite)]
    split
    · have hn : 52 + 2046 ≤ 2100 := by decide
      revert hn
      generalize 2100 = n
      exact magnitudeOf_lt_pow hfinite
    · exact magnitudeOf_lt_magnitudeOf hlt
  have hposition : ∀ {x : Binary64}, x.Upright → x.position = some (x.reach : Int) := by
    intro x hx
    rw [position_of_not_isNaN hx.isNaN_eq, hx.negative_eq]
    rfl
  rw [Binary64.lt_iff (hposition hx) (hposition hy)]
  constructor
  · intro h
    rcases Nat.lt_trichotomy x.bits.toNat y.bits.toNat with hlt | heq | hgt
    · exact hlt
    · rw [eq_of_bits heq] at h
      omega
    · have hreach := hmono hy hx hgt
      omega
  · intro h
    have hreach := hmono hx hy h
    omega

/-! ## The smaller and the larger of two -/

theorem Upright.min_eq (hx : x.Upright) (hy : y.Upright) :
    x.min y = if y.bits.toNat < x.bits.toNat then y else x := by
  simp only [Binary64.min, hx.isNaN_eq, Bool.false_or, hy.lt_iff hx]

theorem Upright.max_eq (hx : x.Upright) (hy : y.Upright) :
    x.max y = if x.bits.toNat < y.bits.toNat then y else x := by
  simp only [Binary64.max, hx.isNaN_eq, Bool.false_or, hx.lt_iff hy]

end LoadMonitor.Binary64
