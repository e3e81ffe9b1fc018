import LoadMonitor.Proofs.Binary64.Nearest
import LoadMonitor.Proofs.Binary64.Value
import Mathlib.Tactic.Positivity

/-!
# Sums and quotients

Rounding changes a value by one part in `2 ^ 53` at most, so sums and quotients of doubles come
close to those of their values. A quotient can be compared with a double before it is rounded.
-/

namespace LoadMonitor.Binary64

variable {m n d : Nat} {x y : Binary64}

/-! ## How far away the nearest double is -/

/-- What rounding can change a value by, as a part of the value. -/
def roundoff : ℚ := 1 / 2 ^ 53

theorem magnitudeOf_steps {shift m : Nat} (hm : m ≤ Nat.pow 2 53)
    (hshift : shift = 0 ∨ Nat.pow 2 52 ≤ m) :
    magnitudeOf (shift * Nat.pow 2 52 + m) = m * Nat.pow 2 shift := by
  have hfields : ∀ {e f : Nat}, f < Nat.pow 2 52 →
      shift * Nat.pow 2 52 + m = e * Nat.pow 2 52 + f →
      magnitudeOf (shift * Nat.pow 2 52 + m) =
        if e = 0 then f else (Nat.pow 2 52 + f) * Nat.pow 2 (e - 1) := by
    intro e f hf heq
    unfold magnitudeOf
    rw [heq, Nat.mul_comm, Nat.mul_add_div (Nat.two_pow_pos 52), Nat.mul_add_mod,
      Nat.div_eq_of_lt hf, Nat.mod_eq_of_lt hf]
    rfl
  rcases Nat.lt_or_ge m (Nat.pow 2 52) with hsmall | hlarge
  · have hzero := hshift.resolve_right (Nat.not_le.mpr hsmall)
    rw [hfields hsmall (e := 0) (by rw [hzero]), if_pos rfl, hzero]
    exact (Nat.mul_one m).symm
  · obtain ⟨f, rfl⟩ := Nat.exists_eq_add_of_le hlarge
    rcases Nat.lt_or_eq_of_le hm with hlt | heq
    · have hf : f < Nat.pow 2 52 := by
        simp only [Nat.pow_eq, Nat.reducePow] at hlt ⊢
        omega
      rw [hfields hf (e := shift + 1) (by rw [Nat.add_mul, Nat.one_mul, Nat.add_assoc]),
        if_neg (Nat.succ_ne_zero shift), Nat.add_sub_cancel]
    · -- The next power of two has a step that is twice as long.
      have hnext : shift * Nat.pow 2 52 + (Nat.pow 2 52 + f) = (shift + 2) * Nat.pow 2 52 + 0 := by
        rw [heq, Nat.add_mul]
      rw [hfields (Nat.two_pow_pos 52) hnext, if_neg (Nat.succ_ne_zero _), heq]
      have hpow : Nat.pow 2 (shift + 2 - 1) = 2 * Nat.pow 2 shift := Nat.pow_succ'
      have hdouble : Nat.pow 2 53 = Nat.pow 2 52 * 2 := rfl
      rw [hpow, hdouble, Nat.add_zero, Nat.mul_assoc]

theorem magnitude_ofSteps (h : (ofSteps false n d).Nonneg) :
    (ofSteps false n d).magnitude = stepsOf n d * Nat.pow 2 (shiftOf n d) := by
  have hbits : (ofSteps false n d).bits.toNat = rank n d := by
    have hlt := nonneg_iff_bits_lt.mp h
    rw [bits_ofSteps] at hlt ⊢
    exact Nat.min_eq_left (Nat.le_of_lt ((min_lt_iff.mp hlt).resolve_right (Nat.lt_irrefl _)))
  rw [(upright_ofSteps n d).magnitude_eq, hbits]
  refine magnitudeOf_steps (stepsOf_le n d) ?_
  rcases Nat.eq_zero_or_pos (shiftOf n d) with hzero | hpos
  · exact .inl hzero
  · exact .inr (le_stepsOf hpos)

/-- Rounding changes a value by one part in `2 ^ 53` at most, unless it is a very small fraction. -/
theorem ofSteps_near (hd : 0 < d) (hfine : n = 0 ∨ d = 1 ∨ d * Nat.pow 2 52 ≤ n)
    (h : (ofSteps false n d).Nonneg) :
    (Nat.pow 2 53 - 1) * n ≤ Nat.pow 2 53 * ((ofSteps false n d).magnitude * d) ∧
      Nat.pow 2 53 * ((ofSteps false n d).magnitude * d) ≤ (Nat.pow 2 53 + 1) * n := by
  have hpos : 0 < d * Nat.pow 2 (shiftOf n d) := Nat.mul_pos hd (Nat.two_pow_pos _)
  have hnear := nearestEven_near hpos n
  have hscaled : (ofSteps false n d).magnitude * d = stepsOf n d * (d * Nat.pow 2 (shiftOf n d)) := by
    rw [magnitude_ofSteps h]
    ring
  rcases hfine with rfl | hfine
  · have hnone : stepsOf 0 d = 0 := by
      unfold stepsOf nearestEven
      dsimp only
      rw [Nat.zero_div, Nat.zero_mod, if_pos hpos]
    rw [hscaled, hnone]
    omega
  · -- Either the steps are whole units and nothing is rounded, or there are `2 ^ 52` of them.
    have hstep : d * Nat.pow 2 (shiftOf n d) = 1 ∨
        d * Nat.pow 2 (shiftOf n d) * Nat.pow 2 52 ≤ n := by
      rcases Nat.eq_zero_or_pos (shiftOf n d) with hzero | hpos
      · have hone : Nat.pow 2 0 = 1 := rfl
        rw [hzero, hone, Nat.mul_one]
        exact hfine
      · refine .inr (Nat.le_trans (Nat.le_of_eq ?_) (mul_pow_le hd hpos))
        rw [mul_pow_add, Nat.mul_comm]
    rw [hscaled]
    unfold stepsOf
    generalize nearestEven n (d * Nat.pow 2 (shiftOf n d)) * (d * Nat.pow 2 (shiftOf n d)) = rounded,
      d * Nat.pow 2 (shiftOf n d) = step at hnear hstep ⊢
    simp only [Nat.pow_eq, Nat.reducePow] at hstep ⊢
    omega

/-! ## Values -/

theorem Nonneg.isFinite_eq (hx : x.Nonneg) : x.isFinite = true := by
  have hkinds := x.kinds
  rw [hx.upright.isNaN_eq, hx.finite] at hkinds
  simpa using hkinds

theorem Upright.le_iff (hx : x.Upright) (hy : y.Upright) :
    x.le y = true ↔ x.bits.toNat ≤ y.bits.toNat := by
  have hxplace := position_of_not_isNaN hx.isNaN_eq
  have hyplace := position_of_not_isNaN hy.isNaN_eq
  rw [← Nat.not_lt, ← hy.lt_iff hx, Binary64.lt_iff hyplace hxplace,
    Binary64.le_iff hxplace hyplace, Int.not_lt]

theorem Upright.value_eq (hx : x.Upright) : x.value = (x.magnitude : ℚ) / (unit : ℚ) := by
  unfold value scaled
  rw [hx.negative_eq, if_neg Bool.false_ne_true, Int.cast_natCast]

theorem Upright.value_nonneg (hx : x.Upright) : 0 ≤ x.value := by
  rw [hx.value_eq]
  positivity

theorem unit_cast_pos : (0 : ℚ) < unit := Nat.cast_pos.mpr unit_pos

theorem Upright.magnitude_le_iff (hx : x.Upright) (hy : y.Upright) :
    x.magnitude ≤ y.magnitude ↔ x.bits.toNat ≤ y.bits.toNat := by
  have hmono : StrictMono magnitudeOf :=
    strictMono_nat_of_lt_succ fun k => magnitudeOf_lt_magnitudeOf (Nat.lt_succ_self k)
  rw [hx.magnitude_eq, hy.magnitude_eq, hmono.le_iff_le]

/-- The order of the patterns is that of the values. -/
theorem Upright.value_le_iff (hx : x.Upright) (hy : y.Upright) :
    x.value ≤ y.value ↔ x.bits.toNat ≤ y.bits.toNat := by
  rw [hx.value_eq, hy.value_eq, div_le_div_iff_of_pos_right unit_cast_pos, Nat.cast_le,
    hx.magnitude_le_iff hy]

/-! ## Closeness -/

/-- One value differs from the other by one part in `2 ^ 53` of the latter at most. -/
def Near (v w : ℚ) : Prop := (1 - roundoff) * w ≤ v ∧ v ≤ (1 + roundoff) * w

theorem ofSteps_value_near (hd : 0 < d) (hfine : n = 0 ∨ d = 1 ∨ d * Nat.pow 2 52 ≤ n)
    (h : (ofSteps false n d).Nonneg) :
    Near (ofSteps false n d).value ((n : ℚ) / (d : ℚ) / (unit : ℚ)) := by
  have hunit := unit_cast_pos
  have hdpos : (0 : ℚ) < d := Nat.cast_pos.mpr hd
  obtain ⟨hbelow, habove⟩ := ofSteps_near hd hfine h
  have hpow : 1 ≤ Nat.pow 2 53 := by decide
  rw [← Nat.cast_le (α := ℚ)] at hbelow habove
  push_cast [Nat.cast_sub hpow] at hbelow habove
  rw [(upright_ofSteps n d).value_eq]
  have hexact : (n : ℚ) / d / unit * (unit * d) = n := by field_simp
  have hrounded : ((ofSteps false n d).magnitude : ℚ) / unit * (unit * d) =
      (ofSteps false n d).magnitude * d := by field_simp
  have hscale : (0 : ℚ) < unit * d := mul_pos hunit hdpos
  unfold Near roundoff
  constructor
  · rw [← mul_le_mul_iff_left₀ hscale, mul_assoc, hexact, hrounded]
    linarith
  · rw [← mul_le_mul_iff_left₀ hscale, mul_assoc, hexact, hrounded]
    linarith

/-! ## Natural numbers -/

theorem nonneg_ofNat (h : n ≤ Nat.pow 2 64) : (ofNat n).Nonneg := by
  have htop : (ofNat (Nat.pow 2 64)).bits.toNat < topPattern := by decide +kernel
  exact nonneg_iff_bits_lt.mpr (Nat.lt_of_le_of_lt (ofNat_mono h) htop)

theorem unit_le_magnitude_ofNat (hpos : 0 < n) : unit ≤ (ofNat n).magnitude := by
  have hone : (ofNat 1).magnitude = unit := by decide +kernel
  rw [← hone, (upright_ofNat 1).magnitude_le_iff (upright_ofNat n)]
  exact ofNat_mono hpos

theorem nearestEven_mul (hd : 0 < d) (q : Nat) : nearestEven (q * d) d = q := by
  unfold nearestEven
  dsimp only
  rw [Nat.mul_div_cancel q hd, Nat.mul_mod_left, if_pos (by omega)]

/-- A small multiple of a power of two is not changed by rounding. -/
theorem magnitude_ofSteps_pow {k : Nat} (h : n < Nat.pow 2 53)
    (hnonneg : (ofSteps false (n * Nat.pow 2 k) 1).Nonneg) :
    (ofSteps false (n * Nat.pow 2 k) 1).magnitude = n * Nat.pow 2 k := by
  have hlength : shiftOf (n * Nat.pow 2 k) 1 ≤ k := by
    have hbits : bitLength (n * Nat.pow 2 k) ≤ 53 + k := by
      rw [bitLength_le_iff, Nat.pow_add]
      exact Nat.mul_lt_mul_of_pos_right h (Nat.two_pow_pos k)
    unfold shiftOf
    rw [Nat.div_one]
    omega
  rw [magnitude_ofSteps hnonneg]
  unfold stepsOf
  rw [Nat.one_mul]
  generalize shiftOf (n * Nat.pow 2 k) 1 = shift at hlength ⊢
  have hmultiple : n * Nat.pow 2 k = n * Nat.pow 2 (k - shift) * Nat.pow 2 shift := by
    rw [Nat.pow_eq, Nat.pow_eq, Nat.pow_eq, Nat.mul_assoc, ← Nat.pow_add,
      Nat.sub_add_cancel hlength]
  have hpos : 0 < Nat.pow 2 shift := Nat.two_pow_pos shift
  rw [hmultiple, nearestEven_mul hpos]

/-- Numbers below `2 ^ 53` are doubles. -/
theorem magnitude_ofNat (h : n < Nat.pow 2 53) : (ofNat n).magnitude = n * unit := by
  have hnonneg := nonneg_ofNat (Nat.le_trans (Nat.le_of_lt h) (by decide))
  unfold ofNat ofQuotient unit at hnonneg ⊢
  generalize 1074 = k at hnonneg ⊢
  exact magnitude_ofSteps_pow h hnonneg

theorem value_ofNat (h : n < Nat.pow 2 53) : (ofNat n).value = n := by
  rw [(upright_ofNat n).value_eq, magnitude_ofNat h, Nat.cast_mul,
    mul_div_cancel_right₀ _ (ne_of_gt unit_cast_pos)]

/-! ## Sums -/

section Sum

variable (hx : x.Nonneg) (hy : y.Nonneg)

include hx hy

theorem add_of_nonneg : x + y = ofSteps false (x.magnitude + y.magnitude) 1 := by
  change add x y = _
  have hsum : x.scaled + y.scaled = ((x.magnitude + y.magnitude : Nat) : Int) := by
    unfold scaled
    rw [hx.upright.negative_eq, hy.upright.negative_eq]
    rfl
  unfold add
  rw [hx.upright.isNaN_eq, hy.upright.isNaN_eq, hx.finite, hy.finite, hsum,
    hx.upright.negative_eq]
  simp only [Bool.or_self, Bool.false_eq_true, if_false, Bool.false_and, Int.natAbs_natCast]
  split
  · rfl
  · rw [decide_eq_false (by omega)]

theorem upright_add : (x + y).Upright := by
  rw [add_of_nonneg hx hy]
  exact upright_ofSteps _ _

/-- A sum is not less than its terms. -/
theorem le_add_left : x.bits.toNat ≤ (x + y).bits.toNat := by
  have hself := ofSteps_magnitude hx
  rw [add_of_nonneg hx hy]
  calc x.bits.toNat
    _ = (ofSteps false x.magnitude 1).bits.toNat := by rw [hself]
    _ ≤ _ := ofSteps_mono (Nat.le_add_right _ _) 1

theorem le_add_right : y.bits.toNat ≤ (x + y).bits.toNat := by
  have hself := ofSteps_magnitude hy
  rw [add_of_nonneg hx hy]
  calc y.bits.toNat
    _ = (ofSteps false y.magnitude 1).bits.toNat := by rw [hself]
    _ ≤ _ := ofSteps_mono (Nat.le_add_left _ _) 1

/-- Where the steps are long, adding little leads nowhere. -/
theorem add_le_of_le {p : Binary64} (hp : p.Nonneg) (hle : x.bits.toNat ≤ p.bits.toNat)
    (hsmall : 2 * y.magnitude < Nat.pow 2 (p.exponent - 1)) :
    (x + y).bits.toNat ≤ p.bits.toNat := by
  have hmagnitude := (hx.upright.magnitude_le_iff hp.upright).mpr hle
  have hhigh : p.roundingInterval.high = 4 * p.magnitude + 2 * Nat.pow 2 (p.exponent - 1) := rfl
  rw [add_of_nonneg hx hy, ofSteps_le_iff Nat.one_pos _ hp, Nat.one_mul]
  refine Within.of_lt ?_
  omega

theorem add_near (hsum : (x + y).Nonneg) : Near (x + y).value (x.value + y.value) := by
  rw [add_of_nonneg hx hy] at hsum ⊢
  have hnear := ofSteps_value_near Nat.one_pos (.inr (.inl rfl)) hsum
  have hexact : ((x.magnitude + y.magnitude : Nat) : ℚ) / ((1 : Nat) : ℚ) / unit =
      x.value + y.value := by
    rw [hx.upright.value_eq, hy.upright.value_eq, Nat.cast_one, div_one, Nat.cast_add, add_div]
  rwa [hexact] at hnear

end Sum

/-! ## Ends -/

/-- Halfway to the double before. From there on values are rounded to the double. -/
def lowerEnd (x : Binary64) : ℚ := (x.roundingInterval.low : ℚ) / ((4 * unit : Nat) : ℚ)

/-- Halfway to the next double. Up to there values are rounded to the double. -/
def upperEnd (x : Binary64) : ℚ := (x.roundingInterval.high : ℚ) / ((4 * unit : Nat) : ℚ)

/-- A value is rounded to the double or to a greater one. The end itself counts if the significand
is even. -/
def RoundsToAtLeast (x : Binary64) (v : ℚ) : Prop :=
  Within x.roundingInterval.closed x.lowerEnd v

/-- A value is rounded to the double or to a lesser one. -/
def RoundsToAtMost (x : Binary64) (v : ℚ) : Prop :=
  Within x.roundingInterval.closed v x.upperEnd

theorem cast_div_le_iff {a b : Nat} (ha : 0 < n) (hb : 0 < d) :
    (a : ℚ) / (n : ℚ) ≤ (b : ℚ) / (d : ℚ) ↔ a * d ≤ b * n := by
  rw [div_le_div_iff₀ (Nat.cast_pos.mpr ha) (Nat.cast_pos.mpr hb)]
  exact_mod_cast Iff.rfl

theorem quarters_pos : 0 < 4 * unit := Nat.mul_pos (by decide) unit_pos

theorem Upright.value_eq_quarters (hx : x.Upright) :
    x.value = ((4 * x.magnitude : Nat) : ℚ) / ((4 * unit : Nat) : ℚ) := by
  rw [hx.value_eq, Nat.cast_mul, Nat.cast_mul, mul_div_mul_left _ _ (by norm_num)]

/-- What is not less than a double is not rounded to a lesser one. -/
theorem Upright.roundsToAtLeast (hx : x.Upright) {v : ℚ} (h : x.value ≤ v) :
    x.RoundsToAtLeast v := by
  have hself : Within x.roundingInterval.closed x.lowerEnd x.value := by
    have hquarters : ∀ a b : Nat,
        a ≤ b ↔ (a : ℚ) / ((4 * unit : Nat) : ℚ) ≤ (b : ℚ) / ((4 * unit : Nat) : ℚ) := by
      intro a b
      rw [cast_div_le_iff quarters_pos quarters_pos, Nat.mul_le_mul_right_iff quarters_pos]
    rw [hx.value_eq_quarters]
    exact (within_congr (hquarters _ _) (hquarters _ _)).mp x.within_low
  exact hself.trans_le h

/-- What is not greater than a double is not rounded to a greater one. -/
theorem Upright.roundsToAtMost (hx : x.Upright) {v : ℚ} (h : v ≤ x.value) :
    x.RoundsToAtMost v := by
  refine Within.of_lt (lt_of_le_of_lt h ?_)
  rw [hx.value_eq_quarters]
  exact div_lt_div_of_pos_right (Nat.cast_lt.mpr x.magnitude_lt_high)
    (Nat.cast_pos.mpr quarters_pos)

section Quotient

variable {s c : Binary64}

/-- The units cancel out. -/
theorem value_div_value (hs : s.Upright) (hc : c.Upright) :
    s.value / c.value = (s.magnitude : ℚ) / (c.magnitude : ℚ) := by
  rw [hs.value_eq, hc.value_eq, div_div_div_cancel_right₀ (ne_of_gt unit_cast_pos)]

variable (hs : s.Nonneg) (hc : c.Nonneg) (hzero : c.magnitude ≠ 0)

include hs hc hzero

theorem div_of_nonneg : s / c = ofSteps false (s.magnitude * unit) c.magnitude := by
  rw [div_of_upright hs.upright hc.upright hc.finite hzero, hs.finite, if_neg Bool.false_ne_true]

theorem le_div_iff (hx : x.Upright) :
    x.le (s / c) = true ↔ x.RoundsToAtLeast (s.value / c.value) := by
  have hpos : 0 < c.magnitude := Nat.pos_of_ne_zero hzero
  unfold RoundsToAtLeast lowerEnd
  rw [hx.le_iff (upright_div hs.upright hc.upright hc.finite hzero), div_of_nonneg hs hc hzero,
    le_ofSteps_iff hpos _ hx, value_div_value hs.upright hc.upright]
  refine within_congr ?_ ?_
  · rw [cast_div_le_iff quarters_pos hpos, Nat.mul_comm, Nat.mul_left_comm]
  · rw [cast_div_le_iff hpos quarters_pos, Nat.mul_comm c.magnitude, Nat.mul_left_comm]

theorem div_le_iff (hx : x.Nonneg) :
    (s / c).le x = true ↔ x.RoundsToAtMost (s.value / c.value) := by
  have hpos : 0 < c.magnitude := Nat.pos_of_ne_zero hzero
  unfold RoundsToAtMost upperEnd
  rw [(upright_div hs.upright hc.upright hc.finite hzero).le_iff hx.upright,
    div_of_nonneg hs hc hzero, ofSteps_le_iff hpos _ hx, value_div_value hs.upright hc.upright]
  refine within_congr ?_ ?_
  · rw [cast_div_le_iff hpos quarters_pos, Nat.mul_comm c.magnitude, Nat.mul_left_comm]
  · rw [cast_div_le_iff quarters_pos hpos, Nat.mul_comm, Nat.mul_left_comm]

/-- Division by one or more does not lead beyond the dividend. -/
theorem div_le_self (hone : unit ≤ c.magnitude) : (s / c).bits.toNat ≤ s.bits.toNat := by
  have hpos : 0 < c.magnitude := Nat.pos_of_ne_zero hzero
  rw [div_of_nonneg hs hc hzero, ofSteps_le_iff hpos _ hs]
  refine Within.of_lt ?_
  calc 4 * (s.magnitude * unit)
    _ = 4 * s.magnitude * unit := (Nat.mul_assoc _ _ _).symm
    _ < s.roundingInterval.high * unit :=
      Nat.mul_lt_mul_of_pos_right s.magnitude_lt_high unit_pos
    _ ≤ s.roundingInterval.high * c.magnitude := Nat.mul_le_mul_left _ hone
    _ = c.magnitude * s.roundingInterval.high := Nat.mul_comm _ _

/-- The quotient is near to that of the values, unless it is a very small fraction. -/
theorem div_near (hfine : s.magnitude = 0 ∨ c.magnitude * Nat.pow 2 52 ≤ s.magnitude * unit)
    (hquotient : (s / c).Nonneg) : Near (s / c).value (s.value / c.value) := by
  have hpos : 0 < c.magnitude := Nat.pos_of_ne_zero hzero
  rw [div_of_nonneg hs hc hzero] at hquotient ⊢
  have hnear := ofSteps_value_near hpos (hfine.imp (fun hnone => by rw [hnone, Nat.zero_mul]) .inr)
    hquotient
  have hexact : ((s.magnitude * unit : Nat) : ℚ) / (c.magnitude : ℚ) / unit =
      s.value / c.value := by
    rw [value_div_value hs.upright hc.upright, Nat.cast_mul, div_right_comm,
      mul_div_cancel_right₀ _ (ne_of_gt unit_cast_pos)]
  rwa [hexact] at hnear

end Quotient

end LoadMonitor.Binary64
