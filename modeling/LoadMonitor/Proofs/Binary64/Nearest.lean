import LoadMonitor.Binary64.Shortest
import LoadMonitor.Proofs.Binary64.Rounding
import Mathlib.Order.Basic
import Mathlib.Tactic.Ring

/-!
# Which double is the nearest

The numbers that are rounded to a double lie between two ends, halfway to its neighbours; the ends
count where the significand is even. So a rounded value can be compared with a double before it is
rounded.
-/

namespace LoadMonitor.Binary64

variable {n d : Nat} {x : Binary64}

/-! ## Ends that count or do not -/

/-- Not above the end of an interval, which counts if the interval is closed. -/
def Within {α : Type} [LE α] [LT α] (closed : Bool) (a b : α) : Prop :=
  if closed = true then a ≤ b else a < b

section Within

variable {α : Type} [LinearOrder α] {closed : Bool} {a b : α}

theorem Within.of_lt (h : a < b) : Within closed a b := by
  unfold Within
  split
  · exact le_of_lt h
  · exact h

theorem Within.le (h : Within closed a b) : a ≤ b := by
  unfold Within at h
  split at h
  · exact h
  · exact le_of_lt h

theorem Within.trans_le {c : α} (h : Within closed a b) (hle : b ≤ c) : Within closed a c := by
  unfold Within at h ⊢
  cases closed with
  | false => exact lt_of_lt_of_le h hle
  | true => exact le_trans h hle

/-- What is beyond an end has it behind, and the end counts on one side only. -/
theorem not_within : ¬Within closed a b ↔ Within (!closed) b a := by
  unfold Within
  cases closed <;> simp

/-- Only the order of the two matters. -/
theorem within_congr {β : Type} [LinearOrder β] {c d : β} (hle : a ≤ b ↔ c ≤ d)
    (hge : b ≤ a ↔ d ≤ c) : Within closed a b ↔ Within closed c d := by
  unfold Within
  rw [hle, ← not_le, hge, not_le]

end Within

/-! ## The nearest integer -/

theorem nearestEven_le_iff (hd : 0 < d) (n q : Nat) :
    nearestEven n d ≤ q ↔ Within (q % 2 == 0) (2 * n) ((2 * q + 1) * d) := by
  have hn := Nat.div_add_mod n d
  have hr := Nat.mod_lt n hd
  have hge := div_le_nearestEven n d
  rcases Nat.lt_trichotomy (n / d) q with hlt | heq | hgt
  · have hmul : d * (n / d + 1) ≤ d * q := Nat.mul_le_mul_left d hlt
    refine iff_of_true (Nat.le_trans (nearestEven_le n d) hlt) (Within.of_lt ?_)
    rw [Nat.mul_add] at hmul
    rw [Nat.add_mul, Nat.mul_assoc, Nat.mul_comm q d]
    omega
  · -- Halfway between two integers the even one is taken.
    subst heq
    have hhalf : (2 * (n / d) + 1) * d = 2 * (d * (n / d)) + d := by
      rw [Nat.add_mul, Nat.mul_assoc, Nat.mul_comm (n / d) d, Nat.one_mul]
    unfold nearestEven Within
    dsimp only
    rw [hhalf]
    simp only [beq_iff_eq]
    split
    · split <;> omega
    · split
      · split <;> omega
      · split <;> omega
  · have hmul : d * (q + 1) ≤ d * (n / d) := Nat.mul_le_mul_left d hgt
    refine iff_of_false (by omega) (fun hwithin => ?_)
    have hle := hwithin.le
    rw [Nat.mul_add] at hmul
    rw [Nat.add_mul, Nat.mul_assoc, Nat.mul_comm q d] at hle
    omega

/-- The nearest integer is not further away than half a step. -/
theorem nearestEven_near (hd : 0 < d) (n : Nat) :
    2 * (nearestEven n d * d) ≤ 2 * n + d ∧ 2 * n ≤ 2 * (nearestEven n d * d) + d := by
  have hn := Nat.div_add_mod n d
  have hr := Nat.mod_lt n hd
  rw [Nat.mul_comm] at hn
  unfold nearestEven
  dsimp only
  split
  · omega
  · split
    · rcases Nat.mod_two_eq_zero_or_one (n / d) with heven | hodd
      · rw [heven, Nat.add_zero]
        omega
      · rw [hodd, Nat.add_mul, Nat.one_mul]
        omega
    · rw [Nat.add_mul, Nat.one_mul]
      omega

/-! ## Ranks -/

theorem lt_mul_pow (hd : 0 < d) (n : Nat) : n < d * Nat.pow 2 (53 + shiftOf n d) :=
  (Nat.div_lt_iff_lt_mul hd).mp (div_lt_pow_shiftOf n d) |>.trans_eq (Nat.mul_comm _ _)

theorem mul_pow_le (hd : 0 < d) (h : 0 < shiftOf n d) : d * Nat.pow 2 (52 + shiftOf n d) ≤ n :=
  (Nat.mul_comm _ _).trans_le ((Nat.le_div_iff_mul_le hd).mp (pow_shiftOf_le_div h))

theorem mul_pow_add (d k shift : Nat) :
    d * Nat.pow 2 (k + shift) = Nat.pow 2 k * (d * Nat.pow 2 shift) := by
  rw [Nat.pow_eq, Nat.pow_add]
  exact Nat.mul_left_comm _ _ _

/-- The rank of a rounded value, compared with that of `m` steps of a length. -/
theorem rank_le_iff (hd : 0 < d) (n : Nat) {shift m : Nat} (hm : m < Nat.pow 2 53)
    (hshift : shift = 0 ∨ Nat.pow 2 52 ≤ m) :
    rank n d ≤ shift * Nat.pow 2 52 + m ↔
      Within (m % 2 == 0) (2 * n) ((2 * m + 1) * (d * Nat.pow 2 shift)) := by
  unfold rank
  rcases Nat.lt_trichotomy (shiftOf n d) shift with hlt | heq | hgt
  · -- The value lies in an earlier run of patterns.
    have hle := stepsOf_le n d
    have hmany : Nat.pow 2 52 ≤ m := hshift.resolve_left (Nat.ne_of_gt (Nat.zero_lt_of_lt hlt))
    have hrun := Nat.mul_le_mul_right (Nat.pow 2 52) hlt
    refine iff_of_true ?_ (Within.of_lt ?_)
    · simp only [Nat.pow_eq, Nat.reducePow] at hle hmany hrun ⊢
      omega
    · calc 2 * n
        _ < 2 * (d * Nat.pow 2 (53 + shiftOf n d)) :=
          Nat.mul_lt_mul_of_pos_left (lt_mul_pow hd n) Nat.two_pos
        _ ≤ 2 * (d * Nat.pow 2 (52 + shift)) := Nat.mul_le_mul_left _
          (Nat.mul_le_mul_left _ (Nat.pow_le_pow_right Nat.two_pos (by omega)))
        _ = 2 * Nat.pow 2 52 * (d * Nat.pow 2 shift) := by rw [mul_pow_add, Nat.mul_assoc]
        _ ≤ (2 * m + 1) * (d * Nat.pow 2 shift) :=
          Nat.mul_le_mul_right _ (Nat.le_succ_of_le (Nat.mul_le_mul_left 2 hmany))
  · subst heq
    rw [Nat.add_le_add_iff_left]
    exact nearestEven_le_iff (Nat.mul_pos hd (Nat.two_pow_pos _)) n m
  · -- It lies in a later one.
    have hpos := Nat.zero_lt_of_lt hgt
    have hge := le_stepsOf hpos
    have hrun := Nat.mul_le_mul_right (Nat.pow 2 52) hgt
    have hodd : 2 * m + 1 < 2 * Nat.pow 2 53 := by
      simp only [Nat.pow_eq, Nat.reducePow] at hm ⊢
      omega
    refine iff_of_false ?_ (fun hwithin => Nat.not_lt.mpr hwithin.le ?_)
    · simp only [Nat.pow_eq, Nat.reducePow] at hm hge hrun ⊢
      omega
    · calc (2 * m + 1) * (d * Nat.pow 2 shift)
        _ < 2 * Nat.pow 2 53 * (d * Nat.pow 2 shift) :=
          Nat.mul_lt_mul_of_pos_right hodd (Nat.mul_pos hd (Nat.two_pow_pos _))
        _ = 2 * (d * Nat.pow 2 (53 + shift)) := by rw [mul_pow_add, Nat.mul_assoc]
        _ ≤ 2 * (d * Nat.pow 2 (52 + shiftOf n d)) := Nat.mul_le_mul_left _
          (Nat.mul_le_mul_left _ (Nat.pow_le_pow_right Nat.two_pos (by omega)))
        _ ≤ 2 * n := Nat.mul_le_mul_left _ (mul_pow_le hd hpos)

/-! ## Significands -/

/-- The number of steps in a finite double. -/
def significand (x : Binary64) : Nat :=
  if x.exponent = 0 then x.fraction else Nat.pow 2 52 + x.fraction

theorem fraction_lt (x : Binary64) : x.fraction < Nat.pow 2 52 :=
  Nat.mod_lt _ (Nat.two_pow_pos 52)

theorem significand_lt (x : Binary64) : x.significand < Nat.pow 2 53 := by
  have hfraction := x.fraction_lt
  unfold significand
  simp only [Nat.pow_eq, Nat.reducePow] at hfraction ⊢
  split <;> omega

/-- Longer steps are only taken where there are many of them. -/
theorem le_significand (h : 0 < x.exponent) : Nat.pow 2 52 ≤ x.significand := by
  unfold significand
  rw [if_neg (Nat.ne_of_gt h)]
  exact Nat.le_add_right _ _

theorem magnitude_eq_significand (x : Binary64) :
    x.magnitude = x.significand * Nat.pow 2 (x.exponent - 1) := by
  unfold magnitude significand
  split
  case isTrue hzero =>
    rw [hzero]
    exact (Nat.mul_one _).symm
  case isFalse => rfl

theorem Upright.bits_eq (h : x.Upright) :
    x.bits.toNat = (x.exponent - 1) * Nat.pow 2 52 + x.significand := by
  have hexponent := h.exponent_eq
  have hbits := Nat.div_add_mod x.bits.toNat (Nat.pow 2 52)
  have hfraction : x.bits.toNat % Nat.pow 2 52 = x.fraction := rfl
  rw [← hexponent, hfraction] at hbits
  unfold significand
  split
  case isTrue hzero =>
    rw [hzero] at hbits ⊢
    omega
  case isFalse hpos =>
    simp only [Nat.pow_eq, Nat.reducePow] at hbits ⊢
    omega

theorem closed_roundingInterval (x : Binary64) :
    x.roundingInterval.closed = (x.significand % 2 == 0) := by
  unfold roundingInterval significand
  simp only [Nat.pow_eq, Nat.reducePow]
  split
  · rfl
  · congr 1
    omega

theorem low_roundingInterval (x : Binary64) :
    x.roundingInterval.low = 4 * x.magnitude -
      if x.fraction = 0 ∧ 1 < x.exponent then Nat.pow 2 (x.exponent - 1)
      else 2 * Nat.pow 2 (x.exponent - 1) := rfl

theorem magnitude_lt_high (x : Binary64) : 4 * x.magnitude < x.roundingInterval.high :=
  Nat.lt_add_of_pos_right (Nat.mul_pos Nat.two_pos (Nat.two_pow_pos _))

/-- Finite, and not signed. -/
structure Nonneg (x : Binary64) : Prop where
  upright : x.Upright
  finite : x.isInfinite = false

/-- Infinity is beyond all finite doubles. -/
theorem nonneg_iff_bits_lt : x.Nonneg ↔ x.bits.toNat < topPattern := by
  constructor
  · rintro ⟨hx, hfinite⟩
    refine Nat.lt_of_le_of_ne hx fun htop => ?_
    rw [hx.isInfinite_iff.mpr htop] at hfinite
    cases hfinite
  · intro hlt
    have hx : x.Upright := Nat.le_of_lt hlt
    refine ⟨hx, ?_⟩
    rw [← Bool.not_eq_true, hx.isInfinite_iff]
    exact Nat.ne_of_lt hlt

/-- What is not greater is finite as well. -/
theorem Nonneg.of_le {y : Binary64} (hx : x.Nonneg) (hle : y.bits.toNat ≤ x.bits.toNat) :
    y.Nonneg :=
  nonneg_iff_bits_lt.mpr (Nat.lt_of_le_of_lt hle (nonneg_iff_bits_lt.mp hx))

/-- A value is rounded to at most a double if it is within the upper end of its interval. -/
theorem ofSteps_le_iff (hd : 0 < d) (n : Nat) (hx : x.Nonneg) :
    (ofSteps false n d).bits.toNat ≤ x.bits.toNat ↔
      Within x.roundingInterval.closed (4 * n) (d * x.roundingInterval.high) := by
  have hshift : x.exponent - 1 = 0 ∨ Nat.pow 2 52 ≤ x.significand := by
    rcases Nat.eq_zero_or_pos x.exponent with hzero | hpos
    · exact .inl (by omega)
    · exact .inr (le_significand hpos)
  have hhigh : d * x.roundingInterval.high =
      2 * ((2 * x.significand + 1) * (d * Nat.pow 2 (x.exponent - 1))) := by
    unfold roundingInterval
    rw [magnitude_eq_significand]
    ring
  have hmin : Nat.min (rank n d) topPattern ≤ x.bits.toNat ↔ rank n d ≤ x.bits.toNat :=
    min_le_iff.trans (or_iff_left (Nat.not_le.mpr (nonneg_iff_bits_lt.mp hx)))
  rw [bits_ofSteps, hmin, hx.upright.bits_eq, rank_le_iff hd n x.significand_lt hshift,
    closed_roundingInterval, hhigh]
  exact within_congr (by omega) (by omega)

/-- The pattern before that of a positive double, and the upper end of its interval. -/
theorem Upright.pred_bits (hx : x.Upright) (hpos : 0 < x.bits.toNat) :
    ∃ shift m, x.bits.toNat = shift * Nat.pow 2 52 + m + 1 ∧ m < Nat.pow 2 53 ∧
      (shift = 0 ∨ Nat.pow 2 52 ≤ m) ∧ (m % 2 == 0) = (!x.roundingInterval.closed) ∧
      x.roundingInterval.low = 2 * ((2 * m + 1) * Nat.pow 2 shift) := by
  have hbits := hx.bits_eq
  have hlt := x.significand_lt
  rw [closed_roundingInterval, low_roundingInterval, magnitude_eq_significand]
  by_cases hpower : x.fraction = 0 ∧ 1 < x.exponent
  · -- Below a power of two the steps are half as long.
    obtain ⟨hzero, hexponent⟩ := hpower
    have hsignificand : x.significand = Nat.pow 2 52 := by
      unfold significand
      rw [if_neg (by omega), hzero, Nat.add_zero]
    obtain ⟨shift, hshift⟩ := Nat.exists_eq_add_of_lt hexponent
    have hstep : Nat.pow 2 (x.exponent - 1) = 2 * Nat.pow 2 shift := by
      rw [hshift, Nat.add_sub_cancel, Nat.add_comm 1]
      exact Nat.pow_succ'
    refine ⟨shift, Nat.pow 2 53 - 1, ?_, by decide, .inr (by decide), ?_, ?_⟩
    · rw [hbits, hsignificand, hshift]
      simp only [Nat.pow_eq, Nat.reducePow]
      omega
    · rw [hsignificand]
      rfl
    · rw [if_pos ⟨hzero, hexponent⟩, hsignificand, hstep]
      generalize Nat.pow 2 shift = t
      simp only [Nat.pow_eq, Nat.reducePow]
      omega
  · have hsome : x.significand ≠ 0 := by
      intro hzero
      rcases Nat.eq_zero_or_pos x.exponent with hexponent | hexponent
      · rw [hbits, hzero, hexponent] at hpos
        exact Nat.lt_irrefl 0 hpos
      · exact absurd (hzero ▸ le_significand hexponent) (by decide)
    obtain ⟨m, hm⟩ : ∃ m, x.significand = m + 1 := Nat.exists_eq_succ_of_ne_zero hsome
    refine ⟨x.exponent - 1, m, ?_, by omega, ?_, ?_, ?_⟩
    · rw [hbits, hm, Nat.add_assoc]
    · rcases Nat.lt_or_ge 1 x.exponent with hlarge | hsmall
      · have hfraction : x.fraction ≠ 0 := fun hzero => hpower ⟨hzero, hlarge⟩
        unfold significand at hm
        rw [if_neg (by omega)] at hm
        exact .inr (by omega)
      · exact .inl (by omega)
    · rw [hm, Bool.eq_iff_iff, Bool.not_eq_true', beq_iff_eq, beq_eq_false_iff_ne]
      omega
    · rw [if_neg hpower, hm, Nat.add_mul, Nat.add_mul, Nat.one_mul, Nat.mul_assoc]
      omega

/-- The lower end is the upper end of the pattern before. -/
theorem rank_lt_iff (hd : 0 < d) (n : Nat) (hx : x.Upright) (hpos : 0 < x.bits.toNat) :
    rank n d < x.bits.toNat ↔
      Within (!x.roundingInterval.closed) (4 * n) (d * x.roundingInterval.low) := by
  obtain ⟨shift, m, hbits, hm, hshift, hparity, hlow⟩ := hx.pred_bits hpos
  have hscaled : d * x.roundingInterval.low = 2 * ((2 * m + 1) * (d * Nat.pow 2 shift)) := by
    rw [hlow]
    ring
  rw [hbits, Nat.lt_succ_iff, rank_le_iff hd n hm hshift, ← hparity, hscaled]
  exact within_congr (by omega) (by omega)

/-- A value is rounded to at least a double if it is within the lower end of its interval. -/
theorem le_ofSteps_iff (hd : 0 < d) (n : Nat) (hx : x.Upright) :
    x.bits.toNat ≤ (ofSteps false n d).bits.toNat ↔
      Within x.roundingInterval.closed (d * x.roundingInterval.low) (4 * n) := by
  have hmin : x.bits.toNat ≤ Nat.min (rank n d) topPattern ↔ x.bits.toNat ≤ rank n d :=
    le_min_iff.trans (and_iff_left hx)
  rw [bits_ofSteps, hmin]
  rcases Nat.eq_zero_or_pos x.bits.toNat with hzero | hpos
  · have hsmall : x.roundingInterval = ⟨0, 2, true⟩ := by
      rw [eq_of_bits (y := zero) hzero]
      rfl
    rw [hzero, hsmall]
    exact iff_of_true (Nat.zero_le _) (Nat.zero_le _)
  · rw [← Nat.not_lt, rank_lt_iff hd n hx hpos, not_within, Bool.not_not]

/-! ## Rounding a double -/

theorem within_low (x : Binary64) :
    Within x.roundingInterval.closed x.roundingInterval.low (4 * x.magnitude) := by
  have hstep : 0 < Nat.pow 2 (x.exponent - 1) := Nat.two_pow_pos _
  rcases Nat.eq_zero_or_pos x.magnitude with hzero | hpos
  · -- Zero is even, so its end counts.
    have hsignificand : x.significand = 0 := by
      rw [magnitude_eq_significand] at hzero
      exact (Nat.mul_eq_zero.mp hzero).resolve_right (Nat.ne_of_gt hstep)
    rw [closed_roundingInterval, hsignificand, low_roundingInterval, hzero, Nat.mul_zero, Nat.zero_sub]
    exact Nat.le_refl 0
  · refine Within.of_lt ?_
    rw [low_roundingInterval]
    split <;> omega

/-- A double is the nearest one to itself. -/
theorem ofSteps_magnitude (hx : x.Nonneg) : ofSteps false x.magnitude 1 = x := by
  apply eq_of_bits
  apply Nat.le_antisymm
  · rw [ofSteps_le_iff Nat.one_pos _ hx, Nat.one_mul]
    exact Within.of_lt x.magnitude_lt_high
  · rw [le_ofSteps_iff Nat.one_pos _ hx.upright, Nat.one_mul]
    exact x.within_low

end LoadMonitor.Binary64
