import LoadMonitor.Proofs.Binary64.Upright
import Mathlib.Algebra.Ring.Nat

/-!
# Rounding keeps the order

The pattern of a rounded value counts the steps between zero and it, where the steps are twice as
long in each run of patterns. So a larger value is never rounded to a smaller double.
-/

namespace LoadMonitor.Binary64

variable {m n d q : Nat}

/-! ## The nearest integer -/

theorem div_le_nearestEven (n d : Nat) : n / d ≤ nearestEven n d := by
  unfold nearestEven
  dsimp only
  split
  · exact Nat.le_refl _
  · split <;> omega

theorem nearestEven_le (n d : Nat) : nearestEven n d ≤ n / d + 1 := by
  unfold nearestEven
  dsimp only
  split
  · omega
  · split <;> omega

theorem nearestEven_mono (h : m ≤ n) (d : Nat) : nearestEven m d ≤ nearestEven n d := by
  have hle : m / d ≤ n / d := Nat.div_le_div_right h
  rcases Nat.lt_or_eq_of_le hle with hlt | heq
  · calc nearestEven m d
      _ ≤ m / d + 1 := nearestEven_le m d
      _ ≤ n / d := hlt
      _ ≤ nearestEven n d := div_le_nearestEven n d
  · -- Between the same integers, the remainders decide.
    have hm := Nat.div_add_mod m d
    have hn := Nat.div_add_mod n d
    rw [heq] at hm
    unfold nearestEven
    dsimp only
    rw [heq]
    split
    · split
      · omega
      · split <;> omega
    · split
      · rw [if_neg (by omega)]
        split <;> omega
      · exact Nat.le_of_eq (by rw [if_neg (by omega), if_neg (by omega)])

/-! ## The length of the step -/

theorem bitLength_le_iff (n k : Nat) : bitLength n ≤ k ↔ n < 2 ^ k := by
  unfold bitLength
  split
  case isTrue h =>
    subst h
    exact iff_of_true (Nat.zero_le k) (Nat.two_pow_pos k)
  case isFalse h => rw [← Nat.log2_lt h, Nat.succ_le_iff]

/-- The binary logarithm of the step between the neighbours of `n / d`. -/
def shiftOf (n d : Nat) : Nat := bitLength (n / d) - 53

theorem shiftOf_mono (h : m ≤ n) (d : Nat) : shiftOf m d ≤ shiftOf n d := by
  have hle : m / d ≤ n / d := Nat.div_le_div_right h
  have hlength : bitLength (m / d) ≤ bitLength (n / d) := by
    rw [bitLength_le_iff]
    exact Nat.lt_of_le_of_lt hle ((bitLength_le_iff _ _).mp (Nat.le_refl _))
  exact Nat.sub_le_sub_right hlength 53

/-- A value has fewer than `2 ^ 53` steps of its length. -/
theorem div_lt_pow_shiftOf (n d : Nat) : n / d < 2 ^ (53 + shiftOf n d) := by
  rw [← bitLength_le_iff]
  unfold shiftOf
  omega

theorem pow_shiftOf_le_div (h : 0 < shiftOf n d) : 2 ^ (52 + shiftOf n d) ≤ n / d := by
  rw [← Nat.not_lt, ← bitLength_le_iff]
  unfold shiftOf at h ⊢
  omega

/-- The number of steps in a value, rounded. -/
def stepsOf (n d : Nat) : Nat := nearestEven n (d * Nat.pow 2 (shiftOf n d))

theorem stepsOf_le (n d : Nat) : stepsOf n d ≤ Nat.pow 2 53 := by
  have hlength := div_lt_pow_shiftOf n d
  have hquotient : n / (d * Nat.pow 2 (shiftOf n d)) < Nat.pow 2 53 := by
    rw [← Nat.div_div_eq_div_mul]
    rw [Nat.pow_add] at hlength
    exact Nat.div_lt_of_lt_mul ((Nat.mul_comm _ _).symm ▸ hlength)
  exact Nat.le_trans (nearestEven_le _ _) hquotient

/-- Longer steps are only taken where there are many of them. -/
theorem le_stepsOf (h : 0 < shiftOf n d) : Nat.pow 2 52 ≤ stepsOf n d := by
  have hlength := pow_shiftOf_le_div h
  have hquotient : Nat.pow 2 52 ≤ n / (d * Nat.pow 2 (shiftOf n d)) := by
    rw [← Nat.div_div_eq_div_mul]
    rw [Nat.pow_add] at hlength
    exact (Nat.le_div_iff_mul_le (Nat.two_pow_pos _)).mpr hlength
  exact Nat.le_trans hquotient (div_le_nearestEven _ _)

/-! ## Rounded values -/

/-- The number of patterns below the rounded value, were there no end of them. -/
def rank (n d : Nat) : Nat := shiftOf n d * Nat.pow 2 52 + stepsOf n d

theorem rank_mono (h : m ≤ n) (d : Nat) : rank m d ≤ rank n d := by
  unfold rank
  rcases Nat.lt_or_eq_of_le (shiftOf_mono h d) with hlt | heq
  · -- The value is in a later run of patterns.
    have hm := stepsOf_le m d
    have hn := le_stepsOf (Nat.zero_lt_of_lt hlt)
    have hshift := Nat.mul_le_mul_right (Nat.pow 2 52) hlt
    simp only [Nat.pow_eq, Nat.reducePow] at hm hn hshift ⊢
    omega
  · unfold stepsOf
    rw [heq]
    exact Nat.add_le_add_left (nearestEven_mono h _) _

theorem bits_infinity : (infinity false).bits.toNat = topPattern := rfl

/-- The pattern of a rounded value is its rank, as far as there are finite doubles. -/
theorem bits_ofSteps (n d : Nat) :
    (ofSteps false n d).bits.toNat = Nat.min (rank n d) topPattern := by
  have hle := stepsOf_le n d
  have hge := fun h => le_stepsOf (n := n) (d := d) h
  have hsteps : ofSteps false n d =
      if stepsOf n d = 0 then assemble false 0 0
      else
        let exponent := if stepsOf n d < Nat.pow 2 52 then 0
          else if stepsOf n d < Nat.pow 2 53 then shiftOf n d + 1 else shiftOf n d + 2
        if 2047 ≤ exponent then infinity false
        else assemble false exponent
          (if stepsOf n d < Nat.pow 2 53 then stepsOf n d % Nat.pow 2 52 else 0) := rfl
  rw [hsteps]
  unfold rank
  generalize stepsOf n d = steps, shiftOf n d = shift at hle hge ⊢
  -- Where the significand begins with a one, that one counts as a step of the exponent.
  have hassemble : ∀ {e f : Nat}, e ≤ 2046 → f < Nat.pow 2 52 →
      shift * Nat.pow 2 52 + steps = e * Nat.pow 2 52 + f →
      (assemble false e f).bits.toNat = Nat.min (shift * Nat.pow 2 52 + steps) topPattern := by
    intro e f he hf heq
    rw [bits_assemble (by omega) hf, heq]
    unfold topPattern
    simp only [Nat.pow_eq, Nat.reducePow] at hf ⊢
    exact (Nat.min_eq_left (by omega)).symm
  have hinfinite : 2047 * Nat.pow 2 52 ≤ shift * Nat.pow 2 52 + steps →
      (infinity false).bits.toNat = Nat.min (shift * Nat.pow 2 52 + steps) topPattern :=
    fun h => (Nat.min_eq_right h).symm
  simp only [Nat.pow_eq, Nat.reducePow] at hle hge hassemble hinfinite ⊢
  split
  case isTrue hzero => exact hassemble (by omega) (by omega) (by omega)
  case isFalse hzero =>
    by_cases hsmall : steps < 4503599627370496
    · rw [if_pos hsmall, if_neg (by decide), if_pos (by omega)]
      exact hassemble (by omega) (by omega) (by omega)
    · rw [if_neg hsmall]
      by_cases hbelow : steps < 9007199254740992
      · rw [if_pos hbelow, if_pos hbelow]
        split
        case isTrue hlarge => exact hinfinite (by omega)
        case isFalse => exact hassemble (by omega) (by omega) (by omega)
      · -- The significand has been rounded up to the next power of two.
        rw [if_neg hbelow, if_neg hbelow]
        split
        case isTrue hlarge => exact hinfinite (by omega)
        case isFalse => exact hassemble (by omega) (by omega) (by omega)

theorem upright_ofSteps (n d : Nat) : (ofSteps false n d).Upright := by
  unfold Upright
  rw [bits_ofSteps]
  exact Nat.min_le_right _ _

/-- Rounding keeps the order. -/
theorem ofSteps_mono (h : m ≤ n) (d : Nat) :
    (ofSteps false m d).bits.toNat ≤ (ofSteps false n d).bits.toNat := by
  rw [bits_ofSteps, bits_ofSteps]
  have hrank := rank_mono h d
  exact Nat.le_min.mpr ⟨Nat.le_trans (Nat.min_le_left _ _) hrank, Nat.min_le_right _ _⟩

/-! ## Quotients -/

variable {x y z : Binary64}

/-- The quotient of an upright double by a finite one that is not zero. -/
theorem div_of_upright (hx : x.Upright) (hz : z.Upright) (hfinite : z.isInfinite = false)
    (hzero : z.magnitude ≠ 0) :
    x / z = if x.isInfinite then infinity false
      else ofSteps false (x.magnitude * unit) z.magnitude := by
  have hsign : (x.negative != z.negative) = false := by
    rw [hx.negative_eq, hz.negative_eq]
    rfl
  change div x z = _
  unfold div
  dsimp only
  rw [hsign, hx.isNaN_eq, hz.isNaN_eq, hfinite, if_neg hzero]
  simp only [Bool.or_self, Bool.false_eq_true, if_false]

theorem upright_div (hx : x.Upright) (hz : z.Upright) (hfinite : z.isInfinite = false)
    (hzero : z.magnitude ≠ 0) : (x / z).Upright := by
  rw [div_of_upright hx hz hfinite hzero]
  split
  · exact Nat.le_of_eq bits_infinity
  · exact upright_ofSteps _ _

/-- Division by the same double keeps the order. -/
theorem div_mono (hx : x.Upright) (hy : y.Upright) (hz : z.Upright)
    (hfinite : z.isInfinite = false) (hzero : z.magnitude ≠ 0)
    (h : x.bits.toNat ≤ y.bits.toNat) : (x / z).bits.toNat ≤ (y / z).bits.toNat := by
  by_cases hfar : y.isInfinite = true
  · -- No quotient is above the infinite one.
    have hquotient : (y / z).bits.toNat = topPattern := by
      rw [div_of_upright hy hz hfinite hzero, if_pos hfar]
      rfl
    rw [hquotient]
    exact upright_div hx hz hfinite hzero
  · have hnear : ¬x.isInfinite = true := by
      rw [hy.isInfinite_iff] at hfar
      rw [hx.isInfinite_iff]
      have htop : y.bits.toNat ≤ topPattern := hy
      omega
    have hmagnitude : x.magnitude ≤ y.magnitude := by
      rw [hx.magnitude_eq, hy.magnitude_eq]
      rcases Nat.lt_or_eq_of_le h with hlt | heq
      · exact Nat.le_of_lt (magnitudeOf_lt_magnitudeOf hlt)
      · exact Nat.le_of_eq (congrArg magnitudeOf heq)
    rw [div_of_upright hx hz hfinite hzero, div_of_upright hy hz hfinite hzero, if_neg hnear,
      if_neg hfar]
    exact ofSteps_mono (Nat.mul_le_mul_right _ hmagnitude) _

/-! ## Natural numbers -/

theorem upright_ofNat (n : Nat) : (ofNat n).Upright := upright_ofSteps _ _

theorem ofNat_mono (h : m ≤ n) : (ofNat m).bits.toNat ≤ (ofNat n).bits.toNat :=
  ofSteps_mono (Nat.mul_le_mul_right _ h) 1

end LoadMonitor.Binary64
