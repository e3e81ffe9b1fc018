import Mathlib.Algebra.BigOperators.Group.Finset.Basic
import Mathlib.Order.Interval.Finset.Nat

/-!
# How many words stand for a number

By widening multiplication a word `v` stands for the upper half of `v * total`, a number below
`total`. Where only words with a small lower half are accepted, every number is stood for by
equally many words, if the limit of the lower half is a multiple of `total`: the products in
question are the multiples of `total` in stretches of equal length.
-/

namespace LoadMonitor.Widening

variable {words total share : Nat}

/-- The words whose product has a lower half below the limit and an upper half from `low` up to,
but not including, `high`. -/
def accepted (words total limit low high : Nat) : Finset Nat :=
  (Finset.range words).filter fun v =>
    v * total % words < limit ∧ low ≤ v * total / words ∧ v * total / words < high

/-- A multiple of `total` lies in a stretch of `share * total` numbers from `base` on if its
factor lies in a stretch of `share` numbers. -/
theorem mem_stretch_iff (htotal : 0 < total) (base v : Nat) :
    base ≤ v * total ∧ v * total < base + share * total ↔
      (base + (total - 1)) / total ≤ v ∧ v < (base + (total - 1)) / total + share := by
  have hlower : ∀ u, (base + (total - 1)) / total ≤ u ↔ base ≤ u * total := by
    intro u
    rw [← Nat.lt_succ_iff, Nat.div_lt_iff_lt_mul htotal, Nat.succ_mul]
    omega
  rw [hlower v]
  refine and_congr_right fun hbase => ?_
  by_cases hshare : share ≤ v
  · obtain ⟨u, rfl⟩ := Nat.exists_eq_add_of_le hshare
    have hupper := (hlower u).not
    rw [Nat.add_mul]
    omega
  · have hmul : v * total < share * total := Nat.mul_lt_mul_of_pos_right (by omega) htotal
    exact iff_of_true (by omega) (Nat.lt_of_lt_of_le (by omega) (Nat.le_add_left ..))

/-- A word is accepted for `x` if its product lies in a stretch of `share * total` numbers. -/
theorem mem_accepted_iff (hwords : share * total ≤ words) {x : Nat} (hx : x < total) (v : Nat) :
    v ∈ accepted words total (share * total) x (x + 1) ↔
      x * words ≤ v * total ∧ v * total < x * words + share * total := by
  have hmul : x * words + words ≤ total * words := by
    rw [← Nat.succ_mul]
    exact Nat.mul_le_mul_right words hx
  have hparts := Nat.div_add_mod (v * total) words
  simp only [accepted, Finset.mem_filter, Finset.mem_range]
  constructor
  · rintro ⟨-, hlow, hx', hx''⟩
    -- Of the products, the quotient tells the number and the remainder the acceptance.
    obtain rfl : v * total / words = x := by omega
    rw [Nat.mul_comm words] at hparts
    omega
  · rintro ⟨hlower, hupper⟩
    have hpos : 0 < words := by
      rcases Nat.eq_zero_or_pos words with rfl | hpos
      · omega
      · exact hpos
    have hdiv : v * total / words = x := by
      rw [Nat.div_eq_iff hpos]
      omega
    rw [hdiv, Nat.mul_comm words] at hparts
    refine ⟨?_, by omega, by omega, by omega⟩
    exact Nat.lt_of_mul_lt_mul_left (a := total) (by rw [Nat.mul_comm total v]; omega)

/-- Every number has the same share of the words. -/
theorem card_accepted_number (hwords : share * total ≤ words) {x : Nat} (hx : x < total) :
    (accepted words total (share * total) x (x + 1)).card = share := by
  have hinterval : accepted words total (share * total) x (x + 1) =
      Finset.Ico ((x * words + (total - 1)) / total)
        ((x * words + (total - 1)) / total + share) := by
    ext v
    rw [mem_accepted_iff hwords hx, mem_stretch_iff (Nat.zero_lt_of_lt hx), Finset.mem_Ico]
  rw [hinterval, Nat.card_Ico]
  omega

/-- Numbers from `low` to `high` have as many shares as there are numbers. -/
theorem card_accepted (hwords : share * total ≤ words) {low high : Nat} (hhigh : high ≤ total) :
    (accepted words total (share * total) low high).card = (high - low) * share := by
  have hfiber : ∀ x ∈ Finset.Ico low high,
      ((accepted words total (share * total) low high).filter
        fun v => v * total / words = x).card = share := by
    intro x hx
    obtain ⟨hlow, hx'⟩ := Finset.mem_Ico.mp hx
    refine Eq.trans (congrArg Finset.card ?_) (card_accepted_number hwords (x := x) (by omega))
    ext v
    simp only [accepted, Finset.mem_filter]
    constructor
    · rintro ⟨⟨hv, hlimit, -, -⟩, rfl⟩
      exact ⟨hv, hlimit, Nat.le_refl _, Nat.lt_succ_self _⟩
    · rintro ⟨hv, hlimit, hlower, hupper⟩
      obtain rfl : v * total / words = x := Nat.le_antisymm (Nat.le_of_lt_succ hupper) hlower
      exact ⟨⟨hv, hlimit, hlow, hx'⟩, rfl⟩
  have hmaps : ∀ v ∈ accepted words total (share * total) low high,
      v * total / words ∈ Finset.Ico low high := by
    intro v hv
    simp only [accepted, Finset.mem_filter] at hv
    exact Finset.mem_Ico.mpr hv.2.2
  rw [Finset.card_eq_sum_card_fiberwise hmaps, Finset.sum_const_nat hfiber, Nat.card_Ico]

end LoadMonitor.Widening
