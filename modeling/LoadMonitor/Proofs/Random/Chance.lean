import LoadMonitor.Proofs.Binary64.Order
import LoadMonitor.Proofs.Random.Draw

/-!
# Any number as a probability

A chance is made for numbers from zero to one and for no others. Whatever number a probability is
given by, it is moved there first, so that a chance is made for every one of them: the chance that
the library decides by.
-/

namespace LoadMonitor

open Binary64

/-- The probability that is used for any number. -/
def Binary64.asProbability (p : Binary64) : Binary64 :=
  if p.isNaN then zero else clamp zero one p

namespace Chance

/-- The chance for a probability: one has a chance of its own, and beside it there are chances for
what lies from zero up to one. -/
def ofProbability? (p : Binary64) : Option Chance :=
  if zero.le p && p.lt one then some ⟨p.magnitude * Nat.pow 2 64 / unit⟩
  else if p.le one && one.le p then some ⟨Nat.pow 2 64⟩
  else none

variable {p : Binary64} {n : Int}

theorem ofProbability?_of_lt (hp : p.position = some n) (hlow : 0 ≤ n) (hhigh : n < (unit : Int)) :
    ofProbability? p = some ⟨p.magnitude * Nat.pow 2 64 / unit⟩ := by
  have hlow' : zero.le p = true := (le_iff position_zero hp).mpr hlow
  have hhigh' : p.lt one = true := (lt_iff hp position_one).mpr hhigh
  unfold ofProbability?
  rw [hlow', hhigh']
  rfl

theorem ofProbability?_of_eq (hp : p.position = some (unit : Int)) :
    ofProbability? p = some ⟨Nat.pow 2 64⟩ := by
  have hlt : p.lt one = false := by
    rw [← Bool.not_eq_true, lt_iff hp position_one]
    omega
  have hle : p.le one = true := (le_iff hp position_one).mpr (Int.le_refl _)
  have hge : one.le p = true := (le_iff position_one hp).mpr (Int.le_refl _)
  unfold ofProbability?
  rw [hlt, hle, hge, Bool.and_false]
  rfl

theorem ofProbability?_zero : ofProbability? zero = some ⟨0⟩ := by
  have hzero := ofProbability?_of_lt position_zero (Int.le_refl 0) (Int.natCast_pos.mpr unit_pos)
  rw [show zero.magnitude = 0 from rfl, Nat.zero_mul, Nat.zero_div] at hzero
  exact hzero

/-- What is not a number is no chance. -/
theorem ofProbability_of_isNaN (h : p.isNaN = true) : ofProbability p = ⟨0⟩ := by
  unfold ofProbability
  rw [h]
  rfl

/-- A number from zero up to one is the chance of its share of the double words. -/
theorem ofProbability_of_lt (hp : p.position = some n) (hlow : 0 ≤ n) (hhigh : n < (unit : Int)) :
    ofProbability p = ⟨p.magnitude * Nat.pow 2 64 / unit⟩ := by
  have hnan : p.isNaN = false := isNaN_of_position hp
  have hplace := Option.some.inj (hp.symm.trans (position_of_not_isNaN hnan))
  have hreach : p.reach < unit := by
    split at hplace
    · have hpos := unit_pos
      omega
    · omega
  obtain ⟨hfinite, hmagnitude⟩ := reach_of_lt hreach
  unfold ofProbability
  cases hnegative : p.negative with
  | true =>
      -- Only zero is not below zero and has a minus sign.
      rw [hnegative, if_pos rfl] at hplace
      have hzero : p.magnitude = 0 := by omega
      rw [hnan, hzero, Nat.zero_mul, Nat.zero_div]
      rfl
  | false =>
      have hbelow : ¬unit ≤ p.magnitude := by omega
      rw [hnan, hfinite, decide_eq_false_iff_not.mpr hbelow]
      rfl

/-- A number at or below zero is no chance either. -/
theorem ofProbability_of_le (hp : p.position = some n) (h : n ≤ 0) : ofProbability p = ⟨0⟩ := by
  have hnan : p.isNaN = false := isNaN_of_position hp
  cases hnegative : p.negative with
  | true =>
      unfold ofProbability
      rw [hnan, hnegative]
      rfl
  | false =>
      -- Only zero is not above zero and has no minus sign.
      have hplace := Option.some.inj (hp.symm.trans (position_of_not_isNaN hnan))
      rw [hnegative, if_neg Bool.false_ne_true] at hplace
      have hpos := unit_pos
      have hzero : p.magnitude = 0 := by
        have hmagnitude := (reach_of_lt (x := p) (by omega)).2
        omega
      rw [ofProbability_of_lt hp (by omega) (by omega), hzero, Nat.zero_mul, Nat.zero_div]

/-- A number at or above one is a sure chance. -/
theorem ofProbability_of_ge (hp : p.position = some n) (h : (unit : Int) ≤ n) :
    ofProbability p = ⟨Nat.pow 2 64⟩ := by
  have hnan : p.isNaN = false := isNaN_of_position hp
  have hplace := Option.some.inj (hp.symm.trans (position_of_not_isNaN hnan))
  have hpos := unit_pos
  cases hnegative : p.negative with
  | true =>
      rw [hnegative, if_pos rfl] at hplace
      omega
  | false =>
      rw [hnegative, if_neg Bool.false_ne_true] at hplace
      have hsure : (p.isInfinite || Decidable.decide (unit ≤ p.magnitude)) = true := by
        cases hinfinite : p.isInfinite with
        | true => rfl
        | false =>
            rw [reach_of_isFinite hinfinite] at hplace
            rw [Bool.false_or, decide_eq_true_eq]
            omega
      unfold ofProbability
      rw [hnan, hnegative, hsure]
      rfl

/-- Every number is made a probability for which there is a chance: the one it is decided by. -/
theorem ofProbability?_asProbability (p : Binary64) :
    ofProbability? p.asProbability = some (ofProbability p) := by
  unfold asProbability
  cases hnan : p.isNaN with
  | true =>
      rw [ofProbability_of_isNaN hnan]
      exact ofProbability?_zero
  | false =>
      have hp := position_of_not_isNaN hnan
      generalize (if p.negative then -(p.reach : Int) else p.reach) = n at hp
      rw [if_neg Bool.false_ne_true]
      -- Below zero, above one, one itself, and what lies from zero up to one.
      by_cases hlow : n < 0
      · rw [clamp_of_lt hp hlow, ofProbability_of_le hp (Int.le_of_lt hlow)]
        exact ofProbability?_zero
      · by_cases hhigh : (unit : Int) < n
        · rw [clamp_of_gt hp hhigh, ofProbability_of_ge hp (Int.le_of_lt hhigh)]
          exact ofProbability?_of_eq position_one
        · rw [clamp_of_between hp (by omega) (by omega)]
          by_cases hsure : n = (unit : Int)
          · rw [ofProbability_of_ge hp (Int.le_of_eq hsure.symm)]
            exact ofProbability?_of_eq (hsure ▸ hp)
          · rw [ofProbability_of_lt hp (by omega) (by omega)]
            exact ofProbability?_of_lt hp (by omega) (by omega)

/-! ## No chance and a sure one -/

variable {ρ : Type} [RandomSource ρ]

theorem decide_zero_yields : ((⟨0⟩ : Chance).decide : Gen ρ Bool).Yields (· = false) := by
  apply Gen.Yields.ite
  · intro hsure
    cases hsure
  · intro _
    exact Gen.doubleWord_yields.bind fun word _ => .pure rfl

theorem decide_sure_yields : ((⟨Nat.pow 2 64⟩ : Chance).decide : Gen ρ Bool).Yields (· = true) := by
  apply Gen.Yields.ite
  · exact fun _ => .pure rfl
  · exact fun hunsure => absurd rfl hunsure

end Chance
end LoadMonitor
