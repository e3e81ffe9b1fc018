import LoadMonitor.Binary64.Basic

/-!
# Doubles on the line

Comparisons of doubles are comparisons of integers, except for a NaN, which is nowhere.
-/

namespace LoadMonitor.Binary64

def one : Binary64 := assemble false 1023 0

/-- The value held between two bounds. -/
def clamp (low high x : Binary64) : Binary64 :=
  let x := if x.lt low then low else x
  if high.lt x then high else x

variable {x y : Binary64} {a b : Int}

theorem lt_iff (hx : x.position = some a) (hy : y.position = some b) :
    x.lt y = true ↔ a < b := by
  simp [lt, hx, hy]

theorem le_iff (hx : x.position = some a) (hy : y.position = some b) :
    x.le y = true ↔ a ≤ b := by
  simp [le, hx, hy]

theorem position_zero : zero.position = some 0 := rfl

theorem position_one : one.position = some (unit : Int) := by
  have hone : one.scaled = (unit : Int) := by
    decide +kernel
  rw [← hone]
  rfl

theorem position_of_isNaN (h : x.isNaN = true) : x.position = none := if_pos h

/-- Whatever is compared has a place. -/
theorem position_of_le (h : x.le y = true) :
    (∃ a, x.position = some a) ∧ ∃ b, y.position = some b := by
  unfold le at h
  split at h
  · exact ⟨⟨_, ‹_›⟩, ⟨_, ‹_›⟩⟩
  · cases h

theorem isNaN_of_position (hx : x.position = some a) : x.isNaN = false := by
  rw [← Bool.not_eq_true]
  intro hnan
  rw [position_of_isNaN hnan] at hx
  cases hx

/-- How far from zero a double lies, if it is not a NaN. -/
def reach (x : Binary64) : Nat := if x.isInfinite then Nat.pow 2 2100 else x.magnitude

/-- What is not a NaN has a place on the line, on the side of its sign. -/
theorem position_of_not_isNaN (h : x.isNaN = false) :
    x.position = some (if x.negative then -(x.reach : Int) else x.reach) := by
  unfold position reach scaled
  generalize Nat.pow 2 2100 = far
  rw [h]
  cases x.isInfinite <;> rfl

theorem reach_of_isFinite (h : x.isInfinite = false) : x.reach = x.magnitude := by
  unfold reach
  rw [h]
  rfl

/-- One lies before infinity. -/
theorem unit_le_reach (h : x.isInfinite = true) : unit ≤ x.reach := by
  have hpow : ∀ m n : Nat, m ≤ n → Nat.pow 2 m ≤ Nat.pow 2 n :=
    fun _ _ => Nat.pow_le_pow_right (by decide)
  have hfar : x.reach = Nat.pow 2 2100 := if_pos h
  rw [hfar]
  apply hpow
  decide

/-- What lies before one is finite. -/
theorem reach_of_lt (h : x.reach < unit) : x.isInfinite = false ∧ x.reach = x.magnitude := by
  have hfinite : x.isInfinite = false := by
    rw [← Bool.not_eq_true]
    exact fun hinfinite => Nat.not_le.mpr h (unit_le_reach hinfinite)
  exact ⟨hfinite, reach_of_isFinite hfinite⟩

theorem unit_pos : 0 < unit := by
  unfold unit
  generalize 1074 = n
  exact Nat.two_pow_pos n

/-! ## Holding a value between zero and one -/

theorem clamp_of_lt (hx : x.position = some a) (h : a < 0) : clamp zero one x = zero := by
  have hlow : x.lt zero = true := (lt_iff hx position_zero).mpr h
  have hhigh : one.lt zero = false := by
    rw [← Bool.not_eq_true, lt_iff position_one position_zero]
    omega
  simp only [clamp, hlow, hhigh, if_true, Bool.false_eq_true, if_false]

theorem clamp_of_gt (hx : x.position = some a) (h : (unit : Int) < a) :
    clamp zero one x = one := by
  have hlow : x.lt zero = false := by
    rw [← Bool.not_eq_true, lt_iff hx position_zero]
    omega
  have hhigh : one.lt x = true := (lt_iff position_one hx).mpr h
  simp only [clamp, hlow, hhigh, if_true, Bool.false_eq_true, if_false]

theorem clamp_of_between (hx : x.position = some a) (hlow : 0 ≤ a) (hhigh : a ≤ (unit : Int)) :
    clamp zero one x = x := by
  have hlow' : x.lt zero = false := by
    rw [← Bool.not_eq_true, lt_iff hx position_zero]
    omega
  have hhigh' : one.lt x = false := by
    rw [← Bool.not_eq_true, lt_iff position_one hx]
    omega
  simp only [clamp, hlow', hhigh', Bool.false_eq_true, if_false]

end LoadMonitor.Binary64
