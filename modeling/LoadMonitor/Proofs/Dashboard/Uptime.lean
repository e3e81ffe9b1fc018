import LoadMonitor.Proofs.Binary64.Value
import LoadMonitor.Proofs.Dashboard.Contents
import Mathlib.Data.Prod.Lex

/-!
# Uptimes tell whole minutes

Days, hours and minutes are the digits of a number of minutes to the bases 24 and 60: there is one
way to split a number of seconds, and the order of the numbers is that of the digits. Together with
the text, from which the digits can be read off, an uptime shows the minutes that are over, no more
and no less.
-/

namespace LoadMonitor.Uptime

/-- The whole seconds of days, hours and minutes. -/
def seconds (u : Uptime) : Nat := 86400 * u.days + 3600 * u.hours + 60 * u.minutes

/-- Hours and minutes are less than the next larger unit, and less than a minute is dropped. -/
structure Splits (u : Uptime) (total : Nat) : Prop where
  hours_lt : u.hours < 24
  minutes_lt : u.minutes < 60
  le : u.seconds ≤ total
  lt : total < u.seconds + 60

theorem ofSeconds_splits (total : Nat) : (ofSeconds total).Splits total := by
  unfold ofSeconds
  constructor <;> simp only [seconds] <;> omega

theorem Splits.eq_ofSeconds {u : Uptime} {total : Nat} (h : u.Splits total) :
    u = ofSeconds total := by
  obtain ⟨hhours, hminutes, hle, hlt⟩ := h
  unfold seconds at hle hlt
  cases u
  dsimp only at hhours hminutes hle hlt
  unfold ofSeconds
  rw [Uptime.mk.injEq]
  omega

/-- Days before hours, hours before minutes. -/
def digits (u : Uptime) : ℕ ×ₗ ℕ ×ₗ ℕ := toLex (u.days, toLex (u.hours, u.minutes))

theorem digits_ofSeconds_mono {m n : Nat} (h : m ≤ n) :
    (ofSeconds m).digits ≤ (ofSeconds n).digits := by
  unfold digits ofSeconds
  rw [Prod.Lex.toLex_le_toLex, Prod.Lex.toLex_le_toLex]
  dsimp only
  omega

/-- **An uptime is split exactly and without ambiguity.** What is shown for a number of seconds,
whatever double it is, are the only days, hours and minutes with less than a minute missing; the
same is shown for two of them exactly if they have the same whole minutes; and a larger number is
never shown as a smaller one. -/
theorem report_exact (x : Binary64) :
    (∃ u : Uptime, (ofReport x).text =
        toString u.days ++ "d " ++ toString u.hours ++ "h " ++ toString u.minutes ++ "m" ∧
      ∀ v : Uptime, v.Splits x.wholePart ↔ v = u) ∧
    (∀ y : Binary64, (ofReport x).text = (ofReport y).text ↔
      x.wholePart / 60 = y.wholePart / 60) ∧
    ∀ y : Binary64, x.le y = true → (ofReport x).digits ≤ (ofReport y).digits := by
  unfold ofReport
  simp only [Binary64.truncate_eq_wholePart]
  refine ⟨⟨ofSeconds x.wholePart, rfl, fun v => ?_⟩, fun y => ?_, fun y hle => ?_⟩
  · constructor
    · exact Splits.eq_ofSeconds
    · rintro rfl
      exact ofSeconds_splits _
  · rw [← ofSeconds_eq_iff]
    exact ⟨text_inj, congrArg text⟩
  · exact digits_ofSeconds_mono (Binary64.wholePart_mono hle)

end LoadMonitor.Uptime
