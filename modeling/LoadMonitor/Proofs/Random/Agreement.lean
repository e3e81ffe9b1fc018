import LoadMonitor.Log.Generator

/-!
# Draws do not depend on patience

How long a draw may look for an acceptable word decides whether it comes to an end, but not what
it ends with: computations that differ in their patience only agree wherever both come to an end.
-/

namespace LoadMonitor

/-- From the same source both computations yield the same and leave the same source behind, if
they come to an end. -/
def Gen.Agree {ρ α : Type} (g h : Gen ρ α) : Prop :=
  ∀ (s : ρ) (x y : α × ρ), g.run s = some x → h.run s = some y → x = y

namespace Gen.Agree

variable {ρ α β : Type}

theorem refl (g : Gen ρ α) : g.Agree g :=
  fun _ _ _ hx hy => Option.some.inj (hx.symm.trans hy)

theorem bind {g h : Gen ρ α} {f k : α → Gen ρ β} (hgh : g.Agree h) (hfk : ∀ a, (f a).Agree (k a)) :
    (g >>= f).Agree (h >>= k) := by
  intro s x y hx hy
  simp only [StateT.run_bind, Option.bind_eq_bind, Option.bind_eq_some_iff] at hx hy
  obtain ⟨⟨a, s₁⟩, hg, hf⟩ := hx
  obtain ⟨⟨b, s₂⟩, hh, hk⟩ := hy
  obtain ⟨rfl, rfl⟩ := Prod.mk.inj (hgh s _ _ hg hh)
  exact hfk a s₁ x y hf hk

theorem ite {c : Prop} [Decidable c] {g₁ g₂ h₁ h₂ : Gen ρ α} (hthen : g₁.Agree h₁)
    (helse : g₂.Agree h₂) : (if c then g₁ else g₂).Agree (if c then h₁ else h₂) := by
  split
  · exact hthen
  · exact helse

theorem repeated {g h : Gen ρ α} (hgh : g.Agree h) (n : Nat) :
    (Gen.repeated n g).Agree (Gen.repeated n h) := by
  induction n with
  | zero => exact .refl _
  | succ n ih => exact hgh.bind fun _ => ih.bind fun _ => .refl _

theorem drawUntil (draw : Gen ρ Nat) (accept : Nat → Option α) (patience patience' : Nat) :
    (Gen.drawUntil draw accept patience).Agree (Gen.drawUntil draw accept patience') := by
  induction patience generalizing patience' with
  | zero => exact fun _ _ _ hx => by cases hx
  | succ patience ih =>
      cases patience' with
      | zero => exact fun _ _ _ _ hy => by cases hy
      | succ patience' =>
          refine (refl draw).bind fun v => ?_
          cases accept v with
          | some a => exact .refl _
          | none => exact ih patience'

end Gen.Agree

/-! ## Uniform choices and log lines -/

variable {ρ α : Type} [RandomSource ρ] (patience patience' : Nat)

theorem Uniform.between_agree (low high : Nat) :
    (Uniform.between patience low high : Gen ρ Nat).Agree (Uniform.between patience' low high) :=
  (Gen.Agree.drawUntil _ _ patience patience').bind fun _ => .refl _

theorem Uniform.betweenWide_agree (low high : Nat) :
    (Uniform.betweenWide patience low high : Gen ρ Nat).Agree
      (Uniform.betweenWide patience' low high) :=
  (Gen.Agree.drawUntil _ _ patience patience').bind fun _ => .refl _

theorem Uniform.choose_agree (items : List α) :
    (Uniform.choose patience items : Gen ρ α).Agree (Uniform.choose patience' items) :=
  .drawUntil _ _ patience patience'

namespace Generator

theorem line_agree : (line patience : Gen ρ LogEntry).Agree (line patience') :=
  (Gen.Agree.drawUntil _ _ patience patience').bind fun _ =>
    (Uniform.between_agree patience patience' _ _).bind fun _ =>
    (Uniform.between_agree patience patience' _ _).bind fun _ =>
    (Uniform.choose_agree patience patience' _).bind fun _ =>
    (Uniform.choose_agree patience patience' _).bind fun _ => .refl _

theorem batch_agree : (batch patience : Gen ρ (List LogEntry)).Agree (batch patience') :=
  (Uniform.betweenWide_agree patience patience' _ _).bind
    fun size => (line_agree patience patience').repeated size

theorem burst_agree : (burst patience : Gen ρ (List LogEntry)).Agree (burst patience') := by
  refine (Uniform.betweenWide_agree patience patience' _ _).bind fun size => ?_
  have hline : (burstLine patience size : Gen ρ LogEntry).Agree (burstLine patience' size) :=
    (Uniform.choose_agree patience patience' _).bind fun _ => .refl _
  exact hline.repeated size

theorem query_agree : (query patience : Gen ρ String).Agree (query patience') :=
  Uniform.choose_agree patience patience' queries

end Generator
end LoadMonitor
