import LoadMonitor.Random.Choice

/-!
# What draws can yield

A draw is a loop over the words of its source, and it may be still looking when its
patience is over. Every law here is about the draws that have come to an end: a property of
all accepted words is one of everything that is drawn, whatever the source is.
-/

namespace LoadMonitor

/-! ## Laws of computations -/

/-- Everything that the computation yields has the property, from every source. -/
def Gen.Yields {ρ α : Type} (g : Gen ρ α) (P : α → Prop) : Prop :=
  ∀ (s : ρ) (a : α) (s' : ρ), g.run s = some (a, s') → P a

namespace Gen.Yields

variable {ρ α β : Type}

theorem mono {g : Gen ρ α} {P Q : α → Prop} (h : g.Yields P) (hPQ : ∀ a, P a → Q a) :
    g.Yields Q :=
  fun s a s' hrun => hPQ a (h s a s' hrun)

theorem pure {a : α} {P : α → Prop} (h : P a) : (Pure.pure a : Gen ρ α).Yields P := by
  intro s b s' hrun
  simp only [StateT.run_pure, Option.pure_def, Option.some.injEq, Prod.mk.injEq] at hrun
  obtain ⟨rfl, -⟩ := hrun
  exact h

theorem bind {g : Gen ρ α} {f : α → Gen ρ β} {P : α → Prop} {Q : β → Prop}
    (hg : g.Yields P) (hf : ∀ a, P a → (f a).Yields Q) : (g >>= f).Yields Q := by
  intro s b s' hrun
  simp only [StateT.run_bind, Option.bind_eq_bind, Option.bind_eq_some_iff] at hrun
  obtain ⟨⟨a, s₁⟩, hga, hfb⟩ := hrun
  exact hf a (hg s a s₁ hga) s₁ b s' hfb

theorem ite {c : Prop} [Decidable c] {g₁ g₂ : Gen ρ α} {P : α → Prop}
    (h₁ : c → g₁.Yields P) (h₂ : ¬c → g₂.Yields P) : (if c then g₁ else g₂).Yields P := by
  split
  · exact h₁ ‹c›
  · exact h₂ ‹¬c›

/-- A computation that is repeated yields as many values as there are repetitions. -/
theorem repeated {g : Gen ρ α} {P : α → Prop} (h : g.Yields P) (n : Nat) :
    (Gen.repeated n g).Yields fun values => values.length = n ∧ ∀ a ∈ values, P a := by
  induction n with
  | zero => exact .pure ⟨rfl, by simp⟩
  | succ n ih =>
      refine h.bind fun a ha => ih.bind fun rest hrest => .pure ?_
      refine ⟨by rw [List.length_cons, hrest.1], ?_⟩
      intro b hb
      rcases List.mem_cons.mp hb with rfl | hb
      · exact ha
      · exact hrest.2 b hb

/-- Whatever a loop of draws ends with was accepted for one of the words drawn. -/
theorem drawUntil {draw : Gen ρ Nat} {accept : Nat → Option α} {W : Nat → Prop} {P : α → Prop}
    (hdraw : draw.Yields W) (haccept : ∀ v a, W v → accept v = some a → P a) (patience : Nat) :
    (Gen.drawUntil draw accept patience).Yields P := by
  induction patience with
  | zero => exact fun s a s' hrun => by cases hrun
  | succ patience ih =>
      refine hdraw.bind fun v hv => ?_
      -- Either this word is accepted, or the loop goes on with less patience.
      cases hv' : accept v with
      | some a => exact .pure (haccept v a hv hv')
      | none => exact ih

end Gen.Yields

/-! ## Words -/

section

variable {ρ α : Type} [RandomSource ρ]

theorem Gen.word_yields : (Gen.word : Gen ρ Nat).Yields (· < Nat.pow 2 32) := by
  intro s v s' hrun
  obtain ⟨rfl, -⟩ := Prod.mk.inj (Option.some.inj hrun)
  exact UInt32.toNat_lt _

theorem Gen.doubleWord_yields : (Gen.doubleWord : Gen ρ Nat).Yields (· < Nat.pow 2 64) := by
  refine Gen.word_yields.bind fun low hlow => Gen.word_yields.bind fun high hhigh => .pure ?_
  simp only [Nat.pow_eq, Nat.reducePow] at hlow hhigh ⊢
  omega

/-! ## Uniform choices -/

/-- An accepted word of `width` bits stands for a number below `count`. -/
theorem Uniform.accept_lt {width count v i : Nat} (hv : v < Nat.pow 2 width)
    (h : Uniform.accept width count v = some i) (hcount : 0 < count) : i < count := by
  simp only [Uniform.accept] at h
  split at h
  · obtain rfl := Option.some.inj h
    apply Nat.div_lt_of_lt_mul
    exact Nat.mul_lt_mul_of_pos_right hv hcount
  · cases h

omit [RandomSource ρ] in
/-- A number that is drawn from words of any width lies between the bounds. -/
theorem Uniform.number_yields {width low high : Nat} {draw : Gen ρ Nat}
    (hdraw : draw.Yields (· < Nat.pow 2 width)) (h : low ≤ high) (patience : Nat) :
    (do return low + (← Gen.drawUntil draw (Uniform.accept width (high + 1 - low)) patience) :
      Gen ρ Nat).Yields fun n => low ≤ n ∧ n ≤ high := by
  have hnumber : (Gen.drawUntil draw (Uniform.accept width (high + 1 - low)) patience :
      Gen ρ Nat).Yields (· < high + 1 - low) :=
    hdraw.drawUntil (fun v i hv hi => Uniform.accept_lt hv hi (by omega)) patience
  refine hnumber.bind fun i hi => .pure ?_
  omega

theorem Uniform.between_yields (patience : Nat) {low high : Nat} (h : low ≤ high) :
    (Uniform.between patience low high : Gen ρ Nat).Yields fun n => low ≤ n ∧ n ≤ high :=
  number_yields Gen.word_yields h patience

theorem Uniform.betweenWide_yields (patience : Nat) {low high : Nat} (h : low ≤ high) :
    (Uniform.betweenWide patience low high : Gen ρ Nat).Yields fun n => low ≤ n ∧ n ≤ high :=
  number_yields Gen.doubleWord_yields h patience

/-- What is chosen from a list is a member of it. -/
theorem Uniform.choose_yields (patience : Nat) (items : List α) :
    (Uniform.choose patience items : Gen ρ α).Yields (· ∈ items) := by
  refine Gen.word_yields.drawUntil (fun v a _ ha => ?_) patience
  obtain ⟨i, -, hi⟩ := Option.bind_eq_some_iff.mp ha
  exact List.mem_of_getElem? hi

end
end LoadMonitor
