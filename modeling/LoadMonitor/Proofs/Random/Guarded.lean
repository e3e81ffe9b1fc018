import LoadMonitor.Proofs.Random.Chance
import LoadMonitor.Proofs.Random.Proportion

/-!
# Draws that could go wrong

A draw asks for something that may not be there: a number of an empty range, a member of an empty
list, the entry at a position, a chance for a number that is no probability. Here the draws are
read once more with these questions asked, so that each of them can end in a fault. Where what is
asked for is there, the draw is that of the library and has no fault, whatever the source is.
-/

namespace LoadMonitor

/-- What a draw cannot go on from. -/
inductive Fault where
  /-- No number lies between the bounds. -/
  | emptyRange
  /-- There is nothing to choose from. -/
  | emptyTable
  /-- There is no entry at the position that was drawn. -/
  | noEntry
  /-- The number is not a probability. -/
  | noProbability
  deriving DecidableEq, Repr

/-- A computation that takes words from a source and may end in a fault. -/
abbrev Guarded (ρ α : Type) := ExceptT Fault (Gen ρ) α

namespace Guarded

variable {ρ α β : Type}

/-- What was found, or a fault if there is nothing. -/
def found (fault : Fault) : Option α → Guarded ρ α
  | some a => return a
  | none => throw fault

/-- Repeat a computation and collect what it yields. -/
def repeated (n : Nat) (g : Guarded ρ α) : Guarded ρ (List α) :=
  match n with
  | 0 => return []
  | n + 1 => do
    let a ← g
    let rest ← repeated n g
    return a :: rest

theorem repeated_liftM (n : Nat) (g : Gen ρ α) :
    repeated n (liftM g : Guarded ρ α) = liftM (Gen.repeated n g) := by
  induction n with
  | zero => exact (liftM_pure _).symm
  | succ n ih =>
      unfold repeated Gen.repeated
      rw [ih]
      simp only [liftM_bind, liftM_pure]

variable [RandomSource ρ]

/-! ## Places -/

/-- Draw until a place is accepted, and look there. -/
def drawFound (fault : Fault) (look : β → Option α) (place : Nat → Option β) (patience : Nat) :
    Guarded ρ α := do
  let i ← liftM (Gen.drawUntil (Gen.word : Gen ρ Nat) place patience)
  found fault (look i)

/-- Computations that go on alike for every word are the same. -/
theorem word_bind_congr {f g : Nat → Guarded ρ α} (h : ∀ v < Nat.pow 2 32, f v = g v) :
    (liftM (Gen.word : Gen ρ Nat) >>= f) = liftM (Gen.word : Gen ρ Nat) >>= g := by
  funext s
  exact congrFun (h _ (UInt32.toNat_lt _)) _

/-- A loop that accepts a word by what it finds at its place accepts the place, and finds something
there. -/
theorem drawFound_eq {fault : Fault} {look : β → Option α} {place : Nat → Option β}
    {pick : Nat → Option α}
    (h : ∀ v < Nat.pow 2 32, (place v = none ∧ pick v = none) ∨
      ∃ i a, place v = some i ∧ look i = some a ∧ pick v = some a) (patience : Nat) :
    (drawFound fault look place patience : Guarded ρ α) =
      liftM (Gen.drawUntil (Gen.word : Gen ρ Nat) pick patience) := by
  induction patience with
  | zero => rfl
  | succ patience ih =>
      unfold drawFound Gen.drawUntil
      simp only [liftM_bind, bind_assoc]
      apply word_bind_congr
      intro v hv
      -- Both loops accept the word, or neither does.
      rcases h v hv with ⟨hplace, hpick⟩ | ⟨i, a, hplace, hlook, hpick⟩
      · rw [hplace, hpick]
        exact ih
      · rw [hplace, hpick]
        simp only [liftM_pure, pure_bind, hlook, found]

/-! ## Draws -/

/-- A number from `low` to `high`, from 32-bit words. -/
def between (patience low high : Nat) : Guarded ρ Nat :=
  if low ≤ high then liftM (Uniform.between patience low high : Gen ρ Nat) else throw .emptyRange

/-- A number from `low` to `high`, from 64-bit double words. -/
def betweenWide (patience low high : Nat) : Guarded ρ Nat :=
  if low ≤ high then liftM (Uniform.betweenWide patience low high : Gen ρ Nat)
  else throw .emptyRange

/-- A member of a list: a position is drawn, and the list is looked at there. -/
def choose (patience : Nat) (items : List α) : Guarded ρ α :=
  if items.isEmpty then throw .emptyTable
  else drawFound .noEntry (fun i => items[i]?) (Uniform.accept 32 items.length) patience

/-- A value by its weight: the place of an entry is drawn, and the value is looked up there. -/
def weighed (s : WeightedChoice α) (patience : Nat) : Guarded ρ α :=
  drawFound .noEntry (fun i => s.entries[i]?.map Prod.fst) s.place? patience

/-- Decide by a probability; there has to be a chance for it. -/
def decided (p : Binary64) : Guarded ρ Bool := do
  let chance ← found .noProbability (Chance.ofProbability? p)
  liftM (chance.decide : Gen ρ Bool)

theorem between_eq (patience : Nat) {low high : Nat} (h : low ≤ high) :
    (between patience low high : Guarded ρ Nat) =
      liftM (Uniform.between patience low high : Gen ρ Nat) :=
  if_pos h

theorem betweenWide_eq (patience : Nat) {low high : Nat} (h : low ≤ high) :
    (betweenWide patience low high : Guarded ρ Nat) =
      liftM (Uniform.betweenWide patience low high : Gen ρ Nat) :=
  if_pos h

/-- A position that is drawn is one of the list. -/
theorem choose_eq (patience : Nat) {items : List α} (h : items ≠ []) :
    (choose patience items : Guarded ρ α) = liftM (Uniform.choose patience items : Gen ρ α) := by
  unfold choose Uniform.choose
  rw [if_neg (by rwa [List.isEmpty_iff])]
  apply drawFound_eq
  intro v hv
  cases hplace : Uniform.accept 32 items.length v with
  | none => exact .inl ⟨rfl, rfl⟩
  | some i =>
      have hlength : 0 < items.length := List.length_pos_of_ne_nil h
      have hi : i < items.length := Uniform.accept_lt hv hplace hlength
      exact .inr ⟨i, items[i], rfl, List.getElem?_eq_getElem hi, List.getElem?_eq_getElem hi⟩

/-- A place that is drawn by weight is that of an entry. -/
theorem weighed_eq (s : WeightedChoice α) (patience : Nat) :
    (weighed s patience : Guarded ρ α) = liftM (s.draw patience : Gen ρ α) := by
  apply drawFound_eq
  intro v hv
  rcases WeightedChoice.pick_eq (s := s) hv with hnone | ⟨i, a, w, hplace, hentry, -, hpick⟩
  · exact .inl hnone
  · exact .inr ⟨i, a, hplace, by rw [hentry]; rfl, hpick⟩

/-- For what any number is made as a probability there is a chance. -/
theorem decided_eq (p : Binary64) :
    (decided p.asProbability : Guarded ρ Bool) =
      liftM ((Chance.ofProbability p).decide : Gen ρ Bool) := by
  unfold decided
  rw [Chance.ofProbability?_asProbability]
  exact pure_bind _ _

end Guarded
end LoadMonitor
