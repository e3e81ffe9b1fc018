import LoadMonitor.Run.Execution

/-!
# A race, look by look and round by round

Work is given up when the run is stopped. What a look can come to depends on two things that
are settled before it: whether the stop has been announced, and what the work has to offer. So
does what a whole round can come to; only if both are there does the order matter in which they
are looked at.
-/

namespace LoadMonitor.Execution

/-! ## Looks -/

section Looks

variable {α : Type} {work : Nat → Option α} {announced : Bool} {branch : Branch}
  {e e' : Execution α}

/-- All that a look can come to. -/
inductive Looked (work : Nat → Option α) (announced : Bool) :
    Execution α → Branch → Execution α → Prop where
  | done {e : Execution α} {a : α} :
      e.awaits .work = true → work e.polls = some a →
      Looked work announced e .work (finished (e.polls + 1) (some a))
  | stopped {e : Execution α} :
      e.awaits .listener = true → announced = true →
      Looked work announced e .listener (finished e.polls none)
  /-- The listener was asked for the first time. -/
  | begun : announced = false → Looked work announced starting .listener (racing 0)
  | workFirst {polls : Nat} :
      work polls = none → Looked work announced (racing polls) .work (halfway .listener (polls + 1))
  | listenerFirst {polls : Nat} :
      announced = false → Looked work announced (racing polls) .listener (halfway .work polls)
  | workLast {polls : Nat} :
      work polls = none → Looked work announced (halfway .work polls) .work (racing (polls + 1))
  | listenerLast {polls : Nat} :
      announced = false → Looked work announced (halfway .listener polls) .listener (racing polls)

theorem looked (h : e.awaits branch = true) :
    Looked work announced e branch (e.look work announced branch) := by
  unfold look
  rw [if_pos h]
  cases branch with
  | work =>
      cases hwork : work e.polls with
      | some a => exact .done h hwork
      | none =>
          cases e with
          | racing polls => exact .workFirst hwork
          | halfway left polls =>
              obtain rfl : Branch.work = left := by simpa [awaits] using h
              exact .workLast hwork
          | _ => simp [awaits] at h
  | listener =>
      cases announced with
      | true => exact .stopped h rfl
      | false =>
          cases e with
          | starting => exact .begun rfl
          | racing polls => exact .listenerFirst rfl
          | halfway left polls =>
              obtain rfl : Branch.listener = left := by simpa [awaits] using h
              exact .listenerLast rfl
          | finished polls result => simp [awaits] at h

/-- Nothing but the stop takes the result from work that goes on. -/
theorem Looked.announced_of_none {polls : Nat}
    (h : Looked work announced e branch (finished polls none)) : announced = true := by
  cases h with
  | stopped _ hannounced => exact hannounced

/-- An execution that is not over awaits a branch. -/
theorem exists_awaits (h : ∀ polls result, e ≠ finished polls result) :
    ∃ branch, e.awaits branch = true := by
  cases e with
  | starting => exact ⟨.listener, rfl⟩
  | racing polls => exact ⟨.listener, rfl⟩
  | halfway left polls => exact ⟨left, by simp [awaits]⟩
  | finished polls result => exact absurd rfl (h polls result)

/-! ## How many looks are left -/

/-- How many looks it takes at most until the listener has been asked once more. -/
def owed : Execution α → Nat
  | starting => 1
  | racing _ => 2
  | halfway .listener _ => 1
  -- The listener is asked in the next round only.
  | halfway .work _ => 3
  | finished _ _ => 0

/-- How many of these looks are polls of the work. -/
def spare : Execution α → Nat
  | racing _ => 1
  | halfway .work _ => 2
  | _ => 0

/-- How many looks it takes at most until the work has been polled for the time with the given
number. -/
def left (last : Nat) : Execution α → Nat
  | starting => 2 * last + 3
  | racing polls => 2 * (last - polls) + 2
  | halfway .listener polls => 2 * (last - polls) + 3
  | halfway .work polls => 2 * (last - polls) + 1
  | finished _ _ => 0

theorem owed_eq_zero : e.owed = 0 ↔ ∃ polls result, e = finished polls result := by
  cases e with
  | halfway left polls => cases left <;> simp [owed]
  | _ => simp [owed]

theorem owed_pos (h : e.awaits branch = true) : 0 < e.owed := by
  cases e with
  | finished polls result => cases h
  | halfway left polls => cases left <;> simp [owed]
  | _ => simp [owed]

theorem left_pos {last : Nat} (h : e.awaits branch = true) : 0 < e.left last := by
  cases e with
  | finished polls result => cases h
  | halfway left polls => cases left <;> simp [Execution.left]
  | _ => simp [Execution.left]

theorem spare_pos (h : e.awaits .work = true) : 0 < e.spare := by
  cases e with
  | racing polls => exact Nat.one_pos
  | halfway left polls =>
      obtain rfl : Branch.work = left := by simpa [awaits] using h
      exact Nat.two_pos
  | _ => simp [awaits] at h

/-- Two polls are owed only within a round whose listener has been asked. -/
theorem spare_le_one (h : ∀ polls, e ≠ halfway .work polls) : e.spare ≤ 1 := by
  cases e with
  | racing polls => exact Nat.le_refl 1
  | halfway left polls =>
      cases left with
      | work => exact absurd rfl (h polls)
      | listener => exact Nat.zero_le 1
  | _ => exact Nat.zero_le 1

theorem spare_le_two : e.spare ≤ 2 := by
  cases e with
  | halfway left polls => cases left <;> simp [spare]
  | _ => simp [spare]

/-- Once the stop is published every look brings an execution nearer to its end. -/
theorem Looked.owed (h : Looked work true e branch e') : e'.owed + 1 ≤ e.owed := by
  cases h with
  | done hawaits _ => exact owed_pos hawaits
  | stopped hawaits _ => exact owed_pos hawaits
  | workFirst _ => exact Nat.le_refl 2
  | workLast _ => exact Nat.le_refl 3
  | begun h | listenerFirst h | listenerLast h => cases h

/-- Only polls that are owed are made then. -/
theorem Looked.spare (h : Looked work true e branch e') :
    e'.polls + e'.spare ≤ e.polls + e.spare := by
  cases h with
  | done hawaits _ => exact Nat.add_le_add_left (spare_pos hawaits) _
  | stopped _ _ => exact Nat.le_add_right _ _
  | workFirst _ => exact Nat.le_refl _
  | workLast _ => exact Nat.le_refl _
  | begun h | listenerFirst h | listenerLast h => cases h

/-! ## What the work has come to -/

/-- The work was not done by any poll before the given one. -/
def Pending (work : Nat → Option α) (polls : Nat) : Prop := ∀ n < polls, work n = none

theorem Pending.succ {polls : Nat} (h : Pending work polls) (hnone : work polls = none) :
    Pending work (polls + 1) := by
  intro n hn
  rcases Nat.lt_succ_iff_lt_or_eq.mp hn with hlt | rfl
  · exact h n hlt
  · exact hnone

theorem Pending.le {polls last : Nat} (h : Pending work polls) (hlast : (work last).isSome) :
    polls ≤ last :=
  Nat.le_of_not_lt fun hlt => by simp [h last hlt] at hlast

/-- The work was done by the last of so many polls, and by none before it. -/
def Yields (work : Nat → Option α) (polls : Nat) (own : α) : Prop :=
  ∃ n, polls = n + 1 ∧ work n = some own ∧ Pending work n

/-- Where an execution stands fits what its work has come to. -/
def Fits (work : Nat → Option α) : Execution α → Prop
  | finished polls (some own) => Yields work polls own
  | e => Pending work e.polls

/-- As long as a branch is awaited, the work has not been done. -/
theorem Fits.pending (h : e.Fits work) (hawaits : e.awaits branch = true) :
    Pending work e.polls := by
  cases e with
  | finished polls result => cases hawaits
  | _ => exact h

theorem Looked.fits (h : Looked work announced e branch e') (hfits : e.Fits work) :
    e'.Fits work := by
  cases h with
  | @done e a hawaits hwork => exact ⟨e.polls, rfl, hwork, hfits.pending hawaits⟩
  | stopped hawaits _ => exact hfits.pending hawaits
  | workFirst hwork => exact Pending.succ hfits hwork
  | workLast hwork => exact Pending.succ hfits hwork
  | begun _ | listenerFirst _ | listenerLast _ => exact hfits

/-- Every look brings an execution nearer to the end of its work. -/
theorem Looked.left {last : Nat} (h : Looked work announced e branch e') (hfits : e.Fits work)
    (hlast : (work last).isSome) : e'.left last + 1 ≤ e.left last := by
  -- A poll that finds the work not done is not yet the one at which it will be.
  have hearlier : ∀ {polls}, Pending work polls → work polls = none → polls < last :=
    fun hpending hnone => (hpending.succ hnone).le hlast
  cases h with
  | done hawaits _ => exact left_pos hawaits
  | stopped hawaits _ => exact left_pos hawaits
  | begun _ => simp [Execution.left]
  | @workFirst polls hwork =>
      have hlt : polls < last := hearlier hfits hwork
      simp only [Execution.left]
      omega
  | @workLast polls hwork =>
      have hlt : polls < last := hearlier hfits hwork
      simp only [Execution.left]
      omega
  | listenerFirst _ | listenerLast _ => simp [Execution.left]

end Looks

/-! ## Rounds -/

variable {α : Type} {work : Nat → Option α} {round : RaceRound} {polls? : Option Nat}
  {polls : Nat} {result : Option α}

/-- An execution that is not over, by how often its work has been polled since the listener was
asked for the first time. -/
def underWay : Option Nat → Execution α
  | none => starting
  | some polls => racing polls

/-- What the work has to offer in the next round: nothing before the listener was asked. -/
def offered (work : Nat → Option α) (polls? : Option Nat) : Option α := polls?.bind work

/-- What a race can come to: the work's own result unchanged, or nothing in a run whose stop was
announced. -/
inductive Resolves (announced : Bool) : Option α → Option α → Prop where
  | finish {a : α} : Resolves announced (some a) (some a)
  | cancel {offer : Option α} : announced = true → Resolves announced offer none

/-- Nothing but the stop cancels work. -/
theorem Resolves.announced {announced : Bool} {offer : Option α}
    (h : Resolves announced offer result) (hresult : result = none) : announced = true := by
  cases h with
  | finish => cases hresult
  | cancel hannounced => exact hannounced

/-- The first round asks the listener and does not poll the work. -/
theorem advance_starting :
    (underWay none : Execution α).advance work round =
      if round.announced then finished 0 none else racing 0 :=
  rfl

/-- All that a later round can come to. Only if work and stop are both there does it matter which
of them is looked at first. -/
theorem advance_racing (before : Nat) :
    (underWay (some before)).advance work round =
      match work before, round.announced with
      | some a, false => finished (before + 1) (some a)
      | some a, true =>
        if round.workFirst then finished (before + 1) (some a) else finished before none
      | none, true => finished (if round.workFirst then before + 1 else before) none
      | none, false => racing (before + 1) := by
  cases hwork : work before <;> cases hannounced : round.announced <;>
    cases horder : round.workFirst <;>
    simp [underWay, advance, look, awaits, pass, polls, RaceRound.first, Branch.other, hwork,
      hannounced, horder]

/-- What others do between the two looks of a round makes no difference but for what the listener
is told. So the round may be taken for one step, at the moment of that look. -/
theorem look_look (workFirst before after : Bool) (polls : Nat) :
    let first : Branch := if workFirst then .work else .listener
    ((racing polls).look work before first).look work after first.other =
      (racing polls).advance work ⟨if workFirst then after else before, workFirst⟩ := by
  cases hwork : work polls <;> cases workFirst <;> cases before <;> cases after <;>
    simp [advance, look, awaits, pass, Execution.polls, RaceRound.first, Branch.other, hwork]

/-- A round that ends an execution resolves what was there before it. -/
theorem resolves_of_advance
    (h : (underWay polls?).advance work round = finished polls result) :
    Resolves round.announced (offered work polls?) result := by
  cases polls? with
  | none =>
      rw [advance_starting] at h
      split at h
      · next hannounced =>
          cases h
          exact .cancel hannounced
      · cases h
  | some before =>
      rw [advance_racing] at h
      show Resolves round.announced (work before) result
      split at h
      · next hwork _ =>
          cases h
          rw [hwork]
          exact .finish
      · next hwork hannounced =>
          -- Both are there: what is looked at first decides.
          rw [hwork]
          split at h <;> cases h
          · exact .finish
          · exact .cancel hannounced
      · next _ hannounced =>
          cases h
          exact .cancel hannounced
      · cases h

/-- As soon as there is anything to resolve, the round ends the execution. -/
theorem advance_finished (h : round.announced = true ∨ (offered work polls?).isSome) :
    ∃ polls result, (underWay polls?).advance work round = finished polls result := by
  cases polls? with
  | none =>
      have hannounced : round.announced = true := by simpa [offered] using h
      exact ⟨0, none, by rw [advance_starting, if_pos hannounced]⟩
  | some before =>
      rw [advance_racing]
      split
      · exact ⟨_, _, rfl⟩
      · split <;> exact ⟨_, _, rfl⟩
      · exact ⟨_, _, rfl⟩
      · next hwork hannounced => simp [offered, hwork, hannounced] at h

end LoadMonitor.Execution
