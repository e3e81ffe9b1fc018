import LoadMonitor.Run.Handles
import LoadMonitor.Proofs.Run.Steps
import Mathlib.Logic.Function.Basic

/-!
# Many calls at once

Any number of calls on one run state, made through any of its handles, with their steps in any
order. The flag is kept under a lock: a call takes the lock, looks at the flag, and gives the
lock back in a step of its own, so that between any two of these steps other calls go on. A
pause parks in the very step in which it gives the lock back. A stop wakes the parked pauses
and tells the listeners afterwards, without the lock.

A member of the crowd is one call. A thread that makes several calls is several members, each
of which begins after the one before has returned; nothing below depends on that order.
-/

namespace LoadMonitor

/-! ## Calls -/

/-- A call on a run state, as far as it has come. -/
inductive RunCall where
  /-- Look at the flag; the answer, once there is one. -/
  | looking (answer : Option Bool)
  | stopping (stage : Stopping)
  | pausing (stage : Pausing)
  deriving DecidableEq, Repr

namespace RunCall

/-- The call has not done anything yet. -/
def Fresh : RunCall → Prop
  | looking answer => answer = none
  | stopping stage => stage = .testing
  | pausing stage => ∃ delay, stage = .entering delay

/-- The next thing that the call does needs the lock. -/
def WantsLock : RunCall → Prop
  | looking answer => answer = none
  | stopping stage => stage = .testing
  | pausing (.entering _) => True
  | pausing (.woken _ _) => True
  | pausing _ => False

/-- What the call does under the lock: look at the flag, and clear it if that is its purpose. -/
def look (now : Duration) (run : RunState) : RunCall → RunCall × RunState
  | looking _ => (looking (some run.running), run)
  | stopping stage => (stopping (stage.advance run).1, (stage.advance run).2)
  | pausing stage => (pausing (stage.look now run), run)

/-- A notification reaches a call; only a parked pause heeds it. -/
def wake : RunCall → RunCall
  | pausing stage => pausing stage.wake
  | call => call

end RunCall

/-- Who has the lock of the flag. -/
inductive FlagLock (ι : Type) where
  | free
  /-- Taken by a call that has not looked at the flag yet. -/
  | taken (call : ι)
  /-- Taken by a call that has looked and is about to give the lock back. -/
  | leaving (call : ι)
  deriving DecidableEq

/-- The call that has the lock. -/
def FlagLock.holder {ι : Type} : FlagLock ι → Option ι
  | free => none
  | taken call => some call
  | leaving call => some call

@[simp] theorem FlagLock.holder_free {ι : Type} : (free : FlagLock ι).holder = none := rfl
@[simp] theorem FlagLock.holder_taken {ι : Type} (c : ι) : (taken c).holder = some c := rfl
@[simp] theorem FlagLock.holder_leaving {ι : Type} (c : ι) : (leaving c).holder = some c := rfl

/-! ## Crowds -/

/-- Calls on a run state, with everything that refers to it. -/
structure Crowd (ι : Type) where
  pool : RunHandles
  now : Duration
  lock : FlagLock ι
  /-- The calls that have begun. -/
  calls : ι → Option RunCall

/-- What a call does in one step. -/
inductive Deed where
  | begin
  | lock
  | look
  | leave
  | notify
  | announce
  | wake
  | expire
  deriving DecidableEq, Repr

namespace Crowd

variable {ι : Type}

/-- No call has begun. -/
def start (pool : RunHandles) (now : Duration) : Crowd ι := ⟨pool, now, .free, fun _ => none⟩

/-- The run state with the given number. -/
def run (p : Crowd ι) (i : Nat) : RunState := p.pool.state i

variable [DecidableEq ι]

/-- Wake every parked pause. A call that has the lock is not parked yet. -/
def roused (p : Crowd ι) : ι → Option RunCall :=
  fun c => if p.lock.holder = some c then p.calls c else (p.calls c).map RunCall.wake

/-- One step on the run state with the given number. A step with a name is one of the calls;
in all others handles and listeners come and go, or time passes. -/
inductive Step (i : Nat) : Crowd ι → Option (ι × Deed) → Crowd ι → Prop where
  | share {p : Crowd ι} {handle : Nat} :
      p.pool.target handle = some i → Step i p none { p with pool := (p.pool.share i).2 }
  | listen {p : Crowd ι} {handle : Nat} :
      p.pool.target handle = some i → Step i p none { p with pool := (p.pool.listen i).2 }
  | copy {p : Crowd ι} {listener : Nat} :
      p.pool.watched listener = some i → Step i p none { p with pool := (p.pool.listen i).2 }
  | release {p : Crowd ι} {handle : Nat} :
      Step i p none { p with pool := p.pool.release handle }
  | pass {p : Crowd ι} {now : Duration} : p.now ≤ now → Step i p none { p with now }
  | begin {p : Crowd ι} {handle : Nat} {c : ι} {call : RunCall} :
      p.pool.target handle = some i → p.calls c = none → call.Fresh →
      Step i p (some (c, .begin)) { p with calls := Function.update p.calls c (some call) }
  | lock {p : Crowd ι} {c : ι} {call : RunCall} :
      p.lock = .free → p.calls c = some call → call.WantsLock →
      Step i p (some (c, .lock)) { p with lock := .taken c }
  | look {p : Crowd ι} {c : ι} {call : RunCall} :
      p.lock = .taken c → p.calls c = some call →
      Step i p (some (c, .look))
        { p with
          pool := p.pool.put i (call.look p.now (p.run i)).2
          lock := .leaving c
          calls := Function.update p.calls c (some (call.look p.now (p.run i)).1) }
  | leave {p : Crowd ι} {c : ι} :
      p.lock = .leaving c → Step i p (some (c, .leave)) { p with lock := .free }
  -- A stop has cleared the flag under the lock, and goes on when it has given it back.
  | notify {p : Crowd ι} {c : ι} :
      p.calls c = some (.stopping .notifying) → p.lock.holder ≠ some c →
      Step i p (some (c, .notify))
        { p with
          pool := p.pool.put i (Stopping.notifying.advance (p.run i)).2
          calls := Function.update p.roused c
            (some (.stopping (Stopping.notifying.advance (p.run i)).1)) }
  | announce {p : Crowd ι} {c : ι} :
      p.calls c = some (.stopping .announcing) →
      Step i p (some (c, .announce))
        { p with
          pool := p.pool.put i (Stopping.announcing.advance (p.run i)).2
          calls := Function.update p.calls c
            (some (.stopping (Stopping.announcing.advance (p.run i)).1)) }
  /-- A pause is woken for no reason at all. -/
  | wake {p : Crowd ι} {c : ι} {deadline : Duration} :
      p.calls c = some (.pausing (.parked deadline)) → p.lock.holder ≠ some c →
      Step i p (some (c, .wake))
        { p with
          calls := Function.update p.calls c (some (RunCall.pausing (.parked deadline)).wake) }
  | expire {p : Crowd ι} {c : ι} {deadline : Duration} :
      p.calls c = some (.pausing (.parked deadline)) → p.lock.holder ≠ some c →
      Step i p (some (c, .expire))
        { p with
          calls := Function.update p.calls c
            (some (.pausing ((Pausing.parked deadline).expire p.now))) }

/-! ## What a step can do -/

/-- A call that has taken the lock and not looked yet still wants to look. -/
def Held (p : Crowd ι) : Prop :=
  ∀ c, p.lock = .taken c → ∃ call, p.calls c = some call ∧ call.WantsLock

variable {i : Nat} {p q : Crowd ι} {m : Option (ι × Deed)}

omit [DecidableEq ι] in
/-- Nothing happens to the call that has taken the lock. -/
theorem Held.of_calls (h : p.Held) (hlock : q.lock = p.lock)
    (hcalls : ∀ c, p.lock = .taken c → q.calls c = p.calls c) : q.Held := by
  intro c hc
  rw [hlock] at hc
  rw [hcalls c hc]
  exact h c hc

/-- A call that has taken the lock does nothing else before it looks, and nothing is done to
it. -/
theorem Held.step (h : p.Held) (hstep : Step i p m q) : q.Held := by
  -- Unless it is about the lock, the step is one of another call than the one that has it.
  cases hstep with
  | @begin handle c call _ hnone _ =>
      refine h.of_calls rfl fun c' hlock => ?_
      obtain ⟨call', hcall', -⟩ := h c' hlock
      have hne : c' ≠ c := by rintro rfl; simp [hnone] at hcall'
      exact Function.update_of_ne hne ..
  | @lock c call _ hcall hwants =>
      rintro c' ⟨⟩
      exact ⟨call, hcall, hwants⟩
  | look _ _ => intro c' hlock; cases hlock
  | leave _ => intro c' hlock; cases hlock
  | @notify c _ hholder =>
      refine h.of_calls rfl fun c' hlock => ?_
      have hne : c' ≠ c := by rintro rfl; exact hholder (by simp [hlock])
      simp [hne, roused, hlock]
  | @announce c hc =>
      refine h.of_calls rfl fun c' hlock => ?_
      obtain ⟨call', hcall', hwants⟩ := h c' hlock
      have hne : c' ≠ c := by rintro rfl; rw [hc] at hcall'; cases hcall'; cases hwants
      exact Function.update_of_ne hne ..
  | @wake c _ _ hholder =>
      refine h.of_calls rfl fun c' hlock => ?_
      have hne : c' ≠ c := by rintro rfl; exact hholder (by simp [hlock])
      exact Function.update_of_ne hne ..
  | @expire c _ _ hholder =>
      refine h.of_calls rfl fun c' hlock => ?_
      have hne : c' ≠ c := by rintro rfl; exact hholder (by simp [hlock])
      exact Function.update_of_ne hne ..
  | _ => exact h

/-- What a step of a crowd does to one call. -/
inductive CallStep (now : Duration) (run : RunState) : Option RunCall → Option RunCall → Prop where
  | aside {call} : CallStep now run call call
  | begin {call} : call.Fresh → CallStep now run none (some call)
  | look {call} : call.WantsLock → CallStep now run (some call) (some (call.look now run).1)
  | wake {call} : CallStep now run (some call) (some call.wake)
  | expire {stage} :
      CallStep now run (some (.pausing stage)) (some (.pausing (stage.expire now)))
  | advance {stage} :
      CallStep now run (some (.stopping stage)) (some (.stopping (stage.advance run).1))

/-- Nothing else happens to a call. -/
theorem Step.callStep (hstep : Step i p m q) (hheld : p.Held) (c : ι) :
    CallStep p.now (p.run i) (p.calls c) (q.calls c) := by
  cases hstep with
  | @begin handle c' call _ hnone hfresh =>
      by_cases hc : c = c'
      · subst hc
        simpa [hnone] using CallStep.begin hfresh
      · simpa [hc] using CallStep.aside
  | @look c' call hlock hcall =>
      by_cases hc : c = c'
      · subst hc
        obtain ⟨_, hcall', hwants⟩ := hheld c hlock
        obtain rfl := Option.some.inj (hcall.symm.trans hcall')
        simpa [hcall] using CallStep.look hwants
      · simpa [hc] using CallStep.aside
  | @notify c' hcall _ =>
      by_cases hc : c = c'
      · subst hc
        simpa [hcall] using CallStep.advance
      · -- A wake-up passes over the call that has the lock.
        by_cases hholder : p.lock.holder = some c
        · simpa [hc, roused, hholder] using CallStep.aside
        · cases hcall : p.calls c with
          | none => simpa [hc, roused, hholder, hcall] using CallStep.aside
          | some call => simpa [hc, roused, hholder, hcall] using CallStep.wake
  | @announce c' hcall =>
      by_cases hc : c = c'
      · subst hc
        simpa [hcall] using CallStep.advance
      · simpa [hc] using CallStep.aside
  | @wake c' deadline hcall _ =>
      by_cases hc : c = c'
      · subst hc
        simpa [hcall] using CallStep.wake
      · simpa [hc] using CallStep.aside
  | @expire c' deadline hcall _ =>
      by_cases hc : c = c'
      · subst hc
        simpa [hcall] using CallStep.expire
      · simpa [hc] using CallStep.aside
  | _ => exact .aside

/-- Time does not go back. -/
theorem Step.now_le (hstep : Step i p m q) : p.now ≤ q.now := by
  cases hstep with
  | pass hnow => exact hnow
  | _ => exact Nat.le_refl _

end Crowd
end LoadMonitor
