import LoadMonitor.Proofs.Run.Stops

/-!
# The flag is a latch

However many calls are made on a run state at once, one of the stops clears the flag, it alone
answers that it did, and the flag stays cleared. Listeners lag behind the flag and never run
ahead of it; they have caught up by the time the stop that cleared the flag returns.
-/

namespace LoadMonitor

namespace Crowd

variable {ι : Type}

/-- How far the stops have come that have tested the flag. -/
def stops (p : Crowd ι) : ι → Option Stopping := fun c => (p.calls c).bind RunCall.tested?

variable {i : Nat} {p q : Crowd ι} {m : Option (ι × Deed)}

theorem run_put {now : Duration} {lock : FlagLock ι} {calls : ι → Option RunCall} {r : RunState}
    (h : i < p.pool.states.length) : run ⟨p.pool.put i r, now, lock, calls⟩ i = r :=
  p.pool.state_put r h

theorem stops_eq_notifying {c : ι} :
    p.stops c = some .notifying ↔ p.calls c = some (.stopping .notifying) := by
  cases hcall : p.calls c with
  | none => simp [stops, hcall]
  | some call =>
      cases call with
      | stopping stage => cases stage <;> simp [stops, hcall, RunCall.tested?]
      | _ => simp [stops, hcall, RunCall.tested?]

variable [DecidableEq ι]

@[simp] theorem stops_update {pool : RunHandles} {now : Duration} {lock : FlagLock ι}
    {calls : ι → Option RunCall} {c : ι} {call : RunCall} :
    stops ⟨pool, now, lock, Function.update calls c (some call)⟩ =
      Function.update (stops ⟨pool, now, lock, calls⟩) c call.tested? := by
  funext c'
  by_cases hc : c' = c
  · subst hc
    simp [stops]
  · simp [stops, hc]

@[simp] theorem stops_roused {pool : RunHandles} {now : Duration} {lock : FlagLock ι} :
    stops ⟨pool, now, lock, p.roused⟩ = p.stops := by
  funext c
  simp only [stops, roused]
  split
  · rfl
  · cases hcall : p.calls c with
    | none => rfl
    | some call => cases call <;> rfl

/-- A call that is no stop goes on. -/
theorem stops_update_none {pool : RunHandles} {now : Duration} {lock : FlagLock ι} {c : ι}
    {call : RunCall} (hold : p.stops c = none) (hnew : call.tested? = none) :
    stops ⟨pool, now, lock, Function.update p.calls c (some call)⟩ = p.stops := by
  rw [stops_update, hnew]
  exact (Function.update_eq_self_iff (f := p.stops)).mpr hold.symm

/-- What a step of a crowd does to the flag and to the stops. -/
theorem Step.stopStep (hstep : Step i p m q) (halive : i < p.pool.states.length)
    (hheld : p.Held) : StopStep (p.run i) p.stops (q.run i) q.stops := by
  cases hstep with
  | @begin handle c call _ hnone hfresh =>
      have hnew : call.tested? = none := by
        cases call with
        | stopping stage => obtain rfl := hfresh; rfl
        | _ => rfl
      rw [stops_update_none (by simp [stops, hnone]) hnew]
      exact .aside
  | @look c call hlock hcall =>
      obtain ⟨_, hcall', hwants⟩ := hheld c hlock
      obtain rfl := Option.some.inj (hcall.symm.trans hcall')
      rw [run_put halive]
      -- A stop tests the flag as it looks at it; the other calls leave it as it is.
      cases call with
      | stopping stage =>
          obtain rfl : stage = .testing := hwants
          unfold RunCall.look
          rw [stops_update, RunCall.tested?_advance]
          exact .advance (by simp [stops, hcall, RunCall.tested?]) fun _ h => by cases h
      | _ =>
          rw [stops_update_none (by simp [stops, hcall, RunCall.tested?]) rfl]
          exact .aside
  | @notify c hc _ =>
      rw [run_put halive, stops_update, stops_roused]
      exact .advance (by simp [stops, hc]) fun _ h => by cases h
  | @announce c hc =>
      rw [run_put halive, stops_update]
      exact .advance (by simp [stops, hc]) fun _ h => by cases h
  | @wake c _ hc _ =>
      rw [stops_update_none (by simp [stops, hc, RunCall.tested?]) rfl]
      exact .aside
  | @expire c _ hc _ =>
      rw [stops_update_none (by simp [stops, hc, RunCall.tested?]) rfl]
      exact .aside
  | _ => exact .aside

/-! ## Invariants -/

/-- What holds of a run state whatever calls are made on it. -/
structure Sound (i : Nat) (p : Crowd ι) : Prop where
  alive : i < p.pool.states.length
  held : p.Held
  latched : Latched (p.run i) p.stops

theorem Sound.step (h : Sound i p) (hstep : Step i p m q) : Sound i q where
  alive := by
    cases hstep <;> simp [RunHandles.share, RunHandles.listen, RunHandles.release, h.alive]
  held := h.held.step hstep
  latched := (hstep.stopStep h.alive h.held).latched h.latched

theorem sound_of_run {pool : RunHandles} {now : Duration} {ms : List (Option (ι × Deed))}
    (halive : i < pool.states.length) (hfresh : pool.state i = .fresh)
    (h : Steps (Step i) (start pool now) ms p) : Sound i p := by
  refine h.invariant (P := fun _ p => Sound i p) ⟨halive, ?_, ?_⟩ fun _ _ _ _ hsound hstep =>
    hsound.step hstep
  · intro c hlock
    cases hlock
  constructor
  · simp [run, start, hfresh, RunState.fresh, Clears, stops]
  · rintro c c' ⟨stage, hstage, -⟩
    cases hstage
  · intro c stage hstage
    cases hstage
  · simp [run, start, hfresh, RunState.fresh, stops]

/-- What is settled about the flag and the stops stays so in everything that follows. -/
theorem Sound.settled {ns : List (Option (ι × Deed))} (h : Sound i p)
    (hafter : Steps (Step i) p ns q) :
    Sound i q ∧ ((p.run i).running = false → (q.run i).running = false) ∧
      (∀ c, Clears p.stops c → Clears q.stops c) ∧
      ∀ c first, p.stops c = some (.finished first) → q.stops c = some (.finished first) := by
  induction hafter with
  | refl => exact ⟨h, id, fun _ => id, fun _ _ => id⟩
  | head hstep _ ih =>
      have hstop := hstep.stopStep h.alive h.held
      obtain ⟨hsound, hrunning, hclears, hfinished⟩ := ih (h.step hstep)
      exact ⟨hsound, fun hrun => hrunning (hstop.running hrun),
        fun c hc => hclears c (hstop.clears hc),
        fun c first hc => hfinished c first (hstop.finished hc)⟩

/-- What the listeners have been told is not taken back. -/
theorem Sound.announced (h : Sound i p) (hstep : Step i p m q)
    (hannounced : (p.run i).announced = true) : (q.run i).announced = true := by
  obtain ⟨c, hc⟩ := h.latched.announced.mp hannounced
  have hstop := hstep.stopStep h.alive h.held
  exact (hstop.latched h.latched).announced.mpr ⟨c, hstop.finished hc⟩

/-! ## The latch -/

/-- The call is a stop that has tested the flag. -/
def HasTested (p : Crowd ι) (c : ι) : Prop := ∃ stage, p.stops c = some stage

/-- The call is the stop that has cleared the flag. -/
def HasCleared (p : Crowd ι) (c : ι) : Prop := Clears p.stops c

/-- The call is a stop that is back at its caller. -/
def HasReturned (p : Crowd ι) (c : ι) (first : Bool) : Prop :=
  p.calls c = some (.stopping (.finished first))

omit [DecidableEq ι] in
theorem HasReturned.stops {c : ι} {first : Bool} (h : p.HasReturned c first) :
    p.stops c = some (.finished first) := by
  unfold HasReturned at h
  simp [Crowd.stops, h, RunCall.tested?]

/-- What holds of a moment `p` of a run state and of any later moment `q`. -/
structure IsLatch (i : Nat) (p q : Crowd ι) : Prop where
  /-- The flag is cleared once and for all. -/
  one_way : (p.run i).running = false → (q.run i).running = false
  /-- It is cleared by a stop. -/
  cleared : (p.run i).running = false ↔ ∃ c, p.HasCleared c
  /-- As soon as any stop has tested the flag, one has cleared it. -/
  decided : (∃ c, p.HasTested c) → ∃ c, p.HasCleared c
  /-- The stop that has cleared the flag remains the only one. -/
  single : ∀ c, p.HasCleared c → q.HasCleared c ∧ ∀ c', q.HasCleared c' → c' = c
  /-- It alone answers that it did. -/
  answers : ∀ c first, q.HasReturned c first → (first = true ↔ q.HasCleared c)
  /-- A listener tells of the stop only when the flag is cleared. -/
  no_false_alarm : ∀ listener, p.pool.watched listener = some i →
    p.pool.isOver listener = some true → (p.run i).running = false
  /-- Once the stop that cleared the flag is back, the flag is cleared and every listener, also
  one that is created later, tells of the stop. -/
  heard : (∃ c, p.HasReturned c true) → (q.run i).running = false ∧
    ∀ listener, q.pool.watched listener = some i → q.pool.isOver listener = some true

/-- A run state is a latch, whatever calls are made on it and however their steps are mixed. -/
theorem latch_of_run {pool : RunHandles} {now : Duration} {ms ns : List (Option (ι × Deed))}
    (halive : i < pool.states.length) (hfresh : pool.state i = .fresh)
    (hbefore : Steps (Step i) (start pool now) ms p) (hafter : Steps (Step i) p ns q) :
    IsLatch i p q := by
  have hp := sound_of_run halive hfresh hbefore
  obtain ⟨hq, hrunning, hclears, hfinished⟩ := hp.settled hafter
  constructor
  case one_way => exact hrunning
  case cleared => exact hp.latched.cleared
  case decided =>
    rintro ⟨c, stage, hc⟩
    exact hp.latched.cleared.mp (hp.latched.tested hc)
  case single =>
    intro c hc
    exact ⟨hclears c hc, fun c' hc' => hq.latched.single hc' (hclears c hc)⟩
  case answers =>
    intro c first hc
    simp [HasCleared, Clears, hc.stops, Stopping.HasCleared]
  case no_false_alarm =>
    intro listener hlistener hover
    refine hp.latched.stopped_of_announced ?_
    simpa [run, RunHandles.isOver, hlistener, RunState.isOver] using hover
  case heard =>
    rintro ⟨c, hc⟩
    -- The stop has told the listeners before it returned.
    have hstop := hfinished c true hc.stops
    refine ⟨hq.latched.tested hstop, fun listener hlistener => ?_⟩
    have hannounced : (q.run i).announced = true := hq.latched.announced.mpr ⟨c, hstop⟩
    simpa [run, RunHandles.isOver, hlistener, RunState.isOver] using hannounced

/-! ## Two stops at once -/

/-- Two stops begin. One of them clears the flag, and the other one is back before the first has
told the listeners. -/
def contest : List (Option (Bool × Deed)) :=
  [some (true, .begin), some (false, .begin), some (true, .lock), some (true, .look),
    some (true, .leave), some (false, .lock), some (false, .look), some (false, .leave)]

/-- A listener is created, and the first stop wakes the pauses and tells the listeners. -/
def settlement : List (Option (Bool × Deed)) :=
  [none, some (true, .notify), some (true, .announce)]

/-- Where the contest ends. -/
def contested : Crowd Bool :=
  ⟨⟨[⟨false, false⟩], [some 0], []⟩, .zero, .free,
    fun winner => some (.stopping (if winner then .notifying else .finished false))⟩

/-- Where the settlement ends. -/
def settled : Crowd Bool :=
  ⟨⟨[⟨false, true⟩], [some 0], [0]⟩, .zero, .free,
    fun winner => some (.stopping (.finished winner))⟩

theorem contest_run : Steps (Step 0) (start .single .zero) contest contested := by
  suffices ∃ p, Steps (Step 0) (start .single .zero) contest p ∧ p = contested by
    obtain ⟨p, hp, rfl⟩ := this
    exact hp
  have hhandle : RunHandles.single.target 0 = some 0 := rfl
  have hfresh : (RunCall.stopping .testing).Fresh := rfl
  refine ⟨_, .head (.begin hhandle rfl hfresh) <| .head (.begin hhandle rfl hfresh) <|
    .head (.lock rfl rfl rfl) <| .head (.look rfl rfl) <| .head (.leave rfl) <|
    .head (.lock rfl rfl rfl) <| .head (.look rfl rfl) <| .head (.leave rfl) <| .refl _, ?_⟩
  -- The steps have put their calls one on top of the other; it is the same for each caller.
  refine congrArg (Crowd.mk _ _ _) (funext fun c => ?_)
  cases c <;> rfl

theorem settlement_run : Steps (Step 0) contested settlement settled := by
  suffices ∃ p, Steps (Step 0) contested settlement p ∧ p = settled by
    obtain ⟨p, hp, rfl⟩ := this
    exact hp
  have hhandle : contested.pool.target 0 = some 0 := rfl
  refine ⟨_, .head (.listen hhandle) <| .head (.notify rfl nofun) <|
    .head (.announce rfl) <| .refl _, ?_⟩
  refine congrArg (Crowd.mk _ _ _) (funext fun c => ?_)
  cases c <;> rfl

/-- The flag is a latch also while the listeners do not know of the stop yet. -/
theorem latch_of_run_contest :
    0 < RunHandles.single.states.length ∧ RunHandles.single.state 0 = .fresh ∧
      Steps (Step 0) (start .single .zero) contest contested ∧
      Steps (Step 0) contested settlement settled ∧ IsLatch 0 contested settled :=
  ⟨by decide, rfl, contest_run, settlement_run,
    latch_of_run (by decide) rfl contest_run settlement_run⟩

end Crowd
end LoadMonitor
