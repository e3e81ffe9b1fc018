import LoadMonitor.Proofs.Run.Latch

/-!
# No pause loses its wake-up

A stop clears the flag under the lock and wakes the pauses only after it has given the lock
back. That no pause sleeps through the stop rests on three facts: a pause parks while it still
has the lock under which it has found the flag set; a pause that looks after the flag was
cleared does not park; and a pause that is woken looks again before it does anything else.
-/

namespace LoadMonitor

/-! ## One pause -/

namespace Pausing

/-- What a pause does as it gives the lock back fits the flag: it parks while the flag is set,
and its answer is the flag. -/
def Fits (running : Bool) : Pausing → Prop
  | parked _ => running = true
  | finished answer => answer = running
  | _ => True

theorem fits_look (now : Duration) (run : RunState) (stage : Pausing)
    (hwants : (RunCall.pausing stage).WantsLock) : (stage.look now run).Fits run.running := by
  cases stage with
  | entering delay => cases hrun : run.running <;> simp [look, Fits, hrun]
  | woken deadline timedOut =>
      cases hrun : run.running <;> cases timedOut <;> simp [look, Fits, hrun]
  | parked deadline => exact hwants.elim
  | finished answer => exact hwants.elim

/-- No pause stays parked when it is woken. -/
theorem wake_ne_parked (stage : Pausing) (deadline : Duration) : stage.wake ≠ parked deadline := by
  cases stage <;> simp [wake]

/-- The pause is not over with success before the given time. -/
def Lasts (finish now : Duration) : Pausing → Prop
  | entering delay => finish ≤ now + delay
  | parked deadline => finish ≤ deadline
  | woken deadline timedOut => finish ≤ deadline ∧ (timedOut = true → deadline ≤ now)
  | finished answer => answer = true → finish ≤ now

namespace Lasts

variable {finish now now' : Duration} {stage : Pausing}

/-- Time passes. -/
theorem pass (h : stage.Lasts finish now) (hnow : now ≤ now') : stage.Lasts finish now' := by
  rw [Duration.le_iff] at hnow
  cases stage with
  | entering delay =>
      simp only [Lasts, Duration.le_iff, Duration.nanos_add] at h ⊢
      omega
  | parked deadline => exact h
  | woken deadline timedOut =>
      refine ⟨h.1, fun htimedOut => ?_⟩
      exact Nat.le_trans (h.2 htimedOut) hnow
  | finished answer => exact fun hanswer => Nat.le_trans (h hanswer) hnow

theorem look {run : RunState} (h : stage.Lasts finish now) :
    (stage.look now run).Lasts finish now := by
  cases stage with
  | entering delay => cases hrun : run.running <;> simp_all [Pausing.look, Lasts]
  | parked deadline => exact h
  | woken deadline timedOut =>
      cases timedOut with
      | true =>
          -- The time is up, whatever the flag says.
          exact fun _ => Nat.le_trans h.1 (h.2 rfl)
      | false => cases hrun : run.running <;> simp_all [Pausing.look, Lasts]
  | finished answer => exact h

theorem wake (h : stage.Lasts finish now) : stage.wake.Lasts finish now := by
  cases stage with
  | parked deadline => exact ⟨h, nofun⟩
  | _ => exact h

theorem expire (h : stage.Lasts finish now) : (stage.expire now).Lasts finish now := by
  cases stage with
  | parked deadline =>
      by_cases hdeadline : deadline ≤ now
      · simp only [Pausing.expire, if_pos hdeadline]
        exact ⟨h, fun _ => hdeadline⟩
      · simp only [Pausing.expire, if_neg hdeadline]
        exact h
  | _ => exact h

end Lasts

end Pausing

namespace Crowd

variable {ι : Type} [DecidableEq ι] {i : Nat} {p q : Crowd ι} {m : Option (ι × Deed)} {c : ι}

/-! ## The delay -/

/-- The call is no pause that is over with success before the given time. -/
def Lasts (finish : Duration) (p : Crowd ι) (c : ι) : Prop :=
  ∃ stage, p.calls c = some (.pausing stage) ∧ stage.Lasts finish p.now

theorem Lasts.step {finish : Duration} (h : p.Lasts finish c) (hheld : p.Held)
    (hstep : Step i p m q) : q.Lasts finish c := by
  obtain ⟨stage, hc, hlasts⟩ := h
  have hcall := hstep.callStep hheld c
  rw [hc] at hcall
  suffices ∃ stage', q.calls c = some (.pausing stage') ∧ stage'.Lasts finish p.now by
    obtain ⟨stage', hc', hlasts'⟩ := this
    exact ⟨stage', hc', hlasts'.pass hstep.now_le⟩
  generalize q.calls c = after at hcall
  cases hcall with
  | aside => exact ⟨stage, rfl, hlasts⟩
  | look _ => exact ⟨_, rfl, hlasts.look⟩
  | wake => exact ⟨_, rfl, hlasts.wake⟩
  | expire => exact ⟨_, rfl, hlasts.expire⟩

theorem Sound.lasts {ns : List (Option (ι × Deed))} {finish : Duration} (h : Sound i p)
    (hc : p.Lasts finish c) (hafter : Steps (Step i) p ns q) : q.Lasts finish c := by
  induction hafter with
  | refl => exact hc
  | head hstep _ ih => exact ih (h.step hstep) (hc.step h.held hstep)

/-! ## Parking -/

/-- The call is a pause that has parked and was not woken since. -/
def IsParked (p : Crowd ι) (c : ι) : Prop :=
  ∃ deadline, p.calls c = some (.pausing (.parked deadline))

/-- A pause parks only while the flag is set. -/
theorem Step.parked (hstep : Step i p m q) (hheld : p.Held) (h : q.IsParked c) :
    p.IsParked c ∨ (p.run i).running = true := by
  obtain ⟨deadline, hafter⟩ := h
  have hcall := hstep.callStep hheld c
  rw [hafter] at hcall
  generalize hbefore : p.calls c = before at hcall
  generalize hcalled : some (RunCall.pausing (.parked deadline)) = after at hcall
  -- Only a pause that looks at the flag can park.
  cases hcall with
  | aside => exact .inl ⟨deadline, hbefore.trans hcalled.symm⟩
  | begin hfresh =>
      cases hcalled
      obtain ⟨_, hentering⟩ := hfresh
      cases hentering
  | @look call hwants =>
      cases call with
      | pausing stage =>
          have hfits := stage.fits_look p.now (p.run i) hwants
          simp only [RunCall.look, Option.some.injEq, RunCall.pausing.injEq] at hcalled
          rw [← hcalled] at hfits
          exact .inr hfits
      | _ => cases hcalled
  | @wake call =>
      cases call with
      | pausing stage => cases stage <;> cases hcalled
      | _ => cases hcalled
  | @expire stage =>
      cases stage with
      | parked deadline' => exact .inl ⟨deadline', hbefore⟩
      | _ => cases hcalled
  | advance => cases hcalled

/-- A pause that has not parked by the time the flag is cleared does not park any more. -/
theorem Sound.not_parked {ns : List (Option (ι × Deed))} (h : Sound i p)
    (hrun : (p.run i).running = false) (hc : ¬p.IsParked c) (hafter : Steps (Step i) p ns q) :
    ¬q.IsParked c := by
  induction hafter with
  | refl => exact hc
  | head hstep _ ih =>
      refine ih (h.step hstep) ((hstep.stopStep h.alive h.held).running hrun) fun hparked => ?_
      rcases hstep.parked h.held hparked with hbefore | hset
      · exact hc hbefore
      · simp [hrun] at hset

/-! ## The wake-up -/

/-- A stop that has cleared the flag goes on by waking the pauses. -/
theorem Step.notify_or (hstep : Step i p m q) (hheld : p.Held)
    (hc : p.calls c = some (.stopping .notifying)) :
    q.calls c = some (.stopping .notifying) ∨ m = some (c, .notify) := by
  -- It does not want the lock and is not parked, so any other step is one of another call.
  cases hstep with
  | @begin handle c' call _ hnone _ =>
      have hne : c ≠ c' := by rintro rfl; simp [hnone] at hc
      exact .inl (by simpa [hne] using hc)
  | @look c' call hlock hcall =>
      have hne : c ≠ c' := by
        rintro rfl
        obtain ⟨_, hcall', hwants⟩ := hheld c hlock
        rw [hc] at hcall'
        cases hcall'
        cases hwants
      exact .inl (by simpa [hne] using hc)
  | @notify c' hcall _ =>
      by_cases hne : c = c'
      · subst hne
        exact .inr rfl
      · refine .inl ?_
        by_cases hholder : p.lock.holder = some c <;> simp [hne, roused, hholder, hc, RunCall.wake]
  | @announce c' hcall =>
      have hne : c ≠ c' := by rintro rfl; rw [hc] at hcall; cases hcall
      exact .inl (by simpa [hne] using hc)
  | @wake c' _ hcall _ =>
      have hne : c ≠ c' := by rintro rfl; rw [hc] at hcall; cases hcall
      exact .inl (by simpa [hne] using hc)
  | @expire c' _ hcall _ =>
      have hne : c ≠ c' := by rintro rfl; rw [hc] at hcall; cases hcall
      exact .inl (by simpa [hne] using hc)
  | _ => exact .inl hc

/-- Where pauses are parked: while the flag is set, and after that until the stop that has
cleared it wakes them. -/
structure Wakeful (i : Nat) (p : Crowd ι) : Prop where
  fits : ∀ {c stage}, p.lock = .leaving c → p.calls c = some (.pausing stage) →
    stage.Fits (p.run i).running
  parked : ∀ {c}, p.IsParked c →
    (p.run i).running = true ∨ ∃ c', p.calls c' = some (.stopping .notifying)

/-- What a call does as it gives the lock back fits the flag, since the flag does not change
before it has done so. -/
theorem Wakeful.fits_step (h : Wakeful i p) (hsound : Sound i p) (hstep : Step i p m q)
    {stage : Pausing} (hlock : q.lock = .leaving c) (hc : q.calls c = some (.pausing stage)) :
    stage.Fits (q.run i).running := by
  -- While a call is leaving, no other one can look, and the steps that need no lock are not its.
  cases hstep with
  | @begin handle c' call _ hnone hfresh =>
      by_cases hne : c = c'
      · subst hne
        obtain rfl : call = .pausing stage := by simpa using hc
        obtain ⟨delay, rfl⟩ := hfresh
        trivial
      · exact h.fits hlock (by simpa [hne] using hc)
  | lock => cases hlock
  | @look c' call hlock' hcall =>
      cases hlock
      obtain ⟨_, hcall', hwants⟩ := hsound.held c hlock'
      obtain rfl := Option.some.inj (hcall.symm.trans hcall')
      rw [run_put hsound.alive]
      simp only [Function.update_self, Option.some.injEq] at hc
      cases call with
      | pausing before =>
          cases hc
          exact before.fits_look p.now (p.run i) hwants
      | _ => cases hc
  | leave => cases hlock
  | @notify c' hcall hholder =>
      have hlock' : p.lock = .leaving c := hlock
      have hne : c ≠ c' := by rintro rfl; exact hholder (by simp [hlock'])
      rw [run_put hsound.alive]
      exact h.fits hlock (by simpa [hne, roused, hlock'] using hc)
  | @announce c' hcall =>
      have hne : c ≠ c' := by rintro rfl; simp at hc
      rw [run_put hsound.alive]
      exact h.fits hlock (by simpa [hne] using hc)
  | @wake c' _ _ hholder =>
      have hlock' : p.lock = .leaving c := hlock
      have hne : c ≠ c' := by rintro rfl; exact hholder (by simp [hlock'])
      exact h.fits hlock (by simpa [hne] using hc)
  | @expire c' _ _ hholder =>
      have hlock' : p.lock = .leaving c := hlock
      have hne : c ≠ c' := by rintro rfl; exact hholder (by simp [hlock'])
      exact h.fits hlock (by simpa [hne] using hc)
  | _ => exact h.fits hlock hc

/-- A wake-up reaches every parked pause. It would miss one that still has the lock, but the
flag was cleared under the lock, so that one has not found the flag set. -/
theorem Wakeful.none_parked (h : Wakeful i p) (hsound : Sound i p)
    (hstep : Step i p (some (c, .notify)) q) (c' : ι) : ¬q.IsParked c' := by
  rintro ⟨deadline, hparked⟩
  cases hstep with
  | notify hc _ =>
      have hne : c' ≠ c := by rintro rfl; simp at hparked
      have hroused : p.roused c' = some (.pausing (.parked deadline)) := by
        simpa [hne] using hparked
      by_cases hholder : p.lock.holder = some c'
      · have hc' : p.calls c' = some (.pausing (.parked deadline)) := by
          simpa [roused, hholder] using hroused
        cases hlock : p.lock with
        | free => simp [hlock] at hholder
        | taken c'' =>
            obtain rfl : c'' = c' := by simpa [hlock] using hholder
            obtain ⟨_, hcall, hwants⟩ := hsound.held c'' hlock
            rw [hc'] at hcall
            cases hcall
            exact hwants
        | leaving c'' =>
            obtain rfl : c'' = c' := by simpa [hlock] using hholder
            -- It is about to park, so the flag would still be set.
            have hset : (p.run i).running = true := h.fits hlock hc'
            have hstop : p.stops c = some .notifying := stops_eq_notifying.mpr hc
            simp [hsound.latched.tested hstop] at hset
      · obtain ⟨call, -, hwake⟩ : ∃ call, p.calls c' = some call ∧
            call.wake = .pausing (.parked deadline) := by
          simpa [roused, hholder, Option.map_eq_some_iff] using hroused
        cases call with
        | pausing stage => exact stage.wake_ne_parked deadline (RunCall.pausing.inj hwake)
        | _ => cases hwake

/-- A step that clears the flag is one of a stop, which goes on by waking the pauses. -/
theorem Step.clears (hstep : Step i p m q) (hsound : Sound i p)
    (hbefore : (p.run i).running = true) (hafter : (q.run i).running = false) :
    ∃ c, q.calls c = some (.stopping .notifying) := by
  obtain ⟨c, hc⟩ := (hstep.stopStep hsound.alive hsound.held).notifying hbefore hafter
  exact ⟨c, stops_eq_notifying.mp hc⟩

theorem Wakeful.step (h : Wakeful i p) (hsound : Sound i p) (hstep : Step i p m q) :
    Wakeful i q where
  fits := h.fits_step hsound hstep
  parked := by
    intro c hparked
    cases hafter : (q.run i).running with
    | true => exact .inl rfl
    | false =>
        right
        cases hbefore : (p.run i).running with
        | true => exact hstep.clears hsound hbefore hafter
        | false =>
            have hc : p.IsParked c := by
              simpa [hbefore] using hstep.parked hsound.held hparked
            have hset := h.parked hc
            simp only [hbefore, Bool.false_eq_true, false_or] at hset
            obtain ⟨c', hnotifying⟩ := hset
            rcases hstep.notify_or hsound.held hnotifying with hstill | rfl
            · exact ⟨c', hstill⟩
            · -- This very step was the wake-up.
              exact absurd hparked (h.none_parked hsound hstep c)

theorem wakeful_of_run {pool : RunHandles} {now : Duration} {ms : List (Option (ι × Deed))}
    (halive : i < pool.states.length) (hfresh : pool.state i = .fresh)
    (h : Steps (Step i) (start pool now) ms p) : Sound i p ∧ Wakeful i p := by
  refine h.invariant (P := fun _ p => Sound i p ∧ Wakeful i p) ?_ ?_
  · refine ⟨sound_of_run halive hfresh (.refl _), ?_⟩
    constructor
    · nofun
    · rintro _ ⟨_, hparked⟩
      cases hparked
  · rintro _ p _ q ⟨hsound, hwakeful⟩ hstep
    exact ⟨hsound.step hstep, hwakeful.step hsound hstep⟩

/-! ## Pauses -/

/-- The stop that has cleared the flag has woken the pauses. -/
def HasNotified (p : Crowd ι) : Prop :=
  ∃ c stage, p.stops c = some stage ∧ stage.HasCleared ∧ stage ≠ .notifying

/-- What holds of the pauses at a moment `p` of a run state, and at any later moment `q`. -/
structure Pauses (i : Nat) (p q : Crowd ι) : Prop where
  /-- None sleeps through the stop. -/
  none_parked : p.HasNotified → ∀ c, ¬p.IsParked c
  /-- None parks after the flag was cleared, above all none that begins only then. -/
  never_parks : (p.run i).running = false → ∀ c, ¬p.IsParked c → ¬q.IsParked c
  /-- As it returns, with the lock that it gives back in this very step, its answer is the
  flag. -/
  answers : ∀ c answer, p.calls c = some (.pausing (.finished answer)) →
    (∃ p', Step i p (some (c, .leave)) p') → answer = (p.run i).running
  /-- It answers that the run goes on only after its whole delay. -/
  lasts : ∀ c delay, p.calls c = some (.pausing (.entering delay)) →
    q.calls c = some (.pausing (.finished true)) → p.now + delay ≤ q.now

/-- No pause loses its wake-up, whatever calls are made and however their steps are mixed. -/
theorem pauses_of_run {pool : RunHandles} {now : Duration} {ms ns : List (Option (ι × Deed))}
    (halive : i < pool.states.length) (hfresh : pool.state i = .fresh)
    (hbefore : Steps (Step i) (start pool now) ms p) (hafter : Steps (Step i) p ns q) :
    Pauses i p q := by
  obtain ⟨hsound, hwakeful⟩ := wakeful_of_run halive hfresh hbefore
  constructor
  case none_parked =>
    rintro ⟨c, stage, hstage, hcleared, hnotified⟩ c' hparked
    rcases hwakeful.parked hparked with hset | ⟨c'', hnotifying⟩
    · simp [hsound.latched.tested hstage] at hset
    · rw [← stops_eq_notifying] at hnotifying
      -- The only stop that has cleared the flag would be one that still has to notify.
      have hsame : c'' = c :=
        hsound.latched.single ⟨_, hnotifying, trivial⟩ ⟨stage, hstage, hcleared⟩
      rw [hsame, hstage] at hnotifying
      exact hnotified (Option.some.inj hnotifying)
  case never_parks =>
    intro hrun c hc
    exact hsound.not_parked hrun hc hafter
  case answers =>
    rintro c answer hc ⟨p', hleave⟩
    cases hleave with
    | leave hlock => exact hwakeful.fits hlock hc
  case lasts =>
    intro c delay hc hfinished
    have hentering : p.Lasts (p.now + delay) c := ⟨_, hc, Nat.le_refl _⟩
    obtain ⟨stage, hstage, hlasts⟩ := hsound.lasts hentering hafter
    rw [hfinished] at hstage
    cases hstage
    exact hlasts rfl

/-! ## A pause that meets a stop -/

/-- A pause and a stop begin. The pause finds the flag set and parks; the stop clears it. -/
def missed : List (Option (Bool × Deed)) :=
  [some (false, .begin), some (true, .begin), some (false, .lock), some (false, .look),
    some (false, .leave), some (true, .lock), some (true, .look), some (true, .leave)]

/-- The stop wakes the pause, which looks again and returns. -/
def caught : List (Option (Bool × Deed)) :=
  [some (true, .notify), some (false, .lock), some (false, .look), some (false, .leave)]

/-- The flag is cleared, and the pause does not know it yet. -/
def asleep : Crowd Bool :=
  ⟨⟨[⟨false, false⟩], [some 0], []⟩, .zero, .free, fun stop =>
    some (if stop then .stopping .notifying else .pausing (.parked (.zero + .ofSecs 1)))⟩

/-- The pause has returned before the listeners know of the stop. -/
def awake : Crowd Bool :=
  ⟨⟨[⟨false, false⟩], [some 0], []⟩, .zero, .free, fun stop =>
    some (if stop then .stopping .announcing else .pausing (.finished false))⟩

theorem missed_run : Steps (Step 0) (start .single .zero) missed asleep := by
  suffices ∃ p, Steps (Step 0) (start .single .zero) missed p ∧ p = asleep by
    obtain ⟨p, hp, rfl⟩ := this
    exact hp
  have hhandle : RunHandles.single.target 0 = some 0 := rfl
  have hpause : (RunCall.pausing (.entering (.ofSecs 1))).Fresh := ⟨_, rfl⟩
  have hstop : (RunCall.stopping .testing).Fresh := rfl
  refine ⟨_, .head (.begin hhandle rfl hpause) <| .head (.begin hhandle rfl hstop) <|
    .head (.lock rfl rfl trivial) <| .head (.look rfl rfl) <| .head (.leave rfl) <|
    .head (.lock rfl rfl rfl) <| .head (.look rfl rfl) <| .head (.leave rfl) <| .refl _, ?_⟩
  refine congrArg (Crowd.mk _ _ _) (funext fun c => ?_)
  cases c <;> rfl

theorem caught_run : Steps (Step 0) asleep caught awake := by
  suffices ∃ p, Steps (Step 0) asleep caught p ∧ p = awake by
    obtain ⟨p, hp, rfl⟩ := this
    exact hp
  refine ⟨_, .head (.notify rfl nofun) <| .head (.lock rfl rfl trivial) <|
    .head (.look rfl rfl) <| .head (.leave rfl) <| .refl _, ?_⟩
  refine congrArg (Crowd.mk _ _ _) (funext fun c => ?_)
  cases c <;> rfl

/-- A pause is parked while the flag is cleared already; it is woken and answers with the
flag. -/
theorem pauses_of_run_caught :
    0 < RunHandles.single.states.length ∧ RunHandles.single.state 0 = .fresh ∧
      Steps (Step 0) (start .single .zero) missed asleep ∧
      Steps (Step 0) asleep caught awake ∧ Pauses 0 asleep awake :=
  ⟨by decide, rfl, missed_run, caught_run, pauses_of_run (by decide) rfl missed_run caught_run⟩

end Crowd
end LoadMonitor
