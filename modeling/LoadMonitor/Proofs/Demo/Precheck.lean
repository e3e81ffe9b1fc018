import LoadMonitor.Proofs.Client.Liveness
import LoadMonitor.Proofs.Demo.Performance
import LoadMonitor.Proofs.Demo.Turned

/-!
# The precheck gates the demo

A demo is turned back by a precheck that has failed, or that has passed too late. Then neither
thread makes a call, and after a bounded number of steps, in which they are never stuck, the main
thread has returned with the one outcome that is left.
-/

namespace LoadMonitor

namespace Performance

variable {ρ : Type}

/-- The steps that are left to both threads. -/
def left (p : Performance ρ) : Nat := p.main.left + (p.dashboard.map (·.left)).getD 0

/-- The demo was turned back at its precheck. -/
structure Turned (answer : Except PrecheckError Unit) (p : Performance ρ) : Prop where
  fits : p.Fits
  main : p.main.Turned answer p.run.running
  dashboard : ∀ d, p.dashboard = some d → d.Idle ∧ answer = .ok () ∧ p.run.running = false

variable [RandomSource ρ] {config : DemoConfig} {patience : Nat} {run : RunState} {source : ρ}
  {before after : List Turn} {turn : Turn} {p q r : Performance ρ}
  {answer : Except PrecheckError Unit}

/-- A demo that is turned back makes no call, and each step of its threads brings it nearer to
its end. -/
theorem Turned.step (h : p.Turned answer) (hstep : Step config patience p turn q) :
    q.Turned answer ∧ ¬turn.2.IsCall ∧
      q.left + (if turn.1 = .other then 0 else 1) ≤ p.left := by
  have hfits := h.fits.step hstep
  cases hstep with
  | @main e event t heffect htakes hagrees _ =>
      have hact := Demo.act_of_takes heffect htakes
      obtain ⟨hmain, hcall, hleft, hlaunch⟩ := h.main.act hact hagrees
      by_cases hlaunched : event = .launched
      · -- The dashboard that begins adds its steps to those that are left.
        subst hlaunched
        obtain ⟨hleft', hok, hrun⟩ := hlaunch rfl
        refine ⟨⟨hfits, hmain, ?_⟩, hcall, ?_⟩
        · rintro d ⟨⟩
          exact ⟨trivial, hok, hrun⟩
        · show t.left + 2 + 1 ≤ p.left
          unfold left
          omega
      · have hsame : event.launch p.dashboard = p.dashboard := by
          cases event <;> first | rfl | exact absurd rfl hlaunched
        refine ⟨⟨hfits, hmain, ?_⟩, hcall, ?_⟩
        · intro d hd
          obtain ⟨hidle, hok, hrun⟩ := h.dashboard d (hsame.symm.trans hd)
          exact ⟨hidle, hok, Event.running_move event hrun⟩
        · simp only [left, hsame, reduceCtorEq, if_false]
          omega
  | @dashboard d e event t hd heffect htakes hagrees _ =>
      obtain ⟨hidle, hok, hrun⟩ := h.dashboard d hd
      obtain ⟨hidle', hcall, hleft⟩ := hidle.step hrun heffect htakes hagrees
      have hplain := (Dashboard.effect_only config.refresh _ _ _ _ heffect htakes).plain
      refine ⟨⟨hfits, ?_, ?_⟩, hcall, ?_⟩
      · rw [hplain.move]
        exact h.main
      · rintro d' ⟨⟩
        rw [hplain.move]
        exact ⟨hidle', hok, hrun⟩
      · simp only [left, hd, Option.map_some, Option.getD_some, reduceCtorEq, if_false]
        omega
  | other =>
      refine ⟨⟨hfits, ?_, ?_⟩, id, Nat.le_refl _⟩
      · rw [RunState.running_stop]
        exact h.main.stop
      · intro d hd
        obtain ⟨hidle, hok, -⟩ := h.dashboard d hd
        exact ⟨hidle, hok, RunState.running_stop p.run⟩

/-- A demo that is turned back is not stuck before the main thread has returned. -/
theorem Turned.unstuck (h : p.Turned answer) (hmain : ∀ result, p.main ≠ .finished result) :
    ∃ turn q, turn.1 ≠ .other ∧ Step config patience p turn q := by
  suffices (∃ event q, Step config patience p (.main, event) q) ∨
      ∃ event q, Step config patience p (.dashboard, event) q by
    rcases this with ⟨event, q, hstep⟩ | ⟨event, q, hstep⟩
    · exact ⟨(.main, event), q, nofun, hstep⟩
    · exact ⟨(.dashboard, event), q, nofun, hstep⟩
  obtain ⟨run, owner, main, dashboard⟩ := p
  obtain ⟨hfits, hturned, hdashboard⟩ := h
  cases main with
  | excusing error => exact .inl ⟨_, _, .main rfl .log trivial ⟨nofun, nofun⟩⟩
  | advising error writing =>
      cases writing with
      | pending text rest =>
          exact .inl ⟨_, _, .main rfl (.write (.ok ())) trivial ⟨fun _ => .inl hfits.1, nofun⟩⟩
      | finished result => exact hturned.1.elim
  | greeting source => exact .inl ⟨_, _, .main rfl .print trivial ⟨fun _ => .inl hfits.1, nofun⟩⟩
  | spacing source => exact .inl ⟨_, _, .main rfl .print trivial ⟨fun _ => .inl hfits.1, nofun⟩⟩
  | launching source => exact .inl ⟨_, _, .main rfl .launch trivial ⟨nofun, nofun⟩⟩
  | driving driver =>
      cases driver with
      | choosing number phase rest source =>
          exact .inl ⟨_, _, .main rfl (.isRunning run.running) rfl ⟨nofun, nofun⟩⟩
      | concluding source =>
          exact .inl ⟨_, _, .main rfl (.isRunning run.running) rfl ⟨nofun, nofun⟩⟩
      | _ => exact hturned.1.elim
  | locking outcome =>
      exact .inl ⟨_, _, .main rfl .lockScreen trivial ⟨fun _ => .inl hfits.1, nofun⟩⟩
  | parting outcome farewell =>
      cases farewell with
      | stopping words => exact .inl ⟨_, _, .main rfl (.stop run.stop.1) rfl ⟨nofun, nofun⟩⟩
      | speaking words =>
          exact .inl ⟨_, _, .main rfl (.write (.ok ())) trivial ⟨fun _ => .inr hfits.1, nofun⟩⟩
      | finished result => exact hturned.1.elim
  | unlocking outcome result =>
      exact .inl ⟨_, _, .main rfl .unlockScreen trivial ⟨nofun, nofun⟩⟩
  | joining outcome =>
      -- The main thread waits for the dashboard, so it is the dashboard's turn unless it has ended.
      obtain ⟨-, hsome, -⟩ := hfits
      obtain ⟨d, rfl⟩ := Option.isSome_iff_exists.mp hsome
      obtain ⟨hidle, -⟩ := hdashboard d rfl
      cases d with
      | checking frames =>
          exact .inr ⟨_, _, .dashboard rfl rfl (.isRunning run.running) rfl ⟨nofun, nofun⟩⟩
      | leaving frames => exact .inr ⟨_, _, .dashboard rfl rfl .log trivial ⟨nofun, nofun⟩⟩
      | finished frames =>
          refine .inl ⟨_, _, .main rfl (.join frames) trivial ⟨nofun, ?_⟩⟩
          rintro _ ⟨⟩
          rfl
      | _ => exact hidle.elim
  | closing outcome frames => exact .inl ⟨_, _, .main rfl .log trivial ⟨nofun, nofun⟩⟩
  | finished result => exact absurd rfl (hmain result)
  | prechecking source => exact hturned.1.elim

theorem Turned.steps (h : q.Turned answer) (hafter : Steps (Step config patience) q after r) :
    r.Turned answer ∧ (∀ turn ∈ after, ¬turn.2.IsCall) ∧
      r.left + after.countP (·.1 ≠ .other) ≤ q.left := by
  induction hafter with
  | refl => exact ⟨h, nofun, Nat.le_refl _⟩
  | @head p q r turn turns hstep _ ih =>
      obtain ⟨hq, hcall, hleft⟩ := h.step hstep
      obtain ⟨hr, hcalls, hlefts⟩ := ih hq
      refine ⟨hr, ?_, ?_⟩
      · intro turn' hmem
        rcases List.mem_cons.mp hmem with rfl | hmem
        · exact hcall
        · exact hcalls turn' hmem
      · by_cases hother : turn.1 = .other
        · rw [if_pos hother] at hleft
          rw [List.countP_cons_of_neg (by simp [hother])]
          omega
        · rw [if_neg hother] at hleft
          rw [List.countP_cons_of_pos (by simp [hother])]
          omega

/-! ## The precheck -/

/-- Where the precheck leaves the threads. -/
theorem Fits.checked (hfits : p.Fits)
    (hcheck : Step config patience p (.main, .checkedLive answer) q) :
    q.dashboard = none ∧
      ((answer = .ok () ∧ ∃ source, q.main = .greeting source) ∨
        ∃ error, answer = .error error ∧ q.main = .excusing error) := by
  unfold Fits at hfits
  cases hcheck with
  | @main e event t heffect htakes _ _ =>
      have hact := Demo.act_of_takes heffect htakes
      generalize p.main = main at hact hfits
      cases hact with
      | @pass source => exact ⟨hfits.2, .inl ⟨rfl, source, rfl⟩⟩
      | @fail _ error => exact ⟨hfits.2, .inr ⟨error, rfl, rfl⟩⟩
      | advise hwriting hnext => exact (Writing.effect_only _ _ _ _ hwriting hnext).elim
      | drive hdriver hnext =>
          exact (LoadDriver.effect_only config.pacing patience _ _ _ _ hdriver hnext).elim

/-- The demo is turned back by a precheck that has failed, or that has passed too late. -/
theorem Fits.turned (hfits : p.Fits)
    (hcheck : Step config patience p (.main, .checkedLive answer) q)
    (hback : answer ≠ .ok () ∨ q.run.running = false) : q.Turned answer ∧ q.left ≤ 13 := by
  have hfits' := hfits.step hcheck
  obtain ⟨hnone, ⟨hok, source, hmain⟩ | ⟨error, herror, hmain⟩⟩ := hfits.checked hcheck
  · have hrun : q.run.running = false := by simpa [hok] using hback
    refine ⟨⟨hfits', ?_, fun d hd => by simp [hnone] at hd⟩, ?_⟩
    · rw [hmain]
      exact ⟨trivial, hok, hrun⟩
    · simp [left, hmain, hnone, Demo.left]
  · refine ⟨⟨hfits', ?_, fun d hd => by simp [hnone] at hd⟩, ?_⟩
    · rw [hmain]
      exact herror
    · cases error <;> simp [left, hmain, hnone, Demo.left, PrecheckError.advice]

/-- A step of a performance is one of the main thread, or leaves it where it is. -/
theorem Step.main_act (h : Step config patience p turn q) :
    q.main = p.main ∨
      ∃ event, turn = (.main, event) ∧ Demo.Act config patience p.main event q.main := by
  cases h with
  | main heffect htakes _ _ => exact .inr ⟨_, rfl, Demo.act_of_takes heffect htakes⟩
  | dashboard _ _ _ _ _ => exact .inl rfl
  | other => exact .inl rfl

theorem passed_of_steps (hafter : Steps (Step config patience) q after r) (h : q.main.Passed) :
    r.main.Passed :=
  hafter.invariant (P := fun _ r => r.main.Passed) h fun _ p _ q hp hstep => by
    rcases hstep.main_act with hsame | ⟨event, -, hact⟩
    · rwa [hsame]
    · exact hp.act hact

theorem lost_of_steps {error : WriteError} (hafter : Steps (Step config patience) q after r)
    (h : r.main.Lost error) :
    q.main.Lost error ∨ ∃ text, (.main, .wrote text (.error error)) ∈ after := by
  induction hafter with
  | refl => exact .inl h
  | @head p q r turn turns hstep _ ih =>
      rcases ih h with hlost | ⟨text, hmem⟩
      · rcases hstep.main_act with hsame | ⟨event, rfl, hact⟩
        · exact .inl (hsame ▸ hlost)
        · rcases hact.lost hlost with hbefore | ⟨text, rfl⟩
          · exact .inl hbefore
          · exact .inr ⟨text, List.mem_cons_self ..⟩
      · exact .inr ⟨text, List.mem_cons_of_mem _ hmem⟩

/-! ## The gate -/

/-- What follows a precheck with the given answer, which has left the demo at `q`: the turns
`after` that lead to `r`. -/
structure Gate (config : DemoConfig) (patience : Nat) (answer : Except PrecheckError Unit)
    (q : Performance ρ) (after : List Turn) (r : Performance ρ) : Prop where
  /-- The service is blamed exactly if it has not answered, or not with the right status. -/
  blamed : ∀ outcome, r.main = .finished (.ok outcome) →
    (outcome = .serviceUnavailable ↔ (∃ status, answer = .error (.unhealthy status)) ∨
      ∃ url reason, answer = .error (.unreachable url reason))
  cancelled : answer = .error .cancelled → ∀ outcome, r.main = .finished (.ok outcome) →
    outcome = .interrupted
  /-- After a failure no call is made and no dashboard is launched. -/
  failed : (∃ error, answer = .error error) →
    r.dashboard = none ∧ ∀ turn ∈ after, ¬turn.2.IsCall
  /-- After a success that has come too late neither thread makes a call. -/
  late : answer = .ok () → q.run.running = false → (∀ turn ∈ after, ¬turn.2.IsCall) ∧
    ∀ outcome, r.main = .finished (.ok outcome) → outcome = .interrupted
  /-- Either way the threads take few steps, and are not stuck before the main thread returns. -/
  returns : answer ≠ .ok () ∨ q.run.running = false → after.countP (·.1 ≠ .other) ≤ 13 ∧
    ((∀ result, r.main ≠ .finished result) →
      ∃ turn r', turn.1 ≠ .other ∧ Step config patience r turn r')
  /-- If the main thread returns without an outcome, a text could not be written. -/
  written : ∀ error, r.main = .finished (.error error) →
    ∃ text, (.main, .wrote text (.error error)) ∈ after

theorem gate_of_check (hfits : p.Fits)
    (hcheck : Step config patience p (.main, .checkedLive answer) q)
    (hafter : Steps (Step config patience) q after r) : Gate config patience answer q after r := by
  have hturned : answer ≠ .ok () ∨ q.run.running = false →
      r.Turned answer ∧ (∀ turn ∈ after, ¬turn.2.IsCall) ∧
        r.left + after.countP (·.1 ≠ .other) ≤ 13 := by
    intro hback
    obtain ⟨hq, hleft⟩ := hfits.turned hcheck hback
    obtain ⟨hr, hcalls, hlefts⟩ := hq.steps hafter
    exact ⟨hr, hcalls, Nat.le_trans hlefts hleft⟩
  have houtcome : answer ≠ .ok () ∨ q.run.running = false →
      ∀ outcome, r.main = .finished (.ok outcome) → outcome = turnedOutcome answer := by
    intro hback outcome hmain
    have hr := (hturned hback).1.main
    rw [hmain] at hr
    exact hr outcome rfl
  obtain ⟨-, hchecked⟩ := hfits.checked hcheck
  constructor
  case blamed =>
    intro outcome hmain
    rcases hchecked with ⟨rfl, source, hgreeting⟩ | ⟨error, rfl, -⟩
    · -- From the greeting on no outcome blames the service.
      have hpassed : r.main.Passed := passed_of_steps hafter (by rw [hgreeting]; trivial)
      rw [hmain] at hpassed
      have hne : outcome ≠ .serviceUnavailable := fun h => hpassed (congrArg _ h)
      simp [hne]
    · rw [houtcome (.inl nofun) outcome hmain]
      cases error <;> simp [turnedOutcome, PrecheckError.demo]
  case cancelled =>
    rintro rfl outcome hmain
    exact houtcome (.inl nofun) outcome hmain
  case failed =>
    rintro ⟨error, rfl⟩
    obtain ⟨hr, hcalls, -⟩ := hturned (.inl nofun)
    refine ⟨?_, hcalls⟩
    cases hd : r.dashboard with
    | none => rfl
    | some d => cases (hr.dashboard d hd).2.1
  case late =>
    rintro rfl hrun
    exact ⟨(hturned (.inr hrun)).2.1, houtcome (.inr hrun)⟩
  case returns =>
    intro hback
    obtain ⟨hr, -, hleft⟩ := hturned hback
    exact ⟨Nat.le_trans (Nat.le_add_left ..) hleft, hr.unstuck⟩
  case written =>
    intro error hmain
    have hlost : r.main.Lost error := by
      rw [hmain]
      rfl
    refine (lost_of_steps hafter hlost).resolve_left ?_
    rcases hchecked with ⟨-, source, hgreeting⟩ | ⟨cause, -, hexcusing⟩
    · rw [hgreeting]
      exact id
    · rw [hexcusing]
      exact id

/-- What a liveness check tells is settled by the service and by the stop of the run, and what it
tells decides whether the demo begins. -/
theorem gated_by_precheck {ι : Type} [DecidableEq ι] {i : Nat} {pool : RunHandles}
    {now : Duration} {c : Client} {t₀ t u : Traffic ι} {ms ns : List (Sighting ι)} {l : Landing}
    (halive : i < pool.states.length) (hfresh : pool.state i = .fresh)
    (hbefore : Steps (Traffic.Step i) (.start pool now c) ms t₀)
    (hcalled : Steps (Traffic.Step i) t₀ ns t) (hland : Traffic.Step i t (.landed l) u)
    (hcall : l.call = .checkLive) (hreply : l.reply = .live answer)
    (hstart : Steps (Step config patience) (start run source) before p)
    (hcheck : Step config patience p (.main, .checkedLive answer) q)
    (hafter : Steps (Step config patience) q after r) :
    Prechecked i c t₀ t l answer ∧ Gate config patience answer q after r :=
  ⟨Traffic.prechecked_of_run halive hfresh hbefore hcalled hland hcall hreply,
    gate_of_check (fits_of_run hstart) hcheck hafter⟩

/-! ## A service that is not well -/

/-- A liveness check that is answered at once, with status 500. -/
def ailing (polls? : Option Nat) : Flight :=
  ⟨.checkLive, fun _ => some (.ok ⟨500, [], none⟩), polls?⟩

/-- The request of a liveness check. -/
def probe : HttpRequest where
  method := .get
  url := { Traffic.nearby.base with
    path := .segments ["monitoring".toList, "health".toList, "live".toList] }
  body := none

/-- How it comes back. -/
def ailed : Landing where
  flight := ailing (some 0)
  elapsed := .ofMillis 2
  announced := false
  offered := some (.ok (probe, .ok ⟨500, [], none⟩))
  ending := some (.ok (probe, .ok ⟨500, [], none⟩))
  reply := .live (.error (.unhealthy 500))

/-- The check under way. -/
def checking (polls? : Option Nat) : Traffic Unit :=
  ⟨.start .single .zero, .start Traffic.nearby, some (ailing polls?)⟩

theorem checking_run : Steps (Traffic.Step 0) (.start .single .zero Traffic.nearby)
    [.departed .checkLive, .raced] (checking (some 0)) :=
  .head (@Traffic.Step.depart Unit _ 0 _ _ (ailing none).arrival rfl) <|
  .head (@Traffic.Step.race Unit _ 0 (checking none) (ailing none) true 0 rfl rfl) <| .refl _

theorem ailed_step : ∃ u, Traffic.Step 0 (checking (some 0)) (.landed ailed) u :=
  ⟨_, @Traffic.Step.land Unit _ 0 (checking (some 0)) (ailing (some 0)) true 1 ailed.ending
    ailed.elapsed rfl rfl⟩

/-- Where the answer leaves the demo. -/
def excused : Performance ScriptedWords := ⟨.fresh, none, .excusing (.unhealthy 500), none⟩

/-- The main thread says what is wrong. -/
def excuses : List Turn :=
  (.main, .logged (Demo.precheckFailed (.unhealthy 500))) ::
    (PrecheckError.unhealthy 500).advice.map fun text => (.main, .wrote text (.ok ()))

/-- It has returned. -/
def dismissed : Performance ScriptedWords :=
  ⟨.fresh, none, .finished (.ok .serviceUnavailable), none⟩

theorem excused_step : Step oneQuery 1 (start .fresh ⟨[], 0⟩)
    (.main, .checkedLive (.error (.unhealthy 500))) excused :=
  .main rfl (.checkLive (.error (.unhealthy 500))) trivial ⟨nofun, nofun⟩

theorem excuses_run : Steps (Step oneQuery 1) excused excuses dismissed :=
  .head (.main rfl .log trivial ⟨nofun, nofun⟩) <|
  .head (.main rfl (.write (.ok ())) trivial ⟨fun _ => .inl rfl, nofun⟩) <|
  .head (.main rfl (.write (.ok ())) trivial ⟨fun _ => .inl rfl, nofun⟩) <| .refl _

/-- A service that answers with status 500 is not well, and the demo does not begin. -/
theorem gated_by_precheck_ailing :
    Prechecked 0 Traffic.nearby (checking (some 0)) (checking (some 0)) ailed
      (.error (.unhealthy 500)) ∧
    Gate oneQuery 1 (.error (.unhealthy 500)) excused excuses dismissed := by
  obtain ⟨u, hland⟩ := ailed_step
  exact gated_by_precheck (by decide) rfl checking_run (.refl _) hland rfl rfl (.refl _)
    excused_step excuses_run

end Performance
end LoadMonitor
