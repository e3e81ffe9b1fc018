import LoadMonitor.Proofs.Demo.Act
import LoadMonitor.Proofs.Run.Kinds
import LoadMonitor.Proofs.Run.Steps
import LoadMonitor.Random.Scripted

/-!
# A demo in performance

The main thread and the dashboard take their steps in any order; between any two of them
somebody else may stop the run. The threads share the flag and the screen. What the services
answer and what becomes of a write is left open.
-/

namespace LoadMonitor

/-- Who takes a step. -/
inductive Actor where
  | main
  | dashboard
  /-- Somebody who does nothing but stop the run. -/
  | other
  deriving DecidableEq

/-- The two threads of a demo and what they share. -/
structure Performance (ρ : Type) where
  run : RunState
  /-- Who has taken the screen for themselves. -/
  owner : Option Actor
  main : Demo ρ
  /-- The dashboard, once it has been launched. -/
  dashboard : Option Dashboard

/-- A step of a performance: who has taken it, and how it is seen. -/
abbrev Turn := Actor × Event

namespace Event

/-- The step cannot be taken while the screen belongs to somebody else. -/
def UsesScreen : Event → Prop
  | wrote _ _ => True
  | flushed _ => True
  | printed _ => True
  | lockedScreen => True
  | _ => False

/-- Who has the screen after the step. -/
def pass (actor : Actor) (owner : Option Actor) : Event → Option Actor
  | lockedScreen => some actor
  | unlockedScreen => none
  | _ => owner

/-- The dashboard after a step of the main thread. -/
def launch (dashboard : Option Dashboard) : Event → Option Dashboard
  | launched => some .start
  | _ => dashboard

theorem Plain.pass {event : Event} (h : event.Plain) (actor : Actor) (owner : Option Actor) :
    event.pass actor owner = owner := by
  cases event with
  | lockedScreen => exact h.elim
  | unlockedScreen => exact h.elim
  | _ => rfl

theorem Plain.launch {event : Event} (h : event.Plain) (dashboard : Option Dashboard) :
    event.launch dashboard = dashboard := by
  cases event with
  | launched => exact h.elim
  | _ => rfl

end Event

namespace Performance

variable {ρ : Type}

/-- The actor can take the step: the screen is free for it, and a thread that is waited for
has ended. -/
def Admits (p : Performance ρ) (actor : Actor) (event : Event) : Prop :=
  (event.UsesScreen → p.owner = none ∨ p.owner = some actor) ∧
    ∀ frames, event = .joined frames → p.dashboard = some (.finished frames)

variable [RandomSource ρ] {config : DemoConfig} {patience : Nat}

/-- The beginning of a demo. -/
def start (run : RunState) (source : ρ) : Performance ρ := ⟨run, none, .start source, none⟩

/-- One of the threads takes its step, or somebody stops the run. -/
inductive Step (config : DemoConfig) (patience : Nat) :
    Performance ρ → Turn → Performance ρ → Prop where
  | main {p : Performance ρ} {e : Effect (Demo ρ)} {event : Event} {t : Demo ρ} :
      p.main.effect config patience = some e → e.Takes event t → event.Agrees p.run →
      p.Admits .main event →
      Step config patience p (.main, event)
        ⟨event.move p.run, event.pass .main p.owner, t, event.launch p.dashboard⟩
  | dashboard {p : Performance ρ} {d : Dashboard} {e : Effect Dashboard} {event : Event}
      {t : Dashboard} :
      p.dashboard = some d → d.effect config.refresh = some e → e.Takes event t →
      event.Agrees p.run → p.Admits .dashboard event →
      Step config patience p (.dashboard, event)
        ⟨event.move p.run, event.pass .dashboard p.owner, p.main, some t⟩
  | other {p : Performance ρ} :
      Step config patience p (.other, .stopped p.run.stop.1) { p with run := p.run.stop.2 }

/-- A dashboard takes plain steps only, so it changes nothing but itself. -/
theorem Step.of_dashboard {p q : Performance ρ} {event : Event}
    (h : Step config patience p (.dashboard, event) q) :
    ∃ d e t, p.dashboard = some d ∧ d.effect config.refresh = some e ∧ e.Takes event t ∧
      event.Agrees p.run ∧ p.Admits .dashboard event ∧
      q = { p with dashboard := some t } := by
  cases h with
  | @dashboard d e event t hd heffect htakes hagrees hadmits =>
      have hplain := (Dashboard.effect_only config.refresh _ _ _ _ heffect htakes).plain
      refine ⟨d, e, t, hd, heffect, htakes, hagrees, hadmits, ?_⟩
      rw [hplain.move, hplain.pass]

/-- A run that is stopped stays so. -/
theorem Step.stopped {p q : Performance ρ} {turn : Turn} (h : Step config patience p turn q)
    (hrun : p.run.running = false) : q.run.running = false := by
  cases h with
  | main _ _ _ _ => exact Event.running_move _ hrun
  | dashboard _ _ _ _ _ => exact Event.running_move _ hrun
  | other => exact RunState.running_stop p.run

end Performance

/-! ## Parts -/

/-- The steps of one actor among the steps of all. -/
def Turn.part (actor : Actor) (turns : List Turn) : List Event :=
  turns.filterMap fun turn => if turn.1 = actor then some turn.2 else none

namespace Turn

@[simp] theorem part_append (actor : Actor) (ts us : List Turn) :
    part actor (ts ++ us) = part actor ts ++ part actor us :=
  List.filterMap_append

@[simp] theorem part_self (actor : Actor) (event : Event) :
    part actor [(actor, event)] = [event] := by
  simp [part]

theorem part_ne {actor actor' : Actor} (h : actor' ≠ actor) (event : Event) :
    part actor [(actor', event)] = [] := by
  simp [part, h]

end Turn

/-! ## Where the two threads can stand together -/

/-- What holds of the flag, the screen and the dashboard while the main thread stands at a
position. Once the main thread speaks its last words the run is stopped; only a main thread
that returns with success knows that the dashboard has ended. -/
def Demo.Fits {ρ : Type} (running : Bool) (owner : Option Actor)
    (dashboard : Option Dashboard) : Demo ρ → Prop
  | driving _ => owner = none ∧ dashboard.isSome
  | locking _ => owner = none ∧ dashboard.isSome
  | parting _ (.stopping _) => owner = some .main ∧ dashboard.isSome
  | parting _ _ => owner = some .main ∧ dashboard.isSome ∧ running = false
  | unlocking _ _ => owner = some .main ∧ dashboard.isSome ∧ running = false
  | joining _ => owner = none ∧ dashboard.isSome ∧ running = false
  | closing _ frames => owner = none ∧ dashboard = some (.finished frames) ∧ running = false
  | finished result => owner = none ∧ (dashboard = none ∨
    (dashboard.isSome ∧ running = false ∧
      ∀ outcome, result = .ok outcome → ∃ frames, dashboard = some (.finished frames)))
  | _ => owner = none ∧ dashboard = none

namespace Demo.Fits

variable {ρ : Type} {running : Bool} {owner : Option Actor} {dashboard : Option Dashboard}

/-- The run may be stopped at any position. -/
theorem stop {main : Demo ρ} (h : main.Fits running owner dashboard) :
    main.Fits false owner dashboard := by
  cases main with
  | parting outcome farewell =>
      cases farewell with
      | stopping outcome => exact h
      | _ => exact ⟨h.1, h.2.1, rfl⟩
  | unlocking outcome result => exact ⟨h.1, h.2.1, rfl⟩
  | joining outcome => exact ⟨h.1, h.2.1, rfl⟩
  | closing outcome frames => exact ⟨h.1, h.2.1, rfl⟩
  | finished result =>
      exact ⟨h.1, h.2.imp_right fun ⟨hsome, _, hjoined⟩ => ⟨hsome, rfl, hjoined⟩⟩
  | _ => exact h

/-- A dashboard that has not ended may go on at any position. -/
theorem redraw {main : Demo ρ} {d : Dashboard} (t : Dashboard)
    (h : main.Fits running owner (some d)) (hd : ∀ frames, d ≠ .finished frames) :
    main.Fits running owner (some t) := by
  cases main with
  | driving driver => exact ⟨h.1, rfl⟩
  | locking outcome => exact ⟨h.1, rfl⟩
  | parting outcome farewell =>
      cases farewell with
      | stopping outcome => exact ⟨h.1, rfl⟩
      | _ => exact ⟨h.1, rfl, h.2.2⟩
  | unlocking outcome result => exact ⟨h.1, rfl, h.2.2⟩
  | joining outcome => exact ⟨h.1, rfl, h.2.2⟩
  | closing outcome frames => exact absurd (Option.some.inj h.2.1) (hd frames)
  | finished result =>
      obtain ⟨howner, hnone | ⟨-, hrunning, hjoined⟩⟩ := h
      · cases hnone
      · refine ⟨howner, .inr ⟨rfl, hrunning, fun outcome hok => ?_⟩⟩
        obtain ⟨frames, hframes⟩ := hjoined outcome hok
        exact absurd (Option.some.inj hframes) (hd frames)
  | _ => cases h.2

theorem advised {error : PrecheckError} {writing : Writing} (howner : owner = none)
    (hnone : dashboard = none) :
    (advised error writing : Demo ρ).Fits running owner dashboard := by
  cases writing with
  | pending text rest => exact ⟨howner, hnone⟩
  | finished result => cases result <;> exact ⟨howner, .inl hnone⟩

theorem driven {driver : LoadDriver ρ} (howner : owner = none) (hsome : dashboard.isSome) :
    (driven driver).Fits running owner dashboard := by
  cases driver <;> exact ⟨howner, hsome⟩

end Demo.Fits

namespace Performance

variable {ρ : Type}

/-- The threads stand at positions that fit together. -/
def Fits (p : Performance ρ) : Prop := p.main.Fits p.run.running p.owner p.dashboard

variable [RandomSource ρ] {config : DemoConfig} {patience : Nat}

/-- The main thread goes on to a position that fits. -/
theorem Fits.act {run : RunState} {owner : Option Actor} {main t : Demo ρ}
    {dashboard : Option Dashboard} {event : Event} (hfits : main.Fits run.running owner dashboard)
    (hact : Demo.Act config patience main event t)
    (hjoined : ∀ frames, event = .joined frames → dashboard = some (.finished frames)) :
    t.Fits (event.move run).running (event.pass .main owner) (event.launch dashboard) := by
  cases hact with
  | pass => exact hfits
  | fail => exact hfits
  | excuse => exact .advised hfits.1 hfits.2
  | advise heffect htakes =>
      have hplain := (Writing.effect_only _ _ _ _ heffect htakes).plain
      rw [hplain.move, hplain.pass, hplain.launch]
      exact .advised hfits.1 hfits.2
  | greet => exact hfits
  | space => exact hfits
  | launch => exact ⟨hfits.1, rfl⟩
  | drive heffect htakes =>
      have hplain := (LoadDriver.effect_only config.pacing patience _ _ _ _ heffect htakes).plain
      rw [hplain.move, hplain.pass, hplain.launch]
      exact .driven hfits.1 hfits.2
  | lock => exact ⟨rfl, hfits.2⟩
  | stop => exact ⟨hfits.1, hfits.2, RunState.running_stop run⟩
  | speak => exact hfits
  | unlock => exact ⟨rfl, hfits.2⟩
  -- A farewell that fails ends the demo without the join.
  | leave => exact ⟨rfl, .inr ⟨hfits.2.1, hfits.2.2, nofun⟩⟩
  | @join outcome frames => exact ⟨hfits.1, hjoined frames rfl, hfits.2.2⟩
  | @close outcome frames =>
      obtain ⟨howner, hended, hrunning⟩ := hfits
      have hsome : dashboard.isSome := Option.isSome_of_mem hended
      exact ⟨howner, .inr ⟨hsome, hrunning, fun _ _ => ⟨frames, hended⟩⟩⟩

/-- Threads that fit together do so after every step. -/
theorem Fits.step {p q : Performance ρ} {turn : Turn} (hfits : p.Fits)
    (h : Step config patience p turn q) : q.Fits := by
  cases h with
  | main heffect htakes _ hadmits =>
      exact Fits.act hfits (Demo.act_of_takes heffect htakes) hadmits.2
  | @dashboard d e event t hd heffect htakes _ _ =>
      have hplain := (Dashboard.effect_only config.refresh _ _ _ _ heffect htakes).plain
      unfold Fits at hfits ⊢
      rw [hplain.move, hplain.pass]
      rw [hd] at hfits
      refine hfits.redraw t ?_
      -- A dashboard that has ended takes no step, so the frames it has reported stand.
      rintro frames rfl
      cases heffect
  | other =>
      unfold Fits
      rw [RunState.running_stop]
      exact hfits.stop

/-- Throughout a performance the threads fit together. -/
theorem fits_of_run {run : RunState} {source : ρ} {turns : List Turn} {p : Performance ρ}
    (h : Steps (Step config patience) (start run source) turns p) : p.Fits :=
  h.invariant (P := fun _ p => p.Fits) ⟨rfl, rfl⟩ fun _ _ _ _ hfits hstep => hfits.step hstep

/-! ## A demo that is stopped in the middle -/

/-- A demo with a single slow query. -/
def oneQuery : DemoConfig := { DemoConfig.byDefault with plan := [.slow 1] }

/-- What the service says of its health in between. -/
def someHealth : HealthSnapshot := ⟨.ok, "test", .zero⟩

/-- The dashboard is about to ask for the metrics and the main thread about to put its query
when somebody stops the run. -/
def midway : List Turn :=
  [(.main, .checkedLive (.ok ())), (.main, .printed "Starting Click-Lite Monitoring Demo...\n"),
    (.main, .printed "\n"), (.main, .launched), (.dashboard, .looked true),
    (.dashboard, .wrote Frame.clearScreen (.ok ())), (.dashboard, .readHealth (.ok someHealth)),
    (.main, .looked true), (.main, .printed (LoadDriver.announcement 1 (.slow 1))),
    (.main, .looked true), (.other, .stopped true)]

/-- The main thread alone goes on from there. -/
def windingUp : List Turn :=
  [(.main, .submitted (.query Generator.slowQuery)), (.main, .paused (.ofMillis 500) false),
    (.main, .logged (LoadDriver.phaseFinished 1 ⟨1, 0, 1⟩)), (.main, .looked false),
    (.main, .lockedScreen), (.main, .stopped false)]

/-- Where that demo is stopped. -/
def stoppedMidway : Performance ScriptedWords :=
  ⟨⟨false, true⟩, none,
    .driving (.running 1 (.slow 1) []
      (.submitting (.count 1) (.query Generator.slowQuery) [] ⟨⟨[], 0⟩, ⟨1, 0, 0⟩⟩)),
    some (.ticking 0 (.askingMetrics someHealth))⟩

/-- Where the main thread is about to say its last words. -/
def woundUp : Performance ScriptedWords :=
  ⟨⟨false, true⟩, some .main, .parting .interrupted (.speaking .interrupted),
    some (.ticking 0 (.askingMetrics someHealth))⟩

theorem midway_run : Steps (Step oneQuery 1) (start .fresh ⟨[], 0⟩) midway stoppedMidway :=
  .head (.main rfl (.checkLive (.ok ())) trivial ⟨nofun, nofun⟩) <|
  .head (.main rfl .print trivial ⟨fun _ => .inl rfl, nofun⟩) <|
  .head (.main rfl .print trivial ⟨fun _ => .inl rfl, nofun⟩) <|
  .head (.main rfl .launch trivial ⟨nofun, nofun⟩) <|
  .head (.dashboard rfl rfl (.isRunning true) rfl ⟨nofun, nofun⟩) <|
  .head (.dashboard rfl rfl (.write (.ok ())) trivial ⟨fun _ => .inl rfl, nofun⟩) <|
  .head (.dashboard rfl rfl (.health (.ok someHealth)) trivial ⟨nofun, nofun⟩) <|
  .head (.main rfl (.isRunning true) rfl ⟨nofun, nofun⟩) <|
  .head (.main rfl .print trivial ⟨fun _ => .inl rfl, nofun⟩) <|
  .head (.main rfl (.isRunning true) rfl ⟨nofun, nofun⟩) <|
  .head .other <| .refl _

theorem windingUp_run : Steps (Step oneQuery 1) stoppedMidway windingUp woundUp :=
  .head (.main rfl .submit trivial ⟨nofun, nofun⟩) <|
  .head (.main rfl (.pause false) rfl ⟨nofun, nofun⟩) <|
  .head (.main rfl .log trivial ⟨nofun, nofun⟩) <|
  .head (.main rfl (.isRunning false) rfl ⟨nofun, nofun⟩) <|
  .head (.main rfl .lockScreen trivial ⟨fun _ => .inl rfl, nofun⟩) <|
  .head (.main rfl (.stop false) rfl ⟨nofun, nofun⟩) <| .refl _

/-- The turn with the last words of that demo, and what becomes of them. -/
def lastWords (result : Except WriteError Unit) : Turn :=
  (.main, .wrote (LoadOutcome.interrupted.farewell oneQuery.webDashboardUrl) result)

/-- Right after its last words; the dashboard is still in its tick. -/
def overtaken (result : Except WriteError Unit) : Performance ScriptedWords :=
  ⟨⟨false, true⟩, some .main, .unlocking .interrupted result,
    some (.ticking 0 (.askingMetrics someHealth))⟩

theorem overtaken_run (result : Except WriteError Unit) :
    Steps (Step oneQuery 1) (start .fresh ⟨[], 0⟩) (midway ++ windingUp ++ [lastWords result])
      (overtaken result) :=
  (midway_run.trans windingUp_run).trans <|
    .single (.main rfl (.write result) trivial ⟨fun _ => .inr rfl, nofun⟩)

end Performance
end LoadMonitor
