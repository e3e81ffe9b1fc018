import LoadMonitor.Proofs.Demo.Performance

/-!
# After the farewell

The run is stopped before the last words are written. That keeps the dashboard from beginning
another tick, but not from going on with the one it is in: the flag is looked at before a tick
only. Whether the last words stay the last is therefore decided by where the dashboard stands
when they are written.
-/

namespace LoadMonitor

/-! ## Output that is still ahead -/

/-- The tick can still come to write something. -/
def Tick.hasOutput : Tick → Bool
  | clearing => true
  | askingHealth => true
  | askingMetrics _ => true
  | askingAlerts _ _ => true
  | drawing (.pending _ _) => true
  | drawing (.finished _) => false
  | flushing => false
  | finished _ => false

/-- The dashboard is in a tick that can still come to write something. -/
def Dashboard.hasOutput : Dashboard → Bool
  | ticking _ tick => tick.hasOutput
  | _ => false

/-- While the run is stopped, a dashboard without output ahead writes nothing and has none
ahead afterwards. -/
theorem Dashboard.quiet_step {refresh : Duration} {d t : Dashboard} {e : Effect Dashboard}
    {event : Event} {run : RunState} (hquiet : d.hasOutput = false)
    (hrun : run.running = false) (heffect : d.effect refresh = some e)
    (htakes : e.Takes event t) (hagrees : event.Agrees run) :
    t.hasOutput = false ∧ ∀ text result, event ≠ .wrote text result := by
  cases d with
  | checking frames =>
      cases heffect; cases htakes with
      | isRunning running =>
          -- The look finds the flag cleared, so no other tick is begun.
          obtain rfl : running = false := Eq.trans hagrees hrun
          exact ⟨rfl, nofun⟩
  | ticking frames tick =>
      obtain ⟨_, next, htick, hnext, rfl⟩ := Thread.takes_map heffect htakes
      cases tick with
      | drawing writing =>
          cases writing with
          | pending text rest => cases hquiet
          | finished result => cases htick
      | flushing =>
          cases htick; cases hnext with
          | flush result => cases result <;> exact ⟨rfl, nofun⟩
      | finished result => cases htick
      | _ => cases hquiet
  | complaining frames error =>
      cases heffect; cases htakes with
      | log => exact ⟨rfl, nofun⟩
  | pausing frames =>
      cases heffect; cases htakes with
      | pause running =>
          obtain rfl : running = false := Eq.trans hagrees hrun
          exact ⟨rfl, nofun⟩
  | leaving frames =>
      cases heffect; cases htakes with
      | log => exact ⟨rfl, nofun⟩
  | finished frames => cases heffect

namespace Performance

/-- The run is stopped, and the dashboard has no output ahead. -/
def Quiet {ρ : Type} (p : Performance ρ) : Prop :=
  p.run.running = false ∧ ∀ d, p.dashboard = some d → d.hasOutput = false

variable {ρ : Type} [RandomSource ρ] {config : DemoConfig} {patience : Nat}
  {run : RunState} {main : Demo ρ} {source : ρ} {frames : Nat} {d : Dashboard}
  {before : List Turn} {p : Performance ρ} {text : String} {result : Except WriteError Unit}

/-! ## A dashboard in a tick -/

/-- A step of a dashboard that has the screen to itself. -/
theorem Step.redraw {e : Effect Dashboard} {event : Event} {t : Dashboard}
    (heffect : d.effect config.refresh = some e) (htakes : e.Takes event t)
    (hplain : event.Plain) (hagrees : event.Agrees run) :
    Step config patience ⟨run, none, main, some d⟩ (.dashboard, event)
      ⟨run, none, main, some t⟩ := by
  have hstep : Step config patience ⟨run, none, main, some d⟩ (.dashboard, event) _ :=
    .dashboard rfl heffect htakes hagrees
      ⟨fun _ => .inl rfl, fun frames h => by subst h; exact hplain.elim⟩
  rwa [hplain.move, hplain.pass] at hstep

/-- A text that is pending can be written. -/
theorem write_pending (rest : List String) :
    Step config patience ⟨run, none, main, some (.ticking frames (.drawing (.pending text rest)))⟩
      (.dashboard, .wrote text (.ok ()))
      ⟨run, none, main, some (.ticked frames (.drawn (.start rest)))⟩ :=
  .redraw rfl (.write (.ok ())) trivial trivial

/-- Whatever a dashboard is about to ask, the answer may be an error, whose line is written. -/
theorem write_error {event : Event} {failure : Failure} (hfailure : failure.isStopped = false)
    (h : Step config patience ⟨run, none, main, some d⟩ (.dashboard, event)
      ⟨run, none, main, some (.ticked frames (.display (Tick.failurePieces failure)))⟩) :
    ∃ after q, Steps (Step config patience) ⟨run, none, main, some d⟩ after q ∧
      ∃ text result, (.dashboard, .wrote text result) ∈ after := by
  have hpieces : Tick.failurePieces failure = [Tick.errorLine failure] := by
    rw [Tick.failurePieces, hfailure]
    rfl
  rw [hpieces] at h
  exact ⟨_, _, .head h (.single (write_pending [])), _, _, .tail _ (.head _)⟩

/-- A dashboard with output ahead may come to write it, whatever the flag says. -/
theorem exists_write (houtput : d.hasOutput = true) :
    ∃ after q, Steps (Step config patience) ⟨run, none, main, some d⟩ after q ∧
      ∃ text result, (.dashboard, .wrote text result) ∈ after := by
  have hfault : (Failure.fault "").isStopped = false := rfl
  cases d with
  | ticking frames tick =>
      cases tick with
      | clearing =>
          have hstep : Step config patience ⟨run, none, main, some (.ticking frames .clearing)⟩
              (.dashboard, .wrote Frame.clearScreen (.ok ())) _ :=
            .redraw rfl (.write (.ok ())) trivial trivial
          exact ⟨_, _, .single hstep, _, _, .head _⟩
      | askingHealth =>
          exact write_error hfault (.redraw rfl (.health (.error _)) trivial trivial)
      | askingMetrics health =>
          exact write_error hfault (.redraw rfl (.metrics (.error _)) trivial trivial)
      | askingAlerts health metrics =>
          exact write_error hfault (.redraw rfl (.alerts (.error _)) trivial trivial)
      | drawing writing =>
          cases writing with
          | pending text rest => exact ⟨_, _, .single (write_pending rest), _, _, .head _⟩
          | finished result => cases houtput
      | flushing => cases houtput
      | finished result => cases houtput
  | _ => cases houtput

/-! ## A dashboard without output ahead -/

theorem Quiet.step {q : Performance ρ} {turn : Turn} (hquiet : p.Quiet)
    (h : Step config patience p turn q) :
    q.Quiet ∧ ∀ text result, turn ≠ (.dashboard, .wrote text result) := by
  obtain ⟨hrun, hdashboard⟩ := hquiet
  refine ⟨⟨h.stopped hrun, ?_⟩, ?_⟩
  · cases h with
    | @main e event t _ _ _ _ =>
        cases event with
        | launched => rintro d ⟨⟩; rfl
        | _ => exact hdashboard
    | dashboard hd heffect htakes hagrees _ =>
        rintro d ⟨⟩
        exact (Dashboard.quiet_step (hdashboard _ hd) hrun heffect htakes hagrees).1
    | other => exact hdashboard
  · rintro text result rfl
    cases h with
    | dashboard hd heffect htakes hagrees _ =>
        exact (Dashboard.quiet_step (hdashboard _ hd) hrun heffect htakes hagrees).2 _ _ rfl

theorem Quiet.no_write {after : List Turn} {q : Performance ρ} (hquiet : p.Quiet)
    (h : Steps (Step config patience) p after q) :
    ∀ text result, (.dashboard, .wrote text result) ∉ after := by
  induction h with
  | refl => exact fun _ _ => List.not_mem_nil
  | head hstep _ ih =>
      obtain ⟨hnext, hturn⟩ := hquiet.step hstep
      intro text result hmem
      rcases List.mem_cons.mp hmem with heq | hmem
      · exact hturn text result heq.symm
      · exact ih hnext text result hmem

/-! ## The last words -/

/-- Once there is a dashboard, what the main thread writes are its last words: the run is
stopped by then, and the main thread is about to give the screen back. -/
theorem farewell_written
    (h : Steps (Step config patience) (start run source) (before ++ [(.main, .wrote text result)]) p)
    (hd : p.dashboard = some d) :
    (∃ outcome : LoadOutcome, text = outcome.farewell config.webDashboardUrl) ∧
      p.run.running = false ∧ p.owner = some .main ∧
      ∃ outcome, p.main = .unlocking outcome result := by
  obtain ⟨a, hbefore, hlast⟩ := h.unsnoc
  have hfits := fits_of_run hbefore
  obtain ⟨arun, owner, main, dashboard⟩ := a
  cases hlast with
  | main heffect htakes _ _ =>
      obtain rfl : dashboard = some d := hd
      cases Demo.act_of_takes heffect htakes with
      | advise _ _ => cases hfits.2
      | drive hdriver hnext =>
          exact (LoadDriver.effect_only config.pacing patience _ _ _ _ hdriver hnext).elim
      | @speak outcome words => exact ⟨⟨words, rfl⟩, hfits.2.2, hfits.1, outcome, rfl⟩

/-- The last words stay the last in every continuation exactly if the dashboard has no output
ahead at the moment when they are written. -/
theorem farewell_is_last_iff
    (h : Steps (Step config patience) (start run source) (before ++ [(.main, .wrote text result)]) p)
    (hd : p.dashboard = some d) :
    (∀ after q, Steps (Step config patience) p after q →
      ∀ text result, (.dashboard, .wrote text result) ∉ after) ↔ d.hasOutput = false := by
  obtain ⟨-, hrun, howner, outcome, hmain⟩ := farewell_written h hd
  constructor
  · intro hsilent
    cases houtput : d.hasOutput with
    | false => rfl
    | true =>
        -- Only the screen holds the dashboard back, and the main thread gives it up next.
        obtain ⟨main, hunlock⟩ : ∃ main, Step config patience p (.main, .unlockedScreen)
            ⟨p.run, none, main, some d⟩ := by
          obtain ⟨prun, owner, main, dashboard⟩ := p
          cases hmain
          cases hd
          exact ⟨_, .main rfl .unlockScreen trivial ⟨fun h => h.elim, nofun⟩⟩
        have hwrite : ∃ after q, Steps (Step config patience) ⟨p.run, none, main, some d⟩ after q ∧
            ∃ text result, (.dashboard, .wrote text result) ∈ after := exists_write houtput
        obtain ⟨after, q, hafter, text, result, hmem⟩ := hwrite
        exact absurd (.tail _ hmem) (hsilent _ q (.head hunlock hafter) text result)
  · intro hquiet after q hafter
    have hp : p.Quiet := by
      refine ⟨hrun, fun d' hd' => ?_⟩
      rw [hd] at hd'
      rwa [← Option.some.inj hd']
    exact hp.no_write hafter

/-- In a demo whose dashboard is overtaken in its tick, the last words are not bound to stay
the last. -/
theorem farewell_is_last_iff_overtaken :
    (∀ after q, Steps (Step oneQuery 1) (overtaken (.ok ())) after q →
      ∀ text result, (.dashboard, .wrote text result) ∉ after) ↔
    (Dashboard.ticking 0 (.askingMetrics someHealth)).hasOutput = false :=
  farewell_is_last_iff (overtaken_run (.ok ())) rfl

/-- What may follow the last words of that demo. -/
def lineBelow : List Turn :=
  [(.main, .unlockedScreen), (.dashboard, .readMetrics (.ok [])),
    (.dashboard, .readAlerts (.error (.fault "boom"))),
    (.dashboard, .wrote (Tick.errorLine (.fault "boom")) (.ok ()))]

/-- A line of the dashboard may stand below the last words. -/
theorem farewell_not_last :
    ¬∀ (before after : List Turn) (text : String) (result : Except WriteError Unit)
      (q : Performance ScriptedWords),
      Steps (Step oneQuery 1) (start .fresh ⟨[], 0⟩)
        (before ++ [(.main, .wrote text result)] ++ after) q →
      (.main, .launched) ∈ before →
      ∀ text result, (.dashboard, .wrote text result) ∉ after := by
  intro hlast
  have hline : ∃ q, Steps (Step oneQuery 1) (overtaken (.ok ())) lineBelow q :=
    ⟨_, .head (.main rfl .unlockScreen trivial ⟨nofun, nofun⟩) <|
      .head (.dashboard rfl rfl (.metrics (.ok [])) trivial ⟨nofun, nofun⟩) <|
      .head (.dashboard rfl rfl (.alerts (.error (.fault "boom"))) trivial ⟨nofun, nofun⟩) <|
      .head (.dashboard rfl rfl (.write (.ok ())) trivial ⟨fun _ => .inl rfl, nofun⟩) <| .refl _⟩
  obtain ⟨q, hq⟩ := hline
  have hlaunched : (.main, .launched) ∈ midway ++ windingUp := by simp [midway]
  refine hlast (midway ++ windingUp) lineBelow _ _ q ((overtaken_run (.ok ())).trans hq)
    hlaunched (Tick.errorLine (.fault "boom")) (.ok ()) ?_
  simp [lineBelow]

end Performance
end LoadMonitor
