import LoadMonitor.Proofs.Demo.Farewell

/-!
# When the main thread returns

The run is always stopped by the time a demo returns that has launched its dashboard. The
dashboard has always ended if the last words could be written; a main thread that could not
write them leaves at once, and then the dashboard may go on behind its back.
-/

namespace LoadMonitor

/-- The last words could be written, and the main thread goes on to a return with success. -/
def Demo.Composed {ρ : Type} : Demo ρ → Prop
  | unlocking _ result => result = .ok ()
  | joining _ => True
  | closing _ _ => True
  | finished result => ∃ outcome, result = .ok outcome
  | _ => False

theorem Demo.Composed.act {ρ : Type} [RandomSource ρ] {config : DemoConfig} {patience : Nat}
    {main t : Demo ρ} {event : Event} (hcomposed : main.Composed)
    (hact : Demo.Act config patience main event t) : t.Composed := by
  cases hact with
  | unlock => trivial
  | leave => cases hcomposed
  | join => trivial
  | @close outcome frames => exact ⟨outcome.demo, rfl⟩
  | _ => exact hcomposed.elim

namespace Performance

/-- The dashboard has ended. -/
def Ended {ρ : Type} (p : Performance ρ) : Prop := ∃ frames, p.dashboard = some (.finished frames)

variable {ρ : Type} [RandomSource ρ] {config : DemoConfig} {patience : Nat}
  {run : RunState} {source : ρ} {d : Dashboard} {before after : List Turn}
  {p q : Performance ρ} {text : String} {result : Except WriteError Unit}

/-! ## A dashboard that has ended -/

/-- A dashboard that has ended takes no step. -/
theorem Ended.not_step {event : Event} (h : p.Ended) :
    ¬Step config patience p (.dashboard, event) q := by
  obtain ⟨frames, hframes⟩ := h
  intro hstep
  obtain ⟨d, e, t, hd, heffect, -⟩ := hstep.of_dashboard
  rw [hframes] at hd
  obtain rfl := Option.some.inj hd
  cases heffect

/-- The main thread launches no second dashboard. -/
theorem Fits.launched_once (hfits : p.Fits) (hd : p.dashboard = some d) :
    ¬Step config patience p (.main, .launched) q := by
  intro hstep
  obtain ⟨prun, owner, main, dashboard⟩ := p
  obtain rfl : dashboard = some d := hd
  cases hstep with
  | main heffect htakes _ _ =>
      cases Demo.act_of_takes heffect htakes with
      | launch => cases hfits.2
      | advise hwriting hnext => exact (Writing.effect_only _ _ _ _ hwriting hnext).elim
      | drive hdriver hnext =>
          exact (LoadDriver.effect_only config.pacing patience _ _ _ _ hdriver hnext).elim

theorem Ended.step {turn : Turn} (hended : p.Ended) (hfits : p.Fits)
    (h : Step config patience p turn q) : q.Ended := by
  have hstep := h
  obtain ⟨frames, hframes⟩ := hended
  cases h with
  | @main e event t _ _ _ _ =>
      cases event with
      | launched => exact absurd hstep (hfits.launched_once hframes)
      | _ => exact ⟨frames, hframes⟩
  | dashboard _ _ _ _ _ => exact absurd hstep (Ended.not_step ⟨frames, hframes⟩)
  | other => exact ⟨frames, hframes⟩

/-- A dashboard that has ended takes no part in anything that follows. -/
theorem Ended.no_part (hended : p.Ended) (hfits : p.Fits)
    (h : Steps (Step config patience) p after q) : Turn.part .dashboard after = [] := by
  induction h with
  | refl => rfl
  | @head s t u turn turns hstep _ ih =>
      have hrest := ih (hended.step hfits hstep) (hfits.step hstep)
      obtain ⟨actor, event⟩ := turn
      rw [← List.singleton_append, Turn.part_append, hrest, List.append_nil]
      cases actor with
      | dashboard => exact absurd hstep hended.not_step
      | main => exact Turn.part_ne (by decide) event
      | other => exact Turn.part_ne (by decide) event

/-! ## Returns -/

/-- The run is stopped when a demo returns that has launched its dashboard; if it returns with
success, the dashboard has ended. -/
theorem stopped_at_return {turns : List Turn} {r : Except WriteError DemoOutcome}
    (h : Steps (Step config patience) (start run source) turns q)
    (hreturn : q.main = .finished r) (hd : q.dashboard = some d) :
    q.run.running = false ∧ ∀ outcome, r = .ok outcome → q.Ended := by
  have hfits := fits_of_run h
  unfold Fits at hfits
  rw [hreturn, hd] at hfits
  obtain ⟨-, hnone | ⟨-, hrunning, hjoined⟩⟩ := hfits
  · cases hnone
  · refine ⟨hrunning, fun outcome hok => ?_⟩
    obtain ⟨frames, hframes⟩ := hjoined outcome hok
    exact ⟨frames, by rw [hd, hframes]⟩

/-- What the main thread needs for a return that leaves nothing behind: it has said its last
words, or there is nothing to wait for. -/
theorem settled_of_steps (h : Steps (Step config patience) p after q) (hfits : p.Fits)
    (hsettled : p.main.Composed ∨ p.Ended) (hsome : p.dashboard.isSome) :
    (q.main.Composed ∨ q.Ended) ∧ q.dashboard.isSome := by
  induction h with
  | refl => exact ⟨hsettled, hsome⟩
  | @head s t u turn turns hstep _ ih =>
      refine ih (hfits.step hstep) ?_ ?_
      · rcases hsettled with hcomposed | hended
        · left
          cases hstep with
          | main heffect htakes _ _ => exact hcomposed.act (Demo.act_of_takes heffect htakes)
          | dashboard _ _ _ _ _ => exact hcomposed
          | other => exact hcomposed
        · exact .inr (hended.step hfits hstep)
      · cases hstep with
        | @main e event t _ _ _ _ =>
            cases event with
            | launched => rfl
            | _ => exact hsome
        | dashboard _ _ _ _ _ => rfl
        | other => exact hsome

/-- Whatever happens after the last words, the demo returns with the run stopped and the
dashboard ended, exactly if the last words could be written or the dashboard had ended before. -/
theorem ended_at_return_iff
    (h : Steps (Step config patience) (start run source) (before ++ [(.main, .wrote text result)]) p)
    (hd : p.dashboard = some d) :
    (∀ after q r, Steps (Step config patience) p after q → q.main = .finished r →
      q.run.running = false ∧ q.Ended ∧
        ∀ later s, Steps (Step config patience) q later s → Turn.part .dashboard later = []) ↔
    (result = .ok () ∨ ∃ frames, d = .finished frames) := by
  obtain ⟨-, hrun, howner, outcome, hmain⟩ := farewell_written h hd
  constructor
  · intro hleaves
    cases result with
    | ok _ => exact .inl rfl
    | error error =>
        -- The main thread gives the screen back and is gone.
        have hgone : Step config patience p (.main, .unlockedScreen)
            ⟨p.run, none, .finished (.error error), some d⟩ := by
          obtain ⟨prun, owner, main, dashboard⟩ := p
          cases hmain
          cases hd
          exact .main rfl .unlockScreen trivial ⟨fun h => h.elim, nofun⟩
        obtain ⟨-, ⟨frames, hframes⟩, -⟩ := hleaves _ _ _ (.single hgone) rfl
        exact .inr ⟨frames, Option.some.inj hframes⟩
  · intro hcases after q r hafter hreturn
    have hfits := fits_of_run h
    have hsettled : p.main.Composed ∨ p.Ended := by
      rcases hcases with rfl | ⟨frames, rfl⟩
      · rw [hmain]
        exact .inl rfl
      · exact .inr ⟨frames, hd⟩
    have hsome : p.dashboard.isSome := Option.isSome_of_mem hd
    obtain ⟨hsettled, hsome⟩ := settled_of_steps hafter hfits hsettled hsome
    obtain ⟨d', hd'⟩ := Option.isSome_iff_exists.mp hsome
    obtain ⟨hstopped, hjoined⟩ := stopped_at_return (h.trans hafter) hreturn hd'
    -- A main thread that has said its last words returns with success, after it has waited.
    have hended : q.Ended := by
      rcases hsettled with hcomposed | hended
      · rw [hreturn] at hcomposed
        obtain ⟨outcome, rfl⟩ := hcomposed
        exact hjoined outcome rfl
      · exact hended
    have hfits' := fits_of_run (h.trans hafter)
    exact ⟨hstopped, hended, fun later s hlater => hended.no_part hfits' hlater⟩

/-- If the dashboard is overtaken in its tick but the last words are written, the main thread
waits for it. -/
theorem ended_at_return_iff_overtaken :
    (∀ after q r, Steps (Step oneQuery 1) (overtaken (.ok ())) after q → q.main = .finished r →
      q.run.running = false ∧ q.Ended ∧
        ∀ later s, Steps (Step oneQuery 1) q later s → Turn.part .dashboard later = []) ↔
    ((.ok () : Except WriteError Unit) = .ok () ∨
      ∃ frames, Dashboard.ticking 0 (.askingMetrics someHealth) = .finished frames) :=
  ended_at_return_iff (overtaken_run (.ok ())) rfl

/-- A demo whose last words are refused may return while its dashboard is still in a tick. -/
theorem overtaken_at_return :
    ¬∀ (turns : List Turn) (q : Performance ScriptedWords) (r : Except WriteError DemoOutcome),
      Steps (Step oneQuery 1) (start .fresh ⟨[], 0⟩) turns q → (.main, .launched) ∈ turns →
      q.main = .finished r → q.run.running = false ∧ q.Ended := by
  intro hends
  have hrun := (overtaken_run (.error (.device "disk full"))).trans
    (.single (.main rfl .unlockScreen trivial ⟨nofun, nofun⟩))
  have hlaunched : (.main, .launched) ∈
      midway ++ windingUp ++ [lastWords (.error (.device "disk full"))] ++
        [(.main, .unlockedScreen)] := by
    simp [midway]
  obtain ⟨-, frames, hframes⟩ := hends _ _ _ hrun hlaunched rfl
  cases hframes

end Performance
end LoadMonitor
