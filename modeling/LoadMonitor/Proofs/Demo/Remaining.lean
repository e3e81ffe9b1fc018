import LoadMonitor.Proofs.Dashboard.Owed
import LoadMonitor.Proofs.Demo.Performance
import LoadMonitor.Proofs.Load.Owed

/-!
# What is left to do after a stop

Somebody may stop the run at any moment. Both threads then finish what they have begun, an
iteration and a tick, and begin nothing any more.
-/

namespace LoadMonitor

/-! ## The main thread -/

namespace Demo

variable {ρ : Type}

/-- The submissions that are left of the iteration that was begun. -/
def owed : Demo ρ → List Submission
  | driving driver => driver.owed
  | _ => []

@[simp] theorem owed_advised (error : PrecheckError) (writing : Writing) :
    (advised error writing : Demo ρ).owed = [] := by
  cases writing with
  | pending text rest => rfl
  | finished result => cases result <;> rfl

@[simp] theorem owed_driven (driver : LoadDriver ρ) : (driven driver).owed = driver.owed := by
  cases driver <;> rfl

/-- While the run is stopped, a step sends what it takes from what is owed. -/
theorem owed_act [RandomSource ρ] {config : DemoConfig} {patience : Nat} {s t : Demo ρ}
    {event : Event} {run : RunState} (hrun : run.running = false)
    (hact : Act config patience s event t) (hagrees : event.Agrees run) :
    Event.submissions [event] ++ t.owed = s.owed := by
  cases hact with
  | excuse =>
      rw [owed_advised]
      rfl
  | @advise error writing next e event heffect htakes =>
      rw [owed_advised]
      cases writing with
      | pending text rest => cases heffect; cases htakes; rfl
      | finished result => cases heffect
  | launch => exact LoadDriver.owed_proceed 1 _ config.plan
  | drive heffect htakes =>
      rw [owed_driven]
      exact LoadDriver.owed_step hrun heffect htakes hagrees
  | _ => rfl

/-- The events of the main thread that lead to a position within the plan. -/
def Past (config : DemoConfig) (running : Bool) (events : List Event) : Demo ρ → Prop
  | driving driver => ∃ front past, events = front ++ past ∧
    driver.Past config.pacing config.plan running past
  | _ => True

namespace Past

variable {config : DemoConfig} {running : Bool} {events front past : List Event}

theorem driven {driver : LoadDriver ρ}
    (h : driver.Past config.pacing config.plan running past) :
    (driven driver).Past config running (front ++ past) := by
  cases driver with
  | finished outcome source => trivial
  | _ => exact ⟨front, past, rfl, h⟩

theorem stop {s : Demo ρ} (h : s.Past config running events) : s.Past config false events := by
  cases s with
  | driving driver =>
      obtain ⟨front, past, hevents, hdriver⟩ := h
      exact ⟨front, past, hevents, hdriver.stop⟩
  | _ => trivial

theorem advised {error : PrecheckError} {writing : Writing} :
    (advised error writing : Demo ρ).Past config running events := by
  cases writing with
  | pending text rest => trivial
  | finished result => cases result <;> trivial

theorem act [RandomSource ρ] {patience : Nat} {s t : Demo ρ} {event : Event} {run : RunState}
    (hpast : s.Past config run.running events) (hact : Act config patience s event t)
    (hagrees : event.Agrees run) :
    t.Past config (event.move run).running (events ++ [event]) := by
  cases hact with
  | excuse => exact advised
  | advise _ _ => exact advised
  | launch => exact ⟨events ++ [.launched], [], (List.append_nil _).symm, .start⟩
  | drive heffect htakes =>
      have hplain := (LoadDriver.effect_only config.pacing patience _ _ _ _ heffect htakes).plain
      obtain ⟨front, past, rfl, hdriver⟩ := hpast
      rw [hplain.move, List.append_assoc]
      exact driven (hdriver.step heffect htakes hagrees)
  | _ => trivial

/-- What the main thread owes belongs to an iteration of one of the phases, and its last events
are those of this iteration. -/
theorem owed {s : Demo ρ} (h : s.Past config running events) (howed : s.owed ≠ []) :
    ∃ phase ∈ config.plan, ∃ front sent, events = front ++ .looked true :: sent.map .submitted ∧
      phase.IsIteration (sent ++ s.owed) := by
  cases s with
  | driving driver =>
      obtain ⟨front, past, rfl, hdriver⟩ := h
      obtain ⟨phase, hphase, front', sent, rfl, hiter⟩ := hdriver.owed howed
      exact ⟨phase, hphase, front ++ front', sent, (List.append_assoc _ _ _).symm, hiter⟩
  | _ => exact absurd rfl howed

end Past
end Demo

/-! ## Both threads together -/

namespace Performance

variable {ρ : Type}

/-- The questions that are left of a tick of the dashboard. -/
def reading (p : Performance ρ) : List Read :=
  match p.dashboard with
  | some d => d.owed
  | none => []

/-- The turns that lead to the positions of both threads. -/
def Past (config : DemoConfig) (turns : List Turn) (p : Performance ρ) : Prop :=
  p.main.Past config p.run.running (Turn.part .main turns) ∧
    ∀ d, p.dashboard = some d → d.Past (Turn.part .dashboard turns)

variable [RandomSource ρ] {config : DemoConfig} {patience : Nat} {run : RunState} {source : ρ}
  {before after turns : List Turn} {turn : Turn} {p q : Performance ρ}

theorem Past.step (hpast : p.Past config turns) (h : Step config patience p turn q) :
    q.Past config (turns ++ [turn]) := by
  obtain ⟨hmain, hdashboard⟩ := hpast
  unfold Past
  rw [Turn.part_append, Turn.part_append]
  -- A turn belongs to one thread, and the part of the other one stays what it was.
  cases h with
  | @main e event t heffect htakes hagrees _ =>
      rw [Turn.part_self, Turn.part_ne (by decide), List.append_nil]
      refine ⟨hmain.act (Demo.act_of_takes heffect htakes) hagrees, ?_⟩
      cases event with
      | launched => rintro d ⟨⟩; trivial
      | _ => exact hdashboard
  | @dashboard d e event t hd heffect htakes _ _ =>
      have hplain := (Dashboard.effect_only config.refresh _ _ _ _ heffect htakes).plain
      rw [Turn.part_self, Turn.part_ne (by decide), List.append_nil, hplain.move]
      refine ⟨hmain, ?_⟩
      rintro d' ⟨⟩
      exact (hdashboard d hd).step heffect htakes
  | other =>
      rw [Turn.part_ne (by decide), Turn.part_ne (by decide), List.append_nil, List.append_nil,
        RunState.running_stop]
      exact ⟨hmain.stop, hdashboard⟩

theorem past_of_run (h : Steps (Step config patience) (start run source) before p) :
    p.Past config before :=
  h.invariant (P := fun turns p => p.Past config turns) ⟨trivial, nofun⟩
    fun _ _ _ _ hpast hstep => hpast.step hstep

/-- While the run is stopped, every answer about the flag says so. -/
theorem Step.refused (hrun : p.run.running = false) (h : Step config patience p turn q) :
    turn.2 ≠ .looked true ∧ ∀ delay, turn.2 ≠ .paused delay true := by
  have hagrees : turn.2.Agrees p.run := by
    cases h with
    | main _ _ hagrees _ => exact hagrees
    | dashboard _ _ _ hagrees _ => exact hagrees
    | other => rfl
  constructor
  · intro hlooked
    rw [hlooked] at hagrees
    exact Bool.noConfusion (hagrees.trans hrun)
  · intro delay hpaused
    rw [hpaused] at hagrees
    exact Bool.noConfusion (hagrees.trans hrun)

theorem refused_of_steps (hrun : p.run.running = false)
    (h : Steps (Step config patience) p after q) :
    ∀ turn ∈ after, turn.2 ≠ .looked true ∧ ∀ delay, turn.2 ≠ .paused delay true := by
  induction h with
  | refl => exact fun _ hmem => absurd hmem List.not_mem_nil
  | head hstep _ ih =>
      intro turn hmem
      rcases List.mem_cons.mp hmem with rfl | hmem
      · exact hstep.refused hrun
      · exact ih (hstep.stopped hrun) turn hmem

/-- While the run is stopped, what is done by a step is taken from what is owed. -/
theorem Step.owed (hrun : p.run.running = false) (h : Step config patience p turn q) :
    Event.submissions (Turn.part .main [turn]) ++ q.main.owed = p.main.owed ∧
      Event.reads (Turn.part .dashboard [turn]) ++ q.reading <+: p.reading := by
  cases h with
  | @main e event t heffect htakes hagrees _ =>
      rw [Turn.part_self, Turn.part_ne (by decide)]
      refine ⟨Demo.owed_act hrun (Demo.act_of_takes heffect htakes) hagrees, ?_⟩
      cases event with
      | launched => exact List.nil_prefix
      | _ => exact List.prefix_refl p.reading
  | @dashboard d e event t hd heffect htakes hagrees _ =>
      rw [Turn.part_self, Turn.part_ne (by decide)]
      have hreading : p.reading = d.owed := by
        unfold reading
        rw [hd]
      rw [hreading]
      exact ⟨rfl, Dashboard.owed_step hrun heffect htakes hagrees⟩
  | other =>
      rw [Turn.part_ne (by decide), Turn.part_ne (by decide)]
      exact ⟨rfl, List.prefix_refl p.reading⟩

theorem owed_of_steps (hrun : p.run.running = false)
    (h : Steps (Step config patience) p after q) :
    Event.submissions (Turn.part .main after) ++ q.main.owed = p.main.owed ∧
      Event.reads (Turn.part .dashboard after) ++ q.reading <+: p.reading := by
  induction h with
  | refl p => exact ⟨rfl, List.prefix_refl p.reading⟩
  | @head p s q turn turns hstep _ ih =>
      obtain ⟨hmain, hreading⟩ := ih (hstep.stopped hrun)
      obtain ⟨hmain', hreading'⟩ := hstep.owed hrun
      rw [← List.singleton_append, Turn.part_append, Turn.part_append, Event.submissions_append,
        Event.reads_append, List.append_assoc, List.append_assoc, hmain]
      exact ⟨hmain', ((List.prefix_append_right_inj _).mpr hreading).trans hreading'⟩

/-- Once the run is stopped, the main thread does nothing but finish the iteration that had
passed its look at the flag, and the dashboard nothing but finish such a tick: what they still
submit and ask continues what they have submitted and asked since that look. No later look at
the flag, and no pause, lets anything begin. -/
theorem work_after_stop
    (hbefore : Steps (Step config patience) (start run source) before p)
    (hstop : p.run.running = false) (hafter : Steps (Step config patience) p after q) :
    (Event.submissions (Turn.part .main after) = [] ∨
      ∃ phase ∈ config.plan, ∃ front sent rest,
        Turn.part .main before = front ++ .looked true :: sent.map .submitted ∧
        phase.IsIteration (sent ++ Event.submissions (Turn.part .main after) ++ rest)) ∧
    (Event.reads (Turn.part .dashboard after) = [] ∨
      ∃ front since, Turn.part .dashboard before = front ++ .looked true :: since ∧
        (∀ running, .looked running ∉ since) ∧
        Event.reads since ++ Event.reads (Turn.part .dashboard after) <+: Tick.questions) ∧
    ∀ actor event, (actor, event) ∈ after →
      event ≠ .looked true ∧ ∀ delay, event ≠ .paused delay true := by
  obtain ⟨hmain, hdashboard⟩ := past_of_run hbefore
  obtain ⟨howed, hreading⟩ := owed_of_steps hstop hafter
  refine ⟨?_, ?_, ?_⟩
  -- What is owed where the run is found stopped bounds everything that follows; the past of that
  -- position tells to which iteration, or to which tick, it belongs.
  · by_cases hnone : p.main.owed = []
    · rw [hnone] at howed
      exact .inl (List.append_eq_nil_iff.mp howed).1
    · obtain ⟨phase, hphase, front, sent, hevents, hiter⟩ := hmain.owed hnone
      refine .inr ⟨phase, hphase, front, sent, q.main.owed, hevents, ?_⟩
      rwa [List.append_assoc, howed]
  · have hasked : Event.reads (Turn.part .dashboard after) <+: p.reading :=
      (List.prefix_append _ _).trans hreading
    by_cases hnone : p.reading = []
    · rw [hnone] at hasked
      exact .inl (List.prefix_nil.mp hasked)
    · unfold reading at hasked hnone
      cases hd : p.dashboard with
      | none => exact absurd (by rw [hd]) hnone
      | some d =>
          rw [hd] at hasked hnone
          obtain ⟨front, since, hevents, hlooks, hreads⟩ := (hdashboard d hd).owed hnone
          exact .inr ⟨front, since, hevents, hlooks,
            ((List.prefix_append_right_inj _).mpr hasked).trans hreads⟩
  · exact fun actor event hmem => refused_of_steps hstop hafter (actor, event) hmem

/-- In a demo that is stopped midway the main thread still puts the query that was due. -/
theorem work_after_stop_midway :
    (Event.submissions (Turn.part .main windingUp) = [] ∨
      ∃ phase ∈ oneQuery.plan, ∃ front sent rest,
        Turn.part .main midway = front ++ .looked true :: sent.map .submitted ∧
        phase.IsIteration (sent ++ Event.submissions (Turn.part .main windingUp) ++ rest)) ∧
    (Event.reads (Turn.part .dashboard windingUp) = [] ∨
      ∃ front since, Turn.part .dashboard midway = front ++ .looked true :: since ∧
        (∀ running, .looked running ∉ since) ∧
        Event.reads since ++ Event.reads (Turn.part .dashboard windingUp) <+: Tick.questions) ∧
    ∀ actor event, (actor, event) ∈ windingUp →
      event ≠ .looked true ∧ ∀ delay, event ≠ .paused delay true :=
  work_after_stop midway_run rfl windingUp_run

end Performance
end LoadMonitor
