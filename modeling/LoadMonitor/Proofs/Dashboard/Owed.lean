import LoadMonitor.Proofs.Run.Kinds

/-!
# What the dashboard owes

The flag is looked at before a tick and not within one, so a tick that was begun goes on. Every
position owes the questions that are left of it, and while the flag is cleared nothing is added
to them.
-/

namespace LoadMonitor

/-- A question to the service. -/
inductive Read where
  | health
  | metrics
  | alerts
  deriving DecidableEq, Repr

namespace Event

def read? : Event → Option Read
  | readHealth _ => some .health
  | readMetrics _ => some .metrics
  | readAlerts _ => some .alerts
  | _ => none

/-- The questions that are asked in events, in their order. -/
def reads (events : List Event) : List Read := events.filterMap read?

@[simp] theorem reads_append (es fs : List Event) : reads (es ++ fs) = reads es ++ reads fs :=
  List.filterMap_append

end Event

namespace Tick

/-- All questions of a tick. -/
def questions : List Read := [.health, .metrics, .alerts]

/-- The questions that are left of a tick. -/
def owed : Tick → List Read
  | clearing => questions
  | askingHealth => questions
  | askingMetrics _ => [.metrics, .alerts]
  | askingAlerts _ _ => [.alerts]
  | _ => []

@[simp] theorem owed_drawn (writing : Writing) : (drawn writing).owed = [] := by
  cases writing with
  | pending text rest => rfl
  | finished result => cases result <;> rfl

@[simp] theorem owed_display (pieces : List String) : (display pieces).owed = [] :=
  owed_drawn (.start pieces)

/-- A step of a tick asks the first of the questions that are left, or leaves some out; it does
not look at the flag. -/
theorem owed_step {s t : Tick} {e : Effect Tick} {event : Event} (heffect : s.effect = some e)
    (htakes : e.Takes event t) :
    Event.reads [event] ++ t.owed <+: s.owed ∧ ∀ running, event ≠ .looked running := by
  cases s with
  | clearing =>
      cases heffect; cases htakes with
      | write result =>
          cases result with
          | ok _ => exact ⟨List.prefix_refl questions, nofun⟩
          | error error => exact ⟨List.nil_prefix, nofun⟩
  | askingHealth =>
      cases heffect; cases htakes with
      | health answer =>
          cases answer with
          | ok health => exact ⟨List.prefix_refl questions, nofun⟩
          -- After a failure the questions that are left are not asked.
          | error failure =>
              rw [owed_display]
              exact ⟨⟨[.metrics, .alerts], rfl⟩, nofun⟩
  | askingMetrics health =>
      cases heffect; cases htakes with
      | metrics answer =>
          cases answer with
          | ok metrics => exact ⟨⟨[], rfl⟩, nofun⟩
          | error failure =>
              rw [owed_display]
              exact ⟨⟨[.alerts], rfl⟩, nofun⟩
  | askingAlerts health metrics =>
      cases heffect; cases htakes with
      | alerts answer =>
          cases answer <;> (rw [owed_display]; exact ⟨⟨[], rfl⟩, nofun⟩)
  | drawing writing =>
      obtain ⟨_, next, hinner, hnext, rfl⟩ := Thread.takes_map heffect htakes
      rw [owed_drawn]
      cases writing with
      | pending text rest => cases hinner; cases hnext; exact ⟨List.nil_prefix, nofun⟩
      | finished result => cases hinner
  | flushing =>
      cases heffect; cases htakes with
      | flush result => exact ⟨List.nil_prefix, nofun⟩
  | finished result => cases heffect

end Tick

namespace Dashboard

/-- The questions that are left of the tick that was begun. -/
def owed : Dashboard → List Read
  | ticking _ tick => tick.owed
  | _ => []

@[simp] theorem owed_ticked (frames : Nat) (tick : Tick) : (ticked frames tick).owed = tick.owed := by
  cases tick with
  | finished result => cases result <;> rfl
  | _ => rfl

/-- While the run is stopped, a step asks no question but the first of those that are left. -/
theorem owed_step {refresh : Duration} {s t : Dashboard} {e : Effect Dashboard} {event : Event}
    {run : RunState} (hrun : run.running = false) (heffect : s.effect refresh = some e)
    (htakes : e.Takes event t) (hagrees : event.Agrees run) :
    Event.reads [event] ++ t.owed <+: s.owed := by
  cases s with
  | checking frames =>
      cases heffect; cases htakes with
      | isRunning running =>
          obtain rfl : running = false := Eq.trans hagrees hrun
          exact List.nil_prefix
  | ticking frames tick =>
      obtain ⟨_, next, hinner, hnext, rfl⟩ := Thread.takes_map heffect htakes
      rw [owed_ticked]
      exact (Tick.owed_step hinner hnext).1
  | pausing frames =>
      cases heffect; cases htakes with
      | pause running => cases running <;> exact List.nil_prefix
  | finished frames => cases heffect
  | _ => cases heffect; cases htakes; exact List.nil_prefix

/-- The events of a dashboard that lead to a position within a tick: a look that has found the
flag set, no look since, and no question twice. -/
def Past (events : List Event) : Dashboard → Prop
  | ticking _ tick => ∃ front since, events = front ++ .looked true :: since ∧
    (∀ running, .looked running ∉ since) ∧ Event.reads since ++ tick.owed <+: Tick.questions
  | _ => True

theorem Past.step {refresh : Duration} {s t : Dashboard} {e : Effect Dashboard} {event : Event}
    {events : List Event} (hpast : s.Past events) (heffect : s.effect refresh = some e)
    (htakes : e.Takes event t) : t.Past (events ++ [event]) := by
  cases s with
  | checking frames =>
      cases heffect; cases htakes with
      | isRunning running =>
          cases running with
          | true => exact ⟨events, [], rfl, fun _ => List.not_mem_nil, List.prefix_refl _⟩
          | false => trivial
  | ticking frames tick =>
      obtain ⟨front, since, rfl, hlooks, hreads⟩ := hpast
      obtain ⟨_, next, hinner, hnext, rfl⟩ := Thread.takes_map heffect htakes
      obtain ⟨howed, hevent⟩ := Tick.owed_step hinner hnext
      have hpast : ∃ front' since', front ++ .looked true :: since ++ [event] =
          front' ++ .looked true :: since' ∧ (∀ running, .looked running ∉ since') ∧
            Event.reads since' ++ next.owed <+: Tick.questions := by
        refine ⟨front, since ++ [event], by simp, fun running hmem => ?_, ?_⟩
        · rcases List.mem_append.mp hmem with hmem | hmem
          · exact hlooks running hmem
          · exact hevent running (List.mem_singleton.mp hmem).symm
        · rw [Event.reads_append, List.append_assoc]
          exact ((List.prefix_append_right_inj _).mpr howed).trans hreads
      -- A tick that is over leaves a position outside any tick.
      cases next with
      | finished result => cases result <;> trivial
      | _ => exact hpast
  | pausing frames =>
      cases heffect; cases htakes with
      | pause running => cases running <;> trivial
  | finished frames => cases heffect
  | _ => cases heffect; cases htakes; trivial

theorem Past.owed {s : Dashboard} {events : List Event} (h : s.Past events) (howed : s.owed ≠ []) :
    ∃ front since, events = front ++ .looked true :: since ∧
      (∀ running, .looked running ∉ since) ∧ Event.reads since ++ s.owed <+: Tick.questions := by
  cases s with
  | ticking frames tick => exact h
  | _ => exact absurd rfl howed

end Dashboard
end LoadMonitor
