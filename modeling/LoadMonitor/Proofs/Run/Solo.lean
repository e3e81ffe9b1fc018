import LoadMonitor.Proofs.Run.Event
import LoadMonitor.Proofs.Run.Steps
import Mathlib.Data.List.Induction
import Mathlib.Tactic.Tauto

/-!
# A thread in company

One thread takes its steps while others may stop the run between any two of them. Of the
others nothing else can be seen. The main law: the flag is still set after a run of such a
thread exactly if it was set before and no step has cleared it.
-/

namespace LoadMonitor

/-- A thread and the state of the run that it shares. -/
structure Solo (σ : Type) where
  run : RunState
  state : σ

/-- A step of the thread, or somebody else's stop. -/
inductive Move where
  | own (event : Event)
  | stop

namespace Move

/-- The event of a step of the thread. -/
def event? : Move → Option Event
  | own event => some event
  | stop => none

/-- The events of the thread among moves, in their order. -/
def events (moves : List Move) : List Event := moves.filterMap event?

@[simp] theorem events_append (ms ns : List Move) : events (ms ++ ns) = events ms ++ events ns :=
  List.filterMap_append

/-- After the move the flag of the run is cleared, whatever it was before. -/
def Clears : Move → Prop
  | stop => True
  | own (.stopped _) => True
  | own _ => False

end Move

namespace Solo

variable {σ : Type} {effect : Thread σ}

inductive Step (effect : Thread σ) : Solo σ → Move → Solo σ → Prop where
  | own {s : Solo σ} {e : Effect σ} {event : Event} {t : σ} :
      effect s.state = some e → e.Takes event t → event.Agrees s.run →
      Step effect s (.own event) ⟨event.move s.run, t⟩
  | stop {s : Solo σ} : Step effect s .stop ⟨s.run.stop.2, s.state⟩

/-- A thread that has not ended takes a step. Whatever time it is, the clock may tell it so. -/
theorem Step.exists_own {s : Solo σ} {e : Effect σ} (heffect : effect s.state = some e)
    (time : Duration) :
    ∃ event t, Step effect s (.own event) t ∧ ∀ now, event = .timed now → now = time := by
  suffices ∃ event t, e.Takes event t ∧ event.Agrees s.run ∧
      ∀ now, event = .timed now → now = time by
    obtain ⟨event, t, htakes, hagrees, htime⟩ := this
    exact ⟨event, _, .own heffect htakes hagrees, htime⟩
  cases e with
  | isRunning next => exact ⟨_, _, .isRunning s.run.running, rfl, nofun⟩
  | stop next => exact ⟨_, _, .stop s.run.stop.1, rfl, nofun⟩
  | pause delay next => exact ⟨_, _, .pause s.run.running, rfl, nofun⟩
  | clock next => exact ⟨_, _, .clock time, trivial, by rintro _ ⟨⟩; rfl⟩
  | checkLive next => exact ⟨_, _, .checkLive (.ok ()), trivial, nofun⟩
  | health next => exact ⟨_, _, .health (.error .stopped), trivial, nofun⟩
  | metrics next => exact ⟨_, _, .metrics (.error .stopped), trivial, nofun⟩
  | alerts next => exact ⟨_, _, .alerts (.error .stopped), trivial, nofun⟩
  | submit submission next => exact ⟨_, _, .submit, trivial, nofun⟩
  | write text next => exact ⟨_, _, .write (.ok ()), trivial, nofun⟩
  | flush next => exact ⟨_, _, .flush (.ok ()), trivial, nofun⟩
  | print text next => exact ⟨_, _, .print, trivial, nofun⟩
  | lockScreen next => exact ⟨_, _, .lockScreen, trivial, nofun⟩
  | unlockScreen next => exact ⟨_, _, .unlockScreen, trivial, nofun⟩
  | launch next => exact ⟨_, _, .launch, trivial, nofun⟩
  | join next => exact ⟨_, _, .join 0, trivial, nofun⟩
  | log line next => exact ⟨_, _, .log, trivial, nofun⟩

/-- One move leaves the flag set exactly if it was set and the move does not clear it. -/
theorem Step.running_iff {s t : Solo σ} {m : Move} (h : Step effect s m t) :
    t.run.running = true ↔ s.run.running = true ∧ ¬m.Clears := by
  cases h with
  | stop => simp [Move.Clears, RunState.running_stop]
  | @own e event t _ _ _ =>
      cases event <;> simp [Move.Clears, Event.move, RunState.running_stop]

/-- The flag is set after moves exactly if it was set before and none of them has cleared it. -/
theorem running_iff {s t : Solo σ} {ms : List Move} (h : Steps (Step effect) s ms t) :
    t.run.running = true ↔ s.run.running = true ∧ ∀ m ∈ ms, ¬m.Clears := by
  induction h with
  | refl => simp
  | head hstep _ ih =>
      rw [ih, hstep.running_iff]
      simp only [List.forall_mem_cons]
      tauto

/-- The moves up to the last event of the thread, that event, and the moves of others after
it. -/
theorem last_own {s t : Solo σ} {ms : List Move} (h : Steps (Step effect) s ms t) :
    (Move.events ms = [] ∧ t.state = s.state) ∨
    ∃ before event after a b, ms = before ++ .own event :: after ∧ Move.events after = [] ∧
      Steps (Step effect) s before a ∧ Step effect a (.own event) b ∧ b.state = t.state := by
  induction ms using List.reverseRecOn generalizing t with
  | nil => cases h; exact .inl ⟨rfl, rfl⟩
  | append_singleton ms m ih =>
      obtain ⟨a, hms, hm⟩ := h.unsnoc
      cases m with
      | own event => exact .inr ⟨ms, event, [], a, t, rfl, rfl, hms, hm, rfl⟩
      | stop =>
          -- A stop by others comes after the last event as well, if there is one.
          have hstate : t.state = a.state := by cases hm; rfl
          rcases ih hms with ⟨hnone, hsame⟩ |
            ⟨before, event, after, b, c, rfl, hafter, hb, hc, hsame⟩
          · exact .inl ⟨by rw [Move.events_append, hnone]; rfl, hstate.trans hsame⟩
          · refine .inr ⟨before, event, after ++ [.stop], b, c, by simp, ?_, hb, hc, ?_⟩
            · rw [Move.events_append, hafter]; rfl
            · exact hsame.trans hstate.symm

/-- An event of a run is a step of the thread, to which the events before it have led. -/
theorem at_event {s t : Solo σ} {ms : List Move} {front rest : List Event} {event : Event}
    (h : Steps (Step effect) s ms t) (hevents : Move.events ms = front ++ event :: rest) :
    ∃ before after a b, ms = before ++ .own event :: after ∧ Move.events before = front ∧
      Steps (Step effect) s before a ∧ Step effect a (.own event) b := by
  obtain ⟨before, after, rfl, hfront, hafter⟩ := List.filterMap_eq_append_iff.mp hevents
  obtain ⟨quiet, m, after, rfl, hquiet, hm, -⟩ := List.filterMap_eq_cons_iff.mp hafter
  obtain ⟨a, hbefore, hrest⟩ := h.split
  obtain ⟨b, hstops, hlast⟩ := hrest.split
  cases m with
  | stop => cases hm
  | own event =>
      cases hm
      cases hlast with
      | head hstep _ =>
          refine ⟨before ++ quiet, after, b, _, (List.append_assoc _ _ _).symm, ?_,
            hbefore.trans hstops, hstep⟩
          -- Between the events there may only be stops by others.
          have hnone : Move.events quiet = [] := List.filterMap_eq_nil_iff.mpr hquiet
          rw [Move.events_append, hnone, List.append_nil]
          exact hfront

end Solo
end LoadMonitor
