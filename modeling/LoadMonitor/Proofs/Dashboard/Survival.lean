import LoadMonitor.Proofs.Dashboard.Course
import LoadMonitor.Proofs.Dashboard.Owed
import Mathlib.Data.List.Infix

/-!
# The dashboard outlives its failures

Neither the service nor the screen can end the dashboard, whatever they answer: it goes on until
the run is stopped. Its questions are counted along with its ticks, and nothing is shown but what
has been read since the screen was wiped.
-/

namespace LoadMonitor

/-! ## Counting -/

namespace Event

/-- A look at the flag that lets a tick begin. -/
def opens : Event → Bool
  | looked running => running
  | _ => false

/-- The number of ticks that are begun in events. -/
def ticks (events : List Event) : Nat := events.countP opens

@[simp] theorem ticks_append (es fs : List Event) : ticks (es ++ fs) = ticks es + ticks fs :=
  List.countP_append

@[simp] theorem ticks_accepted (texts : List String) : ticks (accepted texts) = 0 := by
  induction texts with
  | nil => rfl
  | cons text texts ih => exact ih

@[simp] theorem reads_accepted (texts : List String) : reads (accepted texts) = [] := by
  induction texts with
  | nil => rfl
  | cons text texts ih => exact ih

end Event

/-- No question is asked more often than the one before it, and the first one not more often than
there are ticks. -/
structure Read.Balanced (asked : List Read) (ticks : Nat) : Prop where
  alerts : asked.count .alerts ≤ asked.count .metrics
  metrics : asked.count .metrics ≤ asked.count .health
  health : asked.count .health ≤ ticks

/-- One more tick asks some of its questions, in their order. -/
theorem Read.Balanced.tick {asked part : List Read} {ticks : Nat} (h : Balanced asked ticks)
    (hpart : part <+: Tick.questions) : Balanced (asked ++ part) (ticks + 1) := by
  obtain ⟨halerts, hmetrics, hhealth⟩ := h
  -- A tick that is cut short has asked one of the four beginnings of its questions.
  have hcases : part = [] ∨ part = [.health] ∨ part = [.health, .metrics] ∨
      part = [.health, .metrics, .alerts] := by
    simpa [Tick.questions] using (List.mem_inits part Tick.questions).mpr hpart
  rcases hcases with rfl | rfl | rfl | rfl <;> constructor <;> simp <;> omega

namespace Tick

variable {events : List Event}

theorem Fetch.reads {answer : Except Failure Snapshot} (h : Fetch events answer) :
    Event.reads events <+: questions ∧ Event.ticks events = 0 := by
  cases h with
  | health f => exact ⟨⟨[.metrics, .alerts], rfl⟩, rfl⟩
  | metrics health f => exact ⟨⟨[.alerts], rfl⟩, rfl⟩
  | alerts health metrics f => exact ⟨⟨[], rfl⟩, rfl⟩
  | complete health metrics alerts => exact ⟨⟨[], rfl⟩, rfl⟩

/-- Of a tick that has wiped the screen, the questions are those of its answers. -/
theorem reads_wiped (reads : List Event) (texts : List String) (last : Event)
    (hread : last.read? = none) (hlook : last.opens = false) :
    Event.reads (.wrote Frame.clearScreen (.ok ()) :: reads ++ Event.accepted texts ++ [last]) =
        Event.reads reads ∧
      Event.ticks (.wrote Frame.clearScreen (.ok ()) :: reads ++ Event.accepted texts ++ [last]) =
        Event.ticks reads := by
  have hlast : Event.reads [last] = [] := by simp [Event.reads, hread]
  have hnone : Event.ticks [last] = 0 := by simp [Event.ticks, hlook]
  constructor
  · rw [Event.reads_append, Event.reads_append, hlast, Event.reads_accepted, List.append_nil,
      List.append_nil]
    rfl
  · rw [Event.ticks_append, Event.ticks_append, hnone, Event.ticks_accepted]
    rfl

theorem Course.reads {result : Except WriteError Unit} (h : Course events result) :
    Event.reads events <+: questions ∧ Event.ticks events = 0 := by
  cases h with
  | unwiped e => exact ⟨List.nil_prefix, rfl⟩
  | @refused reads answer sent rest text e hfetch _ =>
      obtain ⟨hreads, hticks⟩ := reads_wiped reads sent (.wrote text (.error e)) rfl rfl
      rw [hreads, hticks]
      exact hfetch.reads
  | @whole reads answer texts result hfetch _ =>
      obtain ⟨hreads, hticks⟩ := reads_wiped reads texts (.flushed result) rfl rfl
      rw [hreads, hticks]
      exact hfetch.reads

/-- The questions of a tick that is still under way. -/
theorem Reached.reads {s : Tick} (h : s.Reached events) :
    Event.reads events <+: questions ∧ Event.ticks events = 0 := by
  -- Brought to its end, the tick has asked at least as much.
  obtain ⟨rest, result, hcourse⟩ := h.complete
  obtain ⟨hreads, hticks⟩ := hcourse.reads
  rw [Event.reads_append] at hreads
  rw [Event.ticks_append] at hticks
  exact ⟨(List.prefix_append _ _).trans hreads, Nat.eq_zero_of_add_eq_zero_right hticks⟩

end Tick

namespace Dashboard

variable {refresh : Duration} {frames : Nat} {events : List Event}

/-- There are so many ticks in events, and their questions are in balance. -/
def Counted (frames : Nat) (events : List Event) : Prop :=
  Event.ticks events = frames ∧ Read.Balanced (Event.reads events) frames

namespace Counted

/-- Another tick, or the beginning of one. -/
theorem tick {front part : List Event} (h : Counted frames front)
    (hpart : Event.reads part <+: Tick.questions ∧ Event.ticks part = 0) :
    Counted (frames + 1) (front ++ .looked true :: part) := by
  obtain ⟨hticks, hreads⟩ := h
  constructor
  · have hone : Event.ticks (.looked true :: part) = Event.ticks part + 1 :=
      List.countP_cons_of_pos rfl
    rw [Event.ticks_append, hticks, hone, hpart.2]
  · rw [Event.reads_append]
    exact hreads.tick hpart.1

/-- Events that neither ask nor begin anything do not count. -/
theorem append_iff {rest : List Event} (hreads : Event.reads rest = [])
    (hticks : Event.ticks rest = 0) : Counted frames (events ++ rest) ↔ Counted frames events := by
  unfold Counted
  rw [Event.ticks_append, hticks, Event.reads_append, hreads, List.append_nil, Nat.add_zero]

theorem complaint {result : Except WriteError Unit} (h : Counted frames events) :
    Counted frames (events ++ complaint result) := by
  cases result with
  | ok _ => exact (append_iff rfl rfl).mpr h
  | error e => exact (append_iff rfl rfl).mpr h

theorem round {tick : List Event} {result : Except WriteError Unit} (h : Counted frames events)
    (htick : Tick.Course tick result) (running : Bool) :
    Counted (frames + 1) (events ++ round refresh tick result running) := by
  have hround : events ++ Dashboard.round refresh tick result running =
      events ++ .looked true :: tick ++ Dashboard.complaint result ++
        [.paused refresh running] := by
    simp [Dashboard.round]
  rw [hround]
  exact (append_iff rfl rfl).mpr (h.tick htick.reads).complaint

end Counted

theorem Rounds.counted (h : Rounds refresh frames events) : Counted frames events := by
  induction h with
  | none => exact ⟨rfl, Nat.le_refl 0, Nat.le_refl 0, Nat.le_refl 0⟩
  | next _ htick ih => exact ih.round htick true

theorem Over.counted (h : Over refresh frames events) : Counted frames events := by
  cases h with
  | refused hrounds => exact (Counted.append_iff rfl rfl).mpr hrounds.counted
  | woken hrounds htick =>
      exact (Counted.append_iff rfl rfl).mpr (hrounds.counted.round htick false)

/-- Ticks and questions are in balance at every position. -/
theorem Reached.counted {running : Bool} {s : Dashboard} (h : s.Reached refresh running events) :
    Counted (Event.ticks events) events := by
  suffices ∃ frames, Counted frames events by
    obtain ⟨frames, hticks, hreads⟩ := this
    exact ⟨rfl, hticks ▸ hreads⟩
  cases s with
  | checking frames => exact ⟨frames, Rounds.counted h⟩
  | ticking frames tick =>
      obtain ⟨-, front, part, rfl, hfront, hpart⟩ := h
      exact ⟨frames + 1, hfront.counted.tick hpart.reads⟩
  | complaining frames e =>
      obtain ⟨before, front, tick, -, rfl, hfront, htick⟩ := h
      exact ⟨before + 1, hfront.counted.tick htick.reads⟩
  | pausing frames =>
      obtain ⟨before, front, tick, result, -, rfl, hfront, htick⟩ := h
      exact ⟨before + 1, (hfront.counted.tick htick.reads).complaint⟩
  | leaving frames =>
      -- The events that are known to come to an end have one more, which does not count.
      exact ⟨frames, (Counted.append_iff rfl rfl).mp h.2.counted⟩
  | finished frames => exact ⟨frames, h.2.counted⟩

/-! ## Beginning and end -/

/-- The dashboard can come to its end from anywhere. -/
theorem Reached.complete {running : Bool} {s : Dashboard} (h : s.Reached refresh running events) :
    ∃ rest frames, Over refresh frames (events ++ rest) := by
  cases s with
  | checking frames => exact ⟨_, frames, .refused h⟩
  | ticking frames tick =>
      obtain ⟨-, front, part, rfl, hfront, hpart⟩ := h
      obtain ⟨rest, result, hcourse⟩ := hpart.complete
      refine ⟨rest ++ complaint result ++ [.paused refresh false, .logged (stopped (frames + 1))],
        frames + 1, ?_⟩
      simpa [round] using Over.woken hfront hcourse
  | complaining frames e =>
      obtain ⟨before, front, tick, -, rfl, hfront, htick⟩ := h
      refine ⟨complaint (.error e) ++ [.paused refresh false, .logged (stopped (before + 1))],
        before + 1, ?_⟩
      simpa [round] using Over.woken hfront htick
  | pausing frames =>
      obtain ⟨before, front, tick, result, -, rfl, hfront, htick⟩ := h
      refine ⟨[.paused refresh false, .logged (stopped (before + 1))], before + 1, ?_⟩
      simpa [round] using Over.woken hfront htick
  | leaving frames => exact ⟨_, frames, h.2⟩
  | finished frames => exact ⟨[], frames, by rw [List.append_nil]; exact h.2⟩

theorem Rounds.first (h : Rounds refresh frames events) :
    (frames = 0 ∧ events = []) ∨ (frames ≠ 0 ∧ ∃ rest, events = .looked true :: rest) := by
  induction h with
  | none => exact .inl ⟨rfl, rfl⟩
  | next _ _ ih =>
      refine .inr ⟨Nat.succ_ne_zero _, ?_⟩
      rcases ih with ⟨-, rfl⟩ | ⟨-, rest, rfl⟩
      · exact ⟨_, rfl⟩
      · exact ⟨_, rfl⟩

/-- There is no tick exactly if the first look has found the flag cleared. -/
theorem Over.first (h : Over refresh frames events) :
    ∃ looked rest, events = .looked looked :: rest ∧ (frames = 0 ↔ looked = false) := by
  cases h with
  | refused hrounds =>
      rcases hrounds.first with ⟨rfl, rfl⟩ | ⟨hframes, rest, rfl⟩
      · exact ⟨false, _, rfl, by simp⟩
      · exact ⟨true, _, rfl, by simp [hframes]⟩
  | woken hrounds htick =>
      rcases hrounds.first with ⟨rfl, rfl⟩ | ⟨hframes, rest, rfl⟩
      · exact ⟨true, _, rfl, by simp⟩
      · exact ⟨true, _, rfl, by simp⟩

/-- The dashboard goes on unless it is over. -/
theorem Reached.goes_on {s : Solo Dashboard} (h : s.state.Reached refresh s.run.running events) :
    (∃ event t, Solo.Step (effect refresh) s (.own event) t) ∨
      ∃ frames, s.state = .finished frames := by
  suffices (∃ e, s.state.effect refresh = some e) ∨ ∃ frames, s.state = .finished frames by
    refine this.imp_left fun ⟨e, heffect⟩ => ?_
    obtain ⟨event, t, hstep, -⟩ := Solo.Step.exists_own heffect .zero
    exact ⟨event, t, hstep⟩
  cases hstate : s.state with
  | finished frames => exact .inr ⟨frames, rfl⟩
  | ticking frames tick =>
      rw [hstate] at h
      obtain ⟨hunfinished, _, _, -, -, hpart⟩ := h
      refine .inl ?_
      cases tick with
      | drawing writing =>
          cases writing with
          | pending text rest => exact ⟨_, rfl⟩
          | finished result => exact hpart.elim
      | finished result => exact absurd rfl (hunfinished result)
      | _ => exact ⟨_, rfl⟩
  | _ => exact .inl ⟨_, rfl⟩

end Dashboard

/-! ## What is written -/

/-- A tick writes what wipes the screen, or a part of what is shown for the answers it was given. -/
theorem Tick.Reached.written {events : List Event} {s t : Tick} {e : Effect Tick} {text : String}
    {result : Except WriteError Unit} (h : s.Reached events) (heffect : s.effect = some e)
    (htakes : e.Takes (.wrote text result) t) :
    (text = Frame.clearScreen ∧ events = []) ∨
    ∃ reads answer sent rest, Fetch reads answer ∧ Shows answer (sent ++ text :: rest) ∧
      events = .wrote Frame.clearScreen (.ok ()) :: reads ++ Event.accepted sent := by
  cases s with
  | clearing => cases heffect; cases htakes; exact .inl ⟨rfl, h⟩
  | drawing writing =>
      cases writing with
      | finished result => exact h.elim
      | pending text rest =>
          obtain ⟨reads, answer, sent, hfetch, hshows, hevents⟩ := h
          cases heffect; cases htakes
          exact .inr ⟨reads, answer, sent, rest, hfetch, hshows, hevents⟩
  | finished result => cases heffect
  | _ => cases heffect; cases htakes

namespace Dashboard

variable {refresh : Duration} {run : RunState} {moves : List Move} {s : Solo Dashboard}

/-- Every run leads to a position whose past it is. -/
theorem reached_of_run (h : Steps (Solo.Step (effect refresh)) ⟨run, start⟩ moves s) :
    s.state.Reached refresh s.run.running (Move.events moves) := by
  refine ((effect_only refresh).imp Event.OfDashboard.plain).invariant
    (P := fun flag events s => s.Reached refresh flag events) h Rounds.none ?_ Reached.stop
  intro run events a b e event hreached heffect htakes hagrees
  exact hreached.step heffect htakes hagrees

/-- What is written wipes the screen as a tick begins, or shows what that tick has read since. -/
theorem written_of_run {front rest : List Event} {text : String} {result : Except WriteError Unit}
    (h : Steps (Solo.Step (effect refresh)) ⟨run, start⟩ moves s)
    (hwrote : Move.events moves = front ++ .wrote text result :: rest) :
    ∃ before since, front = before ++ .looked true :: since ∧
      ((text = Frame.clearScreen ∧ since = []) ∨
        ∃ reads answer sent left, Tick.Fetch reads answer ∧
          Tick.Shows answer (sent ++ text :: left) ∧
          since = .wrote Frame.clearScreen (.ok ()) :: reads ++ Event.accepted sent) := by
  obtain ⟨before, after, a, b, rfl, rfl, hbefore, hstep⟩ := Solo.at_event h hwrote
  have hreached := reached_of_run hbefore
  obtain ⟨arun, state⟩ := a
  cases hstep with
  | own heffect htakes _ =>
      cases state with
      | ticking frames tick =>
          obtain ⟨-, past, part, hevents, -, hpart⟩ := hreached
          obtain ⟨inner, next, hinner, hnext, -⟩ := Thread.takes_map heffect htakes
          exact ⟨past, part, hevents, hpart.written hinner hnext⟩
      | finished frames => cases heffect
      | _ => cases heffect; cases htakes

/-! ## Any run -/

/-- What stands at any time of a run of the dashboard, whoever stops it and whatever the service
and the screen answer. -/
structure Survives (refresh : Duration) (run : RunState) (moves : List Move)
    (s : Solo Dashboard) : Prop where
  /-- The dashboard takes another step unless it is over. -/
  live : (∃ event t, Solo.Step (effect refresh) s (.own event) t) ∨
    ∃ frames, s.state = .finished frames
  /-- Its events are the beginning of those of a dashboard that is over: of ticks one after the
  other. -/
  course : ∃ rest frames, Over refresh frames (Move.events moves ++ rest)
  /-- It is over only because the flag was found cleared, and returns the number of its ticks. -/
  ended : ∀ frames, s.state = .finished frames → s.run.running = false ∧
    Over refresh frames (Move.events moves) ∧ frames = Event.ticks (Move.events moves)
  /-- It returns zero exactly if the run was stopped by its first look. -/
  first : ∀ frames, s.state = .finished frames → ∃ before looked after,
    moves = before ++ .own (.looked looked) :: after ∧ Move.events before = [] ∧
      (looked = true ↔ run.running = true ∧ ∀ m ∈ before, ¬m.Clears) ∧
      (frames = 0 ↔ looked = false)
  /-- No question is asked more often than the one before it, and none more often than there are
  ticks. -/
  balanced : Read.Balanced (Event.reads (Move.events moves)) (Event.ticks (Move.events moves))
  /-- What is written wipes the screen at the beginning of a tick, or shows what the same tick has
  read since. -/
  own : ∀ front text result rest, Move.events moves = front ++ .wrote text result :: rest →
    ∃ before since, front = before ++ .looked true :: since ∧
      ((text = Frame.clearScreen ∧ since = []) ∨
        ∃ reads answer sent left, Tick.Fetch reads answer ∧
          Tick.Shows answer (sent ++ text :: left) ∧
          since = .wrote Frame.clearScreen (.ok ()) :: reads ++ Event.accepted sent)

theorem survives_of_run (h : Steps (Solo.Step (effect refresh)) ⟨run, start⟩ moves s) :
    Survives refresh run moves s where
  live := (reached_of_run h).goes_on
  course := (reached_of_run h).complete
  ended := by
    intro frames hover
    have hreached := reached_of_run h
    rw [hover] at hreached
    obtain ⟨hstopped, hevents⟩ := hreached
    exact ⟨hstopped, hevents, hevents.counted.1.symm⟩
  first := by
    intro frames hover
    have hreached := reached_of_run h
    rw [hover] at hreached
    obtain ⟨looked, rest, hevents, hframes⟩ := hreached.2.first
    -- Nothing has happened before the first look but what others do to the flag.
    have hfirst : Move.events moves = [] ++ .looked looked :: rest := hevents
    obtain ⟨before, after, a, b, hmoves, hnone, hbefore, hlook⟩ := Solo.at_event h hfirst
    refine ⟨before, looked, after, hmoves, hnone, ?_, hframes⟩
    cases hlook with
    | own _ _ hagrees =>
        have hlooked : looked = a.run.running := hagrees
        rw [hlooked, Solo.running_iff hbefore]
  balanced := (reached_of_run h).counted.2
  own := fun front text result rest hwrote => written_of_run h hwrote

/-- The service refuses the connection in the first tick, and the screen fails in both. -/
theorem survives_of_run_failures :
    let refused : Failure := .fault "connection refused"
    let moves : List Move :=
      [.own (.looked true), .own (.wrote Frame.clearScreen (.ok ())),
        .own (.readHealth (.error refused)), .own (.wrote (Tick.errorLine refused) (.ok ())),
        .own (.flushed (.error .nothingAccepted)), .own (.logged (drawFailed .nothingAccepted)),
        .own (.paused defaultRefresh true), .own (.looked true),
        .own (.wrote Frame.clearScreen (.error .nothingAccepted)),
        .own (.logged (drawFailed .nothingAccepted)), .stop, .own (.paused defaultRefresh false),
        .own (.logged (stopped 2))]
    Over defaultRefresh 2 (Move.events moves) ∧ Event.ticks (Move.events moves) = 2 := by
  intro refused moves
  have hrun : Steps (Solo.Step (effect defaultRefresh)) ⟨.fresh, start⟩ moves
      ⟨⟨false, true⟩, finished 2⟩ :=
    .head (.own rfl (.isRunning true) rfl) <| .head (.own rfl (.write (.ok ())) trivial) <|
    .head (.own rfl (.health (.error refused)) trivial) <|
    .head (.own rfl (.write (.ok ())) trivial) <|
    .head (.own rfl (.flush (.error .nothingAccepted)) trivial) <|
    .head (.own rfl .log trivial) <| .head (.own rfl (.pause true) rfl) <|
    .head (.own rfl (.isRunning true) rfl) <|
    .head (.own rfl (.write (.error .nothingAccepted)) trivial) <|
    .head (.own rfl .log trivial) <| .head .stop <| .head (.own rfl (.pause false) rfl) <|
    .single (.own rfl .log trivial)
  obtain ⟨-, hover, hticks⟩ := (survives_of_run hrun).ended 2 rfl
  exact ⟨hover, hticks.symm⟩

end Dashboard
end LoadMonitor
