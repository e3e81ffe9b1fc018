import LoadMonitor.Proofs.Load.Tally
import LoadMonitor.Proofs.Load.Position
import Mathlib.Algebra.Order.Floor.Div

/-!
# The pace of a phase

A timed phase looks at the clock before every iteration. If no time passes but in pauses, and
each pause lasts for its whole delay, then the clock tells the number of iterations so far, and
how many of them there are follows from the two durations.
-/

namespace LoadMonitor

/-! ## Time -/

/-- For how long a phase lets iterations begin, unless they are counted. -/
def Phase.duration? : Phase → Option Duration
  | normal duration => some duration
  | high duration => some duration
  | slow _ => none

namespace Event

/-- The time after an event if nothing takes any time but pauses, which last for their whole
delay. -/
def elapse (time : Duration) : Event → Duration
  | paused delay _ => time + delay
  | _ => time

def timeAfter (start : Duration) (events : List Event) : Duration := events.foldl elapse start

/-- The clock moves on with pauses and with nothing else. -/
def Paced (start : Duration) (events : List Event) : Prop :=
  ∀ front now rest, events = front ++ .timed now :: rest → now = timeAfter start front

theorem timeAfter_append (start : Duration) (es fs : List Event) :
    timeAfter start (es ++ fs) = timeAfter (timeAfter start es) fs :=
  List.foldl_append

theorem timeAfter_map_submitted (start : Duration) (ss : List Submission) :
    timeAfter start (ss.map submitted) = start := by
  induction ss with
  | nil => rfl
  | cons s ss ih => exact ih

namespace Paced

variable {start now : Duration} {es fs : List Event}

/-- The first look at the clock. -/
theorem first (start : Duration) : Paced start [.timed start] := by
  intro front now rest heq
  cases front with
  | nil => cases heq; rfl
  | cons event front => simp at heq

theorem front (h : Paced start (es ++ fs)) : Paced start es := by
  rintro front now rest rfl
  exact h front now (rest ++ fs) (List.append_assoc _ _ _)

theorem time (h : Paced start (es ++ .timed now :: fs)) : now = timeAfter start es :=
  h es now fs rfl

/-- The clock can always answer so. -/
theorem snoc (h : Paced start es) {event : Event}
    (hevent : ∀ now, event = .timed now → now = timeAfter start es) :
    Paced start (es ++ [event]) := by
  intro front now rest heq
  -- The look at the clock is the event that is added, or one of those before it.
  rcases List.append_eq_append_iff.mp heq with ⟨mid, rfl, hrest⟩ | ⟨mid, rfl, hrest⟩
  · cases mid with
    | nil =>
        cases hrest
        rw [List.append_nil]
        exact hevent now rfl
    | cons other mid => simp at hrest
  · cases mid with
    | nil =>
        cases hrest
        rw [List.append_nil] at hevent
        exact hevent now rfl
    | cons other mid =>
        cases hrest
        exact h front now mid rfl

end Paced
end Event

/-! ## Rounds in time -/

namespace Allowance

variable {start duration delay : Duration} {rounds : Nat} {events gate : List Event}

/-- A span lets a round begin only if the delays before it have not filled it. -/
theorem Opens.lt_ceilDiv (h : (span start duration).Opens gate) (hdelay : 0 < delay.nanos)
    (hpaced : Event.Paced start (events ++ gate))
    (htime : (Event.timeAfter start events).nanos = start.nanos + delay.nanos * rounds) :
    rounds < duration.nanos ⌈/⌉ delay.nanos := by
  obtain ⟨now, rfl, hsince⟩ := h
  rw [hpaced.time] at hsince
  have hspan : (Event.timeAfter start events).nanos - start.nanos < duration.nanos := hsince
  have hwithin : delay.nanos * rounds < duration.nanos := by omega
  apply Nat.lt_of_not_le
  intro hceil
  exact Nat.not_le.mpr hwithin ((ceilDiv_le_iff_le_mul hdelay).mp hceil)

/-- A span ends a phase only if the delays have filled it. -/
theorem Closes.ceilDiv_le (h : (span start duration).Closes gate) (hdelay : 0 < delay.nanos)
    (hpaced : Event.Paced start (events ++ gate))
    (htime : (Event.timeAfter start events).nanos = start.nanos + delay.nanos * rounds) :
    duration.nanos ⌈/⌉ delay.nanos ≤ rounds := by
  obtain ⟨now, rfl, hsince⟩ := h
  rw [hpaced.time] at hsince
  have hspan : duration.nanos ≤ (Event.timeAfter start events).nanos - start.nanos := hsince
  apply (ceilDiv_le_iff_le_mul hdelay).mpr
  omega

end Allowance

namespace Phase

variable {pacing : Pacing} {phase : Phase} {events gate : List Event}
  {iterations : List (List Submission)} {ss : List Submission} {allowance : Allowance}
  {duration start : Duration}

theorem timeAfter_round (start : Duration) (ss : List Submission) (running : Bool) :
    Event.timeAfter start (phase.round pacing ss running) = start + pacing.delay phase := by
  show Event.timeAfter start (ss.map .submitted ++ [.paused (pacing.delay phase) running]) = _
  rw [Event.timeAfter_append, Event.timeAfter_map_submitted]
  rfl

theorem IsIteration.length_le (h : phase.IsIteration ss) : ss.length ≤ 2 := by
  cases phase with
  | normal duration =>
      obtain ⟨batch, -, rfl | ⟨query, -, rfl⟩⟩ := h
      · exact Nat.le_succ 1
      · exact Nat.le_refl 2
  | high duration => obtain ⟨batch, -, rfl⟩ := h; exact Nat.le_succ 1
  | slow count => obtain rfl := h; exact Nat.le_succ 1

namespace Through

/-- A timed phase has noted when it has begun, and measures its duration from then on. -/
theorem opening (h : Through pacing phase events iterations allowance)
    (hduration : phase.duration? = some duration) :
    ∃ started later, allowance = .span started duration ∧ events = .timed started :: later := by
  induction h with
  | enter henter =>
      cases phase with
      | slow count => cases hduration
      | _ =>
          cases hduration
          obtain ⟨now, rfl, rfl⟩ := henter
          exact ⟨now, [], rfl, rfl⟩
  | again _ _ _ ih =>
      obtain ⟨started, later, rfl, rfl⟩ := ih
      exact ⟨started, _, rfl, by rw [List.cons_append, List.cons_append]⟩

/-- Whole rounds of at most five events each, after the first look at the clock. -/
theorem length_le (h : Through pacing phase events iterations allowance)
    (hduration : phase.duration? = some duration) : events.length ≤ 5 * iterations.length + 1 := by
  induction h with
  | enter henter =>
      cases phase with
      | slow count => cases hduration
      | _ => obtain ⟨now, rfl, -⟩ := henter; exact Nat.le_refl 1
  | again hthrough hopen hss ih =>
      obtain ⟨started, -, rfl, -⟩ := hthrough.opening hduration
      obtain ⟨now, rfl, -⟩ := hopen
      have hsent := hss.length_le
      simp only [round, List.length_append, List.length_cons, List.length_map, List.length_nil]
      omega

/-- Iterations begin one delay after the other, and each of them within the duration. -/
theorem paced (h : Through pacing phase events iterations allowance)
    (hduration : phase.duration? = some duration) (hdelay : 0 < (pacing.delay phase).nanos)
    (hpaced : Event.Paced start events) :
    allowance = .span start duration ∧
      (Event.timeAfter start events).nanos =
        start.nanos + (pacing.delay phase).nanos * iterations.length ∧
      iterations.length ≤ duration.nanos ⌈/⌉ (pacing.delay phase).nanos := by
  induction h with
  | enter henter =>
      cases phase with
      | slow count => cases hduration
      | _ =>
          cases hduration
          obtain ⟨now, rfl, rfl⟩ := henter
          have hnow : now = start := hpaced [] now [] rfl
          rw [hnow]
          exact ⟨rfl, rfl, Nat.zero_le _⟩
  | @again events gate iterations ss allowance _ hopen _ ih =>
      obtain ⟨rfl, htime, -⟩ := ih hpaced.front.front
      -- The look that opens the round sees the delays of all rounds before it.
      have hwithin := hopen.lt_ceilDiv hdelay hpaced.front htime
      refine ⟨rfl, ?_, by rwa [List.length_append, List.length_singleton]⟩
      obtain ⟨now, rfl, -⟩ := hopen
      rw [Event.timeAfter_append, timeAfter_round, Event.timeAfter_append, Duration.nanos_add]
      show (Event.timeAfter start events).nanos + _ = _
      rw [htime, List.length_append, List.length_singleton, Nat.mul_succ, Nat.add_assoc]

end Through

/-- A timed phase that nobody has stopped is over after as many delays as fill its duration. -/
theorem Full.length_eq (h : Full pacing phase events iterations)
    (hduration : phase.duration? = some duration) (hdelay : 0 < (pacing.delay phase).nanos)
    (hpaced : Event.Paced start events) :
    iterations.length = duration.nanos ⌈/⌉ (pacing.delay phase).nanos := by
  obtain ⟨hthrough, hclose⟩ := h
  obtain ⟨rfl, htime, hle⟩ := hthrough.paced hduration hdelay hpaced.front
  exact Nat.le_antisymm hle (hclose.ceilDiv_le hdelay hpaced htime)

/-- The rounds before an iteration do not fill the duration. -/
theorem Ready.length_lt (h : Ready pacing phase allowance events)
    (hduration : phase.duration? = some duration) (hdelay : 0 < (pacing.delay phase).nanos)
    (hpaced : Event.Paced start events) :
    events.length + 3 ≤ 5 * (duration.nanos ⌈/⌉ (pacing.delay phase).nanos) := by
  obtain ⟨front, gate, iterations, rfl, hthrough, hopen⟩ := h
  obtain ⟨rfl, htime, -⟩ := hthrough.paced hduration hdelay hpaced.front
  have hrounds := hopen.lt_ceilDiv hdelay hpaced htime
  have hfront := hthrough.length_le hduration
  obtain ⟨now, rfl, -⟩ := hopen
  rw [List.length_append, List.length_singleton]
  omega

end Phase

/-! ## Positions in time -/

namespace PhaseState

variable {ρ : Type} [RandomSource ρ] {pacing : Pacing} {patience : Nat} {phase : Phase}
  {duration start : Duration} {events : List Event} {source : ρ} {run : RunState}
  {moves : List Move} {s : Solo (PhaseState ρ)}

/-- Every run leads to a position whose past it is. -/
theorem past_of_run
    (h : Steps (Solo.Step (effect pacing patience phase)) ⟨run, PhaseState.start source phase⟩
      moves s) :
    s.state.Past pacing phase s.run.running (Move.events moves) := by
  refine ((effect_only pacing patience phase).imp Event.OfLoad.plain).invariant
    (P := fun flag events s => s.Past pacing phase flag events) h .start ?_ Past.stop
  intro run events a b e event hpast heffect htakes hagrees
  exact hpast.step heffect htakes hagrees

/-- A position from which a timed phase goes on is not far. -/
theorem Past.length_le {running : Bool} {s : PhaseState ρ} {e : Effect (PhaseState ρ)}
    (h : s.Past pacing phase running events) (heffect : s.effect pacing patience phase = some e)
    (hduration : phase.duration? = some duration) (hdelay : 0 < (pacing.delay phase).nanos)
    (hpaced : Event.Paced start events) :
    events.length ≤ 5 * (duration.nanos ⌈/⌉ (pacing.delay phase).nanos) + 1 := by
  cases s with
  | starting duration progress => obtain ⟨rfl, -⟩ := h; exact Nat.zero_le _
  | timing started duration progress =>
      obtain ⟨iterations, hthrough⟩ := h
      have hrounds := (hthrough.paced hduration hdelay hpaced).2.2
      have hlength := hthrough.length_le hduration
      omega
  | checking allowance progress =>
      have hready := Phase.Ready.length_lt h hduration hdelay hpaced
      omega
  | submitting allowance next rest progress =>
      obtain ⟨front, sent, rfl, hready, hiter⟩ := h
      have hfront := hready.length_lt hduration hdelay hpaced.front
      -- Those still to come included, the iteration has at most two calls.
      have hsent := hiter.length_le
      simp only [List.length_append, List.length_cons, List.length_map] at hsent ⊢
      omega
  | pausing allowance progress =>
      obtain ⟨front, sent, rfl, hready, hiter⟩ := h
      have hfront := hready.length_lt hduration hdelay hpaced.front
      have hsent := hiter.length_le
      simp only [List.length_append, List.length_cons, List.length_map]
      omega
  | finished progress => cases heffect
  | drawing => cases heffect

/-- A timed phase has only so many steps to take, whoever stops it. -/
theorem length_le_of_run
    (h : Steps (Solo.Step (effect pacing patience phase)) ⟨run, PhaseState.start source phase⟩
      moves s)
    (hduration : phase.duration? = some duration) (hdelay : 0 < (pacing.delay phase).nanos)
    (hpaced : Event.Paced start (Move.events moves)) :
    (Move.events moves).length ≤ 5 * (duration.nanos ⌈/⌉ (pacing.delay phase).nanos) + 2 := by
  rcases Solo.last_own h with ⟨hnone, -⟩ |
    ⟨before, event, after, a, b, rfl, hafter, hbefore, hlast, -⟩
  · rw [hnone]
    exact Nat.zero_le _
  · have hevents : Move.events (before ++ .own event :: after) = Move.events before ++ [event] := by
      rw [Move.events_append]
      show _ ++ event :: Move.events after = _
      rw [hafter]
    rw [hevents] at hpaced ⊢
    -- The last event was taken at a position from which the phase went on.
    cases hlast with
    | own heffect _ _ =>
        have hlength := (past_of_run hbefore).length_le heffect hduration hdelay hpaced.front
        rw [List.length_append, List.length_singleton]
        omega

/-- A timed phase that is over and was not stopped has gone through as many iterations as there
are delays in its duration, the last one counted in full. -/
theorem iterations_eq_of_run {progress : Progress ρ}
    (h : Steps (Solo.Step (effect pacing patience phase)) ⟨run, PhaseState.start source phase⟩
      moves s)
    (hduration : phase.duration? = some duration) (hdelay : 0 < (pacing.delay phase).nanos)
    (hpaced : Event.Paced start (Move.events moves)) (hover : s.state = .finished progress)
    (hrunning : s.run.running = true) :
    progress.stats.iterations = duration.nanos ⌈/⌉ (pacing.delay phase).nanos := by
  have hpast := past_of_run h
  rw [hover, hrunning] at hpast
  rcases hpast with ⟨iterations, hfull⟩ | ⟨hstopped, -⟩
  · rw [(tells_of_run h hover).iterations, hfull.submissions,
      Phase.rounds_flatten hfull.isSegment.1]
    exact hfull.length_eq hduration hdelay hpaced
  · cases hstopped

/-- Whatever the clock answers, each iteration of a timed phase begins right after a look at it
that falls within the duration. -/
theorem punctual_of_run {front rest : List Event}
    (h : Steps (Solo.Step (effect pacing patience phase)) ⟨run, PhaseState.start source phase⟩
      moves s)
    (hduration : phase.duration? = some duration)
    (hbegun : Move.events moves = front ++ .looked true :: rest) :
    ∃ started later now, front = .timed started :: later ++ [.timed now] ∧
      now < started + duration := by
  obtain ⟨before, after, a, b, rfl, rfl, hbefore, hlook⟩ := Solo.at_event h hbegun
  have hpast := past_of_run hbefore
  obtain ⟨arun, state⟩ := a
  cases hlook with
  | own heffect htakes _ =>
      cases state with
      -- Only a phase that has just asked the clock looks at the flag.
      | checking allowance progress =>
          obtain ⟨past, gate, iterations, hevents, hthrough, hopen⟩ := hpast
          obtain ⟨started, later, rfl, rfl⟩ := hthrough.opening hduration
          obtain ⟨now, rfl, hsince⟩ := hopen
          refine ⟨started, later, now, hevents, ?_⟩
          have hspan : now.nanos - started.nanos < duration.nanos := hsince
          show now.nanos < started.nanos + duration.nanos
          omega
      | _ => cases heffect <;> cases htakes

/-- A phase goes on unless it is over or waits for its source. The clock may answer anything. -/
theorem goes_on (pacing : Pacing) (patience : Nat) (phase : Phase) (time : Duration)
    (s : Solo (PhaseState ρ)) :
    (∃ event t, Solo.Step (effect pacing patience phase) s (.own event) t ∧
      ∀ now, event = .timed now → now = time) ∨
    (∃ progress, s.state = .finished progress) ∨ s.state = .drawing := by
  cases hstate : s.state with
  | finished progress => exact .inr (.inl ⟨progress, rfl⟩)
  | drawing => exact .inr (.inr rfl)
  | _ => exact .inl (Solo.Step.exists_own (by rw [hstate]; rfl) time)

/-- Only the draw of an iteration can leave a phase waiting for its source. -/
theorem draws_of_takes {s : PhaseState ρ} {e : Effect (PhaseState ρ)} {event : Event}
    (heffect : s.effect pacing patience phase = some e) (htakes : e.Takes event .drawing) :
    ∃ allowance progress, s = .checking allowance progress ∧
      (phase.iteration pacing patience).run progress.source = none := by
  -- Every other step leads to a position that has made progress.
  generalize hwaits : PhaseState.drawing = t at htakes
  replace hwaits : t.progress? = none := by rw [← hwaits]; rfl
  cases s with
  | starting duration progress => cases heffect; cases htakes; cases hwaits
  | timing started duration progress =>
      cases heffect; cases htakes with
      | clock now => dsimp only at hwaits; split at hwaits <;> cases hwaits
  | checking allowance progress =>
      refine ⟨allowance, progress, rfl, ?_⟩
      cases heffect; cases htakes with
      | isRunning running =>
          cases running with
          | false => cases hwaits
          | true =>
              dsimp only [iterate] at hwaits
              cases hdraw : (phase.iteration pacing patience).run progress.source with
              | none => rfl
              | some drawn => simp [hdraw] at hwaits
  | submitting allowance next rest progress =>
      cases heffect; cases htakes with
      | submit => simp at hwaits
  | pausing allowance progress =>
      cases heffect; cases htakes with
      | pause running =>
          cases running with
          | true => simp at hwaits
          | false => cases hwaits
  | finished progress => cases heffect
  | drawing => cases heffect

/-- A phase waits for its source only after whole iterations, if it cannot draw the next one. -/
theorem waits_of_run
    (h : Steps (Solo.Step (effect pacing patience phase)) ⟨run, PhaseState.start source phase⟩
      moves s)
    (hwaits : s.state = .drawing) :
    ∃ its source', Steps (phase.Draws pacing.queryProbability) source its source' ∧
      (phase.iteration pacing patience).run source' = none := by
  rcases Solo.last_own h with ⟨-, hsame⟩ |
    ⟨before, event, after, a, b, -, -, hbefore, hlast, hstate⟩
  · have hprogress := progress?_start source phase
    have hstart : PhaseState.start source phase = .drawing := hsame.symm.trans hwaits
    rw [hstart] at hprogress
    cases hprogress
  · obtain ⟨hkeeps, -⟩ := counted_of_run hbefore
    obtain ⟨arun, state⟩ := a
    cases hlast with
    | own heffect htakes _ =>
        cases hstate.trans hwaits
        obtain ⟨allowance, progress, rfl, hdraw⟩ := draws_of_takes heffect htakes
        obtain ⟨its, hdrawn, -⟩ := hkeeps
        exact ⟨its, progress.source, hdrawn, hdraw⟩

end PhaseState
end LoadMonitor
