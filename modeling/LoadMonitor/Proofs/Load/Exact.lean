import LoadMonitor.Proofs.Load.Pace
import LoadMonitor.Proofs.Log.Wellformed

/-!
# A phase is exact

What a phase reports is what it has submitted, and how much it submits is settled by its pace and
by the probability of a query, which may be any number. Nothing that it draws can go wrong.
-/

namespace LoadMonitor

/-! ## Guarded iterations -/

namespace Guarded

variable {ρ : Type} [RandomSource ρ]

/-- One iteration of a phase. -/
def iteration (pacing : Pacing) (patience : Nat) : Phase → Guarded ρ (List Submission)
  | .normal _ => do
    let batch ← batch patience
    if ← decided pacing.queryProbability.asProbability then
      return [.logs .ingest batch, .query (← query patience)]
    else
      return [.logs .ingest batch]
  | .high _ => do return [.logs .bulk (← burst patience)]
  | .slow _ => return [.query Generator.slowQuery]

theorem iteration_eq (pacing : Pacing) (patience : Nat) (phase : Phase) :
    (iteration pacing patience phase : Guarded ρ (List Submission)) =
      liftM (phase.iteration pacing patience : Gen ρ (List Submission)) := by
  cases phase with
  | normal duration =>
      unfold iteration Phase.iteration
      rw [batch_eq, decided_eq, query_eq]
      simp only [liftM_bind]
      -- The draws agree, and so does what follows them, whichever way the chance decides.
      refine bind_congr fun batch => bind_congr fun asks => ?_
      cases asks with
      | false => exact (liftM_pure _).symm
      | true => simp only [if_true, liftM_bind, liftM_pure]
  | high duration =>
      unfold iteration Phase.iteration
      rw [burst_eq]
      simp only [liftM_bind, liftM_pure]
  | slow count => exact (liftM_pure _).symm

end Guarded

/-! ## Runs of a phase -/

namespace PhaseState

variable {ρ : Type} [RandomSource ρ] {pacing : Pacing} {patience : Nat} {phase : Phase}
  {source : ρ} {moves : List Move} {s : Solo (PhaseState ρ)}

/-- What stands at any time of a run of a phase, whoever stops it and whatever it is answered. -/
structure Exact (pacing : Pacing) (patience : Nat) (phase : Phase) (source : ρ)
    (moves : List Move) (s : Solo (PhaseState ρ)) : Prop where
  /-- No draw of an iteration asks for something that is not there. -/
  faultless : (Guarded.iteration pacing patience phase : Guarded ρ (List Submission)) =
    liftM (phase.iteration pacing patience : Gen ρ (List Submission))
  /-- The phase takes another step unless it is over, or its source does not come up with an
  iteration after those that have been drawn from it. -/
  live : (∃ event t, Solo.Step (effect pacing patience phase) s (.own event) t) ∨
    (∃ progress, s.state = .finished progress) ∨
    (s.state = .drawing ∧ ∃ its source',
      Steps (phase.Draws pacing.queryProbability) source its source' ∧
        (phase.iteration pacing patience).run source' = none)
  /-- Once the phase is over, its figures are those of its calls. -/
  tells : ∀ progress, s.state = .finished progress →
    progress.stats.Tells phase (Event.submissions (Move.events moves))
  /-- There is no query in normal operation if the probability is no number or not above zero. -/
  never : ∀ duration, phase = .normal duration →
    pacing.queryProbability.isNaN = true ∨ pacing.queryProbability.le .zero = true →
      Submission.sqls (Event.submissions (Move.events moves)) = []
  /-- There is one query in each iteration of normal operation if the probability is one or
  more. -/
  always : ∀ duration progress, phase = .normal duration → s.state = .finished progress →
    Binary64.one.le pacing.queryProbability = true →
      ∃ its : List (List Submission), its.length = progress.stats.iterations ∧
        Event.submissions (Move.events moves) = its.flatten ∧
          ∀ ss ∈ its, ∃ batch sql, ss = [.logs .ingest batch, .query sql]
  /-- Every iteration of a timed phase begins right after a look at the clock that falls within
  the duration. -/
  punctual : ∀ duration front rest, phase.duration? = some duration →
    Move.events moves = front ++ .looked true :: rest →
      ∃ started later now, front = .timed started :: later ++ [.timed now] ∧
        now < started + duration
  /-- If nothing takes time but pauses, which last for their whole delay, and nobody stops the
  run, then a timed phase is over after finitely many steps, with as many iterations as there are
  delays in its duration. -/
  paced : ∀ duration start, phase.duration? = some duration → 0 < (pacing.delay phase).nanos →
    Event.Paced start (Move.events moves) → s.run.running = true →
      (Move.events moves).length ≤ 5 * (duration.nanos ⌈/⌉ (pacing.delay phase).nanos) + 2 ∧
      ((∃ event t, Solo.Step (effect pacing patience phase) s (.own event) t ∧
          Event.Paced start (Move.events moves ++ [event])) ∨
        (∃ progress, s.state = .finished progress ∧
          progress.stats.iterations = duration.nanos ⌈/⌉ (pacing.delay phase).nanos) ∨
        s.state = .drawing)

theorem exact_of_run {run : RunState}
    (h : Steps (Solo.Step (effect pacing patience phase)) ⟨run, start source phase⟩ moves s) :
    Exact pacing patience phase source moves s where
  faultless := Guarded.iteration_eq pacing patience phase
  live := by
    rcases goes_on pacing patience phase .zero s with ⟨event, t, hstep, -⟩ | hover | hwaits
    · exact .inl ⟨event, t, hstep⟩
    · exact .inr (.inl hover)
    · -- After all that was drawn from it, the source does not come up with another iteration.
      exact .inr (.inr ⟨hwaits, waits_of_run h hwaits⟩)
  tells := fun progress hover => tells_of_run h hover
  never := by
    rintro duration rfl hnever
    exact no_query_of_run h hnever
  always := by
    rintro duration progress rfl hover halways
    obtain ⟨its, hsubmissions, hlength, hits⟩ := iterations_of_run h hover
    exact ⟨its, hlength, hsubmissions, fun ss hss => ((hits ss hss).2 duration rfl).always halways⟩
  punctual := fun duration front rest hduration hbegun => punctual_of_run h hduration hbegun
  paced := by
    intro duration start hduration hdelay hpaced hrunning
    refine ⟨length_le_of_run h hduration hdelay hpaced, ?_⟩
    rcases goes_on pacing patience phase (Event.timeAfter start (Move.events moves)) s with
      ⟨event, t, hstep, htime⟩ | ⟨progress, hover⟩ | hwaits
    · exact .inl ⟨event, t, hstep, hpaced.snoc htime⟩
    · exact .inr (.inl ⟨progress, hover,
        iterations_eq_of_run h hduration hdelay hpaced hover hrunning⟩)
    · exact .inr (.inr hwaits)

/-! ## One and a half delays -/

open Generator

/-- The batch of the load test that is drawn from zeros. -/
def firstBurst : Submission := .logs .bulk (List.replicate 500 firstBurstLine)

/-- A round of the load test with a delay of a tenth of a second. -/
def burstRound (now : Duration) : List Move :=
  [.own (.timed now), .own (.looked true), .own (.submitted firstBurst),
    .own (.paused (.ofMillis 100) true)]

theorem burstRound_steps {started duration now : Duration} {progress : Progress Zeros}
    (hnow : now.since started < duration) :
    Steps (Solo.Step (effect .byDefault 1 (.high duration)))
      ⟨.fresh, timing started duration progress⟩ (burstRound now)
      ⟨.fresh, timing started duration ((progress.begun ⟨⟩).count firstBurst)⟩ := by
  have hdraw : ((Phase.high duration).iteration .byDefault 1).run progress.source =
      some ([firstBurst], (⟨⟩ : Zeros)) := by
    unfold Phase.iteration
    rw [StateT.run_bind]
    exact congrArg (Option.bind · _) burst_zeros
  refine .head (.own rfl (.clock now) trivial) ?_
  rw [if_pos hnow]
  refine .head (.own rfl (.isRunning true) rfl) ?_
  have hiterate : iterate .byDefault 1 (.high duration) (.span started duration) progress =
      submitting (.span started duration) firstBurst [] (progress.begun ⟨⟩) := by
    unfold iterate
    rw [hdraw]
    rfl
  rw [if_pos rfl, hiterate]
  exact .head (.own rfl .submit trivial) (.single (.own rfl (.pause true) rfl))

theorem paced_burstRound {start now : Duration} {events : List Event}
    (h : Event.Paced start events) (hnow : now = Event.timeAfter start events) :
    Event.Paced start (events ++ Move.events (burstRound now)) := by
  have hlook : Event.Paced start (events ++ [.timed now]) := h.snoc (by rintro _ ⟨⟩; exact hnow)
  have hround : Event.Paced start (events ++ [.timed now] ++ [.looked true] ++
      [.submitted firstBurst] ++ [.paused (.ofMillis 100) true]) :=
    ((hlook.snoc (by nofun)).snoc (by nofun)).snoc (by nofun)
  simpa [burstRound, Move.events, Move.event?] using hround

/-- One and a half delays make two iterations. -/
theorem exact_of_run_zeros :
    let moves : List Move :=
      .own (.timed .zero) :: (burstRound .zero ++ burstRound (.ofMillis 100) ++
        [.own (.timed (.ofMillis 200))])
    ∃ progress : Progress Zeros,
      Steps (Solo.Step (effect .byDefault 1 (.high (.ofMillis 150))))
        ⟨.fresh, start ⟨⟩ (.high (.ofMillis 150))⟩ moves ⟨.fresh, .finished progress⟩ ∧
      progress.stats.Tells (.high (.ofMillis 150)) [firstBurst, firstBurst] ∧
      progress.stats.iterations = 2 := by
  intro moves
  have hrun : Steps (Solo.Step (effect .byDefault 1 (.high (.ofMillis 150))))
      ⟨.fresh, start (⟨⟩ : Zeros) (.high (.ofMillis 150))⟩ moves ⟨.fresh, .finished _⟩ :=
    .head (.own rfl (.clock .zero) trivial) <|
    ((burstRound_steps (by decide)).trans (burstRound_steps (by decide))).trans <|
    .single (.own rfl (.clock (.ofMillis 200)) trivial)
  refine ⟨_, hrun, (exact_of_run hrun).tells _ rfl, ?_⟩
  have hpaced : Event.Paced .zero (Move.events moves) :=
    (paced_burstRound (paced_burstRound (.first .zero) rfl) rfl).snoc (by rintro _ ⟨⟩; rfl)
  rcases ((exact_of_run hrun).paced _ .zero rfl (by decide) hpaced rfl).2 with
    ⟨event, t, hstep, -⟩ | ⟨progress, hover, hcount⟩ | hwaits
  · cases hstep with
    | own heffect _ _ => cases heffect
  · cases hover
    exact hcount
  · cases hwaits

end PhaseState
end LoadMonitor
