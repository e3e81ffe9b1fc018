import LoadMonitor.Load.Plan
import LoadMonitor.Log.Generator
import LoadMonitor.Random.Choice
import LoadMonitor.Run.Effect

/-!
# Phases

A phase is a loop. Before each iteration it looks at what the phase still allows, then at
the flag of the run; an iteration draws everything that it is going to submit, submits it
piece by piece, and pauses. Nothing that is drawn depends on the service, on the clock or
on the flag.
-/

namespace LoadMonitor

variable {ρ : Type} [RandomSource ρ]

/-- What one iteration of a phase submits, in its order. -/
def Phase.iteration (pacing : Pacing) (patience : Nat) : Phase → Gen ρ (List Submission)
  | normal _ => do
    let batch ← Generator.batch patience
    if ← (Chance.ofProbability pacing.queryProbability).decide then
      return [.logs .ingest batch, .query (← Generator.query patience)]
    else
      return [.logs .ingest batch]
  | high _ => do return [.logs .bulk (← Generator.burst patience)]
  | slow _ => return [.query Generator.slowQuery]

/-- What a phase still allows. -/
inductive Allowance where
  /-- Iterations that begin less than `duration` after `started`. -/
  | span (started duration : Duration)
  /-- A number of iterations. -/
  | count (left : Nat)
  deriving DecidableEq, Repr

/-- What every state of a phase carries along: the random source and what has been
submitted so far. -/
structure Progress (ρ : Type) where
  source : ρ
  stats : PhaseStats

namespace Progress

/-- Count an iteration that is about to submit something. -/
def begun (p : Progress ρ) (source : ρ) : Progress ρ :=
  ⟨source, { p.stats with iterations := p.stats.iterations + 1 }⟩

/-- Count a submission. -/
def count (p : Progress ρ) (s : Submission) : Progress ρ :=
  { p with stats := { p.stats with
      records := p.stats.records + s.records, queries := p.stats.queries + s.queries } }

end Progress

/-- Where the load driver stands within a phase. -/
inductive PhaseState (ρ : Type) where
  /-- About to note the time at which the phase starts. -/
  | starting (duration : Duration) (progress : Progress ρ)
  /-- About to look at the clock. -/
  | timing (started duration : Duration) (progress : Progress ρ)
  /-- About to look at the flag. -/
  | checking (allowance : Allowance) (progress : Progress ρ)
  /-- About to submit what is left of an iteration. -/
  | submitting (allowance : Allowance) (next : Submission) (rest : List Submission)
      (progress : Progress ρ)
  | pausing (allowance : Allowance) (progress : Progress ρ)
  | finished (progress : Progress ρ)
  /-- Still waiting for a word that the draw accepts. -/
  | drawing

namespace PhaseState

/-- Before an iteration: timed phases look at the clock, counted ones know what is left. -/
def again (progress : Progress ρ) : Allowance → PhaseState ρ
  | .span started duration => timing started duration progress
  | .count 0 => finished progress
  | .count (left + 1) => checking (.count (left + 1)) progress

/-- The allowance after an iteration. -/
def spend : Allowance → Allowance
  | .span started duration => .span started duration
  | .count left => .count (left - 1)

/-- Submit what is left of an iteration, then pause. -/
def submit (allowance : Allowance) (progress : Progress ρ) : List Submission → PhaseState ρ
  | [] => pausing allowance progress
  | next :: rest => submitting allowance next rest progress

/-- The beginning of a phase. -/
def start (source : ρ) : Phase → PhaseState ρ
  | .normal duration => starting duration ⟨source, .zero⟩
  | .high duration => starting duration ⟨source, .zero⟩
  | .slow count => again ⟨source, .zero⟩ (.count count)

/-- Draw an iteration and go on to submit it. -/
def iterate (pacing : Pacing) (patience : Nat) (phase : Phase) (allowance : Allowance)
    (progress : Progress ρ) : PhaseState ρ :=
  match (phase.iteration pacing patience).run progress.source with
  | some (submissions, source) => submit allowance (progress.begun source) submissions
  | none => drawing

/-- The thread that runs a phase. -/
def effect (pacing : Pacing) (patience : Nat) (phase : Phase) : Thread (PhaseState ρ)
  | starting duration progress => some <| .clock fun now => timing now duration progress
  | timing started duration progress => some <| .clock fun now =>
    if now.since started < duration then checking (.span started duration) progress
    else finished progress
  | checking allowance progress => some <| .isRunning fun running =>
    if running then iterate pacing patience phase allowance progress else finished progress
  | submitting allowance next rest progress => some <| .submit next <|
    submit allowance (progress.count next) rest
  | pausing allowance progress => some <| .pause (pacing.delay phase) fun running =>
    if running then again progress (spend allowance) else finished progress
  | finished _ => none
  | drawing => none

end PhaseState
end LoadMonitor
