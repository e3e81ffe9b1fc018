import LoadMonitor.Load.Driver
import LoadMonitor.Proofs.Random.Agreement
import LoadMonitor.Proofs.Run.Event
import LoadMonitor.Proofs.Run.Kinds
import LoadMonitor.Proofs.Run.Steps

/-!
# The logbook of a plan

What each phase of a plan has done, read off the events of the load driver alone, and where it
comes from: the iterations of a phase are drawn one after the other from the random source, and
each phase goes on where the one before has left it.
-/

namespace LoadMonitor

/-! ## Entries -/

/-- What a phase has done: how many iterations it has begun, and all that it has submitted. -/
structure Stint where
  iterations : Nat
  submissions : List Submission

/-- An iteration begins as the flag is found set. -/
def Stint.enter (s : Stint) : Event → Stint
  | .looked true => { s with iterations := s.iterations + 1 }
  | .submitted submission => { s with submissions := s.submissions ++ [submission] }
  | _ => s

theorem Stint.submissions_enter (s : Stint) (event : Event) :
    (s.enter event).submissions = s.submissions ++ event.submission?.toList := by
  cases event with
  | looked running => cases running <;> exact (List.append_nil _).symm
  | submitted submission => rfl
  | _ => exact (List.append_nil _).symm

/-- The number of iterations at a position of a list, none beyond its end. -/
def Stint.iterationsAt (stints : List Stint) (position : Nat) : Nat :=
  (stints[position]?.map Stint.iterations).getD 0

/-- The submissions up to a position of a list. -/
def Stint.upto (stints : List Stint) (position : Nat) : List Submission :=
  (stints.take position).flatMap Stint.submissions

/-- What the phases of a plan have done, with the one that is under way. -/
structure Logbook where
  past : List Stint
  current : Option Stint

namespace Logbook

/-- A phase begins as it is announced and ends as its figures are logged. -/
def enter (b : Logbook) : Event → Logbook
  | .printed _ => { b with current := some ⟨0, []⟩ }
  | .logged _ => ⟨b.past ++ b.current.toList, none⟩
  | event => { b with current := b.current.map (·.enter event) }

/-- The logbook that the events of a driver make. -/
def ofEvents (events : List Event) : Logbook := events.foldl enter ⟨[], none⟩

/-- What each phase has done, in the order of the plan. -/
def stints (b : Logbook) : List Stint := b.past ++ b.current.toList

/-- The number of iterations of the phase with the given position in the plan. -/
def iterations (b : Logbook) (phase : Nat) : Nat := Stint.iterationsAt b.stints phase

/-- What the given number of phases have submitted. -/
def upto (b : Logbook) (phases : Nat) : List Submission := Stint.upto b.stints phases

/-- Everything that is submitted. -/
def submissions (b : Logbook) : List Submission := b.stints.flatMap Stint.submissions

@[simp] theorem ofEvents_append (events : List Event) (event : Event) :
    ofEvents (events ++ [event]) = (ofEvents events).enter event := by
  simp [ofEvents]

end Logbook

/-! ## Draws -/

section

variable {ρ : Type} [RandomSource ρ]

/-- An iteration of the phase that may be drawn from the source, and what it leaves of it. -/
def Phase.Draws (probability : Binary64) (phase : Phase) (source : ρ) (ss : List Submission)
    (source' : ρ) : Prop :=
  ∃ pacing patience, pacing.queryProbability = probability ∧
    (phase.iteration pacing patience).run source = some (ss, source')

/-- Of the pacing, an iteration depends on how likely queries are and on nothing else. -/
theorem Phase.iteration_agree {pacing pacing' : Pacing}
    (h : pacing.queryProbability = pacing'.queryProbability) (patience patience' : Nat)
    (phase : Phase) :
    (phase.iteration pacing patience : Gen ρ (List Submission)).Agree
      (phase.iteration pacing' patience') := by
  cases phase with
  | normal duration =>
      refine (Generator.batch_agree patience patience').bind fun batch => ?_
      rw [h]
      refine (Gen.Agree.refl _).bind fun asks => .ite ?_ (.refl _)
      exact (Generator.query_agree patience patience').bind fun _ => .refl _
  | high duration => exact (Generator.burst_agree patience patience').bind fun _ => .refl _
  | slow count => exact .refl _

/-- The source determines the iteration that is drawn from it. -/
theorem Phase.draws_functional (probability : Binary64) (phase : Phase) :
    Functional (phase.Draws probability : ρ → List Submission → ρ → Prop) := by
  rintro source ss tt source' source'' ⟨pacing, patience, hpacing, hss⟩
    ⟨pacing', patience', hpacing', htt⟩
  have hsame : (ss, source') = (tt, source'') :=
    Phase.iteration_agree (hpacing.trans hpacing'.symm) patience patience' phase _ _ _ hss htt
  exact Prod.mk.inj hsame

/-- What a phase has done is whole iterations, drawn one after the other. -/
def Stint.Whole (probability : Binary64) (phase : Phase) (source : ρ) (stint : Stint)
    (source' : ρ) : Prop :=
  ∃ its, Steps (phase.Draws probability) source its source' ∧
    stint.iterations = its.length ∧ stint.submissions = its.flatten

/-- What a phase has done may be cut within its last iteration. -/
def Stint.Part (probability : Binary64) (phase : Phase) (source : ρ) (stint : Stint) : Prop :=
  ∃ its source', Steps (phase.Draws probability) source its source' ∧
    its.length ≤ stint.iterations ∧ stint.submissions <+: its.flatten

theorem Stint.Whole.part {probability : Binary64} {phase : Phase} {source source' : ρ}
    {stint : Stint} (h : stint.Whole probability phase source source') :
    stint.Part probability phase source := by
  obtain ⟨its, hdrawn, hiterations, hsubmissions⟩ := h
  exact ⟨its, source', hdrawn, by omega, hsubmissions ▸ List.prefix_refl _⟩

end

/-! ## Within a phase -/

namespace PhaseState

variable {ρ : Type} [RandomSource ρ]

/-- What a phase has done at a position within it, and where the source is by then. -/
def Keeps (probability : Binary64) (phase : Phase) (source : ρ) (stint : Stint) :
    PhaseState ρ → Prop
  | submitting _ next rest progress => ∃ its sent,
    Steps (phase.Draws probability) source (its ++ [sent ++ next :: rest]) progress.source ∧
      stint.iterations = its.length + 1 ∧ stint.submissions = its.flatten ++ sent
  | drawing => ∃ its source', Steps (phase.Draws probability) source its source' ∧
    stint.iterations = its.length + 1 ∧ stint.submissions = its.flatten
  | starting _ progress => stint.Whole probability phase source progress.source
  | timing _ _ progress => stint.Whole probability phase source progress.source
  | checking _ progress => stint.Whole probability phase source progress.source
  | pausing _ progress => stint.Whole probability phase source progress.source
  | finished progress => stint.Whole probability phase source progress.source

namespace Keeps

variable {probability : Binary64} {phase : Phase} {source : ρ} {stint : Stint}
  {progress : Progress ρ} {allowance : Allowance}

theorem part {s : PhaseState ρ} (h : s.Keeps probability phase source stint) :
    stint.Part probability phase source := by
  cases s with
  | submitting allowance next rest progress =>
      obtain ⟨its, sent, hdrawn, hiterations, hsubmissions⟩ := h
      refine ⟨_, _, hdrawn, by simp [hiterations], ?_⟩
      rw [hsubmissions, List.flatten_append, List.flatten_singleton]
      exact (List.prefix_append_right_inj _).mpr (List.prefix_append _ _)
  | drawing =>
      obtain ⟨its, source', hdrawn, hiterations, hsubmissions⟩ := h
      exact ⟨its, source', hdrawn, by omega, hsubmissions ▸ List.prefix_refl _⟩
  | _ => exact Stint.Whole.part h

theorem again (h : stint.Whole probability phase source progress.source) :
    (again progress allowance).Keeps probability phase source stint := by
  cases allowance with
  | span started duration => exact h
  | count left => cases left <;> exact h

/-- Within an iteration of which a part is sent. -/
theorem submit {its : List (List Submission)} (sent rest : List Submission)
    (hdrawn : Steps (phase.Draws probability) source (its ++ [sent ++ rest]) progress.source)
    (hiterations : stint.iterations = its.length + 1)
    (hsubmissions : stint.submissions = its.flatten ++ sent) :
    (submit allowance progress rest).Keeps probability phase source stint := by
  cases rest with
  | nil =>
      rw [List.append_nil] at hdrawn
      exact ⟨_, hdrawn, by simp [hiterations], by simp [hsubmissions]⟩
  | cons next rest => exact ⟨its, sent, hdrawn, hiterations, hsubmissions⟩

/-- After an iteration is drawn, or while it is. -/
theorem iterate {pacing : Pacing} {patience : Nat} (hpacing : pacing.queryProbability = probability)
    (h : stint.Whole probability phase source progress.source) :
    (iterate pacing patience phase allowance progress).Keeps probability phase source
      (stint.enter (.looked true)) := by
  obtain ⟨its, hdrawn, hiterations, hsubmissions⟩ := h
  unfold PhaseState.iterate
  cases hdraw : (phase.iteration pacing patience).run progress.source with
  | none => exact ⟨its, _, hdrawn, by simp [Stint.enter, hiterations], hsubmissions⟩
  | some drawn =>
      obtain ⟨ss, source'⟩ := drawn
      have hnext : phase.Draws probability progress.source ss source' :=
        ⟨pacing, patience, hpacing, hdraw⟩
      refine submit [] ss (hdrawn.trans (.single hnext)) ?_ ?_
      · simp [Stint.enter, hiterations]
      · simp [Stint.enter, hsubmissions]

theorem start : (start source phase).Keeps probability phase source ⟨0, []⟩ := by
  -- The phase has done nothing yet.
  have hnone : (⟨0, []⟩ : Stint).Whole probability phase source source :=
    ⟨[], .refl _, rfl, rfl⟩
  cases phase with
  | slow count => exact again hnone
  | _ => exact hnone

/-- No answer of a step is drawn upon: the source moves only as an iteration begins. -/
theorem step {pacing : Pacing} {patience : Nat} {s t : PhaseState ρ} {e : Effect (PhaseState ρ)}
    {event : Event} (hpacing : pacing.queryProbability = probability)
    (h : s.Keeps probability phase source stint) (heffect : s.effect pacing patience phase = some e)
    (htakes : e.Takes event t) : t.Keeps probability phase source (stint.enter event) := by
  cases s with
  | starting duration progress => cases heffect; cases htakes; exact h
  | timing started duration progress =>
      cases heffect; cases htakes with
      | clock now => dsimp only; split <;> exact h
  | checking allowance progress =>
      cases heffect; cases htakes with
      | isRunning running =>
          cases running with
          | true => exact iterate hpacing h
          | false => exact h
  | submitting allowance next rest progress =>
      cases heffect; cases htakes with
      | submit =>
          -- What is sent grows by one, what has been drawn stays as it is.
          obtain ⟨its, sent, hdrawn, hiterations, hsubmissions⟩ := h
          refine submit (sent ++ [next]) rest ?_ hiterations ?_
          · rw [List.append_assoc]
            exact hdrawn
          · simp [Stint.enter, hsubmissions]
  | pausing allowance progress =>
      cases heffect; cases htakes with
      | pause running =>
          cases running with
          | true => exact again h
          | false => exact h
  | finished progress => cases heffect
  | drawing => cases heffect

end Keeps

/-- Within a phase nothing is announced and no figures are logged. -/
theorem enter_of_takes {pacing : Pacing} {patience : Nat} {phase : Phase} {s t : PhaseState ρ}
    {e : Effect (PhaseState ρ)} {event : Event} (heffect : s.effect pacing patience phase = some e)
    (htakes : e.Takes event t) (b : Logbook) :
    b.enter event = { b with current := b.current.map (·.enter event) } := by
  cases s <;> cases heffect <;> cases htakes <;> rfl

end PhaseState

/-! ## Within a plan -/

section

variable {ρ : Type} [RandomSource ρ]

/-- Phases that are over, one after the other, and where the source is between them. -/
abbrev Stint.Follow (probability : Binary64) : ρ → List (Phase × Stint) → ρ → Prop :=
  Steps fun source l source' => l.2.Whole probability l.1 source source'

namespace LoadDriver

/-- What the phases of a plan have done at a position of the driver, and where the source is by
then. -/
def Keeps (probability : Binary64) (plan : LoadPlan) (source : ρ) (b : Logbook) :
    LoadDriver ρ → Prop
  | choosing _ phase rest source' | announcing _ phase rest source' => ∃ done,
    Stint.Follow probability source done source' ∧ plan = done.map Prod.fst ++ phase :: rest ∧
      b = ⟨done.map Prod.snd, none⟩
  | running _ phase rest state => ∃ done source' stint,
    Stint.Follow probability source done source' ∧ plan = done.map Prod.fst ++ phase :: rest ∧
      b = ⟨done.map Prod.snd, some stint⟩ ∧ state.Keeps probability phase source' stint
  | noting _ rest progress => ∃ done phase source' stint,
    Stint.Follow probability source done source' ∧ plan = done.map Prod.fst ++ phase :: rest ∧
      b = ⟨done.map Prod.snd, some stint⟩ ∧
      stint.Whole probability phase source' progress.source
  | concluding source' | finished _ source' => ∃ done,
    Stint.Follow probability source done source' ∧ done.map Prod.fst <+: plan ∧
      b = ⟨done.map Prod.snd, none⟩

namespace Keeps

variable {probability : Binary64} {plan rest : LoadPlan} {source source' : ρ} {b : Logbook}
  {done : List (Phase × Stint)} {phase : Phase} {number : Nat} {stint : Stint}

theorem proceed (hdone : Stint.Follow probability source done source')
    (hplan : plan = done.map Prod.fst ++ rest) :
    (proceed number source' rest).Keeps probability plan source ⟨done.map Prod.snd, none⟩ := by
  cases rest with
  | nil => exact ⟨done, hdone, hplan ▸ List.prefix_append _ _, rfl⟩
  | cons phase rest => exact ⟨done, hdone, hplan, rfl⟩

theorem phased {state : PhaseState ρ} (hdone : Stint.Follow probability source done source')
    (hplan : plan = done.map Prod.fst ++ phase :: rest)
    (hstate : state.Keeps probability phase source' stint) :
    (phased number phase rest state).Keeps probability plan source
      ⟨done.map Prod.snd, some stint⟩ := by
  cases state with
  | finished progress => exact ⟨done, phase, source', stint, hdone, hplan, rfl, hstate⟩
  | _ => exact ⟨done, source', stint, hdone, hplan, rfl, hstate⟩

/-- Each step enters its event into the logbook. -/
theorem step {pacing : Pacing} {patience : Nat} {s t : LoadDriver ρ} {e : Effect (LoadDriver ρ)}
    {event : Event} (hpacing : pacing.queryProbability = probability)
    (h : s.Keeps probability plan source b) (heffect : s.effect pacing patience = some e)
    (htakes : e.Takes event t) : t.Keeps probability plan source (b.enter event) := by
  cases s with
  | choosing number phase rest source' =>
      obtain ⟨done, hdone, hplan, rfl⟩ := h
      cases heffect; cases htakes with
      | isRunning running =>
          cases running with
          | true => exact ⟨done, hdone, hplan, rfl⟩
          | false => exact ⟨done, hdone, hplan ▸ List.prefix_append _ _, rfl⟩
  | announcing number phase rest source' =>
      obtain ⟨done, hdone, hplan, rfl⟩ := h
      cases heffect; cases htakes
      -- The phase begins where the source was left.
      exact phased hdone hplan .start
  | running number phase rest state =>
      obtain ⟨done, source', stint, hdone, hplan, rfl, hstate⟩ := h
      obtain ⟨inner, next, hinner, hnext, rfl⟩ := Thread.takes_map heffect htakes
      rw [PhaseState.enter_of_takes hinner hnext]
      exact phased hdone hplan (hstate.step hpacing hinner hnext)
  | noting number rest progress =>
      obtain ⟨done, phase, source', stint, hdone, hplan, rfl, hwhole⟩ := h
      cases heffect; cases htakes
      -- The phase is over and joins those that are done.
      have hnext : Stint.Follow probability source (done ++ [(phase, stint)]) progress.source :=
        hdone.trans (.single hwhole)
      have hkeeps : (LoadDriver.proceed (number + 1) progress.source rest).Keeps probability plan
          source ⟨(done ++ [(phase, stint)]).map Prod.snd, none⟩ :=
        proceed hnext (by simp [hplan])
      rwa [List.map_append] at hkeeps
  | concluding source' =>
      obtain ⟨done, hdone, hplan, rfl⟩ := h
      cases heffect; cases htakes
      exact ⟨done, hdone, hplan, rfl⟩
  | finished outcome source' => cases heffect

/-- Nothing is submitted without being entered. -/
theorem submissions_enter {pacing : Pacing} {patience : Nat} {s t : LoadDriver ρ}
    {e : Effect (LoadDriver ρ)} {event : Event} (h : s.Keeps probability plan source b)
    (heffect : s.effect pacing patience = some e) (htakes : e.Takes event t) :
    (b.enter event).submissions = b.submissions ++ event.submission?.toList := by
  cases s with
  | running number phase rest state =>
      obtain ⟨done, source', stint, -, -, rfl, -⟩ := h
      obtain ⟨inner, next, hinner, hnext, -⟩ := Thread.takes_map heffect htakes
      rw [PhaseState.enter_of_takes hinner hnext]
      simp [Logbook.submissions, Logbook.stints, Stint.submissions_enter]
  | choosing | announcing | concluding =>
      obtain ⟨done, -, -, rfl⟩ := h
      cases heffect; cases htakes
      simp [Logbook.enter, Logbook.submissions, Logbook.stints, Event.submission?]
  | noting number rest progress =>
      obtain ⟨done, phase, source', stint, -, -, rfl, -⟩ := h
      cases heffect; cases htakes
      simp [Logbook.enter, Logbook.submissions, Logbook.stints, Event.submission?]
  | finished outcome source' => cases heffect

end Keeps
end LoadDriver
end
end LoadMonitor
