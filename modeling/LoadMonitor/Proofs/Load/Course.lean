import LoadMonitor.Load.Driver
import LoadMonitor.Proofs.Load.Segment
import Mathlib.Data.List.Forall2

/-!
# The course of a plan

The load driver goes through the phases one by one. As long as the flag is found set, a
phase is told in full before the next one is announced; once it is found cleared, nothing but
looks at the flag can follow.
-/

namespace LoadMonitor

/-! ## Chapters -/

/-- The events of a phase within a plan: it is let in and announced, and its figures are
logged after its segment. -/
def Phase.chapter (number : Nat) (phase : Phase) (segment : List Event) (line : Diagnostic) :
    List Event :=
  .looked true :: .printed (LoadDriver.announcement number phase) :: segment ++ [.logged line]

namespace LoadPlan

variable {pacing : Pacing} {plan begun : LoadPlan} {events : List Event}
  {played : List (List (List Submission))}

/-- What is printed for the phases of a plan. -/
def announcements (plan : LoadPlan) : List String :=
  plan.mapIdx fun i phase => LoadDriver.announcement (i + 1) phase

/-- All events of phases that are done, and the iterations of each. -/
inductive Done (pacing : Pacing) :
    LoadPlan → List Event → List (List (List Submission)) → Prop where
  | nil : Done pacing [] [] []
  | snoc {plan : LoadPlan} {phase : Phase} {events segment : List Event}
      {played : List (List (List Submission))} {iterations : List (List Submission)}
      (line : Diagnostic) :
      Done pacing plan events played → Phase.Full pacing phase segment iterations →
      Done pacing (plan ++ [phase])
        (events ++ phase.chapter (plan.length + 1) segment line) (played ++ [iterations])

/-- All events of phases of which the last may be cut, with the looks that find the flag
cleared. -/
inductive Broken (pacing : Pacing) :
    LoadPlan → List Event → List (List (List Submission)) → Prop where
  | between {begun : LoadPlan} {events : List Event} {played : List (List (List Submission))} :
      Done pacing begun events played → Broken pacing begun (events ++ [.looked false]) played
  | within {done : LoadPlan} {phase : Phase} {events segment : List Event}
      {played : List (List (List Submission))} {iterations : List (List Submission)}
      (line : Diagnostic) :
      Done pacing done events played → Phase.Cut pacing phase segment iterations →
      Broken pacing (done ++ [phase])
        (events ++ phase.chapter (done.length + 1) segment line) (played ++ [iterations])
  | noticed {begun : LoadPlan} {events : List Event} {played : List (List (List Submission))} :
      Broken pacing begun events played → Broken pacing begun (events ++ [.looked false]) played

/-! ## What is seen of a course -/

theorem announcements_snoc (plan : LoadPlan) (phase : Phase) :
    announcements (plan ++ [phase]) =
      plan.announcements ++ [LoadDriver.announcement (plan.length + 1) phase] := by
  simp [announcements, List.mapIdx_append]

theorem submissions_chapter (number : Nat) (phase : Phase) (segment : List Event)
    (line : Diagnostic) :
    Event.submissions (phase.chapter number segment line) = Event.submissions segment := by
  show Event.submissions (segment ++ [.logged line]) = Event.submissions segment
  rw [Event.submissions_append]
  exact List.append_nil _

theorem printings_chapter (number : Nat) (phase : Phase) (segment : List Event)
    (line : Diagnostic) :
    Event.printings (phase.chapter number segment line) =
      LoadDriver.announcement number phase :: Event.printings segment := by
  show _ :: Event.printings (segment ++ [.logged line]) = _
  rw [Event.printings_append]
  exact congrArg _ (List.append_nil _)

namespace Done

theorem submissions (h : Done pacing plan events played) :
    Event.submissions events = played.flatten.flatten := by
  induction h with
  | nil => rfl
  | snoc line _ hfull ih =>
      simp only [Event.submissions_append, submissions_chapter, ih, hfull.submissions,
        List.flatten_append, List.flatten_singleton]

theorem printings (h : Done pacing plan events played) :
    Event.printings events = plan.announcements := by
  induction h with
  | nil => rfl
  | snoc line _ hfull ih =>
      rw [Event.printings_append, printings_chapter, ih, hfull.printings, announcements_snoc]

/-- One full segment for each phase. -/
theorem segments (h : Done pacing plan events played) :
    List.Forall₂ Phase.IsSegment plan played := by
  induction h with
  | nil => exact .nil
  | snoc line _ hfull ih => exact List.rel_append ih (.cons hfull.isSegment .nil)

/-- Phases that are done can be followed by any others. -/
theorem extend (h : Done pacing begun events played) (rest : LoadPlan) :
    ∃ told more, Done pacing (begun ++ rest) told (played ++ more) := by
  induction rest generalizing begun events played with
  | nil => exact ⟨events, [], by rwa [List.append_nil, List.append_nil]⟩
  | cons phase rest ih =>
      obtain ⟨segment, iterations, hfull⟩ := phase.exists_full pacing
      obtain ⟨told, more, hdone⟩ := ih (h.snoc RunState.cleared hfull)
      refine ⟨told, iterations :: more, ?_⟩
      rwa [List.append_assoc, List.append_assoc] at hdone

end Done

namespace Broken

theorem submissions (h : Broken pacing begun events played) :
    Event.submissions events = played.flatten.flatten := by
  induction h with
  | between hdone => rw [Event.submissions_looked, hdone.submissions]
  | within line hdone hcut =>
      simp only [Event.submissions_append, submissions_chapter, hdone.submissions,
        hcut.submissions, List.flatten_append, List.flatten_singleton]
  | noticed _ ih => rw [Event.submissions_looked, ih]

theorem printings (h : Broken pacing begun events played) :
    Event.printings events = begun.announcements := by
  induction h with
  | between hdone => rw [Event.printings_looked, hdone.printings]
  | within line hdone hcut =>
      rw [Event.printings_append, printings_chapter, hdone.printings, hcut.printings,
        announcements_snoc]
  | noticed _ ih => rw [Event.printings_looked, ih]

/-- Every phase that is begun has its iterations, all of them whole. -/
theorem iterations (h : Broken pacing begun events played) :
    List.Forall₂ (fun phase its => ∀ ss ∈ its, Phase.IsIteration phase ss) begun played := by
  induction h with
  | between hdone => exact hdone.segments.imp fun _ _ hseg => hseg.1
  | within line hdone hcut =>
      exact List.rel_append (hdone.segments.imp fun _ _ hseg => hseg.1)
        (.cons hcut.isIteration .nil)
  | noticed _ ih => exact ih

/-- What is broken off could have gone on to the end of any plan that begins this way. -/
theorem complete (h : Broken pacing begun events played) (hbegun : begun <+: plan) :
    ∃ told whole, Done pacing plan told whole ∧ played.flatten <+: whole.flatten := by
  obtain ⟨rest, rfl⟩ := hbegun
  induction h with
  | between hdone =>
      obtain ⟨told, more, hwhole⟩ := hdone.extend rest
      exact ⟨told, _, hwhole, by rw [List.flatten_append]; exact List.prefix_append _ _⟩
  | @within done phase events segment played iterations line hdone hcut =>
      obtain ⟨segment, more, hfull⟩ := hcut.complete
      obtain ⟨told, others, hwhole⟩ := (hdone.snoc line hfull).extend rest
      refine ⟨told, _, hwhole, ?_⟩
      simp only [List.flatten_append, List.flatten_singleton, List.append_assoc]
      exact ⟨more ++ others.flatten, by simp only [List.append_assoc]⟩
  | noticed _ ih => exact ih

end Broken

end LoadPlan
end LoadMonitor
