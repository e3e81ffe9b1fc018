import LoadMonitor.Load.Phase

/-!
# The load driver

The phases of a plan one after the other. The flag of the run is looked at before every
phase and once more at the end, where it decides the outcome.
-/

namespace LoadMonitor

/-- How the load ended. -/
inductive LoadOutcome where
  | completed
  | interrupted
  deriving DecidableEq, Repr

/-- The outcome as it is logged. -/
def LoadOutcome.label : LoadOutcome → String
  | completed => "Completed"
  | interrupted => "Interrupted"

/-- Where the load driver stands. -/
inductive LoadDriver (ρ : Type) where
  /-- About to look at the flag before a phase. -/
  | choosing (number : Nat) (phase : Phase) (rest : LoadPlan) (source : ρ)
  /-- About to print what the phase is. -/
  | announcing (number : Nat) (phase : Phase) (rest : LoadPlan) (source : ρ)
  | running (number : Nat) (phase : Phase) (rest : LoadPlan) (state : PhaseState ρ)
  /-- About to log what the phase has submitted. -/
  | noting (number : Nat) (rest : LoadPlan) (progress : Progress ρ)
  /-- About to look at the flag for the last time. -/
  | concluding (source : ρ)
  | finished (outcome : LoadOutcome) (source : ρ)

namespace LoadDriver

variable {ρ : Type} [RandomSource ρ]

/-- Go on with the phases that are left, the next of which has the given number. -/
def proceed (number : Nat) (source : ρ) : LoadPlan → LoadDriver ρ
  | [] => concluding source
  | phase :: rest => choosing number phase rest source

/-- The beginning of a plan. -/
def start (plan : LoadPlan) (source : ρ) : LoadDriver ρ := proceed 1 source plan

/-- Go on with a phase, or with what follows it. -/
def phased (number : Nat) (phase : Phase) (rest : LoadPlan) : PhaseState ρ → LoadDriver ρ
  | .finished progress => noting number rest progress
  | state => running number phase rest state

/-- What is printed before a phase. -/
def announcement (number : Nat) (phase : Phase) : String :=
  "\nPhase " ++ toString number ++ ": " ++ phase.text ++ "\n"

def phaseFinished (number : Nat) (stats : PhaseStats) : Diagnostic :=
  .debug ("Phase " ++ toString number ++ " finished: " ++ stats.text)

/-- The thread that runs a plan. -/
def effect (pacing : Pacing) (patience : Nat) : Thread (LoadDriver ρ)
  | choosing number phase rest source => some <| .isRunning fun running =>
    if running then announcing number phase rest source else concluding source
  | announcing number phase rest source => some <| .print (announcement number phase) <|
    phased number phase rest (.start source phase)
  | running number phase rest state =>
    (state.effect pacing patience phase).map (·.map (phased number phase rest))
  | noting number rest progress => some <| .log (phaseFinished number progress.stats) <|
    proceed (number + 1) progress.source rest
  | concluding source => some <| .isRunning fun running =>
    finished (if running then .completed else .interrupted) source
  | finished _ _ => none

/-- The outcome once the plan is over. -/
def outcome? : LoadDriver ρ → Option LoadOutcome
  | finished outcome _ => some outcome
  | _ => none

end LoadDriver
end LoadMonitor
