import LoadMonitor.Run.State

/-!
# Executions

Work that is given up when the run is stopped. Before anything else the listener is asked;
then work and listener race, round by round. In each round both of them are looked at, either
of them first, until one is ready. A round is no single step: what others do may fall between
its two looks.
-/

namespace LoadMonitor

/-- What is looked at in a race: the work, which is polled, or the listener, which is asked. -/
inductive Branch where
  | work
  | listener
  deriving DecidableEq, Repr

def Branch.other : Branch → Branch
  | work => listener
  | listener => work

/-- Where an execution stands. The work has been polled `polls` times. -/
inductive Execution (α : Type) where
  | starting
  /-- Between two rounds. -/
  | racing (polls : Nat)
  /-- Within a round: one branch was not ready, and the other one is left. -/
  | halfway (left : Branch) (polls : Nat)
  /-- Back at the caller, with what the work has come to, or without it if the run was
  stopped. -/
  | finished (polls : Nat) (result : Option α)
  deriving DecidableEq, Repr

namespace Execution

variable {α : Type}

/-! ## One look -/

/-- How often the work has been polled. -/
def polls : Execution α → Nat
  | starting => 0
  | racing polls => polls
  | halfway _ polls => polls
  | finished polls _ => polls

/-- The branch may be looked at next. -/
def awaits : Execution α → Branch → Bool
  | starting, branch => branch = .listener
  | racing _, _ => true
  | halfway left _, branch => branch = left
  | finished _ _, _ => false

/-- Where an execution stands when the branch that it has looked at was not ready. -/
def pass : Branch → Execution α → Execution α
  | .work, racing polls => halfway .listener (polls + 1)
  | .work, halfway _ polls => racing (polls + 1)
  | .listener, starting => racing 0
  | .listener, racing polls => halfway .work polls
  | .listener, halfway _ polls => racing polls
  | _, e => e

/-- Look at a branch. `work` tells for every poll whether the work is done by then; the stop
has been announced by now or has not. -/
def look (work : Nat → Option α) (announced : Bool) (branch : Branch) (e : Execution α) :
    Execution α :=
  if e.awaits branch then
    match branch with
    | .work =>
      match work e.polls with
      | some a => finished (e.polls + 1) (some a)
      | none => e.pass .work
    | .listener => if announced then finished e.polls none else e.pass .listener
  else e

/-- What an execution has come to: nothing yet, the stop, or the result of the work. -/
def outcome? : Execution α → Option (Option α)
  | finished _ result => some result
  | _ => none

/-- Work that is done when it is polled for the first time. -/
def immediate (a : α) : Nat → Option α := fun _ => some a

/-- Work that is never done. -/
def endless : Nat → Option α := fun _ => none

end Execution

/-! ## Whole rounds -/

/-- One round of a race. -/
structure RaceRound where
  /-- Whether the stop has been announced when the listener is asked. -/
  announced : Bool
  /-- Whether the work is polled before the listener is asked. -/
  workFirst : Bool
  deriving DecidableEq, Repr

/-- The branch that is looked at first. -/
def RaceRound.first (round : RaceRound) : Branch := if round.workFirst then .work else .listener

namespace Execution

variable {α : Type}

/-- One round, or what is left of it. The first round only asks the listener. -/
def advance (work : Nat → Option α) (round : RaceRound) (e : Execution α) : Execution α :=
  match e with
  | starting => e.look work round.announced .listener
  | racing _ =>
    (e.look work round.announced round.first).look work round.announced round.first.other
  | halfway left _ => e.look work round.announced left
  | finished _ _ => e

/-- Rounds one after the other. -/
def play (work : Nat → Option α) (rounds : List RaceRound) (e : Execution α) : Execution α :=
  rounds.foldl (fun e round => e.advance work round) e

/-- Work that takes a moment in a run that is stopped before, meanwhile, or not at all: the
listener is asked, the work is polled, and the listener is asked again. -/
def race (run : RunState) (interrupted : Bool) (work : Nat → Option α) : Execution α :=
  starting.play work [⟨run.announced, true⟩, ⟨run.announced || interrupted, true⟩]

/-- Carry out work that takes a moment: it ends with its result, unless the run is stopped
before or meanwhile. -/
def perform (run : RunState) (interrupted : Bool) (a : α) : Option α :=
  (race run interrupted (if interrupted then endless else immediate a)).outcome?.join

end Execution
end LoadMonitor
