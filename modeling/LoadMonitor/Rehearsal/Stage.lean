import LoadMonitor.Dashboard.Loop
import LoadMonitor.Demo.MainThread
import LoadMonitor.Rehearsal.World

/-!
# Two threads on a stage

A rehearsal of a whole demo with a fixed order of its two threads. The dashboard draws a
given number of frames, wipes the screen once more, and asks for the health of the service;
this question is answered only by the stop of the run. The main thread goes first, but it
waits with its submissions until that question has been asked or the run is stopped.
-/

namespace LoadMonitor

/-- The two threads and the world they share. -/
structure Stage (ω ρ : Type) where
  world : Rehearsal ω
  main : Demo ρ
  /-- The dashboard, once it has been launched. -/
  dashboard : Option Dashboard
  /-- The number of questions for the health of the service. -/
  questions : Nat
  /-- The number of frames before the question that is held back. -/
  frames : Nat

namespace Stage

variable {ω ρ : Type} [Service ω] [RandomSource ρ]

/-- Both threads at their beginnings. -/
def start (world : Rehearsal ω) (source : ρ) (frames : Nat) : Stage ω ρ :=
  ⟨world, .start source, none, 0, frames⟩

/-- Whether the question that is held back has been asked. -/
def isHeld (s : Stage ω ρ) : Bool := s.frames < s.questions

/-- Ask the question that is held back. -/
def ask (s : Stage ω ρ) : Stage ω ρ :=
  let service := Service.unanswered s.world.run s.world.service
  { s with questions := s.questions + 1, world := { s.world with service } }

/-- A step of the dashboard, if it can take one. -/
def dashboardStep (refresh : Duration) (s : Stage ω ρ) (d : Dashboard) : Option (Stage ω ρ) :=
  match d.effect refresh with
  | none => none
  | some (.health next) =>
    if s.isHeld then
      if s.world.run.running then none
      else some { s with dashboard := some (next (.error .stopped)) }
    else if s.questions = s.frames then some s.ask
    else
      let (d, world) := s.world.perform (.health next)
      some { s with world, dashboard := some d, questions := s.questions + 1 }
  | some e =>
    let (d, world) := s.world.perform e
    some { s with world, dashboard := some d }

/-- A step of the main thread, if it can take one without the dashboard. -/
def mainStep (config : DemoConfig) (patience : Nat) (s : Stage ω ρ) : Option (Stage ω ρ) :=
  match s.main.effect config patience with
  | none => none
  | some (.launch next) => some { s with main := next, dashboard := some .start }
  | some (.join next) =>
    match s.dashboard.bind Dashboard.frames? with
    | some frames => some { s with main := next frames }
    | none => none
  | some (.submit submission next) =>
    if s.isHeld || !s.world.run.running then
      let (main, world) := s.world.perform (.submit submission next)
      some { s with world, main }
    else none
  | some e =>
    let (main, world) := s.world.perform e
    some { s with world, main }

/-- The next step of the demo: the main thread's if it can take one, else the dashboard's. -/
def step (config : DemoConfig) (patience : Nat) (s : Stage ω ρ) : Option (Stage ω ρ) :=
  match s.mainStep config patience with
  | some s => some s
  | none => s.dashboard.bind (s.dashboardStep config.refresh)

/-- Play the demo until the main thread has returned, for at most the given number of steps. -/
def play (config : DemoConfig) (patience : Nat) : Nat → Stage ω ρ → Stage ω ρ
  | 0, s => s
  | steps + 1, s =>
    if s.main.result?.isSome then s
    else match s.step config patience with
      | some s => play config patience steps s
      | none => s

end Stage
end LoadMonitor
