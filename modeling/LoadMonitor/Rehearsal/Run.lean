import LoadMonitor.Client.Networked
import LoadMonitor.Demo.MainThread
import LoadMonitor.Rehearsal.Stage
import LoadMonitor.Report.Printing

/-!
# Rehearsed runs

A whole run, from its settings to its summary, over a network that is a function.
-/

namespace LoadMonitor

/-- What a rehearsed run leaves behind. Without a result the demo did not come to its end
within the steps that it was given. -/
structure RehearsedRun where
  result? : Option (Except WriteError DemoOutcome)
  world : Rehearsal NetworkedService

namespace RehearsedRun

variable {ρ : Type} [RandomSource ρ]

/-- Show the summary, if the demo asks for one. -/
def summarized (config : DemoConfig) (r : RehearsedRun) : RehearsedRun :=
  match r.result? with
  | some (.ok outcome) =>
    if config.sumsUp outcome then
      let (text, log) := Summary.shown r.world.service.session.report
      let (_, world) := r.world.write text
      { r with world := { world with log := world.log ++ log } }
    else r
  | _ => r

/-- Rehearse a run. Only an address that cannot be read keeps it from beginning. -/
def ofConfig (config : DemoConfig) (source : ρ) (network : Network)
    (timestamp : String) (frames patience steps : Nat) : Except InvalidBase RehearsedRun := do
  let client ← Client.ofBase config.client.baseUrl
  let world := Rehearsal.fresh ⟨.start client, network, timestamp⟩ .unlimited
  let world := { world with log := world.log.push config.opening }
  let stage := (Stage.start world source frames).play config patience steps
  return summarized config ⟨stage.main.result?, stage.world⟩

end RehearsedRun
end LoadMonitor
