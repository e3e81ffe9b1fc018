import LoadMonitor.Client.Session
import LoadMonitor.Service.Interface

/-!
# Sessions as services

A session over a network that is a function: what every request meets with, after the requests
that were sent before it.
-/

namespace LoadMonitor

/-- What a request meets with, given the requests that were sent before it. -/
abbrev Network := List HttpRequest → HttpRequest → Encounter

/-- A session over a network, and the time that is written into log records. -/
structure NetworkedService where
  session : Session
  network : Network
  timestamp : String

namespace NetworkedService

/-- What a call meets with. Without a request nothing takes any time. -/
def encounter (n : NetworkedService) (call : ServiceCall) : Encounter :=
  match n.session.client.request call with
  | .ok r => n.network n.session.requests r
  | .error _ => ⟨.error .closed, .zero, false⟩

/-- The call that a submission makes. -/
def callOf (n : NetworkedService) : Submission → ServiceCall
  | .logs endpoint batch => .postLogs endpoint (batch.map (·.dated n.timestamp))
  | .query sql => .postQuery sql

/-- The answer to a read, with its failure as a reader sees it. -/
def served {α : Type} (n : NetworkedService) (e : Encounter)
    (answer : Except SessionError α × Session) : Served NetworkedService (Except Failure α) :=
  ⟨answer.1.mapError SessionError.failure, { n with session := answer.2 }, [], e.interrupted⟩

instance : Service NetworkedService where
  checkLive run n :=
    let e := n.encounter .checkLive
    let (answer, log, session) := n.session.checkLive run e
    ⟨answer, { n with session }, log, e.interrupted⟩
  health run n :=
    let e := n.encounter .health
    n.served e (n.session.health run e)
  metrics run n :=
    let e := n.encounter .metrics
    n.served e (n.session.metrics run e)
  alerts run n :=
    let e := n.encounter .alerts
    n.served e (n.session.alerts run e)
  submit submission run n :=
    let call := n.callOf submission
    let e := n.encounter call
    let (log, session) := n.session.submit run call e
    ⟨(), { n with session }, log, e.interrupted⟩
  unanswered run n :=
    { n with session := n.session.asked .health (if run.announced then 0 else 1) }

end NetworkedService
end LoadMonitor
