import LoadMonitor.Client.Basic
import LoadMonitor.Run.Execution

/-!
# Sessions

A client in use: every call blocks until it is over or the run is stopped. Reads hand their
failures on, writes swallow them, and every call that was not cut short is on record.
-/

namespace LoadMonitor

/-- A client with everything it has sent and recorded. -/
structure Session where
  client : Client
  requests : List HttpRequest
  report : List OperationRecord

/-- What a call meets with: the outcome of its request, how long it takes, and whether the run
is stopped before it is over. -/
structure Encounter where
  outcome : HttpOutcome
  elapsed : Duration
  interrupted : Bool

/-- The outcome of the request, as far as it is there at each poll. -/
def Encounter.arrival (e : Encounter) : Nat → Option HttpOutcome :=
  fun _ => if e.interrupted then none else some e.outcome

/-- What a call has come to without regard to its meaning: its request with the outcome, or why
there was no request. -/
abbrev Exchange := Except CallError (HttpRequest × HttpOutcome)

/-- A call as work: it is done with the outcome of its request, or at once if there is none. -/
def Client.exchange (c : Client) (call : ServiceCall) (arrival : Nat → Option HttpOutcome) :
    Nat → Option Exchange :=
  match c.request call with
  | .ok r => fun polls => (arrival polls).map fun outcome => .ok (r, outcome)
  | .error e => Execution.immediate (.error e)

/-- Why a call through a session failed. -/
inductive SessionError where
  | stopped
  | failed (error : CallError)
  deriving DecidableEq, Repr

namespace SessionError

/-- The failure as a reader of the service sees it. -/
def failure : SessionError → Failure
  | stopped => .stopped
  | failed e => e.failure

end SessionError

namespace Session

def start (client : Client) : Session := ⟨client, [], []⟩

/-- Note what was sent. -/
def sent (s : Session) (request : Except CallError HttpRequest) : Session :=
  match request with
  | .ok r => { s with requests := s.requests ++ [r] }
  | .error _ => s

/-- Begin a call whose work is polled so many times: its request is sent with the first poll. -/
def asked (s : Session) (call : ServiceCall) (polls : Nat) : Session :=
  if polls = 0 then s else s.sent (s.client.request call)

/-- Put a call that is over on record. -/
def recorded (s : Session) (call : ServiceCall) (failed : Bool) (elapsed : Duration) : Session :=
  { s with report := s.report ++ [(OperationRecord.begun call.operation).finish failed elapsed] }

/-- End a call with what it has come to. Nothing is recorded if the run was stopped first. -/
def concluded {α : Type} (s : Session) (call : ServiceCall)
    (read : HttpRequest → HttpOutcome → Except CallError α) (elapsed : Duration) :
    Option Exchange → Except SessionError α × Session
  | none => (.error .stopped, s)
  | some exchange =>
    match exchange.bind fun (r, outcome) => read r outcome with
    | .ok a => (.ok a, s.recorded call false elapsed)
    | .error error => (.error (.failed error), s.recorded call true elapsed)

/-- The execution of a call. -/
def executed (s : Session) (run : RunState) (call : ServiceCall) (e : Encounter) :
    Execution Exchange :=
  .race run e.interrupted (s.client.exchange call e.arrival)

/-- Carry out a call from its beginning to its end. -/
def conduct {α : Type} (s : Session) (run : RunState) (call : ServiceCall)
    (read : HttpRequest → HttpOutcome → Except CallError α) (e : Encounter) :
    Except SessionError α × Session :=
  let x := s.executed run call e
  (s.asked call x.polls).concluded call read e.elapsed x.outcome?.join

/-! ## Reads -/

def health (s : Session) (run : RunState) (e : Encounter) :
    Except SessionError HealthSnapshot × Session :=
  s.conduct run .health (Client.decoded healthFormat.ofBytes) e

def metrics (s : Session) (run : RunState) (e : Encounter) :
    Except SessionError (List MetricSnapshot) × Session :=
  s.conduct run .metrics (Client.decoded metricsFormat.ofBytes) e

def alerts (s : Session) (run : RunState) (e : Encounter) :
    Except SessionError (List AlertSnapshot) × Session :=
  s.conduct run .alerts (Client.decoded alertsFormat.ofBytes) e

/-! ## Writes -/

/-- A write that reports its failure. -/
def write (s : Session) (run : RunState) (call : ServiceCall) (e : Encounter) :
    Except SessionError Unit × Session :=
  s.conduct run call Client.acknowledged e

/-- Logged when a write has failed. -/
def writeIgnored (call : ServiceCall) (error : SessionError) : Diagnostic :=
  let kind := match call with
    | .postQuery _ => "query"
    | _ => "log"
  .debug ("Ignoring failed " ++ kind ++ " submission: " ++ error.failure.text)

/-- Log the failure of a write instead of handing it on. -/
def swallowed (call : ServiceCall) :
    Except SessionError Unit × Session → List Diagnostic × Session
  | (.ok _, s) => ([], s)
  | (.error error, s) => ([writeIgnored call error], s)

/-- A write whose failure is only logged. -/
def submit (s : Session) (run : RunState) (call : ServiceCall) (e : Encounter) :
    List Diagnostic × Session :=
  swallowed call (s.write run call e)

/-! ## The liveness check -/

/-- What the liveness check itself comes to, and what it logs. A request that cannot be made
because of its scheme counts as one without an answer; one without an address does not even
leave a record. -/
def checked (s : Session) (elapsed : Duration) :
    Exchange → Except PrecheckError Unit × List Diagnostic × Session
  | .ok (r, outcome) =>
    let result := Client.liveness r outcome
    let log := match outcome with
      | .error fault => [Client.livenessFailed r.url.text (CallError.sendingText r fault)]
      | .ok _ => []
    (result, log,
      s.recorded .checkLive (match result with | .ok _ => false | .error _ => true) elapsed)
  | .error (.schemeNotAllowed r) =>
    (.error (.unreachable r.url.text (CallError.builderText r)),
      [Client.livenessFailed r.url.text (CallError.builderText r)],
      s.recorded .checkLive true elapsed)
  | .error error =>
    (.error (.unreachable s.client.base.text (error.chain.headD "")), [], s)

/-- End a liveness check with what it has come to. -/
def checkConcluded (s : Session) (elapsed : Duration) :
    Option Exchange → Except PrecheckError Unit × List Diagnostic × Session
  | none => (.error .cancelled, [], s)
  | some exchange => s.checked elapsed exchange

/-- Check that the service is alive, unless the run is stopped first. -/
def checkLive (s : Session) (run : RunState) (e : Encounter) :
    Except PrecheckError Unit × List Diagnostic × Session :=
  let x := s.executed run .checkLive e
  (s.asked .checkLive x.polls).checkConcluded e.elapsed x.outcome?.join

end Session

end LoadMonitor
