import LoadMonitor.Client.Error
import LoadMonitor.Demo.Config
import LoadMonitor.Log.Record
import LoadMonitor.Report.Summary
import LoadMonitor.Service.Responses

/-!
# The client

The calls of the service, each as the request that it makes and as what it makes of the
answer. A call that comes to an end leaves a record, whether it failed or not; only a liveness
check for which no address can be formed leaves none.
-/

namespace LoadMonitor

/-! ## Calls -/

/-- The calls of the service. -/
inductive ServiceCall where
  | checkLive
  | health
  | metrics
  | alerts
  | postLogs (endpoint : IngestRoute) (records : List LogRecord)
  | postQuery (sql : String)
  deriving Repr

namespace ServiceCall

/-- The name under which a call is recorded. -/
def operation : ServiceCall → String
  | checkLive => "check_live"
  | health => "get_health"
  | metrics => "get_metrics"
  | alerts => "get_active_alerts"
  | postLogs .ingest _ => "post_logs"
  | postLogs .bulk _ => "post_logs_bulk"
  | postQuery _ => "post_query"

/-- The path below the base address. -/
def path : ServiceCall → String
  | checkLive => "monitoring/health/live"
  | health => "monitoring/health"
  | metrics => "monitoring/metrics"
  | alerts => "monitoring/alerts/active"
  | postLogs endpoint _ => endpoint.path
  | postQuery _ => "query/execute"

def method : ServiceCall → HttpMethod
  | postLogs _ _ => .post
  | postQuery _ => .post
  | _ => .get

/-- The JSON text that is sent. -/
def body : ServiceCall → Option String
  | postLogs _ records => some (JsonValue.array (records.map LogRecord.toJson)).text
  | postQuery sql => some (JsonValue.object [("sql", .string sql)]).text
  | _ => none

end ServiceCall

/-! ## Clients -/

/-- Why there is no client: the given address, and what is wrong with it. -/
structure InvalidBase where
  given : String
  cause : UrlError
  deriving DecidableEq, Repr

namespace InvalidBase

def headline (e : InvalidBase) : String := "Invalid API URL: " ++ e.given

def chain (e : InvalidBase) : List String := [e.headline, e.cause.message]

/-- What the user is told before the program gives up. -/
def report (e : InvalidBase) : String :=
  "Error: " ++ e.headline ++ "\n\nCaused by:\n    " ++ e.cause.message ++ "\n"

end InvalidBase

/-- A client for the service at a base address, whose path ends with a slash. -/
structure Client where
  base : Url
  deriving DecidableEq, Repr

namespace Client

/-- The client for a base address. -/
def ofBase (text : String) : Except InvalidBase Client :=
  match Url.parse text with
  | .ok url => .ok ⟨url.withTrailingSlash⟩
  | .error cause => .error ⟨text, cause⟩

/-- The address of an endpoint. -/
def endpoint (c : Client) (path : String) : Except CallError Url :=
  match c.base.join path with
  | .ok url => .ok url
  | .error cause => .error (.invalidEndpoint path cause)

/-- The schemes that can be spoken. -/
def speaks (url : Url) : Bool := ["http", "https"].contains (String.ofList url.scheme)

/-- The request that a call makes. -/
def request (c : Client) (call : ServiceCall) : Except CallError HttpRequest := do
  let url ← c.endpoint call.path
  let request : HttpRequest := ⟨call.method, url, call.body⟩
  if speaks url then return request else throw (.schemeNotAllowed request)

/-- The answer to a request, if it came and its status is no error. -/
def accepted (r : HttpRequest) (outcome : HttpOutcome) : Except CallError HttpResponse :=
  match outcome with
  | .error fault => .error (.notAnswered r fault)
  | .ok response =>
    if isErrorStatus response.status then .error (.status r response.status) else .ok response

/-- What a call that reads makes of the answer. -/
def decoded {α : Type} (decode : Json.Bytes → Json.Reading α) (r : HttpRequest)
    (outcome : HttpOutcome) : Except CallError α := do
  let response ← accepted r outcome
  match response.broken with
  | some fault => throw (.cutShort r fault)
  | none =>
    match decode response.body with
    | .ok a => return a
    | .error cause => throw (.undecodable r cause)

/-- An answer is taken apart in this order: its status, its end, its contents. -/
theorem decoded_ok {α : Type} (decode : Json.Bytes → Json.Reading α) (r : HttpRequest)
    (response : HttpResponse) :
    decoded decode r (.ok response) =
      if isErrorStatus response.status then .error (.status r response.status)
      else match response.broken, decode response.body with
        | some fault, _ => .error (.cutShort r fault)
        | none, .ok a => .ok a
        | none, .error cause => .error (.undecodable r cause) := by
  simp only [decoded, accepted]
  cases isErrorStatus response.status with
  | true => rfl
  | false =>
      cases hbroken : response.broken <;> cases hbody : decode response.body <;>
        simp [bind, Except.bind, hbroken, hbody, pure, Except.pure, throw, throwThe,
          MonadExceptOf.throw]

/-- What a call that writes makes of the answer: its body does not matter. -/
def acknowledged (r : HttpRequest) (outcome : HttpOutcome) : Except CallError Unit := do
  let _ ← accepted r outcome
  return ()

/-- What the liveness check makes of the answer: only one status will do. -/
def liveness (r : HttpRequest) (outcome : HttpOutcome) : Except PrecheckError Unit :=
  match outcome with
  | .error fault => .error (.unreachable r.url.text (CallError.sendingText r fault))
  | .ok response => if response.status = 200 then .ok () else .error (.unhealthy response.status)

/-- Logged when the liveness check gets no answer. -/
def livenessFailed (url reason : String) : Diagnostic :=
  .debug ("Liveness check against " ++ url ++ " failed: " ++ reason)

end Client
end LoadMonitor
