import LoadMonitor.Client.Session
import LoadMonitor.Http.Wire
import Std.Async.DNS
import Std.Async.TCP

/-!
# The network

Requests that are really sent. A request is under way until it is answered, until its time is
up, or until the run is stopped: it is the work of an execution that is carried on look by look.
-/

namespace LoadMonitor.Live

open Std.Async (Async)

/-- What the operating system says of an error with the given number. -/
def systemMessage? (number : Nat) : Option String :=
  ([(101, "Network is unreachable"), (104, "Connection reset by peer"),
    (110, "Connection timed out"), (111, "Connection refused"),
    (113, "No route to host")] : List (Nat × String)).lookup number

/-- Why no connection came about. -/
def connectFault (e : IO.Error) : TransportFault :=
  let described (code : UInt32) (details : String) : String :=
    let number := (0 - code).toNat
    match systemMessage? number with
    | some message => message ++ " (os error " ++ toString number ++ ")"
    | none => details
  .noConnection <| match e with
    | .noSuchThing _ code details => described code details
    | .otherError code details => described code details
    | .resourceVanished code details => described code details
    | .resourceExhausted _ code details => described code details
    | .timeExpired code details => described code details
    | other => toString other

/-- The port that a request goes to. -/
def portOf (url : Url) : UInt16 :=
  let port := (url.authority.bind (·.port)) <|> Url.defaultPort url.scheme
  UInt16.ofNat (port.getD 80)

/-- The name or number of the host that a request goes to. -/
def hostOf (url : Url) : String :=
  match url.authority with
  | none => ""
  | some a =>
    match a.host with
    | .ipv6 groups => String.ofList (Url.Ipv6.text groups)
    | other => String.ofList other.text

def socketAddress (address : Std.Net.IPAddr) (port : UInt16) : Std.Net.SocketAddress :=
  match address with
  | .v4 addr => .v4 ⟨addr, port⟩
  | .v6 addr => .v6 ⟨addr, port⟩

/-- Keep what goes wrong as a value. -/
def attempt {α : Type} (act : Async α) : Async (Except IO.Error α) := do
  try
    return .ok (← act)
  catch e => return .error e

/-- Connect to the first address that accepts. -/
def connect (port : UInt16) :
    List Std.Net.IPAddr → Async (Except IO.Error Std.Async.TCP.Socket.Client)
  | [] => return .error (IO.userError "no address found")
  | address :: rest => do
    let opened ← attempt do
      let socket ← Std.Async.TCP.Socket.Client.mk
      socket.connect (socketAddress address port)
      return socket
    match opened with
    | .ok socket => return .ok socket
    | .error e => if rest.isEmpty then return .error e else connect port rest

/-- Read until the answer is there or can no longer come. What has come so far is kept where others
can see it. -/
partial def receive (socket : Std.Async.TCP.Socket.Client) (received : IO.Ref Json.Bytes) :
    Async HttpOutcome := do
  let chunk := match ← attempt (socket.recv? 65536) with
    | .ok (some chunk) => chunk.toList
    | _ => []
  received.modify (· ++ chunk)
  match Arrival.ofBytes chunk.isEmpty (← received.get) with
  | .arrived response => return .ok response
  | .garbled => return .error .closed
  | .waiting => receive socket received

/-- Send a request and read the answer. Only plain connections can be made. -/
def converse (r : HttpRequest) (received : IO.Ref Json.Bytes) : Async HttpOutcome := do
  if String.ofList r.url.scheme != "http" then
    return .error (.noConnection "secure connections are not supported")
  let port := portOf r.url
  match ← attempt (Std.Async.DNS.getAddrInfo (hostOf r.url) (toString port)) with
  | .error e => return .error (connectFault e)
  | .ok addresses =>
    match ← connect port addresses.toList with
    | .error e => return .error (connectFault e)
    | .ok socket =>
      match ← attempt (socket.send r.wire) with
      | .ok _ => receive socket received
      | .error _ => return .error .closed

/-- What a conversation has come to by now: its outcome, or that its time is up. -/
def outcomeBy (deadline : Nat) (received : IO.Ref Json.Bytes)
    (task : Std.Async.AsyncTask HttpOutcome) : IO (Option HttpOutcome) := do
  if ← IO.hasFinished task then
    match ← IO.wait task with
    | .ok outcome => return some outcome
    | .error _ => return some (.error .closed)
  else if deadline ≤ (← IO.monoNanosNow) then return some (Arrival.overdue (← received.get))
  else return none

/-! ## Races -/

/-- How long a thread sleeps between two looks at something that it waits for. -/
def sliceMillis : UInt32 := 1

/-- Look at a branch. -/
def lookAt {α : Type} (announced : IO Bool) (poll : IO (Option α)) :
    Branch → Execution α → IO (Execution α)
  | .work, e => do
    let offer ← poll
    return e.look (fun _ => offer) false .work
  | .listener, e => return e.look Execution.endless (← announced) .listener

/-- Carry on an execution to its end. A round polls the work first; between two rounds the thread
sleeps. -/
partial def settle {α : Type} (announced : IO Bool) (poll : IO (Option α)) (e : Execution α) :
    IO (Execution α) := do
  match e with
  | .starting => settle announced poll (← lookAt announced poll .listener e)
  | .racing polls =>
    if polls ≠ 0 then IO.sleep sliceMillis
    settle announced poll (← lookAt announced poll .work e)
  | .halfway left _ => settle announced poll (← lookAt announced poll left e)
  | .finished _ _ => return e

/-- What a request meets with in a run that was found in the given state. If that is stopped
already, nothing is sent. -/
def meet (run : RunState) (announced : IO Bool) (timeout : Duration) (r : HttpRequest) :
    IO Encounter := do
  let started ← IO.monoNanosNow
  let begun : Execution HttpOutcome :=
    Execution.starting.look Execution.endless run.announced .listener
  let ended ← match begun with
    | .finished _ _ => pure begun
    | _ =>
      let received ← IO.mkRef []
      let task ← (converse r received).toIO
      settle announced (outcomeBy (started + timeout.nanos) received task) begun
  let elapsed : Duration := ⟨(← IO.monoNanosNow) - started⟩
  match ended.outcome?.join with
  | some outcome => return ⟨outcome, elapsed, false⟩
  | none => return ⟨.error .closed, elapsed, true⟩

end LoadMonitor.Live
