import LoadMonitor.Http.Message

/-!
# The wire

Requests and answers as bytes, on a connection that serves one request.
-/

/-!
## Base64

Bytes as text, three of them in four characters; a short last group is filled up.
-/

namespace LoadMonitor.Base64

def alphabet : List Char :=
  "ABCDEFGHIJKLMNOPQRSTUVWXYZabcdefghijklmnopqrstuvwxyz0123456789+/".toList

/-- The character for the lowest six bits of a number. -/
def digit (n : Nat) : Char := alphabet.getD (n % 64) '='

/-- The characters for bytes. -/
def chars : List UInt8 → List Char
  | [] => []
  | [a] =>
    let n := a.toNat * 65536
    [digit (n / 262144), digit (n / 4096), '=', '=']
  | [a, b] =>
    let n := a.toNat * 65536 + b.toNat * 256
    [digit (n / 262144), digit (n / 4096), digit (n / 64), '=']
  | a :: b :: c :: rest =>
    let n := a.toNat * 65536 + b.toNat * 256 + c.toNat
    digit (n / 262144) :: digit (n / 4096) :: digit (n / 64) :: digit n :: chars rest

end LoadMonitor.Base64

namespace LoadMonitor

/-! ## Requests -/

namespace HttpRequest

/-- What is asked for at the host. -/
def resource (r : HttpRequest) : String := String.ofList (r.url.path.text ++ r.url.queryText)

/-- The host as it is named in a request, with its port unless that is the usual one. -/
def hostHeader (r : HttpRequest) : String :=
  match r.url.authority with
  | some a => String.ofList (a.host.text ++ a.portText)
  | none => ""

/-- The user and the password in a header. -/
def authorization (user : String) (password : Option String) : String :=
  let pair := user ++ ":" ++ password.getD ""
  "authorization: Basic " ++ String.ofList (Base64.chars pair.toUTF8.toList)

/-- The lines before the body. -/
def headLines (r : HttpRequest) : List String :=
  [r.method.text ++ " " ++ r.resource ++ " HTTP/1.1", "host: " ++ r.hostHeader, "accept: */*",
    "connection: close"]
  ++ (match r.credentials with
    | some (user, password) => [authorization user password]
    | none => [])
  ++ match r.body with
    | some body =>
      ["content-type: application/json", "content-length: " ++ toString body.utf8ByteSize]
    | none => []

/-- The bytes of a request. -/
def wire (r : HttpRequest) : ByteArray :=
  (String.join (r.headLines.map (· ++ "\r\n")) ++ "\r\n" ++ r.body.getD "").toUTF8

end HttpRequest

/-! ## Answers -/

/-- How the end of a body is found. -/
inductive BodyFraming where
  | length (bytes : Nat)
  | chunked
  | untilClose
  deriving DecidableEq, Repr

/-- What the bytes that have come in make up. -/
inductive Arrival where
  /-- More bytes have to come. -/
  | waiting
  | arrived (response : HttpResponse)
  /-- This will not become an answer. -/
  | garbled
  deriving Repr

namespace Arrival

/-- The bytes before the first empty line, and those behind it. -/
def splitHead : Json.Bytes → Option (Json.Bytes × Json.Bytes)
  | 13 :: 10 :: 13 :: 10 :: rest => some ([], rest)
  | b :: rest => (splitHead rest).map fun (head, body) => (b :: head, body)
  | [] => none

/-- The bytes before the first line end, and those behind it. -/
def splitLine : Json.Bytes → Option (Json.Bytes × Json.Bytes)
  | 13 :: 10 :: rest => some ([], rest)
  | b :: rest => (splitLine rest).map fun (line, more) => (b :: line, more)
  | [] => none

/-- Bytes as characters, one by one. -/
def latin (bytes : Json.Bytes) : String := String.ofList (bytes.map fun b => Char.ofNat b.toNat)

/-- The status in the first line of an answer. -/
def status? (line : String) : Option Nat :=
  match line.splitOn " " with
  | version :: code :: _ => if "HTTP/1.".isPrefixOf version then code.toNat? else none
  | _ => none

/-- The value of a header. -/
def header? (name : String) (lines : List String) : Option String :=
  lines.findSome? fun line =>
    match line.splitOn ":" with
    | key :: value =>
      if key.toLower == name then some (":".intercalate value).trimAscii.copy else none
    | [] => none

/-- How the body of an answer is framed. -/
def framing (status : Nat) (headers : List String) : BodyFraming :=
  if status == 204 || status == 304 then .length 0
  else if (header? "transfer-encoding" headers).any (·.toLower == "chunked") then .chunked
  else match (header? "content-length" headers).bind String.toNat? with
    | some n => .length n
    | none => .untilClose

/-- The length that the line before a chunk gives. -/
def chunkLength? (line : Json.Bytes) : Option Nat :=
  let digits := (line.map fun b => Url.hexValue? (Char.ofNat b.toNat)).takeWhile Option.isSome
  if digits.isEmpty then none else some (digits.foldl (fun n d => 16 * n + d.getD 0) 0)

/-- The body in chunks, and whether its end has come. -/
def chunks : Nat → Json.Bytes → Json.Bytes × Bool
  | 0, _ => ([], false)
  | steps + 1, bytes =>
    match splitLine bytes with
    | none => ([], false)
    | some (line, rest) =>
      match chunkLength? line with
      | none => ([], false)
      | some 0 => ([], true)
      | some n =>
        if rest.length < n then (rest, false)
        else
          let (more, complete) := chunks steps (rest.drop (n + 2))
          (rest.take n ++ more, complete)

/-- The body that has come, and whether it is complete. -/
def body (framing : BodyFraming) (closed : Bool) (bytes : Json.Bytes) : Json.Bytes × Bool :=
  match framing with
  | .length n => (bytes.take n, n ≤ bytes.length)
  | .chunked => chunks bytes.length bytes
  | .untilClose => (bytes, closed)

/-- What bytes make up, if the connection is closed behind them or may bring more. -/
def ofBytes (closed : Bool) (bytes : Json.Bytes) : Arrival :=
  match splitHead bytes with
  | none => if closed then garbled else waiting
  | some (head, rest) =>
    match (latin head).splitOn "\r\n" with
    | [] => garbled
    | first :: headers =>
      match status? first with
      | none => garbled
      | some status =>
        let (body, complete) := body (framing status headers) closed rest
        if complete then arrived ⟨status, body, none⟩
        else if closed then arrived ⟨status, body, some .cutShort⟩
        else waiting

/-- What becomes of a request if the time is up when these bytes have come: a status that is
there stands. -/
def overdue (bytes : Json.Bytes) : HttpOutcome :=
  match ofBytes true bytes with
  | arrived response => .ok { response with broken := some .timedOut }
  | _ => .error .timedOut

end Arrival
end LoadMonitor
