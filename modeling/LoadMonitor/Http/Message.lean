import LoadMonitor.Json.Scanner
import LoadMonitor.Url.Parser

/-!
# Requests and answers

What is sent over the network and what comes back, or why nothing does.
-/

namespace LoadMonitor

inductive HttpMethod where
  | get
  | post
  deriving DecidableEq, Repr

def HttpMethod.text : HttpMethod → String
  | get => "GET"
  | post => "POST"

/-- A request; one with a body says that it is JSON. -/
structure HttpRequest where
  method : HttpMethod
  url : Url
  body : Option String
  deriving DecidableEq, Repr

namespace HttpRequest

/-- A part of an authority with its characters decoded, if they can be. -/
def decodedPart (cs : List Char) : Option String :=
  (Url.textOfBytes? (Url.decode cs)).map String.ofList

/-- The user and the password that the address holds. -/
def credentials (r : HttpRequest) : Option (String × Option String) := do
  let authority ← r.url.authority
  let user ← decodedPart authority.user
  let password := authority.password.bind decodedPart
  if user.isEmpty && password.isNone then none else some (user, password)

/-- The address that is sent to: credentials are taken out of it. -/
def target (r : HttpRequest) : Url :=
  if r.credentials.isSome then
    { r.url with authority := r.url.authority.map fun a => { a with user := [], password := none } }
  else r.url

end HttpRequest

/-- Why a body did not arrive in full. -/
inductive BodyFault where
  /-- The connection ended before the announced length. -/
  | cutShort
  /-- The time was up after the status had come. -/
  | timedOut
  deriving DecidableEq, Repr

namespace BodyFault

/-- The fault itself. -/
def message : BodyFault → String
  | cutShort =>
    "error reading a body from connection: end of file before message length reached"
  | timedOut => "operation timed out"

/-- The fault and each of its causes. -/
def chain (fault : BodyFault) : List String :=
  match fault with
  | cutShort => [fault.message, "end of file before message length reached"]
  | timedOut => [fault.message]

end BodyFault

/-- An answer. Its status comes before its body, and stands if the body does not arrive in full;
what has come of the body then is of no use. -/
structure HttpResponse where
  status : Nat
  body : Json.Bytes
  broken : Option BodyFault
  deriving DecidableEq, Repr

/-- The body has arrived in full. -/
def HttpResponse.complete (response : HttpResponse) : Bool := response.broken.isNone

/-- Why there is no answer. -/
inductive TransportFault where
  /-- No connection came about; the reason is the operating system's. -/
  | noConnection (reason : String)
  /-- The connection was closed without an answer. -/
  | closed
  | timedOut
  deriving DecidableEq, Repr

namespace TransportFault

/-- The fault and each of its causes. -/
def chain : TransportFault → List String
  | noConnection reason =>
    ["error trying to connect: tcp connect error: " ++ reason, "tcp connect error: " ++ reason,
      reason]
  | closed => ["connection closed before message completed"]
  | timedOut => ["operation timed out"]

/-- The fault itself. -/
def message : TransportFault → String
  | noConnection reason => "error trying to connect: tcp connect error: " ++ reason
  | closed => "connection closed before message completed"
  | timedOut => "operation timed out"

end TransportFault

/-- What becomes of a request. -/
abbrev HttpOutcome := Except TransportFault HttpResponse

/-! ## Status codes -/

/-- The standard phrase for a status. -/
def statusPhrase? (status : Nat) : Option String :=
  ([(100, "Continue"), (101, "Switching Protocols"), (102, "Processing"), (200, "OK"),
    (201, "Created"), (202, "Accepted"), (203, "Non Authoritative Information"),
    (204, "No Content"), (205, "Reset Content"), (206, "Partial Content"), (207, "Multi-Status"),
    (208, "Already Reported"), (226, "IM Used"), (300, "Multiple Choices"),
    (301, "Moved Permanently"), (302, "Found"), (303, "See Other"), (304, "Not Modified"),
    (305, "Use Proxy"), (307, "Temporary Redirect"), (308, "Permanent Redirect"),
    (400, "Bad Request"), (401, "Unauthorized"), (402, "Payment Required"), (403, "Forbidden"),
    (404, "Not Found"), (405, "Method Not Allowed"), (406, "Not Acceptable"),
    (407, "Proxy Authentication Required"), (408, "Request Timeout"), (409, "Conflict"),
    (410, "Gone"), (411, "Length Required"), (412, "Precondition Failed"),
    (413, "Payload Too Large"), (414, "URI Too Long"), (415, "Unsupported Media Type"),
    (416, "Range Not Satisfiable"), (417, "Expectation Failed"), (418, "I'm a teapot"),
    (421, "Misdirected Request"), (422, "Unprocessable Entity"), (423, "Locked"),
    (424, "Failed Dependency"), (426, "Upgrade Required"), (428, "Precondition Required"),
    (429, "Too Many Requests"), (431, "Request Header Fields Too Large"),
    (451, "Unavailable For Legal Reasons"), (500, "Internal Server Error"),
    (501, "Not Implemented"), (502, "Bad Gateway"), (503, "Service Unavailable"),
    (504, "Gateway Timeout"), (505, "HTTP Version Not Supported"),
    (506, "Variant Also Negotiates"), (507, "Insufficient Storage"), (508, "Loop Detected"),
    (510, "Not Extended"), (511, "Network Authentication Required")] : List (Nat × String)).lookup
    status

/-- A status that blames the client. -/
def isClientError (status : Nat) : Bool := 400 ≤ status && status < 500

/-- A status that blames the server. -/
def isServerError (status : Nat) : Bool := 500 ≤ status && status < 600

/-- A status that is an error. -/
def isErrorStatus (status : Nat) : Bool := isClientError status || isServerError status

/-- A status with its phrase. -/
def statusText (status : Nat) : String :=
  toString status ++ " " ++ (statusPhrase? status).getD "<unknown status code>"

/-- An error status, and the address that gave it. -/
def statusError (status : Nat) (url : String) : String :=
  "HTTP status " ++ (if isClientError status then "client" else "server") ++ " error ("
    ++ statusText status ++ ") for url (" ++ url ++ ")"

end LoadMonitor
