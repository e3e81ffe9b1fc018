import LoadMonitor.Http.Message
import LoadMonitor.Json.Message
import LoadMonitor.Service.Failure

/-!
# Failed calls

Why a call of the service failed, with the whole chain of causes.
-/

namespace LoadMonitor

/-- Why a call failed. -/
inductive CallError where
  /-- No address can be formed from the base address and the path. -/
  | invalidEndpoint (path : String) (cause : UrlError)
  /-- Only two schemes can be spoken. -/
  | schemeNotAllowed (request : HttpRequest)
  | notAnswered (request : HttpRequest) (fault : TransportFault)
  | status (request : HttpRequest) (code : Nat)
  /-- The body did not arrive in full. -/
  | cutShort (request : HttpRequest) (fault : BodyFault)
  | undecodable (request : HttpRequest) (cause : Json.DecodeError)
  deriving DecidableEq, Repr

namespace CallError

def schemeMessage : String := "URL scheme is not allowed"

/-- What is said of a request that could not be made. -/
def builderText (r : HttpRequest) : String :=
  "builder error for url (" ++ r.target.text ++ "): " ++ schemeMessage

/-- What is said of a request without an answer. -/
def sendingText (r : HttpRequest) (fault : TransportFault) : String :=
  "error sending request for url (" ++ r.target.text ++ "): " ++ fault.message

/-- What is said of a call whose request came to nothing. -/
def callText (r : HttpRequest) : String := r.method.text ++ " " ++ r.url.text ++ " failed"

/-- What is said of an answer that could not be read. -/
def decodingText (r : HttpRequest) : String := "Failed to decode response from " ++ r.url.text

/-- The messages from the outermost to the root. -/
def chain : CallError → List String
  | invalidEndpoint path cause => ["Invalid endpoint path: " ++ path, cause.message]
  | schemeNotAllowed r => [callText r, builderText r, schemeMessage]
  | notAnswered r fault => callText r :: sendingText r fault :: fault.chain
  | status r code => [statusError code r.target.text]
  | cutShort r fault =>
    decodingText r :: ("request or response body error: " ++ fault.message) :: fault.chain
  | undecodable r cause =>
    [decodingText r, "error decoding response body: " ++ cause.text, cause.text]

/-- The failure as a reader of the service sees it. -/
def failure (e : CallError) : Failure := .ofChain e.chain

/-- The chain on one line. -/
def text (e : CallError) : String := ": ".intercalate e.chain

end CallError
end LoadMonitor
