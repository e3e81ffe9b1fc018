/-!
# Failures

Why a call of the service failed. A read gives a chain of causes; the precheck sorts its
failures into three kinds; a write to the screen fails by itself.
-/

namespace LoadMonitor

/-- The cause of a failed read, wrapped in the contexts in which it came up. -/
inductive Failure where
  /-- The run was stopped before the call was over. -/
  | stopped
  | fault (message : String)
  | context (headline : String) (cause : Failure)
  deriving DecidableEq, Repr

namespace Failure

/-- What a call says that the stop of the run has cut short. -/
def stoppedMessage : String := "Execution cancelled by shutdown signal"

/-- The messages from the outermost context to the root. -/
def chain : Failure → List String
  | stopped => [stoppedMessage]
  | fault message => [message]
  | context headline cause => headline :: cause.chain

/-- The chain on one line. -/
def text (f : Failure) : String := ": ".intercalate f.chain

/-- Whether the stop of the run is at the root, under any contexts. -/
def isStopped : Failure → Bool
  | stopped => true
  | fault _ => false
  | context _ cause => cause.isStopped

/-- Wrap a failure in contexts, the first one outermost. -/
def within (headlines : List String) (f : Failure) : Failure := headlines.foldr context f

/-- The failure with the given messages, the last one being the root. -/
def ofChain : List String → Failure
  | [] => fault ""
  | [root] => fault root
  | headline :: rest => context headline (ofChain rest)

end Failure

/-! ## The precheck -/

/-- Why the liveness check did not let the demo begin. -/
inductive PrecheckError where
  /-- The service answered with a status other than 200. -/
  | unhealthy (status : Nat)
  /-- The service did not answer. -/
  | unreachable (url reason : String)
  /-- The run was stopped first. -/
  | cancelled
  deriving DecidableEq, Repr

def PrecheckError.message : PrecheckError → String
  | unhealthy status => "liveness check returned HTTP " ++ toString status
  | unreachable url reason => "cannot connect to " ++ url ++ ": " ++ reason
  | cancelled => "liveness check cancelled by shutdown signal"

/-! ## The screen -/

/-- Why a text did not reach the screen. -/
inductive WriteError where
  /-- The device accepted no byte. -/
  | nothingAccepted
  | device (message : String)
  deriving DecidableEq, Repr

def WriteError.message : WriteError → String
  | nothingAccepted => "failed to write whole buffer"
  | device message => message

end LoadMonitor
