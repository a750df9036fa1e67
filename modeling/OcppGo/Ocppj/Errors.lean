import Mathlib.Logic.Basic

namespace OcppGo
namespace Ocppj

/-!
# Local errors of the OCPP-J layer

The dispatchers complete a request that never got an answer with an error of
their own.  Every such error carries a marker, so that `errors.Is` can tell it
from a CALLERROR of the peer, which may carry the same error code.
-/

/-- The two errors a finished context reports. -/
inductive ContextError where
  | canceled
  | deadlineExceeded
  deriving DecidableEq

/-- `Error()` of a context error. -/
def ContextError.text : ContextError -> String
  | .canceled => "context canceled"
  | .deadlineExceeded => "context deadline exceeded"

/-- `ocpp.Error`.  The only causes set by the dispatchers are context errors. -/
structure OcppError where
  code : String
  description : String
  messageId : String
  marker : String
  cause : Option ContextError
  deriving DecidableEq

def genericError : String := "GenericError"

def internalError : String := "InternalError"

def requestTimeoutMarker : String := "ocppj/request-timeout"

def requestCanceledMarker : String := "ocppj/request-canceled"

def dispatcherStoppedMarker : String := "ocppj/dispatcher-stopped"

def localTransportMarker : String := "ocppj/local-transport"

def newError (errorCode description messageId : String) : OcppError :=
  ⟨errorCode, description, messageId, "", none⟩

def newRequestTimeoutError (messageID : String) : OcppError :=
  { newError genericError "Request timed out" messageID with marker := requestTimeoutMarker }

def newRequestCanceledError (messageID : String) (cause : Option ContextError) : OcppError where
  code := genericError
  description := match cause with
    | some reason => reason.text
    | none => "request canceled"
  messageId := messageID
  marker := requestCanceledMarker
  cause := cause

def newDispatcherStoppedError (messageID : String) : OcppError :=
  { newError genericError "Dispatcher stopped" messageID with marker := dispatcherStoppedMarker }

def newLocalTransportError (code description messageID : String) : OcppError :=
  { newError code description messageID with marker := localTransportMarker }

/-- The backstop of `fireRequestCancel`: an unmarked error becomes a local
transport error, a marked one is left alone. -/
def markLocalTransportError (err : OcppError) : OcppError :=
  if err.marker = "" then { err with marker := localTransportMarker } else err

/-- `Error.Is` against one of the sentinels, which consist of their marker. -/
def OcppError.isMarked (err : OcppError) (sentinel : String) : Prop :=
  sentinel ≠ "" ∧ err.marker = sentinel
  deriving Decidable

/-- How a request ended. -/
inductive Outcome where
  /-- `CompleteRequest` returned true to the response or error handler -/
  | completed
  /-- the cancel callback was invoked -/
  | canceled (err : OcppError)
  deriving DecidableEq

/-- The request was cancelled with `ErrRequestTimeout`. -/
def Outcome.timedOut : Outcome -> Prop
  | .canceled err => err.isMarked requestTimeoutMarker
  | .completed => False

instance (outcome : Outcome) : Decidable outcome.timedOut :=
  match outcome with
  | .completed => .isFalse id
  | .canceled err => inferInstanceAs (Decidable (err.isMarked requestTimeoutMarker))

end Ocppj
end OcppGo
