import Mathlib.Logic.Basic

namespace OcppGo
namespace Ocppj

/-!
# Pending request state

`clientState` holds at most one pending request.  The empty string marks the
free slot; the stored request is not erased when the slot is freed.
-/

/-- `clientState`: one slot for the identifier of the pending request. -/
structure ClientState (P : Type) where
  requestID : String
  pendingRequest : Option P
  deriving DecidableEq

namespace ClientState

variable {P : Type}

def new : ClientState P := ⟨"", none⟩

/-- An occupied slot is left alone, and an empty identifier is never stored. -/
def addPendingRequest (state : ClientState P) (requestID : String) (req : Option P) : ClientState P :=
  if requestID ≠ "" ∧ state.requestID = "" then ⟨requestID, req⟩ else state

/-- The request, if the identifier is the stored one. -/
def getPendingRequest (state : ClientState P) (requestID : String) : Option (Option P) :=
  if state.requestID ≠ requestID then none else some state.pendingRequest

def deletePendingRequest (state : ClientState P) (requestID : String) : ClientState P :=
  if state.requestID ≠ requestID then state else { state with requestID := "" }

def clearPendingRequests (state : ClientState P) : ClientState P := { state with requestID := "" }

def hasPendingRequest (state : ClientState P) : Bool := decide (state.requestID ≠ "")

theorem addPendingRequest_requestID (state : ClientState P) (requestID : String) (req : Option P) :
    (state.addPendingRequest requestID req).requestID =
      if state.requestID = "" then requestID else state.requestID := by
  unfold addPendingRequest
  by_cases free : state.requestID = ""
  · by_cases empty : requestID = ""
    · simp [free, empty]
    · simp [free, empty]
  · simp [free]

theorem deletePendingRequest_requestID (state : ClientState P) (requestID : String) :
    (state.deletePendingRequest requestID).requestID =
      if state.requestID = requestID then "" else state.requestID := by
  unfold deletePendingRequest
  by_cases same : state.requestID = requestID
  · simp [same]
  · simp [same]

end ClientState

/-- The two kinds of frame that complete a request. -/
inductive FrameKind where
  | callResult
  | callError
  deriving DecidableEq

/-- An inbound answer frame.  `valid` says whether its remaining elements parse
and pass validation for the pending request. -/
structure Frame where
  kind : FrameKind
  uniqueId : String
  valid : Bool
  deriving DecidableEq

end Ocppj
end OcppGo
