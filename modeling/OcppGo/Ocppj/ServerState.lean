import Mathlib.Data.List.AList
import OcppGo.Ocppj.State

namespace OcppGo
namespace Ocppj

/-!
# Pending requests by client

`serverState` keeps one `clientState` object for each client.  Clearing forgets an object
and does not change it, so whoever still holds it goes on seeing the old request; the
objects are kept apart from the table for that reason.
-/

/-- The identity of a `clientState` object; the client it was made for is part of it. -/
structure StateRef where
  client : String
  num : Nat
  deriving DecidableEq

/-- `serverState` together with all objects it has made. -/
structure ServerState (P : Type) where
  pendingRequestState : AList (fun _ : String => StateRef)
  states : StateRef -> ClientState P
  made : Nat

namespace ServerState

variable {P : Type}

def new : ServerState P := ⟨∅, fun _ => .new, 0⟩

def getOrCreateState (state : ServerState P) (clientID : String) : StateRef × ServerState P :=
  match state.pendingRequestState.lookup clientID with
  | some object => (object, state)
  | none =>
    let object : StateRef := ⟨clientID, state.made⟩
    (object, { state with
      pendingRequestState := state.pendingRequestState.insert clientID object
      states := Function.update state.states object .new
      made := state.made + 1 })

/-- `GetClientState`. -/
def getClientState (state : ServerState P) (clientID : String) : StateRef × ServerState P :=
  state.getOrCreateState clientID

/-- `GetPendingRequest` of an object that was handed out. -/
def getPendingRequest (state : ServerState P) (object : StateRef) (requestID : String) :
    Option (Option P) := (state.states object).getPendingRequest requestID

def addPendingRequest (state : ServerState P) (clientID requestID : String) (req : Option P) :
    ServerState P :=
  let (object, state) := state.getOrCreateState clientID
  { state with
    states := Function.update state.states object
      ((state.states object).addPendingRequest requestID req) }

def deletePendingRequest (state : ServerState P) (clientID requestID : String) : ServerState P :=
  match state.pendingRequestState.lookup clientID with
  | some object =>
    { state with
      states := Function.update state.states object
        ((state.states object).deletePendingRequest requestID) }
  | none => state

def hasPendingRequest (state : ServerState P) (clientID : String) : Bool :=
  match state.pendingRequestState.lookup clientID with
  | some object => (state.states object).hasPendingRequest
  | none => false

def clearClientPendingRequest (state : ServerState P) (clientID : String) : ServerState P :=
  { state with pendingRequestState := state.pendingRequestState.erase clientID }

def clearAllPendingRequests (state : ServerState P) : ServerState P :=
  { state with pendingRequestState := ∅ }

end ServerState

end Ocppj
end OcppGo
