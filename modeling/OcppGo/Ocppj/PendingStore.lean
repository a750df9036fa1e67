import OcppGo.Ocppj.ServerState

namespace OcppGo
namespace Ocppj

open Function

/-!
# The pending requests as a map

`serverState` and the objects it hands out are used like a map from clients to at most one pending
request.  The free slot is marked by the empty identifier, so a lookup of the empty identifier finds
a request where there is none; every other sequence of calls is answered as by the map.
-/

variable {P : Type}

/-- A call on a `clientState` object. -/
inductive StateCall (P : Type) where
  | add (requestID : String) (req : Option P)
  | get (requestID : String)
  | delete (requestID : String)
  | has
  | clear

/-- A call on `serverState`, or on an object it has handed out. -/
inductive StoreCall (P : Type) where
  | add (clientID requestID : String) (req : Option P)
  | delete (clientID requestID : String)
  | has (clientID : String)
  | clearClient (clientID : String)
  | clearAll
  | getClientState (clientID : String)
  | onState (object : StateRef) (call : StateCall P)

inductive Answer (P : Type) where
  | done
  | flag (value : Bool)
  | request (found : Option (Option P))
  deriving DecidableEq

def ClientState.act (state : ClientState P) : StateCall P -> Answer P × ClientState P
  | .add requestID req => (.done, state.addPendingRequest requestID req)
  | .get requestID => (.request (state.getPendingRequest requestID), state)
  | .delete requestID => (.done, state.deletePendingRequest requestID)
  | .has => (.flag state.hasPendingRequest, state)
  | .clear => (.done, state.clearPendingRequests)

def ServerState.act (state : ServerState P) : StoreCall P -> Answer P × ServerState P
  | .add clientID requestID req => (.done, state.addPendingRequest clientID requestID req)
  | .delete clientID requestID => (.done, state.deletePendingRequest clientID requestID)
  | .has clientID => (.flag (state.hasPendingRequest clientID), state)
  | .clearClient clientID => (.done, state.clearClientPendingRequest clientID)
  | .clearAll => (.done, state.clearAllPendingRequests)
  | .getClientState clientID => (.done, (state.getClientState clientID).2)
  | .onState object call =>
    (((state.states object).act call).1, { state with
      states := update state.states object ((state.states object).act call).2 })

/-- The answers to a sequence of calls. -/
def answers {σ : Type} (act : σ -> StoreCall P -> Answer P × σ) :
    σ -> List (StoreCall P) -> List (Answer P)
  | _, [] => []
  | state, call :: rest => (act state call).1 :: answers act (act state call).2 rest

/-- An object is used while it is stored. -/
def ServerState.Stores (state : ServerState P) : StoreCall P -> Prop
  | .onState object _ => state.pendingRequestState.lookup object.client = some object
  | _ => True

def StoredThroughout : ServerState P -> List (StoreCall P) -> Prop
  | _, [] => True
  | state, call :: rest => state.Stores call ∧ StoredThroughout (state.act call).2 rest

/-- The pending request of one client: its identifier and the request. -/
abbrev Slot (P : Type) := Option (String × Option P)

def Slot.act (slot : Slot P) : StateCall P -> Answer P × Slot P
  | .add requestID req => (.done, if slot = none ∧ requestID ≠ "" then some (requestID, req) else slot)
  | .get requestID =>
    (.request (if slot.map Prod.fst = some requestID then slot.map Prod.snd else none), slot)
  | .delete requestID => (.done, if slot.map Prod.fst = some requestID then none else slot)
  | .has => (.flag slot.isSome, slot)
  | .clear => (.done, none)

/-- A call on the slot of one client. -/
def actOn (slots : String -> Slot P) (clientID : String) (call : StateCall P) :
    Answer P × (String -> Slot P) :=
  ((Slot.act (slots clientID) call).1,
    update slots clientID (Slot.act (slots clientID) call).2)

def performSlots (slots : String -> Slot P) : StoreCall P -> Answer P × (String -> Slot P)
  | .add clientID requestID req => actOn slots clientID (.add requestID req)
  | .delete clientID requestID => actOn slots clientID (.delete requestID)
  | .has clientID => actOn slots clientID .has
  | .clearClient clientID => actOn slots clientID .clear
  | .clearAll => (.done, fun _ => none)
  | .getClientState _ => (.done, slots)
  | .onState object call => actOn slots object.client call

/-- The clients whose slot a call may change. -/
def StoreCall.Concerns : StoreCall P -> String -> Prop
  | .add clientID _ _, other => clientID = other
  | .delete clientID _, other => clientID = other
  | .clearClient clientID, other => clientID = other
  | .clearAll, _ => True
  | .onState object _, other => object.client = other
  | _, _ => False

/-! ## The slots of the store -/

def ClientState.slot (state : ClientState P) : Slot P :=
  if state.requestID = "" then none else some (state.requestID, state.pendingRequest)

def ServerState.slots (state : ServerState P) (clientID : String) : Slot P :=
  (state.pendingRequestState.lookup clientID).bind fun object => (state.states object).slot

/-- Every object is stored for the client it was made for. -/
def ServerState.Own (state : ServerState P) : Prop :=
  ∀ clientID object, state.pendingRequestState.lookup clientID = some object ->
    object.client = clientID

/-- The lookup of the empty identifier. -/
def StoreCall.unnamed : StoreCall P -> Bool
  | .onState _ (.get requestID) => requestID = ""
  | _ => false

variable {state : ServerState P} {object : StateRef} {clientID : String}

theorem ClientState.act_slot (state : ClientState P) (call : StateCall P)
    (named : (StoreCall.onState object call).unnamed = false) :
    (state.act call).1 = (Slot.act state.slot call).1 ∧
      (state.act call).2.slot = (Slot.act state.slot call).2 := by
  rcases state with ⟨requestID, req⟩
  cases call with
  | add other _ =>
    by_cases free : requestID = "" <;> by_cases empty : other = "" <;>
      simp [ClientState.act, addPendingRequest, slot, Slot.act, free, empty]
  | get other =>
    have nonempty : other ≠ "" := by simpa [StoreCall.unnamed] using named
    by_cases free : requestID = ""
    · simp [ClientState.act, getPendingRequest, slot, Slot.act, free, nonempty.symm]
    · by_cases same : requestID = other <;>
        simp [ClientState.act, getPendingRequest, slot, Slot.act, free, same, nonempty]
  | delete other =>
    by_cases free : requestID = "" <;> by_cases same : requestID = other <;>
      simp_all [ClientState.act, deletePendingRequest, slot, Slot.act]
  | has =>
    by_cases free : requestID = "" <;>
      simp [ClientState.act, hasPendingRequest, slot, Slot.act, free]
  | clear => simp [ClientState.act, clearPendingRequests, slot, Slot.act]

/-- A call on a stored object is a call on the slot of its client. -/
theorem ServerState.onState_slots (own : state.Own)
    (stored : state.pendingRequestState.lookup clientID = some object) (call : StateCall P)
    (named : (StoreCall.onState object call).unnamed = false) :
    ((state.states object).act call).1 = (actOn state.slots clientID call).1 ∧
      { state with states := update state.states object ((state.states object).act call).2 }.slots =
        (actOn state.slots clientID call).2 := by
  have slot : state.slots clientID = (state.states object).slot := by simp [slots, stored]
  obtain ⟨ans, changed⟩ := (state.states object).act_slot call named
  refine ⟨by rw [ans, actOn, slot], ?_⟩
  funext other
  simp only [actOn, slot, ← changed]
  by_cases same : other = clientID
  · subst same
    simp [slots, stored]
  · rw [update_of_ne same]
    cases found : state.pendingRequestState.lookup other with
    | none => simp [slots, found]
    | some object' =>
      have apart : object' ≠ object := by
        rintro rfl
        exact same ((own other _ found).symm.trans (own clientID _ stored))
      simp [slots, found, update_of_ne apart]

/-- The object of a client, made on demand, has the slot of the client. -/
theorem ServerState.getOrCreateState_slots (own : state.Own) (clientID : String) :
    (state.getOrCreateState clientID).2.Own ∧
      (state.getOrCreateState clientID).2.slots = state.slots ∧
      (state.getOrCreateState clientID).2.pendingRequestState.lookup clientID =
        some (state.getOrCreateState clientID).1 := by
  unfold getOrCreateState
  cases found : state.pendingRequestState.lookup clientID with
  | some object => exact ⟨own, rfl, found⟩
  | none =>
    refine ⟨?_, ?_, AList.lookup_insert _⟩
    · intro other object stored
      by_cases same : other = clientID
      · subst same
        cases (AList.lookup_insert _).symm.trans stored
        rfl
      · exact own other object ((AList.lookup_insert_ne same).symm.trans stored)
    · funext other
      by_cases same : other = clientID
      · subst same
        simp [slots, found, ClientState.slot, ClientState.new]
      · cases there : state.pendingRequestState.lookup other with
        | none => simp [slots, AList.lookup_insert_ne same, there]
        | some object =>
          have apart : object ≠ ⟨clientID, state.made⟩ := by
            rintro rfl
            exact same (own other _ there).symm
          simp [slots, AList.lookup_insert_ne same, there, update_of_ne apart]

/-- One call. -/
theorem ServerState.act_slots (own : state.Own) (call : StoreCall P) (stores : state.Stores call)
    (named : call.unnamed = false) :
    (state.act call).2.Own ∧ (state.act call).1 = (performSlots state.slots call).1 ∧
      (state.act call).2.slots = (performSlots state.slots call).2 := by
  cases call with
  | add clientID requestID req =>
    obtain ⟨own, same, stored⟩ := getOrCreateState_slots own clientID
    have added := onState_slots own stored (.add requestID req) rfl
    rw [same] at added
    exact ⟨own, added⟩
  | delete clientID requestID =>
    cases stored : state.pendingRequestState.lookup clientID with
    | some object =>
      simp only [act, deletePendingRequest, stored]
      exact ⟨own, onState_slots own stored (.delete requestID) rfl⟩
    | none =>
      have free : state.slots clientID = none := by simp [slots, stored]
      simp only [act, deletePendingRequest, stored]
      refine ⟨own, rfl, (update_eq_iff.mpr ?_).symm⟩
      simp [Slot.act, free]
  | has clientID =>
    refine ⟨own, ?_, (update_eq_self _ _).symm⟩
    cases stored : state.pendingRequestState.lookup clientID with
    | some object =>
      simp only [act, hasPendingRequest, stored]
      exact (onState_slots own stored .has rfl).1
    | none => simp [act, hasPendingRequest, performSlots, actOn, Slot.act, slots, stored]
  | clearClient clientID =>
    refine ⟨?_, rfl, ?_⟩
    · intro other object stored
      by_cases same : other = clientID
      · subst same
        cases (AList.lookup_erase _ _).symm.trans stored
      · exact own other object ((AList.lookup_erase_ne same).symm.trans stored)
    · funext other
      by_cases same : other = clientID
      · subst same
        simp [act, clearClientPendingRequest, slots, performSlots, actOn, Slot.act]
      · simp [act, clearClientPendingRequest, slots, performSlots, actOn, same,
          AList.lookup_erase_ne same]
  | clearAll =>
    refine ⟨fun other object stored => ?_, rfl, ?_⟩
    · simp [act, clearAllPendingRequests] at stored
    · funext other
      simp [act, clearAllPendingRequests, slots, performSlots]
  | getClientState clientID =>
    obtain ⟨own, same, _⟩ := getOrCreateState_slots own clientID
    exact ⟨own, rfl, same⟩
  | onState object call => exact ⟨own, onState_slots own stores call named⟩

/-- The store answers every sequence of calls as the map does, as long as nobody looks up the empty
identifier; and a call on one client leaves the slots of the others alone. -/
theorem pending_store_refines (calls : List (StoreCall P))
    (stored : StoredThroughout ServerState.new calls)
    (named : ∀ call, call ∈ calls -> call.unnamed = false) :
    answers ServerState.act ServerState.new calls = answers performSlots (fun _ => none) calls ∧
      ∀ (slots : String -> Slot P) call other, ¬ call.Concerns other ->
        (performSlots slots call).2 other = slots other := by
  constructor
  · have run : ∀ (state : ServerState P), state.Own -> StoredThroughout state calls ->
        answers ServerState.act state calls = answers performSlots state.slots calls := by
      clear stored
      induction calls with
      | nil => exact fun _ _ _ => rfl
      | cons call rest ih =>
        intro state own ⟨stores, later⟩
        obtain ⟨owned, ans, slots⟩ :=
          state.act_slots own call stores (named call List.mem_cons_self)
        have rest := ih (fun next mem => named next (List.mem_cons_of_mem _ mem)) _ owned later
        rw [answers, answers, ans, rest, slots]
    exact run .new (fun _ _ stored => by simp [ServerState.new] at stored) stored
  · intro slots call other apart
    cases call with
    | clearAll => exact absurd trivial apart
    | has => exact congrFun (update_eq_self ..) other
    | getClientState => rfl
    | _ => exact update_of_ne (Ne.symm apart) ..

/-- A request is stored and looked up. -/
theorem pending_store_refines_lookup :
    let calls : List (StoreCall Nat) := [.add "cp" "1" (some 7), .onState ⟨"cp", 0⟩ (.get "1")]
    answers ServerState.act .new calls = answers performSlots (fun _ => none) calls := by
  intro calls
  exact (pending_store_refines calls ⟨trivial, rfl, trivial⟩ (by simp [calls, StoreCall.unnamed])).1

/-- A request is stored and deleted.  The empty identifier finds it. -/
theorem deleted_request_found :
    let calls := [.add "cp" "1" (some 7), .delete "cp" "1", .onState ⟨"cp", 0⟩ (.get "")]
    StoredThroughout (.new : ServerState Nat) calls ∧
      answers ServerState.act .new calls = [.done, .done, .request (some (some 7))] ∧
      answers performSlots (fun _ => none) calls = [.done, .done, .request none] :=
  ⟨⟨trivial, trivial, rfl, trivial⟩, rfl, rfl⟩

end Ocppj
end OcppGo
