import OcppGo.ServerDispatcher.Code

namespace OcppGo
namespace ServerDispatcher

open Interleaving Ocppj Program

/-!
# Which operations the functions use

Some questions about a function are settled by the operations it can perform, on whatever
branch.  Three kinds are told apart: what the pump does between two select statements, what it
does after it has been stopped, and what the calls from outside and the watchers do.  Starting
the dispatcher and completing a request off the pump belong to none of them.
-/

variable {P : Type} {opts : Settings}

/-! ## The operations of a pass -/

/-- The operations between two select statements. -/
@[reducible] def Op.passes : Op P -> Bool
  | .mapGet _ | .isEmpty _ | .peek _ | .popIf _ _ | .addPendingRequest _ _ _
  | .deletePendingRequest _ _ | .hasPendingRequest _ | .closeAck _ | .contextErr _ | .withTimeout
  | .withCancel | .cancelContext _ | .goWaitForTimeout _ _ _ _ | .write _ _ _
  | .onRequestCancel _ _ _ _ _ => true
  | _ => false

/-- The operations of the stop arm. -/
@[reducible] def Op.drains : Op P -> Bool
  | .mapDrainAll | .clearAllPendingRequests | .drainAll _ | .onRequestCancel _ _ _ _ _ => true
  | _ => false

/-- The operations of the calls from outside and of the watchers. -/
@[reducible] def Op.calls : Op P -> Bool
  | .mapGet _ | .mapGetOrCreate _ | .mapRemove _ | .push _ _ _ | .clearClientPendingRequest _
  | .rlock | .runlock | .lock | .awaitReaders | .unlock | .isRunning | .assignStopped | .readDoneC
  | .makeAck | .sendRequestChannel _ | .awaitAck _ _ | .awaitDone _ | .cancelContext _ | .watch _
  | .postTimeout _ | .postCancel _ | .removed | .nilDereference => true
  | _ => false

abbrev Passes {α : Type} (prog : Prog P α) : Prop :=
  prog.Uses (fun op => op.passes = true)

abbrev Drains {α : Type} (prog : Prog P α) : Prop :=
  prog.Uses (fun op => op.drains = true)

abbrev Calls {α : Type} (prog : Prog P α) : Prop :=
  prog.Uses (fun op => op.calls = true)

theorem passes_completeRequestOwned (clientID requestID : String) :
    Passes (completeRequestOwned clientID requestID : Prog P (Option (ClientEntry P))) := by
  refine ⟨rfl, ?_⟩
  intro queue
  cases queue with
  | none => trivial
  | some queue =>
    refine ⟨rfl, ?_⟩
    intro popped
    cases popped with
    | none => trivial
    | some owner => exact ⟨rfl, fun _ => trivial⟩

theorem uses_fireRequestCancel {legal : Op P -> Prop} {owner : ClientEntry P}
    {clientID requestID : String} {request : Option P} {err : OcppError}
    (reports : ∀ owner clientID requestID request err,
      legal (.onRequestCancel owner clientID requestID request err)) :
    (fireRequestCancel opts owner clientID requestID request err).Uses legal := by
  unfold fireRequestCancel
  split
  · exact ⟨reports _ _ _ _ _, fun _ => trivial⟩
  · trivial

theorem passes_fireRequestCancel (owner : ClientEntry P) (clientID requestID : String)
    (request : Option P) (err : OcppError) :
    Passes (fireRequestCancel opts owner clientID requestID request err) :=
  uses_fireRequestCancel fun _ _ _ _ _ => rfl

theorem passes_cancelIfActive (clientCtx : Option Nat) :
    Passes (cancelIfActive clientCtx : Prog P Unit) := by
  cases clientCtx with
  | none => trivial
  | some ctx => exact ⟨rfl, fun _ => trivial⟩

theorem passes_acknowledge (deleteAck : Option Nat) :
    Passes (acknowledge deleteAck : Prog P Unit) := by
  cases deleteAck with
  | none => trivial
  | some ack => exact ⟨rfl, fun _ => trivial⟩

theorem passes_requestArm (pump : Pump) (req : ServerDispatchRequest) :
    Passes (requestArm pump req : Prog P (Pump × Bool)) := by
  refine ⟨rfl, ?_⟩
  intro queue
  cases queue with
  | none =>
    apply (passes_cancelIfActive _).bind
    intro _
    apply (passes_acknowledge _).bind
    intro _
    trivial
  | some queue =>
    simp only [bind_done]
    split
    · apply (passes_cancelIfActive _).bind
      intro _
      apply (passes_acknowledge _).bind
      intro _
      trivial
    · trivial

theorem passes_timeoutArm (pump : Pump) (token : ServerTimeoutToken) :
    Passes (timeoutArm opts pump token : Prog P (Pump × Bool)) := by
  unfold timeoutArm
  split
  · refine ⟨rfl, fun _ => ⟨rfl, ?_⟩⟩
    intro pending
    cases pending with
    | true =>
      apply (passes_completeRequestOwned _ _).bind
      intro completed
      cases completed with
      | none => trivial
      | some owner =>
        refine ⟨rfl, ?_⟩
        intro queue
        apply (passes_fireRequestCancel _ _ _ _ _).bind
        intro _
        trivial
    | false =>
      refine ⟨rfl, ?_⟩
      intro queue
      cases queue with
      | _ => trivial
  · trivial

theorem passes_readyArm (pump : Pump) (token : ServerReadyToken) :
    Passes (readyArm pump token : Prog P (Pump × Bool)) := by
  simp only [readyArm]
  split
  · trivial
  · apply (passes_cancelIfActive _).bind
    intro _
    refine ⟨rfl, ?_⟩
    intro queue
    cases queue with
    | _ => trivial

theorem passes_cancelArm (pump : Pump) (token : ServerCancelToken) :
    Passes (cancelArm opts pump token : Prog P (Pump × Bool)) := by
  unfold cancelArm
  split
  · apply (passes_completeRequestOwned _ _).bind
    intro completed
    cases completed with
    | none => trivial
    | some owner =>
      apply (passes_cancelIfActive _).bind
      intro _
      refine ⟨rfl, fun _ => ⟨rfl, ?_⟩⟩
      intro cause
      apply (passes_fireRequestCancel _ _ _ _ _).bind
      intro _
      trivial
  · trivial

theorem passes_trackingContext (userCtx : Context) :
    Passes (trackingContext opts userCtx : Prog P (Option Nat)) := by
  unfold trackingContext
  split
  · exact ⟨rfl, fun _ => trivial⟩
  · split
    · exact ⟨rfl, fun _ => trivial⟩
    · trivial

theorem passes_dispatchNextRequest (gen : Nat) (clientID : String) :
    Passes (dispatchNextRequest opts gen clientID : Prog P Dispatched) := by
  refine ⟨rfl, ?_⟩
  intro queue
  cases queue with
  | none => trivial
  | some queue =>
    refine ⟨rfl, ?_⟩
    intro front
    cases front with
    | none => trivial
    | some entry =>
      simp only [bind_done]
      split
      · rename_i call jsonMessage _ _
        refine ⟨rfl, ?_⟩
        intro err
        cases err with
        | some err =>
          apply (passes_completeRequestOwned _ _).bind
          intro completed
          cases completed with
          | none => trivial
          | some owner =>
            exact ⟨rfl, fun _ => (passes_fireRequestCancel _ _ _ _ _).bind fun _ => trivial⟩
        | none =>
          refine ⟨rfl, fun _ => ⟨rfl, ?_⟩⟩
          intro failure
          cases failure with
          | some failure =>
            apply (passes_completeRequestOwned _ _).bind
            intro completed
            cases completed with
            | none => trivial
            | some owner => exact (passes_fireRequestCancel _ _ _ _ _).bind fun _ => trivial
          | none =>
            apply (passes_trackingContext _).bind
            intro _
            trivial
      · trivial

/-- What `dispatchLoop` ends with. -/
def dispatchEnd (dispatched : Dispatched) (pump : Pump) (clientID : String) :
    Prog P (Option (Routine P)) :=
  if dispatched.status = .completedNoWrite then do
    match ← mapGet clientID with
    | none => return some (.pumpLoop pump)
    | some queue =>
      if ← isEmpty queue then
        return some (.pumpLoop pump)
      else
        return some (.dispatchLoop pump clientID)
  else return some (.pumpLoop pump)

theorem passes_dispatchLoop (pump : Pump) (clientID : String) :
    Passes (dispatchLoop opts pump clientID : Prog P (Option (Routine P))) := by
  apply (passes_dispatchNextRequest _ _).bind
  intro dispatched
  have asks : Passes (if dispatched.requestID = "" then return false
      else hasPendingRequest clientID : Prog P Bool) := by
    split
    · trivial
    · exact ⟨rfl, fun _ => trivial⟩
  apply asks.bind
  intro known
  have examines (pump : Pump) : Passes (dispatchEnd dispatched pump clientID :
      Prog P (Option (Routine P))) := by
    unfold dispatchEnd
    split
    · refine ⟨rfl, ?_⟩
      intro queue
      cases queue with
      | none => trivial
      | some queue =>
        refine ⟨rfl, ?_⟩
        intro vacant
        cases vacant with
        | _ => trivial
    · trivial
  dsimp only
  split
  · exact ⟨rfl, fun _ => examines _⟩
  · exact examines _

theorem passes_dispatchGuard (pump : Pump) (clientID : String) :
    Passes (dispatchGuard pump clientID : Prog P (Option (Routine P))) := by
  unfold dispatchGuard
  split
  · refine ⟨rfl, ?_⟩
    intro vacant
    cases vacant with
    | true => trivial
    | false =>
      refine ⟨rfl, ?_⟩
      intro pending
      cases pending with
      | _ => trivial
  · trivial

theorem passes_pass {clientID : String} {arm : Prog P (Pump × Bool)} (passes : Passes arm) :
    Passes (pass clientID arm) := by
  apply passes.bind
  rintro ⟨pump, goesOn⟩
  cases goesOn with
  | true => exact passes_dispatchGuard pump clientID
  | false => trivial

/-- A later state of the same pump: its channels were read once. -/
@[reducible] def Pump.Same (pump later : Pump) : Prop :=
  later.reqCh = pump.reqCh ∧ later.doneC = pump.doneC

/-- The pump goes on with another pass. -/
def Pump.Continues (pump : Pump) : Option (Routine P) -> Prop
  | some (.pumpLoop later) => pump.Same later
  | some (.dispatchLoop later _) => pump.Same later
  | _ => False

section

variable (pump : Pump)
include pump

theorem returns_requestArm (req : ServerDispatchRequest) :
    (requestArm pump req : Prog P (Pump × Bool)).Returns (fun result => pump.Same result.1) := by
  intro queue
  cases queue with
  | none => exact returns_bind (cancelIfActive _) fun _ => returns_bind (acknowledge _) fun _ => ⟨rfl, rfl⟩
  | some queue =>
    simp only [bind_done]
    split
    · exact returns_bind (cancelIfActive _) fun _ => returns_bind (acknowledge _) fun _ => ⟨rfl, rfl⟩
    · exact ⟨rfl, rfl⟩

theorem returns_timeoutArm (token : ServerTimeoutToken) :
    (timeoutArm opts pump token : Prog P (Pump × Bool)).Returns
      (fun result => pump.Same result.1) := by
  unfold timeoutArm
  split
  · intro _ pending
    cases pending with
    | true =>
      refine returns_bind (completeRequestOwned _ _) ?_
      intro completed
      cases completed with
      | none => exact ⟨rfl, rfl⟩
      | some owner => exact fun _ => returns_bind (fireRequestCancel _ _ _ _ _ _) fun _ => ⟨rfl, rfl⟩
    | false =>
      intro queue
      cases queue with
      | _ => exact ⟨rfl, rfl⟩
  · exact ⟨rfl, rfl⟩

theorem returns_readyArm (token : ServerReadyToken) :
    (readyArm pump token : Prog P (Pump × Bool)).Returns (fun result => pump.Same result.1) := by
  simp only [readyArm]
  split
  · exact ⟨rfl, rfl⟩
  · refine returns_bind (cancelIfActive _) ?_
    intro _ queue
    cases queue with
    | _ => exact ⟨rfl, rfl⟩

theorem returns_cancelArm (token : ServerCancelToken) :
    (cancelArm opts pump token : Prog P (Pump × Bool)).Returns
      (fun result => pump.Same result.1) := by
  unfold cancelArm
  split
  · refine returns_bind (completeRequestOwned _ _) ?_
    intro completed
    cases completed with
    | none => exact ⟨rfl, rfl⟩
    | some owner =>
      refine returns_bind (cancelIfActive _) ?_
      intro _ _ _
      exact returns_bind (fireRequestCancel _ _ _ _ _ _) fun _ => ⟨rfl, rfl⟩
  · exact ⟨rfl, rfl⟩

theorem returns_dispatchLoop (clientID : String) :
    (dispatchLoop opts pump clientID : Prog P (Option (Routine P))).Returns pump.Continues := by
  apply returns_bind
  intro dispatched
  apply returns_bind
  intro known
  have examines (later : Pump) (same : pump.Same later) :
      (dispatchEnd dispatched later clientID : Prog P (Option (Routine P))).Returns
        pump.Continues := by
    unfold dispatchEnd
    split
    · intro queue
      cases queue with
      | none => exact same
      | some queue =>
        intro vacant
        cases vacant with
        | _ => exact same
    · exact same
  dsimp only
  split
  · exact fun _ => examines _ ⟨rfl, rfl⟩
  · exact examines _ ⟨rfl, rfl⟩

end

theorem returns_dispatchGuard {pump later : Pump} (same : pump.Same later) (clientID : String) :
    (dispatchGuard later clientID : Prog P (Option (Routine P))).Returns pump.Continues := by
  unfold dispatchGuard
  split
  · intro vacant
    cases vacant with
    | true => exact same
    | false =>
      intro pending
      cases pending with
      | _ => exact same
  · exact same

theorem returns_pass {pump : Pump} (clientID : String) {arm : Prog P (Pump × Bool)}
    (returns : arm.Returns (fun result => pump.Same result.1)) :
    (pass clientID arm).Returns pump.Continues := by
  apply returns.bind
  rintro ⟨later, goesOn⟩ same
  cases goesOn with
  | true => exact returns_dispatchGuard same clientID
  | false => exact same

theorem drains_fireStopped (clientID : String) (outstanding : List (ClientEntry P)) :
    Drains (fireStopped opts clientID outstanding) := by
  induction outstanding with
  | nil => trivial
  | cons entry rest ih =>
    unfold fireStopped
    split
    · split
      · exact (uses_fireRequestCancel fun _ _ _ _ _ => rfl).bind fun _ => ih
      · exact ih
    · exact ih

theorem drains_drainDetached (detached : List (Sigma fun _ : String => QueueRef)) :
    Drains (drainDetached opts detached : Prog P Unit) := by
  induction detached with
  | nil => trivial
  | cons queue rest ih =>
    refine ⟨rfl, ?_⟩
    intro outstanding
    apply (drains_fireStopped queue.1 outstanding).bind
    intro _
    exact ih

theorem drains_stopArm : Drains (stopArm opts : Prog P Unit) :=
  ⟨rfl, fun detached => ⟨rfl, fun _ => drains_drainDetached detached⟩⟩

/-! ## Calls from outside -/

theorem calls_stop : Calls (stop : Prog P Unit) := by
  refine ⟨rfl, fun _ => ⟨rfl, fun _ => ⟨rfl, ?_⟩⟩⟩
  intro running
  cases running with
  | true => exact ⟨rfl, fun _ => ⟨rfl, fun _ => ⟨rfl, fun _ => trivial⟩⟩⟩
  | false => exact ⟨rfl, fun _ => trivial⟩

section

variable (clientID : String)
include clientID

theorem calls_createClient : Calls (createClient clientID : Prog P Unit) := by
  refine ⟨rfl, fun _ => ⟨rfl, ?_⟩⟩
  intro running
  cases running with
  | true => exact ⟨rfl, fun _ => ⟨rfl, fun _ => trivial⟩⟩
  | false => exact ⟨rfl, fun _ => trivial⟩

theorem calls_deleteClient : Calls (deleteClient clientID : Prog P Unit) := by
  refine ⟨rfl, fun _ => ⟨rfl, fun _ => ⟨rfl, ?_⟩⟩⟩
  intro running
  cases running with
  | true => exact ⟨rfl, fun _ => ⟨rfl, fun _ => ⟨rfl, fun _ => trivial⟩⟩⟩
  | false => exact ⟨rfl, fun _ => ⟨rfl, fun _ => trivial⟩⟩

theorem calls_deleteClientAndWait : Calls (deleteClientAndWait clientID : Prog P Unit) := by
  refine ⟨rfl, fun _ => ⟨rfl, fun _ => ⟨rfl, fun _ => ⟨rfl, ?_⟩⟩⟩⟩
  intro running
  cases running with
  | true => exact ⟨rfl, fun _ => ⟨rfl, fun _ => ⟨rfl, fun _ => ⟨rfl, fun _ => trivial⟩⟩⟩⟩
  | false => exact ⟨rfl, fun _ => trivial⟩

theorem calls_onClientDisconnected : Calls (onClientDisconnected clientID : Prog P Unit) := by
  apply (calls_deleteClientAndWait clientID).bind
  intro _
  exact ⟨rfl, fun _ => ⟨rfl, fun _ => trivial⟩⟩

end

theorem calls_failed (req : RequestBundle P) (failure : String -> SendError) :
    Calls (failed req failure) := by
  unfold failed
  split
  · trivial
  · exact ⟨rfl, fun _ => trivial⟩

theorem calls_sendRequest (clientID : String) (req : RequestBundle P) :
    Calls (sendRequest opts clientID req) := by
  unfold sendRequest
  split
  · refine ⟨rfl, ?_⟩
    intro queue
    cases queue with
    | none => exact calls_failed req fun uniqueId => .noClient uniqueId clientID
    | some queue =>
      refine ⟨rfl, ?_⟩
      intro pushed
      cases pushed with
      | false => trivial
      | true =>
        refine ⟨rfl, fun _ => ⟨rfl, ?_⟩⟩
        intro running
        cases running with
        | true => exact ⟨rfl, fun _ => ⟨rfl, fun _ => trivial⟩⟩
        | false => exact ⟨rfl, fun _ => calls_failed req .notRunning⟩
  · exact calls_failed req .noNetwork

theorem calls_waitForTimeout (watch : Watch) : Calls (waitForTimeout watch : Prog P Unit) := by
  refine ⟨rfl, ?_⟩
  intro watched
  cases watched with
  | expired => exact ⟨rfl, fun _ => ⟨rfl, fun _ => trivial⟩⟩
  | canceled => exact ⟨rfl, fun _ => trivial⟩
  | userDone => exact ⟨rfl, fun _ => ⟨rfl, fun _ => trivial⟩⟩
  | stopped => exact ⟨rfl, fun _ => trivial⟩

/-- The calls of the environment that neither start the dispatcher nor complete a request, and
the watchers. -/
@[reducible] def Routine.calls : Routine P -> Bool
  | .stop | .createClient _ | .deleteClient _ | .deleteClientAndWait _ | .onClientDisconnected _
  | .sendRequest _ _ | .waitForTimeout _ => true
  | _ => false

/-- The goroutine of the pump. -/
@[reducible] def Routine.pumps : Routine P -> Bool
  | .messagePump | .pumpLoop _ | .dispatchLoop _ _ => true
  | _ => false

theorem calls_body {routine : Routine P} (calls : routine.calls = true) :
    Calls (body opts routine) := by
  cases routine with
  | stop => exact calls_stop.bind fun _ => trivial
  | createClient clientID => exact (calls_createClient clientID).bind fun _ => trivial
  | deleteClient clientID => exact (calls_deleteClient clientID).bind fun _ => trivial
  | deleteClientAndWait clientID =>
    exact (calls_deleteClientAndWait clientID).bind fun _ => ⟨rfl, fun _ => trivial⟩
  | onClientDisconnected clientID => exact (calls_onClientDisconnected clientID).bind fun _ => trivial
  | sendRequest clientID req => exact (calls_sendRequest clientID req).bind fun _ => trivial
  | waitForTimeout watch => exact (calls_waitForTimeout watch).bind fun _ => trivial
  | _ => cases calls

/-- These routines have no following one. -/
theorem returns_body {routine : Routine P} (calls : routine.calls = true) :
    (body opts routine).Returns (fun onward => onward = none) := by
  cases routine with
  | stop => exact returns_bind _ fun _ => rfl
  | createClient clientID => exact returns_bind _ fun _ => rfl
  | deleteClient clientID => exact returns_bind _ fun _ => rfl
  | deleteClientAndWait clientID => exact returns_bind _ fun _ _ => rfl
  | onClientDisconnected clientID => exact returns_bind _ fun _ => rfl
  | sendRequest clientID req => exact returns_bind _ fun _ => rfl
  | waitForTimeout watch => exact returns_bind _ fun _ => rfl
  | _ => cases calls

/-! ## Schedules

How many operations the functions take when nothing gets in their way.
-/

abbrev Schedule (P : Type) := List (Action Choice (Routine P) Event)

def proceed (tid count : Nat) : Schedule P := List.replicate count (.step tid .proceed)

/-- `Start` to its end, and then its pump, the next goroutine, up to its first select. -/
def starting (tid : Nat) : Schedule P :=
  [.call .start] ++ proceed tid 6 ++ [.call .messagePump] ++ proceed (tid + 1) 3

/-- `CreateClient` to its end. -/
def creating (tid : Nat) (clientID : String) : Schedule P :=
  [.call (.createClient clientID)] ++ proceed tid 5

/-- `SendRequest` to its end. -/
def requesting (tid : Nat) (clientID : String) (req : RequestBundle P) : Schedule P :=
  [.call (.sendRequest clientID req)] ++ proceed tid 7

/-- The pump receives a request and writes it, with no timeout and no context to track. -/
def dispatching (tid : Nat) : Schedule P :=
  [.step tid (.arm .request)] ++ proceed tid 8 ++ [.step tid (.network none)] ++
    proceed tid 2

/-- An answer is handled up to the ready token. -/
def answering (tid : Nat) (clientID requestID : String) : Schedule P :=
  [.call (.ocppMessageHandler clientID ⟨.callResult, requestID, true⟩)] ++ proceed tid 5

/-- `Stop` up to its wait for the pump. -/
def stopping (tid : Nat) : Schedule P := [.call .stop] ++ proceed tid 5

/-- The pump leaves through its stop arm; the queues are empty. -/
def draining (tid : Nat) (detached : List (Sigma fun _ : String => QueueRef)) : Schedule P :=
  [.step tid (.arm .stopped), .step tid (.order detached)] ++
    proceed tid (detached.length + 3)

/-- A well-formed bundle without a context. -/
def sample (uniqueId : String) (payload : P) : RequestBundle P :=
  ⟨some ⟨uniqueId, "Reset", some payload⟩, some [], none⟩

/-- A network and a callback are set, and requests do not time out. -/
def sampleOpts : Settings := ⟨true, true, 0⟩

end ServerDispatcher
end OcppGo
