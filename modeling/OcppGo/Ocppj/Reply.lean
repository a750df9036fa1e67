import OcppGo.Ocppj.Endpoint
import OcppGo.Sequential.Emission

namespace OcppGo
namespace Ocppj

open OcppGo.Sequential

/-!
# Sending replies and recovering from panics

The functions that answer an inbound CALL, for the client and for the server.
The two differ only in the destination of a frame: the server names a client,
the client has one peer.  Each function writes to the network through `write`,
whose n-th use fails as the environment decides.
-/

/-- Which user handler panicked. -/
inductive HandlerKind where
  | request
  | response
  | error
  | connect
  | disconnect
  | cancel
  | reconnect
  | invalidMessage
  deriving DecidableEq

/-- The description of a recovered panic, without the stack. -/
structure HandlerPanic where
  clientID : String
  kind : HandlerKind
  action : String
  requestID : String
  value : Panic
  deriving DecidableEq

/-- What a facade hands to its `Errors()` channel. -/
inductive Report where
  | failure (text : String)
  | handlerPanic (report : HandlerPanic)
  deriving DecidableEq

/-- A frame handed to the network.  The destination is empty at a client. -/
structure Transmission where
  dest : String
  frame : Elements

/-- What the answering goroutine reads and changes. -/
structure Wire where
  /-- the switch of `SetMessageValidation` -/
  validationEnabled : Bool
  /-- the error of the n-th network write, if that write fails -/
  failure : Nat -> Option String
  /-- the number of network writes so far -/
  attempts : Nat
  written : List Transmission
  reported : List Report

/-- The network accepts every frame. -/
def Wire.Reliable (wire : Wire) : Prop := ∀ attempt, wire.failure attempt = none

/-- A network that takes everything, with validation switched on. -/
def quietWire : Wire := ⟨true, fun _ => none, 0, [], []⟩

/-- Sequential code of one goroutine. -/
abbrev Go (α : Type) := EStateM Panic Wire α

/-- `Write` of the websocket layer, with the text of its error. -/
def write (dest : String) (frame : Elements) : Go (Option String) := do
  let wire <- get
  match wire.failure wire.attempts with
  | none =>
    set { wire with
      attempts := wire.attempts + 1
      written := wire.written ++ [Transmission.mk dest frame] }
    return none
  | some text =>
    set { wire with attempts := wire.attempts + 1 }
    return some text

/-- `SendError`, up to the destination.  A CALL_ERROR can always be marshalled. -/
def sendErrorTo (dest requestId errorCode description : String) (details : Option Json) :
    Go (Option GoError) := do
  let wire <- get
  match createCallError wire.validationEnabled requestId errorCode description details with
  | .error err => return some err
  | .ok callError =>
    match <- write dest callError.marshalJSON with
    | none => return none
    | some text => return some (.ocpp (some (newError genericError text requestId)))

section Responses

variable {Q R : Type} [Payload R]

/-- `SendResponse`, up to the destination. -/
def sendResponseTo (endpoint : Endpoint Q R) (dest requestId : String) (response : R) :
    Go (Option GoError) := do
  let wire <- get
  match <- lift (endpoint.createCallResult wire.validationEnabled response requestId) with
  | .error err => return some err
  | .ok callResult =>
    match <- lift callResult.marshalJSON with
    | .error text => return some (.ocpp (some (newError genericError text requestId)))
    | .ok frame =>
      match <- write dest frame with
      | none => return none
      | some text => return some (.ocpp (some (newError genericError text requestId)))

end Responses

/-- The error `HandleFailedResponseError` sends in place of a reply. -/
def responseError (dialect : Dialect) (requestID : String) (featureName : String) :
    GoError -> Except Panic (Option OcppError)
  | .validation validationErrors =>
    (errorFromValidation dialect validationErrors requestID featureName).map some
  | .ocpp err => .ok err
  | .other text => text.map fun description => some (newError genericError description requestID)

/-- `HandleFailedResponseError`, up to the destination.  Its own failure is
ignored. -/
def handleFailedResponseErrorTo (dialect : Dialect) (dest requestID : String) (err : GoError)
    (featureName : String) : Go Unit := do
  match <- lift (responseError dialect requestID featureName err) with
  | none => throw .nilDereference
  | some responseErr =>
    let _ <- sendErrorTo dest requestID responseErr.code responseErr.description none

namespace Client

variable {Q R : Type}

def sendError (requestId errorCode description : String) (details : Option Json) :
    Go (Option GoError) :=
  sendErrorTo "" requestId errorCode description details

def sendResponse [Payload R] (client : Endpoint Q R) (requestId : String) (response : R) :
    Go (Option GoError) :=
  sendResponseTo client "" requestId response

def handleFailedResponseError (client : Endpoint Q R) (requestID : String) (err : GoError)
    (featureName : String) : Go Unit :=
  handleFailedResponseErrorTo client.dialect "" requestID err featureName

end Client

namespace Server

variable {Q R : Type}

def sendError (clientID requestId errorCode description : String) (details : Option Json) :
    Go (Option GoError) :=
  sendErrorTo clientID requestId errorCode description details

def sendResponse [Payload R] (server : Endpoint Q R) (clientID requestId : String) (response : R) :
    Go (Option GoError) :=
  sendResponseTo server clientID requestId response

def handleFailedResponseError (server : Endpoint Q R) (clientID requestID : String) (err : GoError)
    (featureName : String) : Go Unit :=
  handleFailedResponseErrorTo server.dialect clientID requestID err featureName

end Server

/-- `guardedCall`. -/
def guardedCall (fn : Go Unit) : Go Unit := tryCatch fn fun _ => pure ()

/-- A guarded call, if there is something to call. -/
def guardedIfSet : Option (Go Unit) -> Go Unit
  | some fn => guardedCall fn
  | none => pure ()

/-- `reportHandlerPanic`. -/
def reportHandlerPanic (report : HandlerPanic) (callback : Option (HandlerPanic -> Go Unit))
    (afterRecover : Option (Go Unit)) : Go Unit := do
  guardedIfSet (callback.map fun cb => cb report)
  guardedIfSet afterRecover

/-- The CALL_ERROR that answers a request whose handler panicked. -/
def panicReply (clientID requestID : String) : Go Unit := do
  let _ <- sendErrorTo clientID requestID internalError "internal error while handling request" none

/-- `RecoverPanicGoroutine` and `recoverHandler`, deferred around a body.  Both
send a CALL_ERROR exactly where a request awaits its reply.  After a recovered
panic the body has the value `recovered`. -/
def recoverPanic {α : Type} (callback : Option (HandlerPanic -> Go Unit)) (kind : HandlerKind)
    (clientID action requestID : String) (sendCallError : Bool) (recovered : α) (body : Go α) :
    Go α :=
  tryCatch body fun value => do
    reportHandlerPanic ⟨clientID, kind, action, requestID, value⟩ callback
      (if sendCallError then some (panicReply clientID requestID) else none)
    return recovered

/-! ## How many frames each function writes -/

/-- The frame is a CALL_RESULT or a CALL_ERROR with the given identifier. -/
def Transmission.IsReply (dest requestId : String) (transmission : Transmission) : Prop :=
  transmission.dest = dest ∧
    ((∃ payload, transmission.frame = [.num 3, .string requestId, payload]) ∨
      ∃ code description details, transmission.frame =
        [.num 4, .string requestId, .string code, .string description, details])

/-- The written frames are the log, and the network stays reliable. -/
def recording : Recording Wire Transmission := ⟨Wire.written, Wire.Reliable⟩

/-- The judgement of `Emits` for the replies to one request. -/
def Replies (dest requestId : String) {α : Type} (prog : Go α)
    (cond : Except Panic α -> Nat -> Prop) : Prop :=
  Emits recording (Transmission.IsReply dest requestId) prog cond

/-- The returned value and the number of replies fit together, and a program
that panics has not replied. -/
def SilentPanic {α : Type} (returns : α -> Nat -> Prop) : Except Panic α -> Nat -> Prop
  | .ok value, count => returns value count
  | .error _, count => count = 0

/-- One reply if the program returns, and none if it panics. -/
def Answered : Except Panic Unit -> Nat -> Prop := SilentPanic fun _ count => count = 1

/-- An error the fallback can turn into a CALL_ERROR. -/
def GoError.Sendable : GoError -> Prop
  | .validation _ => True
  | .ocpp (some err) => isErrorCodeValid err.code = true
  | .ocpp none => False
  | .other _ => False

/-- A send ends with its one frame written, or with an error that the fallback
can send. -/
def SentOrSendable : Except Panic (Option GoError) -> Nat -> Prop
  | .ok none, count => count = 1
  | .ok (some err), count => count = 0 ∧ err.Sendable
  | .error _, count => count = 0

section Counting

variable {dest requestId : String}

variable {frame : Elements}

theorem replies_write (reply : Transmission.IsReply dest requestId ⟨dest, frame⟩) :
    Replies dest requestId (write dest frame)
      fun result count => result = .ok none ∧ count = 1 := by
  intro wire reliable
  have ran : write dest frame wire = .ok none { wire with
      attempts := wire.attempts + 1
      written := wire.written ++ [⟨dest, frame⟩] } := by
    simp only [write, bind, EStateM.bind, get, getThe, MonadStateOf.get]
    delta EStateM.get
    dsimp only
    rw [reliable wire.attempts]
    rfl
  rw [ran]
  refine ⟨reliable, [⟨dest, frame⟩], rfl, ?_, rfl, rfl⟩
  intro entry mem
  rwa [List.mem_singleton.mp mem]

variable {code description : String} {details : Option Json}

/-- What the identifier and the code decide about an outgoing CALL_ERROR. -/
theorem validate_callError (identifier : ValidIdentifier requestId) :
    (CallError.mk requestId code description details).validate = [] <->
      isErrorCodeValid code = true := by
  unfold CallError.validate
  rw [checkIdentifier_eq_nil.mpr identifier]
  cases isErrorCodeValid code with
  | _ => simp

variable {validationEnabled : Bool}

theorem createCallError_of_valid (identifier : ValidIdentifier requestId)
    (valid : isErrorCodeValid code = true) :
    createCallError validationEnabled requestId code description details =
      .ok ⟨requestId, code, description, details⟩ := by
  unfold createCallError
  simp only [(validate_callError identifier).mpr valid]
  exact ite_self _

variable {err : GoError}

theorem createCallError_sendable
    (created : createCallError validationEnabled requestId code description details = .error err) :
    err.Sendable := by
  unfold createCallError at created
  cases validationEnabled with
  | false => cases created
  | true =>
    simp only [if_true] at created
    split at created
    · cases created
    · cases created
      trivial

/-- The rest of a send, once the frame is there. -/
theorem replies_transmit (reply : Transmission.IsReply dest requestId ⟨dest, frame⟩)
    {text : String -> GoError} :
    Replies dest requestId (do
      match <- write dest frame with
      | none => return none
      | some reason => return some (text reason))
      fun result count => result = .ok none ∧ count = 1 := by
  refine Emits.bind (replies_write reply) ?_ ?_
  · intro value count sent
    obtain ⟨ret, counted⟩ := sent
    cases ret
    exact Emits.pure ⟨rfl, counted⟩
  · intro panic count sent
    cases sent.1

/-- The frame of a CALL_ERROR is a reply. -/
theorem isReply_callError :
    Transmission.IsReply dest requestId
      ⟨dest, (CallError.mk requestId code description details).marshalJSON⟩ :=
  ⟨rfl, .inr ⟨code, description, _, rfl⟩⟩

theorem replies_sendErrorTo {errorCode : String} :
    Replies dest requestId
      (sendErrorTo dest requestId errorCode description details) SentOrSendable := by
  refine Emits.reading fun wire => ?_
  cases created : createCallError wire.validationEnabled requestId errorCode description details with
  | error err => exact Emits.pure ⟨rfl, createCallError_sendable created⟩
  | ok callError =>
    rw [(createCallError_ok created).1]
    refine (replies_transmit isReply_callError).mono ?_
    rintro result count ⟨rfl, counted⟩
    exact counted

/-- With a valid code the CALL_ERROR is sent. -/
theorem replies_sendErrorTo_of_valid {errorCode : String} (identifier : ValidIdentifier requestId)
    (valid : isErrorCodeValid errorCode = true) :
    Replies dest requestId
      (sendErrorTo dest requestId errorCode description details)
      fun result count => result = .ok none ∧ count = 1 := by
  refine Emits.reading fun wire => ?_
  rw [createCallError_of_valid identifier valid]
  exact replies_transmit isReply_callError

section Responses

variable {Q R : Type} [Payload R]

/-- The three ends of `CreateCallResult`. -/
theorem createCallResult_cases (endpoint : Endpoint Q R) (validationEnabled : Bool)
    (confirmation : R) (uniqueId : String) :
    (∃ panic, endpoint.createCallResult validationEnabled confirmation uniqueId =
      .error panic) ∨
    (∃ err : GoError, err.Sendable ∧
      endpoint.createCallResult validationEnabled confirmation uniqueId = .ok (.error err)) ∨
    endpoint.createCallResult validationEnabled confirmation uniqueId =
      .ok (.ok ⟨uniqueId, confirmation⟩) := by
  unfold Endpoint.createCallResult
  dsimp only
  cases endpoint.getProfileForFeature (Payload.getFeatureName confirmation) with
  | none =>
    have valid : isErrorCodeValid notSupported = true := by decide
    refine .inr (.inl ⟨_, ?_, rfl⟩)
    exact valid
  | some profile =>
    cases validationEnabled with
    | false => exact .inr (.inr rfl)
    | true =>
      cases (CallResult.mk uniqueId confirmation).validate with
      | error panic => exact .inl ⟨panic, rfl⟩
      | ok violations =>
        cases violations with
        | nil => exact .inr (.inr rfl)
        | cons violation rest => exact .inr (.inl ⟨.validation _, trivial, rfl⟩)

/-- The frame of a CALL_RESULT is a reply. -/
theorem isReply_callResult {response : R}
    (marshalled : (CallResult.mk requestId response).marshalJSON = .ok (.ok frame)) :
    Transmission.IsReply dest requestId ⟨dest, frame⟩ :=
  ⟨rfl, .inl (frame_of_callResult marshalled)⟩

theorem replies_sendResponseTo {endpoint : Endpoint Q R} {response : R} :
    Replies dest requestId (sendResponseTo endpoint dest requestId response)
      SentOrSendable := by
  refine Emits.reading fun wire => Emits.lifting ?_ fun _ _ => rfl
  intro result created
  rcases createCallResult_cases endpoint wire.validationEnabled response requestId with
    ⟨panic, failed⟩ | ⟨err, sendable, failed⟩ | made
  · rw [failed] at created
    cases created
  · rw [failed] at created
    cases created
    exact Emits.pure ⟨rfl, sendable⟩
  · rw [made] at created
    cases created
    refine Emits.lifting ?_ fun _ _ => rfl
    intro marshalled encoded
    cases marshalled with
    | error text => exact Emits.pure ⟨rfl, (by decide : isErrorCodeValid genericError = true)⟩
    | ok frame =>
      refine (replies_transmit (isReply_callResult encoded)).mono ?_
      rintro result count ⟨rfl, counted⟩
      exact counted

end Responses

/-- What is sent in place of a reply carries a valid code. -/
theorem responseError_valid {dialect : Dialect} {featureName : String} (sendable : err.Sendable)
    {replacement : Option OcppError}
    (made : responseError dialect requestId featureName err = .ok replacement) :
    ∃ responseErr, replacement = some responseErr ∧
      isErrorCodeValid responseErr.code = true := by
  cases err with
  | validation validationErrors =>
    cases converted : errorFromValidation dialect validationErrors requestId featureName with
    | error panic =>
      simp only [responseError, converted] at made
      cases made
    | ok responseErr =>
      simp only [responseError, converted] at made
      cases made
      exact ⟨responseErr, rfl, (errorFromValidation_sound converted).1⟩
  | ocpp pointer =>
    cases pointer with
    | none => exact sendable.elim
    | some responseErr =>
      cases made
      exact ⟨responseErr, rfl, sendable⟩
  | other text => exact sendable.elim

/-- The fallback sends one frame for every error a send can return. -/
theorem replies_handleFailedResponseErrorTo {dialect : Dialect} {featureName : String}
    (identifier : ValidIdentifier requestId) (sendable : err.Sendable) :
    Replies dest requestId
      (handleFailedResponseErrorTo dialect dest requestId err featureName) Answered := by
  refine Emits.lifting ?_ fun _ _ => rfl
  intro replacement made
  obtain ⟨responseErr, rfl, valid⟩ := responseError_valid sendable made
  refine Emits.bind (replies_sendErrorTo_of_valid identifier valid) ?_ ?_
  · rintro _ count ⟨_, counted⟩
    exact Emits.pure counted
  · rintro panic count ⟨ret, _⟩
    cases ret

/-- A guarded call never panics. -/
theorem replies_guardedCall {fn : Go Unit} {cond : Nat -> Prop}
    (emits : Replies dest requestId fn fun _ count => cond count) :
    Replies dest requestId (guardedCall fn)
      fun result count => result = .ok () ∧ cond count := by
  refine Emits.tryCatch emits (fun _ _ holds => ⟨rfl, holds⟩) ?_
  intro panic count holds
  exact Emits.pure ⟨rfl, holds⟩

variable (identifier : ValidIdentifier requestId)
include identifier

/-- The CALL_ERROR after a panic is sent. -/
theorem replies_panicReply :
    Replies dest requestId (panicReply dest requestId)
      fun _ count => count = 1 := by
  have valid : isErrorCodeValid internalError = true := by decide
  refine Emits.bind (replies_sendErrorTo_of_valid identifier valid) ?_ ?_
  · rintro _ count ⟨_, counted⟩
    exact Emits.pure counted
  · rintro panic count ⟨ret, _⟩
    cases ret

variable {callback : Option (HandlerPanic -> Go Unit)}

theorem replies_reportHandlerPanic {report : HandlerPanic}
    (quiet : ∀ cb, callback = some cb ->
      Replies dest requestId (cb report) fun _ count => count = 0) :
    Replies dest requestId
      (reportHandlerPanic report callback (some (panicReply dest requestId)))
      fun result count => result = .ok () ∧ count = 1 := by
  have notified : Replies dest requestId (guardedIfSet (callback.map fun cb => cb report))
      fun result count => result = .ok () ∧ count = 0 := by
    cases callback with
    | none => exact Emits.pure ⟨rfl, rfl⟩
    | some cb => exact replies_guardedCall (quiet cb rfl)
  refine Emits.bind notified ?_ ?_
  · rintro _ _ ⟨_, rfl⟩
    refine (replies_guardedCall (replies_panicReply identifier)).mono ?_
    rintro result count ⟨ret, counted⟩
    exact ⟨ret, by omega⟩
  · rintro panic count ⟨ret, _⟩
    cases ret

/-- Recovering makes up for the reply a panic has prevented, if the panic
callback does not write to the network itself. -/
theorem replies_recoverPanic {α : Type} {kind : HandlerKind} {action : String} {recovered : α}
    {body : Go α} {returns : α -> Nat -> Prop}
    (quiet : ∀ cb report, callback = some cb ->
      Replies dest requestId (cb report) fun _ count => count = 0)
    (settled : returns recovered 1)
    (answers : Replies dest requestId body (SilentPanic returns)) :
    Replies dest requestId
      (recoverPanic callback kind dest action requestId true recovered body)
      fun result count => ∃ value, result = .ok value ∧ returns value count := by
  refine Emits.tryCatch answers (fun value _ holds => ⟨value, rfl, holds⟩) ?_
  rintro value _ rfl
  refine Emits.bind (replies_reportHandlerPanic identifier fun cb set => quiet cb _ set) ?_ ?_
  · rintro _ _ ⟨_, rfl⟩
    exact Emits.pure ⟨recovered, rfl, settled⟩
  · rintro panic count ⟨ret, _⟩
    cases ret

end Counting

end Ocppj
end OcppGo
