import OcppGo.Ocppj.Reply

namespace OcppGo
namespace Ocpp16

open Ocppj OcppGo.Sequential

/-!
# Inbound requests at the OCPP 1.6 facades

The charge point and the central system answer a CALL with the same functions;
they differ in the actions they know, the handlers they check, the texts of
their errors, and the goroutine that runs the handler.
-/

/-- The handler interfaces of the profiles. -/
inductive Handler where
  | core
  | localAuthList
  | firmware
  | reservation
  | remoteTrigger
  | smartCharging
  | security
  | log
  | extendedTriggerMessage
  | secureFirmware
  | certificate
  deriving DecidableEq

/-- What a user's handler does.  A handler returns a pointer, so the
confirmation is never the nil interface but may be a typed nil. -/
inductive HandlerOutcome (R : Type) where
  | ret (confirmation : Option R) (err : Option GoError)
  | panicked (value : Panic)

/-- What a facade is given by its user: the endpoint, which handlers are set,
what each handler does with a request, whether the request has the type the
case of its action asserts, and the two panic hooks. -/
structure Setup (Q R : Type) where
  endpoint : Endpoint Q R
  installed : Handler -> Bool
  handle : String -> Q -> HandlerOutcome R
  asserts : String -> Q -> Bool
  prevOnHandlerPanic : Option (HandlerPanic -> Except Panic Unit)
  onHandlerPanic : Option (HandlerPanic -> Except Panic Unit)

/-- The texts in which the facades differ.  All but the first two are only
reported on `Errors()`; those take the text of the wrapped error last. -/
structure Phrases where
  unsupportedAction : String -> String
  emptyConfirmation : String -> String
  notImplementedFailed : String -> String -> String
  notSupportedFailed : String -> String -> String
  errorFailed : String -> String -> String
  responseFailed : String -> String -> String

/-- A facade as far as it answers requests. -/
structure Facade (Q R : Type) extends Setup Q R where
  /-- the peer a reply goes to -/
  dest : String
  /-- the handler that is checked for a profile -/
  profileHandler : String -> Option Handler
  /-- the handler that the case of an action calls -/
  actionHandler : String -> Option Handler
  phrases : Phrases

namespace ChargePoint

def profileHandler : String -> Option Handler
  | "Core" => some .core
  | "LocalAuthListManagement" => some .localAuthList
  | "FirmwareManagement" => some .firmware
  | "Reservation" => some .reservation
  | "RemoteTrigger" => some .remoteTrigger
  | "SmartCharging" => some .smartCharging
  | "Security" => some .security
  | "Log" => some .log
  | "ExtendedTriggerMessage" => some .extendedTriggerMessage
  | "SecureFirmwareUpdate" => some .secureFirmware
  | "Certificates" => some .certificate
  | _ => none

def actionHandler : String -> Option Handler
  | "ChangeAvailability" => some .core
  | "ChangeConfiguration" => some .core
  | "ClearCache" => some .core
  | "DataTransfer" => some .core
  | "GetConfiguration" => some .core
  | "RemoteStartTransaction" => some .core
  | "RemoteStopTransaction" => some .core
  | "Reset" => some .core
  | "UnlockConnector" => some .core
  | "GetLocalListVersion" => some .localAuthList
  | "SendLocalList" => some .localAuthList
  | "GetDiagnostics" => some .firmware
  | "UpdateFirmware" => some .firmware
  | "ReserveNow" => some .reservation
  | "CancelReservation" => some .reservation
  | "TriggerMessage" => some .remoteTrigger
  | "SetChargingProfile" => some .smartCharging
  | "ClearChargingProfile" => some .smartCharging
  | "GetCompositeSchedule" => some .smartCharging
  | "CertificateSigned" => some .security
  | "GetLog" => some .log
  | "SignedUpdateFirmware" => some .secureFirmware
  | "GetInstalledCertificateIds" => some .certificate
  | "DeleteCertificate" => some .certificate
  | "InstallCertificate" => some .certificate
  | "ExtendedTriggerMessage" => some .extendedTriggerMessage
  | _ => none

def phrases : Phrases where
  unsupportedAction action := "unsupported action " ++ action ++ " on charge point"
  emptyConfirmation requestId := "empty confirmation to request " ++ requestId
  notImplementedFailed requestId err :=
    "replying cs to request " ++ requestId ++ " with 'not implemented': " ++ err
  notSupportedFailed requestId err :=
    "replying cs to request " ++ requestId ++ " with 'not supported': " ++ err
  errorFailed requestId err :=
    "replying to request " ++ requestId ++ " with 'internal error' failed: " ++ err
  responseFailed requestId err := "failed responding to request " ++ requestId ++ ": " ++ err

/-- The charge point has one peer. -/
def facade {Q R : Type} (setup : Setup Q R) : Facade Q R where
  toSetup := setup
  dest := ""
  profileHandler := profileHandler
  actionHandler := actionHandler
  phrases := phrases

end ChargePoint

namespace CentralSystem

/-- Two profiles of the charge point are not checked here: the central system
has no handler for them. -/
def profileHandler : String -> Option Handler
  | "Core" => some .core
  | "LocalAuthListManagement" => some .localAuthList
  | "FirmwareManagement" => some .firmware
  | "Reservation" => some .reservation
  | "RemoteTrigger" => some .remoteTrigger
  | "SmartCharging" => some .smartCharging
  | "Log" => some .log
  | "Security" => some .security
  | "SecureFirmwareUpdate" => some .secureFirmware
  | _ => none

def actionHandler : String -> Option Handler
  | "BootNotification" => some .core
  | "Authorize" => some .core
  | "DataTransfer" => some .core
  | "Heartbeat" => some .core
  | "MeterValues" => some .core
  | "StartTransaction" => some .core
  | "StopTransaction" => some .core
  | "StatusNotification" => some .core
  | "DiagnosticsStatusNotification" => some .firmware
  | "FirmwareStatusNotification" => some .firmware
  | "SignCertificate" => some .security
  | "SecurityEventNotification" => some .security
  | "LogStatusNotification" => some .log
  | "SignedFirmwareStatusNotification" => some .secureFirmware
  | _ => none

def phrases (chargePointId : String) : Phrases where
  unsupportedAction action := "unsupported action " ++ action ++ " on central system"
  emptyConfirmation requestId :=
    "empty confirmation to " ++ chargePointId ++ " for request " ++ requestId
  notImplementedFailed requestId err := "replying cp " ++ chargePointId ++ " to request " ++
    requestId ++ " with 'not implemented': " ++ err
  notSupportedFailed requestId err := "replying cp " ++ chargePointId ++ " to request " ++
    requestId ++ " with 'not supported': " ++ err
  errorFailed requestId err := "error replying cp " ++ chargePointId ++ " to request " ++
    requestId ++ " with 'internal error': " ++ err
  responseFailed requestId err := "error replying cp " ++ chargePointId ++ " to request " ++
    requestId ++ ": " ++ err

/-- The central system as it serves one charge point. -/
def facade {Q R : Type} (setup : Setup Q R) (chargePointId : String) : Facade Q R where
  toSetup := setup
  dest := chargePointId
  profileHandler := profileHandler
  actionHandler := actionHandler
  phrases := phrases chargePointId

end CentralSystem

/-! ## Answering -/

namespace Facade

variable {Q R : Type}

/-- `error`: the report is handed to the `Errors()` channel.  Whether there is
room for it, or a reader, does not matter to the reply. -/
def error (report : Report) : Go Unit :=
  modify fun wire => { wire with reported := wire.reported ++ [report] }

/-- `fmt.Errorf` with `%w`; printing a nil `*ocpp.Error` does not panic. -/
def wrapped (err : GoError) : String :=
  match err.error with
  | .ok text => text
  | .error _ => "<nil>"

/-- A hook of the user, if it is set. -/
def runHook (hook : Option (HandlerPanic -> Except Panic Unit)) (report : HandlerPanic) : Go Unit :=
  match hook with
  | some h => lift (h report)
  | none => pure ()

/-- The callback a facade installs with `SetOnHandlerPanic`. -/
def panicCallback (facade : Facade Q R) (report : HandlerPanic) : Go Unit := do
  error (.handlerPanic report)
  runHook facade.prevOnHandlerPanic report
  runHook facade.onHandlerPanic report

/-- A CALL_ERROR that stands in for a handler, and the report if it fails. -/
def refuse (facade : Facade Q R) (requestId code description : String)
    (phrase : String -> String -> String) : Go Unit := do
  match <- sendErrorTo facade.dest requestId code description none with
  | none => pure ()
  | some err => error (.failure (phrase requestId (wrapped err)))

def notImplementedError (facade : Facade Q R) (requestId action : String) : Go Unit :=
  facade.refuse requestId notImplemented ("no handler for action " ++ action ++ " implemented")
    facade.phrases.notImplementedFailed

def notSupportedError (facade : Facade Q R) (requestId action : String) : Go Unit :=
  facade.refuse requestId notSupported (facade.phrases.unsupportedAction action)
    facade.phrases.notSupportedFailed

/-- The CALL_ERROR for an error a handler returned.  A nil `*ocpp.Error` is not
a nil `error`, and reading its code panics. -/
def sendHandlerError (facade : Facade Q R) (err : GoError) (requestId : String) :
    Go (Option GoError) :=
  match err with
  | .ocpp none => throw .nilDereference
  | .ocpp (some ocppError) =>
    sendErrorTo facade.dest requestId ocppError.code ocppError.description none
  | plain => do
      let text <- lift plain.error
      sendErrorTo facade.dest requestId internalError text none

/-- What follows a failed reply: a default error, and a report. -/
def fallBack (facade : Facade Q R) (requestId : String) (err : GoError) (featureName : String)
    (phrase : String -> String -> String) : Go Unit := do
  handleFailedResponseErrorTo facade.endpoint.dialect facade.dest requestId err featureName
  error (.failure (phrase requestId (wrapped err)))

/-- `sendResponse`. -/
def sendResponse [Payload R] (facade : Facade Q R) (confirmation : Option (Option R))
    (err : Option GoError) (requestId : String) : Go Unit := do
  match err with
  | some err =>
    match <- facade.sendHandlerError err requestId with
    | none => pure ()
    | some failure => facade.fallBack requestId failure "" facade.phrases.errorFailed
  | none =>
    match confirmation with
    | some (some response) =>
      match <- sendResponseTo facade.endpoint facade.dest requestId response with
      | none => pure ()
      | some failure =>
        facade.fallBack requestId failure (Payload.getFeatureName response)
          facade.phrases.responseFailed
    | _ =>
      -- the nil interface and a typed nil are not told apart
      let text := facade.phrases.emptyConfirmation requestId
      let _ <- sendErrorTo facade.dest requestId genericError text none
      error (.failure text)

/-- The part of `handleIncomingRequest` before the handler runs.  Without a
refusal the request goes on to the switch over the actions. -/
def admits (facade : Facade Q R) (requestId action : String) : Go Bool := do
  match facade.endpoint.getProfileForFeature action with
  | none =>
    facade.notImplementedError requestId action
    return false
  | some profile =>
    match facade.profileHandler profile.name with
    | none => return true
    | some handler =>
      if facade.installed handler then
        return true
      else
        facade.notSupportedError requestId action
        return false

/-- The call of the handler in the case of an action.  The type assertion on the
request and a call through a nil handler panic. -/
def callHandler (facade : Facade Q R) (handler : Handler) (request : Q) (action : String) :
    Except Panic (Option R × Option GoError) :=
  if facade.asserts action request then
    if facade.installed handler then
      match facade.handle action request with
      | .ret confirmation err => .ok (confirmation, err)
      | .panicked value => .error value
    else .error .nilDereference
  else .error .typeAssertion

/-- The switch over the actions, and the reply. -/
def process [Payload R] (facade : Facade Q R) (request : Q) (requestId action : String) :
    Go Unit := do
  match facade.actionHandler action with
  | none => facade.notSupportedError requestId action
  | some handler =>
    let ans <- lift (facade.callHandler handler request action)
    facade.sendResponse (some ans.1) ans.2 requestId

end Facade

namespace ChargePoint

variable {Q R : Type} [Payload R]

def handleIncomingRequest (setup : Setup Q R) (request : Q) (requestId action : String) :
    Go Unit := do
  if <- (facade setup).admits requestId action then
    (facade setup).process request requestId action

/-- The `incomingRequest` arm of `asyncCallbackHandler`. -/
def serve (setup : Setup Q R) (request : Q) (requestID action : String) : Go Unit :=
  recoverPanic (some (facade setup).panicCallback) .request "" action requestID true ()
    (handleIncomingRequest setup request requestID action)

end ChargePoint

namespace CentralSystem

variable {Q R : Type} [Payload R]

/-- The result is the goroutine that is started, if one is. -/
def handleIncomingRequest (setup : Setup Q R) (chargePointId : String) (request : Q)
    (requestId action : String) : Go (Option (Go Unit)) := do
  let facade := facade setup chargePointId
  if <- facade.admits requestId action then
    return some (recoverPanic (some facade.panicCallback) .request chargePointId action requestId
      true () (facade.process request requestId action))
  else
    return none

/-- The CALL branch of the server's message handler, on the read goroutine,
and then the goroutine started for the handler. -/
def serve (setup : Setup Q R) (chargePointId : String) (request : Q) (requestID action : String) :
    Go Unit := do
  let started <- recoverPanic (some (facade setup chargePointId).panicCallback) .request
    chargePointId action requestID true none
    (handleIncomingRequest setup chargePointId request requestID action)
  match started with
  | none => pure ()
  | some goroutine => goroutine

end CentralSystem

/-! ## Exactly one reply -/

section Counting

variable {Q R : Type} {requestId action : String}

namespace Facade

variable {dest : String}

theorem replies_error {report : Report} :
    Replies dest requestId (error report)
      fun result count => result = .ok () ∧ count = 0 :=
  Emits.modifying (fun _ => rfl) (fun _ reliable => reliable) ⟨rfl, rfl⟩

theorem replies_runHook {hook : Option (HandlerPanic -> Except Panic Unit)} {report : HandlerPanic}
    : Replies dest requestId (runHook hook report) fun _ count => count = 0 := by
  unfold runHook
  cases hook with
  | none => exact Emits.pure rfl
  | some h =>
    simp only
    cases h report with
    | ok value => exact Emits.pure rfl
    | error panic => exact Emits.throw rfl

/-- The panic callback writes nothing to the network. -/
theorem replies_panicCallback (facade : Facade Q R) (report : HandlerPanic) :
    Replies dest requestId (facade.panicCallback report) fun _ count => count = 0 := by
  refine Emits.bind replies_error ?_ fun _ _ holds => holds.2
  rintro _ _ ⟨_, rfl⟩
  refine Emits.bind replies_runHook ?_ fun _ _ holds => by omega
  rintro _ _ rfl
  exact replies_runHook.mono fun _ _ holds => by omega

variable {facade : Facade Q R}

theorem replies_sendHandlerError {err : GoError} :
    Replies facade.dest requestId (facade.sendHandlerError err requestId)
      SentOrSendable := by
  cases err with
  | ocpp pointer =>
    cases pointer with
    | none => exact Emits.throw rfl
    | some ocppError => exact replies_sendErrorTo
  | validation validationErrors =>
    exact Emits.lifting (fun _ _ => replies_sendErrorTo) fun _ _ => rfl
  | other text => exact Emits.lifting (fun _ _ => replies_sendErrorTo) fun _ _ => rfl

/-- A send followed by its fallback replies exactly once. -/
theorem replies_send_orElse {send : Go (Option GoError)} {fallback : GoError -> Go Unit}
    (sends : Replies facade.dest requestId send SentOrSendable)
    (falls : ∀ err, err.Sendable ->
      Replies facade.dest requestId (fallback err) Answered) :
    Replies facade.dest requestId (do
      match <- send with
      | none => pure ()
      | some failure => fallback failure) Answered := by
  refine Emits.bind sends ?_ fun _ _ holds => holds
  intro result count holds
  cases result with
  | none => exact Emits.pure holds
  | some failure =>
    obtain ⟨rfl, sendable⟩ := holds
    refine (falls failure sendable).mono ?_
    intro outcome more answered
    rwa [Nat.zero_add]

variable (identifier : ValidIdentifier requestId)
include identifier

variable {phrase : String -> String -> String}

theorem replies_refuse {code description : String} (valid : isErrorCodeValid code = true) :
    Replies facade.dest requestId (facade.refuse requestId code description phrase)
      Answered := by
  refine Emits.bind (replies_sendErrorTo_of_valid identifier valid) ?_ ?_
  · rintro _ count ⟨ret, counted⟩
    cases ret
    exact Emits.pure counted
  · rintro panic count ⟨ret, _⟩
    cases ret

theorem replies_notImplementedError :
    Replies facade.dest requestId (facade.notImplementedError requestId action) Answered :=
  replies_refuse identifier (by decide)

theorem replies_notSupportedError :
    Replies facade.dest requestId (facade.notSupportedError requestId action) Answered :=
  replies_refuse identifier (by decide)

theorem replies_fallBack {err : GoError} {featureName : String} (sendable : err.Sendable) :
    Replies facade.dest requestId (facade.fallBack requestId err featureName phrase)
      Answered := by
  refine Emits.bind (replies_handleFailedResponseErrorTo identifier sendable) ?_
    (fun _ _ holds => holds)
  intro _ count counted
  refine replies_error.mono ?_
  rintro _ more ⟨rfl, rfl⟩
  exact counted

/-- A refused request has its reply; an admitted one still lacks it. -/
theorem replies_admits :
    Replies facade.dest requestId (facade.admits requestId action)
      (SilentPanic fun admitted count => count = if admitted then 0 else 1) := by
  have refused : ∀ {refusal : Go Unit},
      Replies facade.dest requestId refusal Answered ->
      Replies facade.dest requestId (do refusal; return false)
        (SilentPanic fun admitted count => count = if admitted then 0 else 1) := by
    intro refusal answered
    refine Emits.bind answered ?_ fun _ _ holds => holds
    intro _ count counted
    exact Emits.pure counted
  unfold admits
  cases facade.endpoint.getProfileForFeature action with
  | none => exact refused (replies_notImplementedError identifier)
  | some profile =>
    simp only
    cases facade.profileHandler profile.name with
    | none => exact Emits.pure rfl
    | some handler =>
      simp only
      split
      · exact Emits.pure rfl
      · exact refused (replies_notSupportedError identifier)

variable [Payload R]

/-- Whatever a handler returned, the request is answered once. -/
theorem replies_sendResponse {confirmation : Option (Option R)} {err : Option GoError} :
    Replies facade.dest requestId (facade.sendResponse confirmation err requestId)
      Answered := by
  have empty : Replies facade.dest requestId (do
      let _ <- sendErrorTo facade.dest requestId genericError
        (facade.phrases.emptyConfirmation requestId) none
      error (.failure (facade.phrases.emptyConfirmation requestId))) Answered := by
    refine Emits.bind (replies_sendErrorTo_of_valid identifier (by decide)) ?_ ?_
    · rintro _ _ ⟨_, rfl⟩
      refine replies_error.mono ?_
      rintro _ _ ⟨rfl, rfl⟩
      rfl
    · rintro panic count ⟨ret, _⟩
      cases ret
  cases err with
  | some err =>
    exact replies_send_orElse replies_sendHandlerError fun _ sendable =>
      replies_fallBack identifier sendable
  | none =>
    cases confirmation with
    | none => exact empty
    | some pointer =>
      cases pointer with
      | none => exact empty
      | some response =>
        exact replies_send_orElse replies_sendResponseTo fun _ sendable =>
          replies_fallBack identifier sendable

theorem replies_process {request : Q} :
    Replies facade.dest requestId (facade.process request requestId action) Answered := by
  unfold process
  cases facade.actionHandler action with
  | none => exact replies_notSupportedError identifier
  | some handler =>
    exact Emits.lifting (fun _ _ => replies_sendResponse identifier) fun _ _ => rfl

end Facade

/-- The panic callback of a facade writes nothing, as recovering needs it. -/
theorem Facade.quiet (facade : Facade Q R) {dest : String} :
    ∀ cb report, some facade.panicCallback = some cb ->
      Replies dest requestId (cb report) fun _ count => count = 0 := by
  intro cb report set
  cases set
  exact facade.replies_panicCallback report

variable [Payload R] (setup : Setup Q R)

/-- The arm of the async handler replies exactly once and never panics. -/
theorem ChargePoint.replies_serve {request : Q} (identifier : ValidIdentifier requestId) :
    Replies "" requestId (ChargePoint.serve setup request requestId action)
      fun result count => result = .ok () ∧ count = 1 := by
  have handled : Replies "" requestId
      (ChargePoint.handleIncomingRequest setup request requestId action) Answered := by
    have admits : Replies "" requestId ((ChargePoint.facade setup).admits requestId action) _ :=
      Facade.replies_admits identifier
    refine Emits.bind admits ?_ fun _ _ holds => holds
    intro admitted count counted
    cases admitted with
    | false => exact Emits.pure counted
    | true =>
      have processed : Replies "" requestId
          ((ChargePoint.facade setup).process request requestId action) Answered :=
        Facade.replies_process identifier
      refine processed.mono ?_
      intro outcome more answered
      rw [show count = 0 from counted, Nat.zero_add]
      exact answered
  refine (replies_recoverPanic identifier (Facade.quiet _) ?_ handled).mono ?_
  · rfl
  · rintro result count ⟨value, rfl, counted⟩
    exact ⟨rfl, counted⟩

/-- The read goroutine and the goroutine it starts reply exactly once together. -/
theorem CentralSystem.replies_serve {chargePointId : String} {request : Q}
    (identifier : ValidIdentifier requestId) :
    Replies chargePointId requestId
      (CentralSystem.serve setup chargePointId request requestId action)
      fun result count => result = .ok () ∧ count = 1 := by
  have processed : Replies chargePointId requestId
      ((CentralSystem.facade setup chargePointId).process request requestId action)
      Answered := Facade.replies_process identifier
  have goroutine : Replies chargePointId requestId
      (recoverPanic (some (CentralSystem.facade setup chargePointId).panicCallback) .request
        chargePointId action requestId true ()
        ((CentralSystem.facade setup chargePointId).process request requestId action))
      fun result count => result = .ok () ∧ count = 1 := by
    refine (replies_recoverPanic identifier (Facade.quiet _) ?_ processed).mono ?_
    · rfl
    · rintro result count ⟨value, rfl, counted⟩
      exact ⟨rfl, counted⟩
  -- what the read goroutine returns is that goroutine, or nothing after a refusal
  have started : Replies chargePointId requestId
      (CentralSystem.handleIncomingRequest setup chargePointId request requestId action)
      (SilentPanic fun started count => match started with
        | none => count = 1
        | some body => count = 0 ∧ Replies chargePointId requestId body
            fun result more => result = .ok () ∧ more = 1) := by
    have admits : Replies chargePointId requestId
        ((CentralSystem.facade setup chargePointId).admits requestId action) _ :=
      Facade.replies_admits identifier
    refine Emits.bind admits ?_ fun _ _ holds => holds
    intro admitted count counted
    cases admitted with
    | false => exact Emits.pure counted
    | true => exact Emits.pure ⟨counted, goroutine⟩
  refine Emits.bind (replies_recoverPanic identifier (Facade.quiet _) ?_ started) ?_ ?_
  · rfl
  · rintro value count ⟨_, ret, holds⟩
    cases ret
    cases value with
    | none => exact Emits.pure ⟨rfl, holds⟩
    | some body =>
      refine holds.2.mono ?_
      rintro result more ⟨ret, counted⟩
      exact ⟨ret, by rw [holds.1, counted]⟩
  · rintro panic count ⟨_, ret, _⟩
    cases ret

end Counting

/-- One reply, read off the judgement. -/
theorem written_of_replies {dest requestId : String} {prog : Go Unit}
    (replies : Replies dest requestId prog
      fun result count => result = .ok () ∧ count = 1) {wire : Wire} (reliable : wire.Reliable) :
    ∃ reply : Transmission, reply.IsReply dest requestId ∧
      (final (prog wire)).written = wire.written ++ [reply] := by
  obtain ⟨_, added, extended, kinds, _, counted⟩ := replies wire reliable
  obtain ⟨reply, rfl⟩ := List.length_eq_one_iff.mp counted
  exact ⟨reply, kinds reply (List.mem_singleton_self reply), extended⟩

/-- Each of the two facades answers each parsed CALL that reaches its request
handler with exactly one CALL_RESULT or CALL_ERROR. -/
theorem exactly_one_reply {Q R : Type} [Payload Q] [Payload R] (setup : Setup Q R)
    (sprint : Json -> String) (arr : Elements) (pendingRequestState : ClientState Q) (call : Call Q)
    (request : Q) (parsed : setup.endpoint.parseMessage sprint arr pendingRequestState =
      .ok (.message (.call call)))
    (wire : Wire) (reliable : wire.Reliable) :
    (∃ reply : Transmission, reply.IsReply "" call.uniqueId ∧
      (final (ChargePoint.serve setup request call.uniqueId call.action wire)).written =
        wire.written ++ [reply]) ∧
    ∀ chargePointId, ∃ reply : Transmission,
      reply.IsReply chargePointId call.uniqueId ∧
      (final (CentralSystem.serve setup chargePointId request call.uniqueId call.action
        wire)).written = wire.written ++ [reply] := by
  have sound : Endpoint.Sound arr (.message (.call call)) := Endpoint.parseMessage_sound parsed
  have identifier := call.validIdentifier sound.1
  exact ⟨written_of_replies (ChargePoint.replies_serve setup identifier) reliable,
    fun chargePointId => written_of_replies (CentralSystem.replies_serve setup identifier) reliable⟩

def heartbeatSetup : Setup HeartbeatRequest HeartbeatConfirmation where
  endpoint := heartbeatEndpoint
  installed _ := true
  handle _ _ := .ret none none
  asserts _ _ := true
  prevOnHandlerPanic := none
  onHandlerPanic := none

theorem exactly_one_reply_heartbeat :
    (∃ reply : Transmission, reply.IsReply "" "17" ∧
      (final (ChargePoint.serve heartbeatSetup {} "17" "Heartbeat" quietWire)).written = [reply]) ∧
    ∀ chargePointId, ∃ reply : Transmission, reply.IsReply chargePointId "17" ∧
      (final (CentralSystem.serve heartbeatSetup chargePointId {} "17" "Heartbeat"
        quietWire)).written = [reply] :=
  exactly_one_reply heartbeatSetup (fun _ => "")
    [.num 2, .string "17", .string "Heartbeat", .object []] .new
    ⟨"17", "Heartbeat", some {}⟩ {} rfl quietWire fun _ => rfl

end Ocpp16
end OcppGo
