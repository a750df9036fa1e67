import OcppGo.Ocppj.Parsing
import OcppGo.Ocppj.Reply

namespace OcppGo
namespace Ocppj

open OcppGo.Sequential

/-!
# Inbound frames

`ocppMessageHandler` parses a frame, answers it if it is rejected, and hands it to
a handler otherwise.  Client and server differ in the destination of the answer
and in where the pending request is kept.
-/

/-- What an endpoint calls on behalf of the layer above. -/
structure Callbacks (Q R : Type) where
  /-- the hook may change the error it is given, and return another one -/
  invalidMessageHook : Option (OcppError -> Elements -> Go (OcppError × Option OcppError))
  requestHandler : Option (Option Q -> String -> String -> Go Unit)
  responseHandler : Option (R -> String -> Go Unit)
  errorHandler : Option (OcppError -> Option Json -> Go Unit)
  /-- `CompleteRequest` of the dispatcher -/
  completeRequest : String -> Go Bool
  onHandlerPanic : Option (HandlerPanic -> Go Unit)

section Handler

variable {Q R : Type}

/-- The error after the hook has run.  A panic of the hook restores the error, and
an error it returns gets the identifier of the message. -/
def runInvalidMessageHook (callbacks : Callbacks Q R) (dest : String) (ocppErr : OcppError)
    (arr : Elements) : Go OcppError := do
  match callbacks.invalidMessageHook with
  | none => return ocppErr
  | some hook =>
    let (changed, result) <- recoverPanic callbacks.onHandlerPanic .invalidMessage dest ""
      ocppErr.messageId false (ocppErr, none) (hook ocppErr arr)
    match result with
    | none => return changed
    | some replacement => return { replacement with messageId := ocppErr.messageId }

/-- The branch for a frame that `ParseMessage` rejects. -/
def handleRejected (callbacks : Callbacks Q R) (dest : String) (rejected : OcppError)
    (arr : Elements) : Go (Option GoError) := do
  let ocppErr <- runInvalidMessageHook callbacks dest rejected arr
  if ocppErr.messageId ≠ "" then
    match <- sendErrorTo dest ocppErr.messageId ocppErr.code ocppErr.description none with
    | some err => return some err
    | none => return some (.ocpp (some ocppErr))
  else
    return some (.ocpp (some ocppErr))

/-- The branches for the three kinds of message. -/
def handleMessage (callbacks : Callbacks Q R) (dest : String) : Message Q R -> Go Unit
  | .call call =>
    match callbacks.requestHandler with
    | none => pure ()
    | some requestHandler =>
      recoverPanic callbacks.onHandlerPanic .request dest call.action call.uniqueId true ()
        (requestHandler call.payload call.uniqueId call.action)
  | .callResult callResult => do
      if <- callbacks.completeRequest callResult.uniqueId then
        match callbacks.responseHandler with
        | none => return
        | some responseHandler =>
          recoverPanic callbacks.onHandlerPanic .response dest "" callResult.uniqueId false ()
            (responseHandler callResult.payload callResult.uniqueId)
  | .callError callError => do
      if <- callbacks.completeRequest callError.uniqueId then
        match callbacks.errorHandler with
        | none => return
        | some errorHandler =>
          let ocppErr := newError callError.errorCode callError.errorDescription callError.uniqueId
          recoverPanic callbacks.onHandlerPanic .error dest "" callError.uniqueId false ()
            (errorHandler ocppErr callError.errorDetails)

/-- `ocppMessageHandler`, up to the destination.  The frame is what
`ParseRawJsonMessage` makes of the data. -/
def ocppMessageHandlerTo [Payload Q] [Payload R] (endpoint : Endpoint Q R) (sprint : Json -> String)
    (callbacks : Callbacks Q R) (dest : String) (parsedJson : Except String Elements)
    (pendingRequestState : ClientState Q) : Go (Option GoError) := do
  match parsedJson with
  | .error text => return some (.other (.ok text))
  | .ok arr =>
    match <- lift (endpoint.parseMessage sprint arr pendingRequestState) with
    | .rejected rejected => handleRejected callbacks dest rejected arr
    | .discarded => return none
    | .message message => do
        handleMessage callbacks dest message
        return none

end Handler

namespace Client

def ocppMessageHandler {Q R : Type} [Payload Q] [Payload R] (client : Endpoint Q R)
    (sprint : Json -> String) (callbacks : Callbacks Q R) (parsedJson : Except String Elements)
    (requestState : ClientState Q) : Go (Option GoError) :=
  ocppMessageHandlerTo client sprint callbacks "" parsedJson requestState

end Client

namespace Server

/-- The pending request is the one of the client the frame comes from. -/
def ocppMessageHandler {Q R : Type} [Payload Q] [Payload R] (server : Endpoint Q R)
    (sprint : Json -> String) (callbacks : Callbacks Q R) (clientID : String)
    (parsedJson : Except String Elements) (getClientState : String -> ClientState Q) :
    Go (Option GoError) :=
  ocppMessageHandlerTo server sprint callbacks clientID parsedJson (getClientState clientID)

end Server

/-! ## The answer to a rejected CALL -/

section Answer

variable {Q R : Type} {endpoint : Endpoint Q R} {sprint : Json -> String} {arr : Elements}
  {uniqueId : String} {pendingRequestState : ClientState Q}

/-- The error of the CALL branch carries the identifier and a code that may be sent. -/
def Endpoint.Sendable (uniqueId : String) : Parsed Q R -> Prop
  | .rejected err => err.messageId = uniqueId ∧ isErrorCodeValid err.code = true
  | _ => True

variable {parsed : Parsed Q R}

theorem Endpoint.formatError_sendable {description : String}
    (ret : endpoint.formatError description uniqueId = .ok parsed) :
    Endpoint.Sendable uniqueId parsed := by
  unfold Endpoint.formatError at ret
  cases dialect : endpoint.dialect with
  | unset =>
    rw [dialect] at ret
    cases ret
  | v16 =>
    rw [dialect] at ret
    cases ret
    exact ⟨rfl, (by decide : isErrorCodeValid formatViolationV16 = true)⟩
  | v2 =>
    rw [dialect] at ret
    cases ret
    exact ⟨rfl, (by decide : isErrorCodeValid formatViolationV2 = true)⟩

theorem Endpoint.validationError_sendable {violations : List FieldError} {feature : String}
    (ret : endpoint.validationError violations uniqueId feature = .ok parsed) :
    Endpoint.Sendable uniqueId parsed := by
  obtain ⟨err, converted, ret⟩ := bind_eq_ok.mp ret
  cases ret
  exact (errorFromValidation_sound converted).symm

theorem Endpoint.parseCall_sendable [Payload Q]
    (ret : endpoint.parseCall sprint arr uniqueId = .ok parsed) :
    Endpoint.Sendable uniqueId parsed := by
  unfold Endpoint.parseCall at ret
  split at ret
  · split at ret
    · cases ret
      exact ⟨rfl, (by decide : isErrorCodeValid notSupported = true)⟩
    · split at ret
      · exact formatError_sendable ret
      · rename_i action _ _ _ _ _ request _
        obtain ⟨violations, checked, ret⟩ := bind_eq_ok.mp ret
        cases violations with
        | nil =>
          cases ret
          trivial
        | cons violation rest => exact validationError_sendable ret
  · exact formatError_sendable ret
  · exact formatError_sendable ret

/-- The rejection of an array of at least three elements that starts with the number
2 and an identifier. -/
theorem Endpoint.parseMessage_sendable [Payload Q] [Payload R] {third : Json} {rest : Elements}
    {err : OcppError} (named : uniqueId ≠ "")
    (rejected : endpoint.parseMessage sprint (.num 2 :: .string uniqueId :: third :: rest)
      pendingRequestState = .ok (.rejected err)) :
    err.messageId = uniqueId ∧ isErrorCodeValid err.code = true := by
  unfold Endpoint.parseMessage at rejected
  dsimp only at rejected
  rw [if_neg named, if_pos Endpoint.messageType_two] at rejected
  exact parseCall_sendable rejected

/-- The frame is a CALL_ERROR with the given identifier. -/
def Transmission.IsCallError (dest requestId : String) (transmission : Transmission) : Prop :=
  transmission.dest = dest ∧
    ∃ code description details, transmission.frame =
      [.num 4, .string requestId, .string code, .string description, details]

/-- Running the handler writes one frame, a CALL_ERROR with the identifier. -/
def AnswersWithError (prog : Go (Option GoError)) (wire : Wire)
    (dest requestId : String) : Prop :=
  ∃ transmission, (final (prog wire)).written = wire.written ++ [transmission] ∧
    transmission.IsCallError dest requestId

/-- `SendError` writes one frame, unless the identifier is checked and too long. -/
theorem sendErrorTo_run (dest description : String) (details : Option Json) {code : String}
    {wire : Wire} (reliable : wire.Reliable) (named : uniqueId ≠ "")
    (valid : isErrorCodeValid code = true) :
    ∃ result after, sendErrorTo dest uniqueId code description details wire =
        .ok result after ∧
      after.written = wire.written ++
        if wire.validationEnabled = true -> uniqueId.length ≤ 36 then
          [⟨dest, (CallError.mk uniqueId code description details).marshalJSON⟩]
        else [] := by
  unfold sendErrorTo
  rw [get_bind]
  by_cases short : wire.validationEnabled = true -> uniqueId.length ≤ 36
  · rw [if_pos short]
    have created : createCallError wire.validationEnabled uniqueId code description details =
        .ok ⟨uniqueId, code, description, details⟩ := by
      cases enabled : wire.validationEnabled with
      | false => rfl
      | true => exact createCallError_of_valid ⟨named, short enabled⟩ valid
    rw [created]
    have written : write dest (CallError.mk uniqueId code description details).marshalJSON
        wire = .ok none { wire with
          attempts := wire.attempts + 1
          written := wire.written ++
            [⟨dest, (CallError.mk uniqueId code description details).marshalJSON⟩] } := by
      unfold write
      rw [get_bind, reliable wire.attempts]
      rfl
    exact ⟨_, _, bind_ok written, rfl⟩
  · obtain ⟨enabled, long⟩ := Classical.not_imp.mp short
    rw [if_neg short, List.append_nil, enabled]
    simp only [createCallError, CallError.validate, checkIdentifier, named, Nat.lt_of_not_le long,
      if_true, if_false, List.singleton_append]
    exact ⟨_, _, rfl, rfl⟩

variable [Payload Q] [Payload R] {callbacks : Callbacks Q R} {err : OcppError} {wire : Wire}

/-- What is written for a frame that is rejected. -/
theorem written_ocppMessageHandlerTo (dest : String)
    (hookless : callbacks.invalidMessageHook = none) (reliable : wire.Reliable)
    (valid : err.messageId ≠ "" -> isErrorCodeValid err.code = true)
    (rejected : endpoint.parseMessage sprint arr pendingRequestState = .ok (.rejected err)) :
    (final (ocppMessageHandlerTo endpoint sprint callbacks dest (.ok arr)
      pendingRequestState wire)).written =
      wire.written ++
        if err.messageId ≠ "" ∧ (wire.validationEnabled = true -> err.messageId.length ≤ 36) then
          [⟨dest, (CallError.mk err.messageId err.code err.description none).marshalJSON⟩]
        else [] := by
  unfold ocppMessageHandlerTo
  dsimp only
  rw [rejected]
  show (final (handleRejected callbacks dest err _ wire)).written = _
  unfold handleRejected runInvalidMessageHook
  rw [hookless]
  show (final ((if err.messageId ≠ "" then _ else _ : Go (Option GoError)) wire)).written = _
  by_cases named : err.messageId ≠ ""
  · obtain ⟨result, after, ran, written⟩ :=
      sendErrorTo_run dest err.description none reliable named (valid named)
    rw [if_pos named, bind_ok ran]
    simp only [named, ne_eq, not_false_eq_true, true_and]
    rw [← written]
    cases result with
    | _ => rfl
  · rw [if_neg named, if_neg fun both => named both.1, List.append_nil]
    rfl

/-- A rejected CALL is answered exactly if it has three elements and its identifier, should it be
checked, has at most 36 characters. -/
theorem answers_ocppMessageHandlerTo (dest : String)
    (first : arr[0]? = some (.num 2)) (second : arr[1]? = some (.string uniqueId))
    (named : uniqueId ≠ "") (hookless : callbacks.invalidMessageHook = none)
    (reliable : wire.Reliable)
    (rejected : endpoint.parseMessage sprint arr pendingRequestState = .ok (.rejected err)) :
    AnswersWithError (ocppMessageHandlerTo endpoint sprint callbacks dest (.ok arr)
        pendingRequestState) wire dest uniqueId <->
      3 ≤ arr.length ∧ (wire.validationEnabled = true -> uniqueId.length ≤ 36) := by
  have unanswered {prog : Go (Option GoError)}
      (silent : (final (prog wire)).written = wire.written ++ []) :
      ¬ AnswersWithError prog wire dest uniqueId := by
    rintro ⟨transmission, one, -⟩
    rw [silent] at one
    cases List.append_cancel_left one
  match arr with
  | [] => cases first
  | [_] => cases second
  | [_, _] =>
    cases first
    cases second
    have nameless : err.messageId = "" := (Endpoint.formatError_sendable rejected).1
    refine iff_of_false (unanswered ?_) (by simp)
    rw [written_ocppMessageHandlerTo dest hookless reliable (absurd nameless) rejected,
      if_neg fun both => both.1 nameless]
  | _ :: _ :: third :: rest =>
    cases first
    cases second
    obtain ⟨rfl, valid⟩ := Endpoint.parseMessage_sendable named rejected
    have written := written_ocppMessageHandlerTo dest hookless reliable (fun _ => valid)
      rejected
    by_cases short : wire.validationEnabled = true -> err.messageId.length ≤ 36
    · rw [if_pos ⟨named, short⟩] at written
      exact iff_of_true ⟨_, written, rfl, err.code, err.description, .object [], rfl⟩
        ⟨by simp, short⟩
    · rw [if_neg fun both => short both.2] at written
      exact iff_of_false (unanswered written) fun both => short both.2

/-- The client and the server answer a CALL that is rejected with one CALL_ERROR exactly if it has
at least three elements and its identifier, should it be checked, has at most 36 characters. -/
theorem malformed_call_answered (endpoint : Endpoint Q R) (sprint : Json -> String)
    (callbacks : Callbacks Q R) (wire : Wire) (arr : Elements) (err : OcppError)
    (first : arr[0]? = some (.num 2)) (second : arr[1]? = some (.string uniqueId))
    (named : uniqueId ≠ "") (hookless : callbacks.invalidMessageHook = none)
    (reliable : wire.Reliable) :
    (∀ requestState, endpoint.parseMessage sprint arr requestState = .ok (.rejected err) ->
      (AnswersWithError (Client.ocppMessageHandler endpoint sprint callbacks (.ok arr) requestState)
          wire "" uniqueId <->
        3 ≤ arr.length ∧ (wire.validationEnabled = true -> uniqueId.length ≤ 36))) ∧
    (∀ clientID getClientState,
      endpoint.parseMessage sprint arr (getClientState clientID) = .ok (.rejected err) ->
      (AnswersWithError
          (Server.ocppMessageHandler endpoint sprint callbacks clientID (.ok arr) getClientState)
          wire clientID uniqueId <->
        3 ≤ arr.length ∧ (wire.validationEnabled = true -> uniqueId.length ≤ 36))) := by
  refine ⟨fun requestState rejected => ?_, fun clientID getClientState rejected => ?_⟩
  · exact answers_ocppMessageHandlerTo "" first second named hookless reliable rejected
  · exact answers_ocppMessageHandlerTo clientID first second named hookless reliable rejected

end Answer

/-- No handlers at all. -/
def noCallbacks : Callbacks HeartbeatRequest HeartbeatConfirmation :=
  ⟨none, none, none, none, fun _ => pure false, none⟩

/-- An identifier of 37 characters. -/
def longIdentifier : String := "0123456789012345678901234567890123456"

/-- A CALL whose identifier is too long and a CALL that consists of its type and its
identifier are rejected, and nothing is written. -/
theorem malformed_call_unanswered :
    (∃ err, heartbeatEndpoint.parseMessage (fun _ => "")
      [.num 2, .string longIdentifier, .string "Heartbeat", .object []] .new =
        .ok (.rejected err)) ∧
    (final (Client.ocppMessageHandler heartbeatEndpoint (fun _ => "") noCallbacks
      (.ok [.num 2, .string longIdentifier, .string "Heartbeat", .object []]) .new
        quietWire)).written = [] ∧
    (∃ err, heartbeatEndpoint.parseMessage (fun _ => "") [.num 2, .string "1"] .new =
      .ok (.rejected err)) ∧
    (final (Server.ocppMessageHandler heartbeatEndpoint (fun _ => "") noCallbacks "cp"
      (.ok [.num 2, .string "1"]) (fun _ => .new) quietWire)).written = [] :=
  ⟨⟨_, rfl⟩, rfl, ⟨_, rfl⟩, rfl⟩

theorem malformed_call_answered_unsupported :
    AnswersWithError (Client.ocppMessageHandler heartbeatEndpoint (fun _ => "") noCallbacks
      (.ok [.num 2, .string "1", .string "NoSuchAction"]) .new) quietWire "" "1" :=
  ((malformed_call_answered heartbeatEndpoint (fun _ => "") noCallbacks quietWire
    [.num 2, .string "1", .string "NoSuchAction"] _ rfl rfl (by decide) rfl fun _ => rfl).1 .new
    rfl).mpr ⟨by decide, by decide⟩

end Ocppj
end OcppGo
