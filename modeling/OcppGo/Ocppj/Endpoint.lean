import OcppGo.Ocppj.Message
import OcppGo.Ocppj.State

namespace OcppGo
namespace Ocppj

open OcppGo.Sequential

/-!
# Endpoints: building and parsing messages

`Q` stands for the requests and `R` for the responses of the supported
features.  The functions below do not touch the network; what they return is
sent, or handed to a handler, by the client and the server.
-/

/-- `ocpp.Feature`.  The two decoders stand for `json.Unmarshal` into the
request type and the response type. -/
structure Feature (Q R : Type) where
  decodeRequest : Json -> Except String Q
  decodeResponse : Json -> Except String R

/-- `ocpp.Profile`: a name and a map of features. -/
structure Profile (Q R : Type) where
  name : String
  features : String -> Option (Feature Q R)

namespace Profile

variable {Q R : Type}

def supportsFeature (profile : Profile Q R) (name : String) : Bool :=
  (profile.features name).isSome

/-- A null payload is read as an empty object. -/
def orEmpty : Json -> Json
  | .null => .object []
  | raw => raw

/-- `ParseRequest` with `parseRawJsonRequest`. -/
def parseRequest (profile : Profile Q R) (featureName : String) (rawRequest : Json) :
    Except String Q :=
  match profile.features featureName with
  | none => .error ("Feature " ++ featureName ++ " not found")
  | some feature => feature.decodeRequest (orEmpty rawRequest)

/-- `ParseResponse` with `parseRawJsonConfirmation`. -/
def parseResponse (profile : Profile Q R) (featureName : String) (rawResponse : Json) :
    Except String R :=
  match profile.features featureName with
  | none => .error ("Feature " ++ featureName ++ " not found")
  | some feature => feature.decodeResponse (orEmpty rawResponse)

end Profile

/-- `ocpp.Dialect`; an endpoint starts without one. -/
inductive Dialect where
  | unset
  | v16
  | v2
  deriving DecidableEq

/-- `Endpoint`. -/
structure Endpoint (Q R : Type) where
  dialect : Dialect
  profiles : List (Profile Q R)

/-- `FormatErrorType`. -/
def formatErrorType : Dialect -> Except Panic String
  | .v16 => .ok formatViolationV16
  | .v2 => .ok formatViolationV2
  | .unset => .error .invalidDialect

/-- `OccurrenceConstraintErrorType`. -/
def occurrenceConstraintErrorType : Dialect -> Except Panic String
  | .v16 => .ok occurrenceConstraintViolationV16
  | .v2 => .ok occurrenceConstraintViolationV2
  | .unset => .error .invalidDialect

/-- The suffix naming the feature, if there is one. -/
def forFeature (description feature : String) : String :=
  if feature = "" then description else description ++ " for feature " ++ feature

def occurrenceViolation (dialect : Dialect) (fieldError : FieldError) (messageId feature : String) :
    Except Panic OcppError := do
  let description := "Field " ++ fieldError.location ++ " required but not found"
  let code <- occurrenceConstraintErrorType dialect
  return newError code (forFeature description feature) messageId

def propertyConstraintViolation (fieldError : FieldError) (details messageId feature : String) :
    OcppError :=
  let description := "Field " ++ fieldError.location ++ " must be " ++ details ++ " " ++
    fieldError.param ++ ", but was " ++ toString (getValueLength fieldError.value)
  newError propertyConstraintViolationCode (forFeature description feature) messageId

/-- The words by which `errorFromValidation` describes a bound. -/
def boundWords : String -> Option String
  | "max" => some "maximum"
  | "min" => some "minimum"
  | "gte" => some ">="
  | "gt" => some ">"
  | "lte" => some "<="
  | "lt" => some "<"
  | _ => none

/-- `errorFromValidation`: the first entry with a tag it knows decides. -/
def errorFromValidation (dialect : Dialect) (validationErrors : List FieldError)
    (messageId feature : String) : Except Panic OcppError :=
  go validationErrors
where
  go : List FieldError -> Except Panic OcppError
    | [] => .ok (newError genericError (validationText validationErrors) messageId)
    | el :: rest =>
      if el.tag = "required" then occurrenceViolation dialect el messageId feature
      else match boundWords el.tag with
        | some details => .ok (propertyConstraintViolation el details messageId feature)
        | none => go rest

/-- An error made from a failed validation may be sent, and names the message. -/
theorem errorFromValidation_sound {dialect : Dialect} {validationErrors : List FieldError}
    {messageId feature : String} {err : OcppError}
    (made : errorFromValidation dialect validationErrors messageId feature = .ok err) :
    isErrorCodeValid err.code = true ∧ err.messageId = messageId := by
  -- The last case of the scan reports the whole list, so the walked part is generalised alone.
  have scanned : ∀ left : List FieldError,
      errorFromValidation.go dialect validationErrors messageId feature left = .ok err ->
        isErrorCodeValid err.code = true ∧ err.messageId = messageId := by
    intro left
    induction left with
    | nil =>
      intro made
      cases made
      exact ⟨(by decide : isErrorCodeValid genericError = true), rfl⟩
    | cons el rest ih =>
      unfold errorFromValidation.go
      split
      · intro made
        cases dialect with
        | unset => cases made
        | v16 =>
          cases made
          exact ⟨(by decide : isErrorCodeValid occurrenceConstraintViolationV16 = true), rfl⟩
        | v2 =>
          cases made
          exact ⟨(by decide : isErrorCodeValid occurrenceConstraintViolationV2 = true), rfl⟩
      · split
        · intro made
          cases made
          exact ⟨(by decide : isErrorCodeValid propertyConstraintViolationCode = true), rfl⟩
        · exact ih
  exact scanned validationErrors made

namespace Endpoint

variable {Q R : Type}

def getProfileForFeature (endpoint : Endpoint Q R) (featureName : String) : Option (Profile Q R) :=
  endpoint.profiles.find? fun profile => profile.supportsFeature featureName

/-- `CreateCall`, with the identifier drawn from the generator. -/
def createCall [Payload Q] (endpoint : Endpoint Q R) (validationEnabled : Bool) (request : Q)
    (uniqueId : String) : Except Panic (Except GoError (Call Q)) := do
  let action := Payload.getFeatureName request
  match endpoint.getProfileForFeature action with
  | none =>
    return .error (.other (.ok ("Couldn't create Call for unsupported action " ++ action)))
  | some _ =>
    let call : Call Q := ⟨uniqueId, action, some request⟩
    if validationEnabled then
      match <- call.validate with
      | [] => return .ok call
      | violations => return .error (.validation violations)
    else
      return .ok call

/-- `CreateCallResult`. -/
def createCallResult [Payload R] (endpoint : Endpoint Q R) (validationEnabled : Bool)
    (confirmation : R) (uniqueId : String) : Except Panic (Except GoError (CallResult R)) := do
  let action := Payload.getFeatureName confirmation
  match endpoint.getProfileForFeature action with
  | none =>
    let description := "couldn't create Call Result for unsupported action " ++ action
    return .error (.ocpp (some (newError notSupported description uniqueId)))
  | some _ =>
    let callResult : CallResult R := ⟨uniqueId, confirmation⟩
    if validationEnabled then
      match <- callResult.validate with
      | [] => return .ok callResult
      | violations => return .error (.validation violations)
    else
      return .ok callResult

end Endpoint

/-- `CreateCallError`. -/
def createCallError (validationEnabled : Bool) (uniqueId code description : String)
    (details : Option Json) : Except GoError CallError :=
  let callError : CallError := ⟨uniqueId, code, description, details⟩
  if validationEnabled then
    match callError.validate with
    | [] => .ok callError
    | violations => .error (.validation violations)
  else
    .ok callError

/-- What `CreateCallError` returns, and what it has checked. -/
theorem createCallError_ok {validationEnabled : Bool} {uniqueId code description : String}
    {details : Option Json} {callError : CallError}
    (created : createCallError validationEnabled uniqueId code description details =
      .ok callError) :
    callError = ⟨uniqueId, code, description, details⟩ ∧
      (validationEnabled = true -> callError.validate = []) := by
  unfold createCallError at created
  dsimp only at created
  split at created
  · split at created
    · next passed =>
      cases created
      exact ⟨rfl, fun _ => passed⟩
    · cases created
  · next off =>
    cases created
    exact ⟨rfl, fun on => absurd on off⟩

/-- The two results of `ParseMessage`: a message, no message and no error, or
an error, which is always an `*ocpp.Error`. -/
inductive Parsed (Q R : Type) where
  | message (message : Message Q R)
  | discarded
  | rejected (err : OcppError)

/-- `MessageType(rawTypeId)` drops the fraction of the number.  A number that does not
fit into 64 bits becomes the least integer, as on amd64. -/
def messageType (rawTypeId : Rat) : Int :=
  let type := rawTypeId.num.tdiv rawTypeId.den
  let least : Int := -9223372036854775808
  if type < least ∨ -least ≤ type then least else type

namespace Endpoint

variable {Q R : Type}

/-- The error value for a frame that violates the format. -/
def formatError (endpoint : Endpoint Q R) (description uniqueId : String) :
    Except Panic (Parsed Q R) := do
  return .rejected (newError (<- formatErrorType endpoint.dialect) description uniqueId)

/-- The error value for a message that fails validation. -/
def validationError (endpoint : Endpoint Q R) (violations : List FieldError)
    (uniqueId feature : String) : Except Panic (Parsed Q R) := do
  return .rejected (<- errorFromValidation endpoint.dialect violations uniqueId feature)

/-- The CALL branch of `ParseMessage`.  `sprint` is `fmt.Sprint`. -/
def parseCall [Payload Q] (endpoint : Endpoint Q R) (sprint : Json -> String)
    (arr : Elements) (uniqueId : String) : Except Panic (Parsed Q R) := do
  match arr with
  | [_, _, .string action, rawRequest] =>
    match endpoint.getProfileForFeature action with
    | none => return .rejected (newError notSupported ("Unsupported feature " ++ action) uniqueId)
    | some profile =>
      match profile.parseRequest action rawRequest with
      | .error text => endpoint.formatError text uniqueId
      | .ok request =>
        let call : Call Q := ⟨uniqueId, action, some request⟩
        match <- call.validate with
        | [] => return .message (.call call)
        | violations => endpoint.validationError violations uniqueId action
  | [_, _, element, _] =>
    endpoint.formatError ("Invalid element " ++ sprint element ++ " at 2, expected action (string)")
      uniqueId
  | _ => endpoint.formatError "Invalid Call message. Expected array length 4" uniqueId

/-- The CALL_RESULT branch.  The pending request decides the response type. -/
def parseCallResult [Payload Q] [Payload R] (endpoint : Endpoint Q R)
    (pendingRequestState : ClientState Q) (rawResponse : Json) (uniqueId : String) :
    Except Panic (Parsed Q R) := do
  match pendingRequestState.getPendingRequest uniqueId with
  | none => return .discarded
  | some none => throw .nilDereference
  | some (some request) =>
    let feature := Payload.getFeatureName request
    match endpoint.getProfileForFeature feature with
    | none =>
      let description := "no profile found for feature " ++ feature
      return .rejected (newError internalError description uniqueId)
    | some profile =>
      match profile.parseResponse feature rawResponse with
      | .error text => endpoint.formatError text uniqueId
      | .ok confirmation =>
        let callResult : CallResult R := ⟨uniqueId, confirmation⟩
        match <- callResult.validate with
        | [] => return .message (.callResult callResult)
        | violations => endpoint.validationError violations uniqueId feature

/-- The description of an error frame; anything but a string counts as none. -/
def errorDescription : Json -> String
  | .string text => text
  | _ => ""

/-- The details of an error frame; null is the nil interface. -/
def errorDetails : Elements -> Option Json
  | _ :: _ :: _ :: _ :: .null :: _ => none
  | _ :: _ :: _ :: _ :: details :: _ => some details
  | _ => none

/-- The CALL_ERROR branch.  The error for a code that is not a string carries
the code, which is then empty, in place of the identifier. -/
def parseCallError (endpoint : Endpoint Q R) (sprint : Json -> String)
    (pendingRequestState : ClientState Q) (arr : Elements) (uniqueId : String) :
    Except Panic (Parsed Q R) := do
  match pendingRequestState.getPendingRequest uniqueId with
  | none => return .discarded
  | some _ =>
    match arr with
    | _ :: _ :: .string errorCode :: description :: _ =>
      let callError : CallError :=
        ⟨uniqueId, errorCode, errorDescription description, errorDetails arr⟩
      match callError.validate with
      | [] => return .message (.callError callError)
      | violations => endpoint.validationError violations uniqueId ""
    | _ :: _ :: element :: _ :: _ =>
      endpoint.formatError
        ("Invalid element " ++ sprint element ++ " at 2, expected rawErrorCode (string)") ""
    | _ => endpoint.formatError "Invalid Call Error message. Expected array length >= 4" uniqueId

/-- `ParseMessage`. -/
def parseMessage [Payload Q] [Payload R] (endpoint : Endpoint Q R) (sprint : Json -> String)
    (arr : Elements) (pendingRequestState : ClientState Q) : Except Panic (Parsed Q R) := do
  match arr with
  | .num rawTypeId :: .string uniqueId :: third :: _ =>
    if uniqueId = "" then
      endpoint.formatError "Invalid unique ID, cannot be empty" uniqueId
    else if messageType rawTypeId = 2 then
      endpoint.parseCall sprint arr uniqueId
    else if messageType rawTypeId = 3 then
      endpoint.parseCallResult pendingRequestState third uniqueId
    else if messageType rawTypeId = 4 then
      endpoint.parseCallError sprint pendingRequestState arr uniqueId
    else
      let description := "Invalid message type ID " ++ toString (messageType rawTypeId)
      return .rejected (newError messageTypeNotSupported description uniqueId)
  | .num _ :: element :: _ :: _ =>
    endpoint.formatError
      ("Invalid element " ++ sprint element ++ " at 1, expected unique ID (string)") ""
  | element :: _ :: _ :: _ =>
    endpoint.formatError
      ("Invalid element " ++ sprint element ++ " at 0, expected message type (int)") ""
  | _ => endpoint.formatError "Invalid message. Expected array length >= 3" ""

/-! ## What a parsed message has passed -/

end Endpoint

/-- The message type of a frame, if it has one. -/
def frameType : Elements -> Option Int
  | .num rawTypeId :: _ => some (messageType rawTypeId)
  | _ => none

/-- The identifier of a frame, empty if there is none. -/
def frameId : Elements -> String
  | _ :: .string uniqueId :: _ => uniqueId
  | _ => ""

theorem frame_of_call {Q : Type} [Payload Q] {call : Call Q} {frame : Elements}
    (marshalled : call.marshalJSON = .ok (.ok frame)) :
    frameType frame = some 2 ∧ frameId frame = call.uniqueId := by
  unfold Call.marshalJSON at marshalled
  cases present : call.payload with
  | none =>
    simp only [present] at marshalled
    cases marshalled
    exact ⟨rfl, rfl⟩
  | some payload =>
    rw [present] at marshalled
    obtain ⟨result, _, marshalled⟩ := bind_eq_ok.mp marshalled
    cases result with
    | error text => cases marshalled
    | ok json =>
      cases marshalled
      exact ⟨rfl, rfl⟩

theorem frame_of_callResult {R : Type} [Payload R] {callResult : CallResult R} {frame : Elements}
    (marshalled : callResult.marshalJSON = .ok (.ok frame)) :
    ∃ payload, frame = [.num 3, .string callResult.uniqueId, payload] := by
  obtain ⟨result, _, marshalled⟩ := bind_eq_ok.mp marshalled
  cases result with
  | error text => cases marshalled
  | ok payload =>
    cases marshalled
    exact ⟨payload, rfl⟩

namespace Endpoint

/-- A message that comes out of parsing satisfies the validator and repeats the
type and the identifier of the frame; an error names the frame or nothing. -/
def Sound {Q R : Type} [Payload Q] [Payload R] (arr : Elements) : Parsed Q R -> Prop
  | .message (.call call) =>
    call.validate = .ok [] ∧ frameType arr = some 2 ∧ frameId arr = call.uniqueId
  | .message (.callResult callResult) =>
    callResult.validate = .ok [] ∧ frameType arr = some 3 ∧ frameId arr = callResult.uniqueId
  | .message (.callError callError) =>
    callError.validate = [] ∧ frameType arr = some 4 ∧ frameId arr = callError.uniqueId
  | .discarded => True
  | .rejected err => err.messageId = "" ∨ err.messageId = frameId arr

section Accepted

variable {Q R : Type} [Payload Q] [Payload R] {endpoint : Endpoint Q R} {sprint : Json -> String}
  {uniqueId : String} {parsed : Parsed Q R} {arr : Elements}

theorem formatError_sound {description : String} (named : uniqueId = "" ∨ uniqueId = frameId arr)
    (ret : endpoint.formatError description uniqueId = .ok parsed) : Sound arr parsed := by
  obtain ⟨code, _, ret⟩ := bind_eq_ok.mp ret
  cases ret
  exact named

variable {pendingRequestState : ClientState Q}

section

variable (named : frameId arr = uniqueId)
include named

theorem validationError_sound {violations : List FieldError} {feature : String}
    (ret : endpoint.validationError violations uniqueId feature = .ok parsed) :
    Sound arr parsed := by
  obtain ⟨err, converted, ret⟩ := bind_eq_ok.mp ret
  cases ret
  exact .inr ((errorFromValidation_sound converted).2.trans named.symm)

theorem parseCall_sound (type : frameType arr = some 2)
    (ret : endpoint.parseCall sprint arr uniqueId = .ok parsed) : Sound arr parsed := by
  unfold parseCall at ret
  split at ret
  · split at ret
    · cases ret
      exact .inr named.symm
    · split at ret
      · exact formatError_sound (.inr named.symm) ret
      · rename_i action _ _ _ _ _ request _
        obtain ⟨violations, checked, ret⟩ := bind_eq_ok.mp ret
        cases violations with
        | nil =>
          cases ret
          exact ⟨checked, type, named⟩
        | cons violation rest => exact validationError_sound named ret
  · exact formatError_sound (.inr named.symm) ret
  · exact formatError_sound (.inr named.symm) ret

theorem parseCallResult_sound {rawResponse : Json} (type : frameType arr = some 3)
    (ret : endpoint.parseCallResult pendingRequestState rawResponse uniqueId = .ok parsed) :
    Sound arr parsed := by
  unfold parseCallResult at ret
  split at ret
  · cases ret
    trivial
  · cases ret
  · dsimp only at ret
    split at ret
    · cases ret
      exact .inr named.symm
    · split at ret
      · exact formatError_sound (.inr named.symm) ret
      · rename_i confirmation _
        obtain ⟨violations, checked, ret⟩ := bind_eq_ok.mp ret
        cases violations with
        | nil =>
          cases ret
          exact ⟨checked, type, named⟩
        | cons violation rest => exact validationError_sound named ret

theorem parseCallError_sound (type : frameType arr = some 4)
    (ret : endpoint.parseCallError sprint pendingRequestState arr uniqueId = .ok parsed) :
    Sound arr parsed := by
  unfold parseCallError at ret
  split at ret
  · cases ret
    trivial
  · split at ret
    · dsimp only at ret
      split at ret
      · rename_i passed
        cases ret
        exact ⟨passed, type, named⟩
      · exact validationError_sound named ret
    · exact formatError_sound (.inl rfl) ret
    · exact formatError_sound (.inr named.symm) ret

end

/-- Whatever `ParseMessage` accepts has passed the validator, also while the
validation of outgoing messages is switched off. -/
theorem parseMessage_sound
    (ret : endpoint.parseMessage sprint arr pendingRequestState = .ok parsed) :
    Sound arr parsed := by
  unfold parseMessage at ret
  split at ret
  · rename_i rawTypeId uniqueId third rest
    split at ret
    · exact formatError_sound (.inr rfl) ret
    · split at ret
      · rename_i type
        exact parseCall_sound rfl (congrArg some type) ret
      · split at ret
        · rename_i type
          exact parseCallResult_sound rfl (congrArg some type) ret
        · split at ret
          · rename_i type
            exact parseCallError_sound rfl (congrArg some type) ret
          · cases ret
            exact .inr rfl
  · exact formatError_sound (.inl rfl) ret
  · exact formatError_sound (.inl rfl) ret
  · exact formatError_sound (.inl rfl) ret

end Accepted

end Endpoint

structure HeartbeatRequest where

structure HeartbeatConfirmation where
  currentTime : Option String

instance : Payload HeartbeatRequest where
  getFeatureName _ := "Heartbeat"
  validate _ := .ok []
  marshal _ := .ok (.ok (.object []))

instance : Payload HeartbeatConfirmation where
  getFeatureName _ := "Heartbeat"
  validate confirmation := .ok (match confirmation.currentTime with
    | some _ => []
    | none => [⟨"CurrentTime", "CurrentTime", "required", "", .other⟩])
  marshal confirmation := .ok (.ok (.object [("currentTime",
    match confirmation.currentTime with
    | some text => .string text
    | none => .null)]))

/-- An endpoint that supports heartbeats. -/
def heartbeatEndpoint : Endpoint HeartbeatRequest HeartbeatConfirmation where
  dialect := .v16
  profiles := [⟨"Core", fun name =>
    if name = "Heartbeat" then some ⟨fun _ => .ok {}, fun _ => .ok ⟨none⟩⟩ else none⟩]

end Ocppj
end OcppGo
