import OcppGo.Ocppj.Queue
import OcppGo.Sequential.Fallible

namespace OcppGo
namespace Ocppj

open OcppGo.Sequential

/-!
# OCPP-J messages

A frame is a JSON array.  The layer reads frames after the generic decoding of
`encoding/json`, so a frame is modelled by the list of its decoded elements.
What `encoding/json` and `validator` find in a payload is taken as given: it is
the content of the class `Payload`.
-/

/-- A generically decoded JSON value.  A number is a double, hence rational. -/
inductive Json where
  | null
  | bool (value : Bool)
  | num (value : Rat)
  | string (text : String)
  | array (items : List Json)
  | object (members : List (String × Json))
  deriving Inhabited

/-- The elements of a decoded frame. -/
abbrev Elements := List Json

/-- What unwinds a goroutine. -/
inductive Panic where
  | nilDereference
  | typeAssertion
  /-- `FormatErrorType` and `OccurrenceConstraintErrorType` without a dialect -/
  | invalidDialect
  /-- a panic of user code -/
  | raised (value : String)
  deriving DecidableEq

/-- The value of a rejected field, as far as `getValueLength` looks at it. -/
inductive FieldValue where
  | int (value : Int)
  | string (text : String)
  | other
  deriving DecidableEq

/-- One entry of `validator.ValidationErrors`. -/
structure FieldError where
  /-- `Namespace()` -/
  location : String
  /-- `Field()` -/
  field : String
  /-- `ActualTag()` -/
  tag : String
  /-- `Param()` -/
  param : String
  value : FieldValue
  deriving DecidableEq

def getValueLength : FieldValue -> Int
  | .int value => value
  | .string text => text.utf8ByteSize
  | .other => 0

/-- `FieldError.Error` of the validator. -/
def FieldError.text (fieldError : FieldError) : String :=
  "Key: '" ++ fieldError.location ++ "' Error:Field validation for '" ++ fieldError.field ++
    "' failed on the '" ++ fieldError.tag ++ "' tag"

/-- `ValidationErrors.Error`. -/
def validationText (validationErrors : List FieldError) : String :=
  "\n".intercalate (validationErrors.map FieldError.text)

/-- The entry as it appears inside a payload of the message `message`. -/
def FieldError.inside (message : String) (fieldError : FieldError) : FieldError :=
  { fieldError with location := message ++ ".Payload." ++ fieldError.location }

/-- The tags `required,max=36` of an identifier or an action.  The validator
counts characters and stops at the first tag that fails. -/
def checkIdentifier (message field text : String) : List FieldError :=
  if text = "" then [⟨message ++ "." ++ field, field, "required", "", .string text⟩]
  else if 36 < text.length then [⟨message ++ "." ++ field, field, "max", "36", .string text⟩]
  else []

/-- An identifier that passes these tags. -/
def ValidIdentifier (text : String) : Prop := text ≠ "" ∧ text.length ≤ 36

theorem checkIdentifier_eq_nil {message field text : String} :
    checkIdentifier message field text = [] <-> ValidIdentifier text := by
  unfold checkIdentifier ValidIdentifier
  split
  · simp_all
  · split
    · simp_all
    · simp_all

/-- What the layer asks of an `ocpp.Request` or an `ocpp.Response`.  Validating
or encoding a value runs code of its type, which may panic. -/
class Payload (P : Type) where
  getFeatureName : P -> String
  /-- `Validate.Struct`, with locations relative to the value -/
  validate : P -> Except Panic (List FieldError)
  /-- `json.Marshal` -/
  marshal : P -> Except Panic (Except String Json)

def notImplemented : String := "NotImplemented"

def notSupported : String := "NotSupported"

def messageTypeNotSupported : String := "MessageTypeNotSupported"

def protocolError : String := "ProtocolError"

def securityError : String := "SecurityError"

def propertyConstraintViolationCode : String := "PropertyConstraintViolation"

def occurrenceConstraintViolationV2 : String := "OccurrenceConstraintViolation"

/-- The typo is the one of OCPP 1.6. -/
def occurrenceConstraintViolationV16 : String := "OccurenceConstraintViolation"

def typeConstraintViolation : String := "TypeConstraintViolation"

def formatViolationV2 : String := "FormatViolation"

def formatViolationV16 : String := "FormationViolation"

/-- The codes `IsErrorCodeValid` accepts. -/
def validErrorCodes : List String :=
  [notImplemented, notSupported, internalError, messageTypeNotSupported, protocolError,
    securityError, formatViolationV16, formatViolationV2, propertyConstraintViolationCode,
    occurrenceConstraintViolationV16, occurrenceConstraintViolationV2, typeConstraintViolation,
    genericError]

def isErrorCodeValid (code : String) : Bool := validErrorCodes.contains code

/-- `CallResult`. -/
structure CallResult (R : Type) where
  uniqueId : String
  payload : R

/-- `CallError`. -/
structure CallError where
  uniqueId : String
  errorCode : String
  errorDescription : String
  errorDetails : Option Json

/-- The three kinds of `Message`. -/
inductive Message (Q R : Type) where
  | call (call : Call Q)
  | callResult (callResult : CallResult R)
  | callError (callError : CallError)

section Validation

variable {P : Type} [Payload P]

/-- `Validate.Struct` on a `Call`.  The message type is always the constant. -/
def Call.validate (call : Call P) : Except Panic (List FieldError) := do
  let identifiers := checkIdentifier "Call" "UniqueId" call.uniqueId ++
    checkIdentifier "Call" "Action" call.action
  match call.payload with
  | none => return identifiers ++ [⟨"Call.Payload", "Payload", "required", "", .other⟩]
  | some payload =>
    let violations <- Payload.validate payload
    return identifiers ++ violations.map (FieldError.inside "Call")

/-- A call that passes validation has a valid identifier. -/
theorem Call.validIdentifier {call : Call P} (passed : call.validate = .ok []) :
    ValidIdentifier call.uniqueId := by
  unfold Call.validate at passed
  cases present : call.payload with
  | none => simp [present, pure, Except.pure] at passed
  | some payload =>
    rw [present] at passed
    obtain ⟨violations, _, passed⟩ := bind_eq_ok.mp passed
    rw [pure_eq_ok, List.append_eq_nil_iff, List.append_eq_nil_iff] at passed
    exact checkIdentifier_eq_nil.mp passed.1.1

/-- `Validate.Struct` on a `CallResult`. -/
def CallResult.validate (callResult : CallResult P) : Except Panic (List FieldError) := do
  let violations <- Payload.validate callResult.payload
  return checkIdentifier "CallResult" "UniqueId" callResult.uniqueId ++
    violations.map (FieldError.inside "CallResult")

end Validation

/-- `Validate.Struct` on a `CallError`. -/
def CallError.validate (callError : CallError) : List FieldError :=
  checkIdentifier "CallError" "UniqueId" callError.uniqueId ++
    if isErrorCodeValid callError.errorCode then []
    else [⟨"CallError.ErrorCode", "ErrorCode", "errorCode", "", .other⟩]

section Marshalling

variable {P : Type} [Payload P]

/-- `Call.MarshalJSON`.  A nil payload is written as null. -/
def Call.marshalJSON (call : Call P) : Except Panic (Except String Elements) := do
  match call.payload with
  | none => return .ok [.num 2, .string call.uniqueId, .string call.action, .null]
  | some payload =>
    match <- Payload.marshal payload with
    | .error text => return .error text
    | .ok encoded => return .ok [.num 2, .string call.uniqueId, .string call.action, encoded]

/-- `CallResult.MarshalJSON`. -/
def CallResult.marshalJSON (callResult : CallResult P) :
    Except Panic (Except String Elements) := do
  match <- Payload.marshal callResult.payload with
  | .error text => return .error text
  | .ok encoded => return .ok [.num 3, .string callResult.uniqueId, encoded]

end Marshalling

/-- `CallError.MarshalJSON`: missing details are written as an empty object. -/
def CallError.marshalJSON (callError : CallError) : Elements :=
  [.num 4, .string callError.uniqueId, .string callError.errorCode,
    .string callError.errorDescription, callError.errorDetails.getD (.object [])]

/-- A non-nil value of the interface `error`.  An `*ocpp.Error` may still be a
nil pointer, and `Error()` of any other error is code that may panic. -/
inductive GoError where
  | validation (validationErrors : List FieldError)
  | ocpp (err : Option OcppError)
  | other (text : Except Panic String)
  deriving DecidableEq

/-- `Error()`.  The method of `ocpp.Error` has a value receiver, so calling it
through a nil pointer panics. -/
def GoError.error : GoError -> Except Panic String
  | .validation validationErrors => .ok (validationText validationErrors)
  | .ocpp none => .error .nilDereference
  | .ocpp (some err) =>
    .ok ("ocpp message (" ++ err.messageId ++ "): " ++ err.code ++ " - " ++ err.description)
  | .other text => text

end Ocppj
end OcppGo
