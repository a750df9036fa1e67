import OcppGo.Ocppj.Endpoint

namespace OcppGo
namespace Ocppj
namespace Endpoint

open OcppGo.Sequential

/-!
# The frames `ParseMessage` recognises

A frame is described by its elements, without reference to the parser.  Each of
the three branches of `ParseMessage` then ends with the message its frame
describes, or with an error that carries the identifier of the frame.
-/

variable {Q R : Type}

section Frames

variable [Payload Q] [Payload R]

/-- The elements after the type of a CALL: a supported action, and a payload that
decodes and passes validation. -/
def CallBody (endpoint : Endpoint Q R) (arr : Elements) (uniqueId : String) (call : Call Q) : Prop :=
  ∃ first second action rawRequest profile request,
    arr = [first, second, .string action, rawRequest] ∧
    endpoint.getProfileForFeature action = some profile ∧
    profile.parseRequest action rawRequest = .ok request ∧
    call = ⟨uniqueId, action, some request⟩ ∧ call.validate = .ok []

/-- The payload of a CALL_RESULT decodes as a response to the pending request and
passes validation. -/
def ResultBody (endpoint : Endpoint Q R) (pendingRequestState : ClientState Q) (rawResponse : Json)
    (uniqueId : String) (callResult : CallResult R) : Prop :=
  ∃ request profile confirmation,
    pendingRequestState.getPendingRequest uniqueId = some (some request) ∧
    endpoint.getProfileForFeature (Payload.getFeatureName request) = some profile ∧
    profile.parseResponse (Payload.getFeatureName request) rawResponse = .ok confirmation ∧
    callResult = ⟨uniqueId, confirmation⟩ ∧ callResult.validate = .ok []

/-- A CALL_ERROR for the pending request, with a code that exists. -/
def ErrorBody (pendingRequestState : ClientState Q) (arr : Elements) (uniqueId : String)
    (callError : CallError) : Prop :=
  ∃ first second errorCode description rest,
    arr = first :: second :: .string errorCode :: description :: rest ∧
    (pendingRequestState.getPendingRequest uniqueId).isSome = true ∧
    callError = ⟨uniqueId, errorCode, errorDescription description, errorDetails arr⟩ ∧
    callError.validate = []

/-- A CALL frame: four elements, of which the first is the number 2 and the second
a non-empty string. -/
def CallFrame (endpoint : Endpoint Q R) (arr : Elements) (call : Call Q) : Prop :=
  (∃ action rawRequest, arr = [.num 2, .string call.uniqueId, action, rawRequest]) ∧
    call.uniqueId ≠ "" ∧ endpoint.CallBody arr call.uniqueId call

/-- A CALL_RESULT frame: the first element is the number 3 and the second the
identifier of the pending request. -/
def ResultFrame (endpoint : Endpoint Q R) (pendingRequestState : ClientState Q) (arr : Elements)
    (callResult : CallResult R) : Prop :=
  ∃ rawResponse rest, arr = .num 3 :: .string callResult.uniqueId :: rawResponse :: rest ∧
    callResult.uniqueId ≠ "" ∧
    endpoint.ResultBody pendingRequestState rawResponse callResult.uniqueId callResult

/-- A CALL_ERROR frame: the first element is the number 4 and the second the
identifier of the pending request. -/
def ErrorFrame (pendingRequestState : ClientState Q) (arr : Elements)
    (callError : CallError) : Prop :=
  (∃ rest, arr = .num 4 :: .string callError.uniqueId :: rest) ∧
    callError.uniqueId ≠ "" ∧ ErrorBody pendingRequestState arr callError.uniqueId callError

/-- A CALL_RESULT or CALL_ERROR frame with an identifier that is not pending. -/
def UnexpectedFrame (pendingRequestState : ClientState Q) (arr : Elements) : Prop :=
  ∃ rawTypeId uniqueId third rest,
    arr = .num rawTypeId :: .string uniqueId :: third :: rest ∧
    (rawTypeId = 3 ∨ rawTypeId = 4) ∧ uniqueId ≠ "" ∧
    pendingRequestState.getPendingRequest uniqueId = none

/-! ## Results -/

/-- What each result of `ParseMessage` says about the array. -/
def Describes (endpoint : Endpoint Q R) (pendingRequestState : ClientState Q) (arr : Elements) :
    Except Panic (Parsed Q R) -> Prop
  | .ok (.message (.call call)) => endpoint.CallFrame arr call
  | .ok (.message (.callResult callResult)) =>
    endpoint.ResultFrame pendingRequestState arr callResult
  | .ok (.message (.callError callError)) => ErrorFrame pendingRequestState arr callError
  | .ok .discarded => UnexpectedFrame pendingRequestState arr
  | .ok (.rejected err) => err.messageId = frameId arr
  | .error _ => False

/-! ## Arrays that are read as they should be

The conditions follow the branches of the parser.  `exact` says that the first
element is the number of the message type, without a fraction. -/

/-- An error can be made of the violations: only a missing field needs a dialect. -/
def Nameable (dialect : Dialect) (violations : List FieldError) : Prop :=
  dialect = .unset -> ∀ el,
    violations.find? (fun el => el.tag = "required" || (boundWords el.tag).isSome) = some el ->
      el.tag ≠ "required"

/-- What the outcome of the validator leads to. -/
def Checked (dialect : Dialect) (exact : Prop) : Except Panic (List FieldError) -> Prop
  | .ok [] => exact
  | .ok violations => Nameable dialect violations
  | .error _ => False

def CallReads (endpoint : Endpoint Q R) (exact : Prop) (arr : Elements) (uniqueId : String) : Prop :=
  match arr with
  | [_, _, .string action, rawRequest] =>
    match endpoint.getProfileForFeature action with
    | none => True
    | some profile =>
      match profile.parseRequest action rawRequest with
      | .error _ => endpoint.dialect ≠ .unset
      | .ok request =>
        Checked endpoint.dialect exact (Call.validate ⟨uniqueId, action, some request⟩)
  | _ => endpoint.dialect ≠ .unset

/-- The pending request must not be nil. -/
def ResultReads (endpoint : Endpoint Q R) (pendingRequestState : ClientState Q) (exact : Prop)
    (rawResponse : Json) (uniqueId : String) : Prop :=
  match pendingRequestState.getPendingRequest uniqueId with
  | none => exact
  | some none => False
  | some (some request) =>
    match endpoint.getProfileForFeature (Payload.getFeatureName request) with
    | none => True
    | some profile =>
      match profile.parseResponse (Payload.getFeatureName request) rawResponse with
      | .error _ => endpoint.dialect ≠ .unset
      | .ok confirmation =>
        Checked endpoint.dialect exact (CallResult.validate ⟨uniqueId, confirmation⟩)

/-- The code of an error for the pending request must be a string. -/
def ErrorReads (endpoint : Endpoint Q R) (pendingRequestState : ClientState Q) (exact : Prop)
    (arr : Elements) (uniqueId : String) : Prop :=
  match pendingRequestState.getPendingRequest uniqueId with
  | none => exact
  | some _ =>
    match arr with
    | _ :: _ :: .string errorCode :: description :: _ =>
      Checked endpoint.dialect exact (.ok (CallError.validate
        ⟨uniqueId, errorCode, errorDescription description, errorDetails arr⟩))
    | _ :: _ :: _ :: _ :: _ => False
    | _ => endpoint.dialect ≠ .unset

/-- An array whose identifier is not looked at must not have one. -/
def Reads (endpoint : Endpoint Q R) (pendingRequestState : ClientState Q) (arr : Elements) : Prop :=
  match arr with
  | .num rawTypeId :: .string uniqueId :: third :: _ =>
    if uniqueId = "" then endpoint.dialect ≠ .unset
    else if messageType rawTypeId = 2 then endpoint.CallReads (rawTypeId = 2) arr uniqueId
    else if messageType rawTypeId = 3 then
      endpoint.ResultReads pendingRequestState (rawTypeId = 3) third uniqueId
    else if messageType rawTypeId = 4 then
      endpoint.ErrorReads pendingRequestState (rawTypeId = 4) arr uniqueId
    else True
  | _ => endpoint.dialect ≠ .unset ∧ frameId arr = ""

end Frames

theorem errorFromValidation_returns {dialect : Dialect} {validationErrors : List FieldError}
    {messageId feature : String} :
    (∃ err, errorFromValidation dialect validationErrors messageId feature = .ok err) <->
      Nameable dialect validationErrors := by
  have scanned : ∀ left : List FieldError,
      (∃ err, errorFromValidation.go dialect validationErrors messageId feature left = .ok err)
        <-> Nameable dialect left := by
    intro left
    induction left with
    | nil => simp [errorFromValidation.go, Nameable]
    | cons el rest ih =>
      unfold errorFromValidation.go
      by_cases required : el.tag = "required"
      · rw [if_pos required]
        cases dialect with
        | unset =>
          simp [Nameable, required, occurrenceViolation, occurrenceConstraintErrorType, bind,
            Except.bind]
        | _ => exact ⟨by simp [Nameable], fun _ => ⟨_, rfl⟩⟩
      · rw [if_neg required]
        cases bound : boundWords el.tag with
        | some details => simp [Nameable, required, bound]
        | none => simpa [Nameable, required, bound] using ih
  exact scanned validationErrors

variable {endpoint : Endpoint Q R} {pendingRequestState : ClientState Q} {sprint : Json -> String}
  {arr : Elements} {uniqueId : String}

theorem formatError_ne_message {description : String} {message : Message Q R} :
    endpoint.formatError description uniqueId ≠ .ok (.message message) := by
  unfold formatError
  cases formatErrorType endpoint.dialect with
  | _ => exact nofun

theorem validationError_ne_message {violations : List FieldError} {feature : String}
    {message : Message Q R} :
    endpoint.validationError violations uniqueId feature ≠ .ok (.message message) := by
  unfold validationError
  cases errorFromValidation endpoint.dialect violations uniqueId feature with
  | _ => exact nofun

variable [Payload Q] [Payload R]

theorem describes_formatError {description : String} :
    endpoint.Describes pendingRequestState arr (endpoint.formatError description uniqueId) <->
      endpoint.dialect ≠ .unset ∧ uniqueId = frameId arr := by
  unfold formatError
  cases endpoint.dialect with
  | _ => simp [Describes, formatErrorType, bind, Except.bind, pure, Except.pure, newError]

theorem describes_validationError {violations : List FieldError} {feature : String}
    (named : uniqueId = frameId arr) :
    endpoint.Describes pendingRequestState arr
        (endpoint.validationError violations uniqueId feature) <->
      Nameable endpoint.dialect violations := by
  rw [← @errorFromValidation_returns _ _ uniqueId feature]
  unfold validationError
  cases made : errorFromValidation endpoint.dialect violations uniqueId feature with
  | error panic => simp [Describes, bind, Except.bind]
  | ok err => simpa [Describes, bind, Except.bind, pure, Except.pure, named] using
      (errorFromValidation_sound made).2.trans named

variable {call : Call Q}

omit [Payload R] in
theorem parseCall_of_body (body : endpoint.CallBody arr uniqueId call) :
    endpoint.parseCall sprint arr uniqueId = .ok (.message (.call call)) := by
  obtain ⟨first, second, action, rawRequest, profile, request, rfl, supported, decoded, rfl,
    passed⟩ := body
  simp only [parseCall, supported, decoded, passed]
  rfl

omit [Payload R] in
theorem CallBody.of_parseCall
    (ret : endpoint.parseCall sprint arr uniqueId = .ok (.message (.call call))) :
    endpoint.CallBody arr uniqueId call := by
  unfold parseCall at ret
  split at ret
  · next first second action rawRequest =>
    split at ret
    · cases ret
    · next profile supported =>
      split at ret
      · exact absurd ret formatError_ne_message
      · next request decoded =>
        obtain ⟨violations, checked, ret⟩ := bind_eq_ok.mp ret
        cases violations with
        | nil =>
          cases ret
          exact ⟨first, second, action, rawRequest, profile, request, rfl, supported, decoded, rfl,
            checked⟩
        | cons violation rest => exact absurd ret validationError_ne_message
  · exact absurd ret formatError_ne_message
  · exact absurd ret formatError_ne_message

variable {callResult : CallResult R}

theorem parseCallResult_of_body {rawResponse : Json}
    (body : endpoint.ResultBody pendingRequestState rawResponse uniqueId callResult) :
    endpoint.parseCallResult pendingRequestState rawResponse uniqueId =
      .ok (.message (.callResult callResult)) := by
  obtain ⟨request, profile, confirmation, pending, supported, decoded, rfl, passed⟩ := body
  simp only [parseCallResult, pending, supported, decoded, passed]
  rfl

theorem ResultBody.of_parseCallResult {rawResponse : Json}
    (ret : endpoint.parseCallResult pendingRequestState rawResponse uniqueId = .ok (.message
      (.callResult callResult))) :
    endpoint.ResultBody pendingRequestState rawResponse uniqueId callResult := by
  unfold parseCallResult at ret
  split at ret
  · cases ret
  · cases ret
  · next request pending =>
    dsimp only at ret
    split at ret
    · cases ret
    · next profile supported =>
      split at ret
      · exact absurd ret formatError_ne_message
      · next confirmation decoded =>
        obtain ⟨violations, checked, ret⟩ := bind_eq_ok.mp ret
        cases violations with
        | nil =>
          cases ret
          exact ⟨request, profile, confirmation, pending, supported, decoded, rfl, checked⟩
        | cons violation rest => exact absurd ret validationError_ne_message

omit [Payload Q] [Payload R] in
theorem parseCallError_of_body {callError : CallError}
    (body : ErrorBody pendingRequestState arr uniqueId callError) :
    endpoint.parseCallError sprint pendingRequestState arr uniqueId =
      .ok (.message (.callError callError)) := by
  obtain ⟨first, second, errorCode, description, rest, rfl, pending, rfl, passed⟩ := body
  obtain ⟨slot, found⟩ := Option.isSome_iff_exists.mp pending
  simp only [parseCallError, found, passed]
  rfl

/-! ## `ParseMessage` -/

theorem messageType_two : messageType 2 = 2 := rfl

theorem messageType_three : messageType 3 = 3 := rfl

theorem messageType_four : messageType 4 = 4 := rfl

theorem parseMessage_of_callFrame (frame : endpoint.CallFrame arr call) :
    endpoint.parseMessage sprint arr pendingRequestState = .ok (.message (.call call)) := by
  obtain ⟨⟨action, rawRequest, rfl⟩, named, body⟩ := frame
  unfold parseMessage
  dsimp only
  rw [if_neg named, if_pos messageType_two]
  exact parseCall_of_body body

theorem parseMessage_of_resultFrame
    (frame : endpoint.ResultFrame pendingRequestState arr callResult) :
    endpoint.parseMessage sprint arr pendingRequestState =
      .ok (.message (.callResult callResult)) := by
  obtain ⟨rawResponse, rest, rfl, named, body⟩ := frame
  unfold parseMessage
  dsimp only
  rw [if_neg named, if_neg (by decide), if_pos messageType_three]
  exact parseCallResult_of_body body

theorem parseMessage_of_errorFrame {callError : CallError}
    (frame : ErrorFrame pendingRequestState arr callError) :
    endpoint.parseMessage sprint arr pendingRequestState =
      .ok (.message (.callError callError)) := by
  obtain ⟨⟨elements, rfl⟩, named, body⟩ := frame
  have long := body
  obtain ⟨_, _, _, _, rest, same, -⟩ := long
  injection same with _ same
  injection same with _ same
  subst same
  unfold parseMessage
  dsimp only
  rw [if_neg named, if_neg (by decide), if_neg (by decide), if_pos messageType_four]
  exact parseCallError_of_body body

theorem parseMessage_of_unexpected (frame : UnexpectedFrame pendingRequestState arr) :
    endpoint.parseMessage sprint arr pendingRequestState = .ok .discarded := by
  obtain ⟨rawTypeId, uniqueId, third, rest, rfl, kind, named, absent⟩ := frame
  unfold parseMessage
  dsimp only
  rw [if_neg named]
  rcases kind with rfl | rfl
  · rw [if_neg (by decide), if_pos messageType_three]
    simp only [parseCallResult, absent]
    rfl
  · rw [if_neg (by decide), if_neg (by decide), if_pos messageType_four]
    simp only [parseCallError, absent]
    rfl

omit [Payload Q] [Payload R] in
/-- A reply that is not expected is described as one if its type is exact. -/
theorem unexpected_iff {type : Int} (reply : type = 3 ∨ type = 4) {rawTypeId : Rat}
    (kind : messageType rawTypeId = type) (named : uniqueId ≠ "")
    (absent : pendingRequestState.getPendingRequest uniqueId = none) {third : Json}
    {rest : Elements} :
    UnexpectedFrame pendingRequestState (.num rawTypeId :: .string uniqueId :: third :: rest) <->
      rawTypeId = type := by
  constructor
  · rintro ⟨_, _, _, _, same, exact, -⟩
    injection same with same
    injection same with same
    subst same
    rcases exact with rfl | rfl
    · rw [← kind, messageType_three]
      rfl
    · rw [← kind, messageType_four]
      rfl
  · rintro rfl
    exact ⟨_, uniqueId, third, rest, rfl, by exact_mod_cast reply, named, absent⟩

theorem describes_malformed {rawTypeId : Rat} {rest : Elements} {description : String} :
    endpoint.Describes pendingRequestState (.num rawTypeId :: .string uniqueId :: rest)
        (endpoint.formatError description uniqueId) <-> endpoint.dialect ≠ .unset :=
  describes_formatError.trans (and_iff_left rfl)

theorem describes_parseCall (named : uniqueId ≠ "") (rawTypeId : Rat) (third : Json)
    (rest : Elements) :
    endpoint.Describes pendingRequestState (.num rawTypeId :: .string uniqueId :: third :: rest)
        (endpoint.parseCall sprint (.num rawTypeId :: .string uniqueId :: third :: rest)
          uniqueId) <->
      endpoint.CallReads (rawTypeId = 2) (.num rawTypeId :: .string uniqueId :: third :: rest)
        uniqueId := by
  cases third with
  | string action =>
    rcases rest with _ | ⟨rawRequest, _ | ⟨_, _⟩⟩
    · exact describes_malformed
    · unfold parseCall CallReads
      dsimp only
      cases supported : endpoint.getProfileForFeature action with
      | none => exact iff_of_true rfl trivial
      | some profile =>
        dsimp only
        cases decoded : profile.parseRequest action rawRequest with
        | error text => exact describes_malformed
        | ok request =>
          dsimp only
          cases checked : Call.validate ⟨uniqueId, action, some request⟩ with
          | error panic => exact .rfl
          | ok violations =>
            cases violations with
            | cons violation others => exact describes_validationError rfl
            | nil =>
              constructor
              · rintro ⟨⟨_, _, same⟩, -⟩
                injection same with same
                injection same
              · rintro rfl
                exact ⟨⟨_, _, rfl⟩, named, _, _, action, rawRequest, profile, request, rfl,
                  supported, decoded, rfl, checked⟩
    · exact describes_malformed
  | _ => rcases rest with _ | ⟨_, _ | ⟨_, _⟩⟩ <;> exact describes_malformed

theorem describes_parseCallResult (named : uniqueId ≠ "") {rawTypeId : Rat}
    (kind : messageType rawTypeId = 3) (third : Json) (rest : Elements) :
    endpoint.Describes pendingRequestState (.num rawTypeId :: .string uniqueId :: third :: rest)
        (endpoint.parseCallResult pendingRequestState third uniqueId) <->
      endpoint.ResultReads pendingRequestState (rawTypeId = 3) third uniqueId := by
  unfold parseCallResult ResultReads
  cases pending : pendingRequestState.getPendingRequest uniqueId with
  | none => exact unexpected_iff (.inl rfl) kind named pending
  | some slot =>
    cases slot with
    | none => exact .rfl
    | some request =>
      dsimp only
      cases supported : endpoint.getProfileForFeature (Payload.getFeatureName request) with
      | none => exact iff_of_true rfl trivial
      | some profile =>
        dsimp only
        cases decoded : profile.parseResponse (Payload.getFeatureName request) third with
        | error text => exact describes_malformed
        | ok confirmation =>
          dsimp only
          cases checked : CallResult.validate ⟨uniqueId, confirmation⟩ with
          | error panic => exact .rfl
          | ok violations =>
            cases violations with
            | cons violation others => exact describes_validationError rfl
            | nil =>
              constructor
              · rintro ⟨_, _, same, -⟩
                injection same with same
                injection same
              · rintro rfl
                exact ⟨third, rest, rfl, named, request, profile, confirmation, pending, supported,
                  decoded, rfl, checked⟩

theorem describes_parseCallError (named : uniqueId ≠ "") {rawTypeId : Rat}
    (kind : messageType rawTypeId = 4) (third : Json) (rest : Elements) :
    endpoint.Describes pendingRequestState (.num rawTypeId :: .string uniqueId :: third :: rest)
        (endpoint.parseCallError sprint pendingRequestState
          (.num rawTypeId :: .string uniqueId :: third :: rest) uniqueId) <->
      endpoint.ErrorReads pendingRequestState (rawTypeId = 4)
        (.num rawTypeId :: .string uniqueId :: third :: rest) uniqueId := by
  unfold parseCallError ErrorReads
  cases pending : pendingRequestState.getPendingRequest uniqueId with
  | none => exact unexpected_iff (.inr rfl) kind named pending
  | some slot =>
    cases third with
    | string errorCode =>
      rcases rest with _ | ⟨description, rest⟩
      · exact describes_malformed
      · dsimp only
        cases checked : CallError.validate ⟨uniqueId, errorCode, errorDescription description,
          errorDetails (.num rawTypeId :: .string uniqueId :: .string errorCode :: description ::
            rest)⟩ with
        | cons violation others => exact describes_validationError rfl
        | nil =>
          constructor
          · rintro ⟨⟨_, same⟩, -⟩
            injection same with same
            injection same
          · rintro rfl
            exact ⟨⟨_, rfl⟩, named, _, _, errorCode, description, rest, rfl, by simp [pending], rfl,
              checked⟩
    | _ =>
      rcases rest with _ | ⟨description, rest⟩
      · exact describes_malformed
      -- the error carries the empty code in place of the identifier
      · exact iff_of_false (fun told => named (describes_formatError.mp told).2.symm) id

theorem reads_of_unread (unread : ∀ rawTypeId uniqueId third rest,
      arr ≠ .num rawTypeId :: .string uniqueId :: third :: rest) :
    endpoint.Reads pendingRequestState arr <->
      endpoint.dialect ≠ .unset ∧ frameId arr = "" := by
  unfold Reads
  split
  · exact absurd rfl (unread _ _ _ _)
  · exact .rfl

theorem describes_parseMessage (sprint : Json -> String) :
    endpoint.Describes pendingRequestState arr
        (endpoint.parseMessage sprint arr pendingRequestState) <->
      endpoint.Reads pendingRequestState arr := by
  unfold parseMessage
  split
  · rename_i rawTypeId uniqueId third rest
    unfold Reads
    dsimp only
    split
    · exact describes_malformed
    · rename_i named
      split
      · exact describes_parseCall named rawTypeId third rest
      · split
        · rename_i kind
          exact describes_parseCallResult named kind third rest
        · split
          · rename_i kind
            exact describes_parseCallError named kind third rest
          · exact iff_of_true rfl trivial
  · rename_i rawTypeId element third rest notIdentifier
    rw [reads_of_unread ?_, describes_formatError, eq_comm]
    intro _ uniqueId _ _ same
    injection same with _ same
    injection same with same _
    exact notIdentifier uniqueId same
  · rename_i element second third rest notIdentified notNumber
    rw [reads_of_unread ?_, describes_formatError, eq_comm]
    intro rawTypeId uniqueId _ _ same
    injection same with same _
    exact notNumber rawTypeId same
  · rename_i notIdentified notNumber notLong
    rw [reads_of_unread notIdentified, describes_formatError, eq_comm]

/-- The identifier that a result of `ParseMessage` carries, if it carries one. -/
def Parsed.carriedId : Parsed Q R -> Option String
  | .message (.call call) => some call.uniqueId
  | .message (.callResult callResult) => some callResult.uniqueId
  | .message (.callError callError) => some callError.uniqueId
  | .discarded => none
  | .rejected err => some err.messageId

theorem Describes.repeats {parsed : Parsed Q R}
    (described : endpoint.Describes pendingRequestState arr (.ok parsed)) (uniqueId : String)
    (carried : Parsed.carriedId parsed = some uniqueId) : uniqueId = frameId arr := by
  cases parsed with
  | message message =>
    cases message with
    | call call =>
      obtain ⟨⟨_, _, rfl⟩, _⟩ := described
      exact (Option.some.inj carried).symm
    | callResult callResult =>
      obtain ⟨_, _, rfl, _⟩ := described
      exact (Option.some.inj carried).symm
    | callError callError =>
      obtain ⟨⟨_, rfl⟩, _⟩ := described
      exact (Option.some.inj carried).symm
  | discarded => cases carried
  | rejected err => exact (Option.some.inj carried).symm.trans described

/-- `ParseMessage` returns a CALL, a CALL_RESULT or a CALL_ERROR exactly for the
frames that describe one, nothing exactly for a reply that is not expected, an error
otherwise, and a result that repeats the identifier of the array, exactly as long as
the array is read as it should be. -/
theorem parseMessage_recognises (endpoint : Endpoint Q R) (sprint : Json -> String)
    (pendingRequestState : ClientState Q) (arr : Elements) :
    ((∀ call, endpoint.parseMessage sprint arr pendingRequestState =
        .ok (.message (.call call)) <-> endpoint.CallFrame arr call) ∧
      (∀ callResult, endpoint.parseMessage sprint arr pendingRequestState =
        .ok (.message (.callResult callResult)) <->
          endpoint.ResultFrame pendingRequestState arr callResult) ∧
      (∀ callError, endpoint.parseMessage sprint arr pendingRequestState =
        .ok (.message (.callError callError)) <-> ErrorFrame pendingRequestState arr callError) ∧
      (endpoint.parseMessage sprint arr pendingRequestState = .ok .discarded <->
        UnexpectedFrame pendingRequestState arr) ∧
      ∃ parsed, endpoint.parseMessage sprint arr pendingRequestState = .ok parsed ∧
        ∀ uniqueId, Parsed.carriedId parsed = some uniqueId -> uniqueId = frameId arr) <->
      endpoint.Reads pendingRequestState arr := by
  rw [← describes_parseMessage sprint]
  constructor
  · rintro ⟨calls, results, errors, replies, parsed, ret, repeats⟩
    rw [ret]
    cases parsed with
    | message message =>
      cases message with
      | call call => exact (calls call).mp ret
      | callResult callResult => exact (results callResult).mp ret
      | callError callError => exact (errors callError).mp ret
    | discarded => exact replies.mp ret
    | rejected err => exact repeats err.messageId rfl
  · intro described
    have describes {parsed}
        (ret : endpoint.parseMessage sprint arr pendingRequestState = .ok parsed) :
        endpoint.Describes pendingRequestState arr (.ok parsed) := ret ▸ described
    refine ⟨fun call => ⟨describes, parseMessage_of_callFrame⟩,
      fun callResult => ⟨describes, parseMessage_of_resultFrame⟩,
      fun callError => ⟨describes, parseMessage_of_errorFrame⟩,
      ⟨describes, parseMessage_of_unexpected⟩, ?_⟩
    cases ret : endpoint.parseMessage sprint arr pendingRequestState with
    | error panic =>
      rw [ret] at described
      exact described.elim
    | ok parsed => exact ⟨parsed, rfl, (describes ret).repeats⟩

end Endpoint

/-- A message type with a fraction is read without it, and the error for a
CALL_ERROR whose code is not a string does not carry the identifier. -/
theorem parseMessage_misreads :
    (∃ call, heartbeatEndpoint.parseMessage (fun _ => "")
      [.num (5 / 2), .string "1", .string "Heartbeat", .object []] .new =
        .ok (.message (.call call))) ∧
    (∃ err, heartbeatEndpoint.parseMessage (fun _ => "")
      [.num 4, .string "1", .num 5, .string ""] ⟨"1", some {}⟩ = .ok (.rejected err) ∧
        err.messageId = "") := by
  have truncated : messageType (5 / 2) = 2 := by decide +kernel
  refine ⟨⟨⟨"1", "Heartbeat", some {}⟩, ?_⟩, ⟨_, rfl, rfl⟩⟩
  unfold Endpoint.parseMessage
  dsimp only
  rw [if_neg (by decide), if_pos truncated]
  rfl

/-- A CALL is recognised without a dialect, which only errors need. -/
theorem parseMessage_recognises_heartbeat :
    Endpoint.CallFrame { heartbeatEndpoint with dialect := .unset }
      [.num 2, .string "1", .string "Heartbeat", .object []] ⟨"1", "Heartbeat", some {}⟩ := by
  refine (((Endpoint.parseMessage_recognises _ (fun _ => "") .new _).mpr ?_).1 _).mp rfl
  rw [Endpoint.Reads, if_neg (by decide), if_pos Endpoint.messageType_two]
  exact rfl

end Ocppj
end OcppGo
