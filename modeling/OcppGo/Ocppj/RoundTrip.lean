import Mathlib.Data.Nat.Digits.Defs
import Mathlib.Data.Rat.Encodable
import Mathlib.Logic.Equiv.List
import Mathlib.Tactic.DeriveEncodable
import OcppGo.Ocppj.Parsing

namespace OcppGo
namespace Ocppj

open OcppGo.Sequential List

/-!
# From one endpoint to the other

A message that one endpoint builds and marshals is read by `ParseRawJsonMessage`
and `ParseMessage` at the other one.  That `encoding/json` reads a generic value it
has written is taken as given, and so is that the payload types survive their JSON
form.
-/

/-- `encoding/json` on arrays of generic values. -/
structure Codec (Byte : Type) where
  leftBracket : Byte
  rightBracket : Byte
  jsonMarshal : Elements -> List Byte
  unmarshal : List Byte -> Except String Elements
  unmarshal_jsonMarshal : ∀ elements, unmarshal (jsonMarshal elements) = .ok elements
  bracketed : ∀ elements, ∃ inner,
    jsonMarshal elements = leftBracket :: (inner ++ [rightBracket])

variable {Byte : Type}

def parseRawJsonMessage (codec : Codec Byte) (dataJson : List Byte) : Except String Elements :=
  codec.unmarshal dataJson

/-- `ocppMessageToJson`: the first and the last byte are overwritten. -/
def ocppMessageToJson (codec : Codec Byte) (message : Elements) : List Byte :=
  let jsonData := codec.jsonMarshal message
  (jsonData.set 0 codec.leftBracket).set (jsonData.length - 1) codec.rightBracket

/-- On an array, overwriting changes nothing. -/
theorem ocppMessageToJson_eq (codec : Codec Byte) (message : Elements) :
    ocppMessageToJson codec message = codec.jsonMarshal message := by
  obtain ⟨inner, same⟩ := codec.bracketed message
  unfold ocppMessageToJson
  simp only [same, set_cons_zero, length_cons, length_append, length_nil]
  simp

section Marshalling

variable {P : Type} [Payload P]

/-- The bytes of a CALL. -/
def Call.bytes (codec : Codec Byte) (call : Call P) : Except Panic (Except String (List Byte)) :=
  call.marshalJSON.map fun marshalled => marshalled.map codec.jsonMarshal

/-- The bytes of a CALL_RESULT. -/
def CallResult.bytes (codec : Codec Byte) (callResult : CallResult P) :
    Except Panic (Except String (List Byte)) :=
  callResult.marshalJSON.map fun marshalled => marshalled.map codec.jsonMarshal

end Marshalling

/-- The bytes of a CALL_ERROR. -/
def CallError.bytes (codec : Codec Byte) (callError : CallError) : List Byte :=
  ocppMessageToJson codec callError.marshalJSON

/-- The bytes come from the elements. -/
theorem elements_of_bytes {codec : Codec Byte} {marshalled : Except Panic (Except String Elements)}
    {data : List Byte}
    (made : (marshalled.map fun result => result.map codec.jsonMarshal) = .ok (.ok data)) :
    ∃ elements, marshalled = .ok (.ok elements) ∧ data = codec.jsonMarshal elements := by
  cases marshalled with
  | error panic => cases made
  | ok result =>
    cases result with
    | error text => cases made
    | ok elements =>
      cases made
      exact ⟨elements, rfl, rfl⟩

/-! ## Payloads -/

variable {Q R : Type} [Payload Q] [Payload R]

/-- The payloads of the supported features decode to what was marshalled, and none
of them is marshalled to null. -/
structure Endpoint.Faithful (endpoint : Endpoint Q R) : Prop where
  requests : ∀ name profile feature, endpoint.getProfileForFeature name = some profile ->
    profile.features name = some feature -> ∀ request json,
      Payload.getFeatureName request = name -> Payload.marshal request = .ok (.ok json) ->
      json ≠ .null ∧ feature.decodeRequest json = .ok request
  responses : ∀ name profile feature, endpoint.getProfileForFeature name = some profile ->
    profile.features name = some feature -> ∀ response json,
      Payload.getFeatureName response = name -> Payload.marshal response = .ok (.ok json) ->
      json ≠ .null ∧ feature.decodeResponse json = .ok response

variable {profile : Profile Q R}

omit [Payload Q] [Payload R] in
/-- A profile that is found for a feature has the feature. -/
theorem Endpoint.feature_of_profile {endpoint : Endpoint Q R} {name : String}
    (found : endpoint.getProfileForFeature name = some profile) :
    ∃ feature, profile.features name = some feature := by
  have supports := find?_some found
  exact Option.isSome_iff_exists.mp supports

theorem Profile.orEmpty_of_ne_null {json : Json} (present : json ≠ .null) :
    Profile.orEmpty json = json := by
  cases json with
  | null => exact absurd rfl present
  | _ => rfl

variable {uniqueId : String} {pendingRequestState : ClientState Q} {request : Q} {response : R}

section Reading

variable {endpoint : Endpoint Q R} {sprint : Json -> String}

variable (faithful : endpoint.Faithful)
include faithful

theorem Endpoint.Faithful.parseRequest {json : Json}
    (found : endpoint.getProfileForFeature (Payload.getFeatureName request) = some profile)
    (marshalled : Payload.marshal request = .ok (.ok json)) :
    profile.parseRequest (Payload.getFeatureName request) json = .ok request := by
  obtain ⟨feature, known⟩ := Endpoint.feature_of_profile found
  obtain ⟨present, decoded⟩ := faithful.requests _ _ _ found known _ _ rfl marshalled
  simp only [Profile.parseRequest, known, Profile.orEmpty_of_ne_null present, decoded]

theorem Endpoint.Faithful.parseResponse {json : Json}
    (found : endpoint.getProfileForFeature (Payload.getFeatureName response) = some profile)
    (marshalled : Payload.marshal response = .ok (.ok json)) :
    profile.parseResponse (Payload.getFeatureName response) json = .ok response := by
  obtain ⟨feature, known⟩ := Endpoint.feature_of_profile found
  obtain ⟨present, decoded⟩ := faithful.responses _ _ _ found known _ _ rfl marshalled
  simp only [Profile.parseResponse, known, Profile.orEmpty_of_ne_null present, decoded]

/-- A CALL that satisfies the validator is read as it was written. -/
theorem parseMessage_marshalled_call
    (found : endpoint.getProfileForFeature (Payload.getFeatureName request) = some profile)
    (passed : (Call.mk uniqueId (Payload.getFeatureName request) (some request)).validate = .ok [])
    {elements : Elements}
    (marshalled : (Call.mk uniqueId (Payload.getFeatureName request) (some request)).marshalJSON =
      .ok (.ok elements))
    (pendingRequestState : ClientState Q) :
    endpoint.parseMessage sprint elements pendingRequestState =
      .ok (.message (.call ⟨uniqueId, Payload.getFeatureName request, some request⟩)) := by
  obtain ⟨result, encoded, marshalled⟩ := bind_eq_ok.mp marshalled
  cases result with
  | error text => cases marshalled
  | ok json =>
    cases marshalled
    refine Endpoint.parseMessage_of_callFrame ⟨⟨_, json, rfl⟩, (Call.validIdentifier passed).1, ?_⟩
    exact ⟨_, _, _, json, profile, request, rfl, found, faithful.parseRequest found encoded, rfl,
      passed⟩

/-- A CALL_RESULT that satisfies the validator is read as it was written, where the
request it answers is pending. -/
theorem parseMessage_marshalled_callResult
    (found : endpoint.getProfileForFeature (Payload.getFeatureName response) = some profile)
    (named : uniqueId ≠ "") (passed : (CallResult.mk uniqueId response).validate = .ok [])
    {elements : Elements}
    (marshalled : (CallResult.mk uniqueId response).marshalJSON = .ok (.ok elements))
    (pending : pendingRequestState.getPendingRequest uniqueId = some (some request))
    (same : Payload.getFeatureName request = Payload.getFeatureName response) :
    endpoint.parseMessage sprint elements pendingRequestState =
      .ok (.message (.callResult ⟨uniqueId, response⟩)) := by
  obtain ⟨result, encoded, marshalled⟩ := bind_eq_ok.mp marshalled
  cases result with
  | error text => cases marshalled
  | ok json =>
    cases marshalled
    refine Endpoint.parseMessage_of_resultFrame ⟨json, [], rfl, named, ?_⟩
    refine ⟨request, profile, response, pending, ?_, ?_, rfl, passed⟩
    · rwa [same]
    · rw [same]
      exact faithful.parseResponse found encoded

end Reading

omit [Payload Q] in
theorem CallResult.validIdentifier (passed : (CallResult.mk uniqueId response).validate = .ok []) :
    ValidIdentifier uniqueId := by
  obtain ⟨violations, _, passed⟩ := bind_eq_ok.mp passed
  rw [pure_eq_ok, append_eq_nil_iff] at passed
  exact checkIdentifier_eq_nil.mp passed.1

variable {callError : CallError}

theorem CallError.validIdentifier (passed : callError.validate = []) :
    ValidIdentifier callError.uniqueId := by
  unfold CallError.validate at passed
  exact checkIdentifier_eq_nil.mp (append_eq_nil_iff.mp passed).1

/-- The details of an error as they come back: nil as the empty object, and a value
that is written as null as nil. -/
def receivedDetails : Option Json -> Option Json
  | none => some (.object [])
  | some .null => none
  | some details => some details

theorem errorDetails_marshalJSON (callError : CallError) :
    Endpoint.errorDetails callError.marshalJSON = receivedDetails callError.errorDetails := by
  obtain ⟨uniqueId, errorCode, description, details⟩ := callError
  cases details with
  | none => rfl
  | some json =>
    cases json with
    | _ => rfl

/-- A CALL_ERROR that satisfies the validator is read as it was written, where its
request is pending. -/
theorem parseMessage_marshalled_callError {endpoint : Endpoint Q R} {sprint : Json -> String}
    (passed : callError.validate = [])
    (pending : (pendingRequestState.getPendingRequest callError.uniqueId).isSome = true) :
    endpoint.parseMessage sprint callError.marshalJSON pendingRequestState =
      .ok (.message (.callError
        { callError with errorDetails := receivedDetails callError.errorDetails })) := by
  refine Endpoint.parseMessage_of_errorFrame
    ⟨⟨_, rfl⟩, (CallError.validIdentifier passed).1, ?_⟩
  refine ⟨_, _, _, _, _, rfl, pending, ?_, passed⟩
  rw [errorDetails_marshalJSON]
  rfl

omit [Payload R] in
/-- What `CreateCall` returns, and what it has checked. -/
theorem createCall_ok {endpoint : Endpoint Q R} {validationEnabled : Bool} {call : Call Q}
    (created : endpoint.createCall validationEnabled request uniqueId = .ok (.ok call)) :
    call = ⟨uniqueId, Payload.getFeatureName request, some request⟩ ∧
      (∃ profile, endpoint.getProfileForFeature (Payload.getFeatureName request) = some profile) ∧
      (validationEnabled = true -> call.validate = .ok []) := by
  unfold Endpoint.createCall at created
  dsimp only at created
  split at created
  · cases created
  · next profile found =>
    cases validationEnabled with
    | false =>
      cases created
      exact ⟨rfl, ⟨profile, found⟩, by simp⟩
    | true =>
      obtain ⟨violations, checked, created⟩ := bind_eq_ok.mp created
      cases violations with
      | nil =>
        cases created
        exact ⟨rfl, ⟨profile, found⟩, fun _ => checked⟩
      | cons violation rest => cases created

omit [Payload Q] in
/-- What `CreateCallResult` returns, and what it has checked. -/
theorem createCallResult_ok {endpoint : Endpoint Q R} {validationEnabled : Bool}
    {callResult : CallResult R}
    (created : endpoint.createCallResult validationEnabled response uniqueId = .ok (.ok callResult)) :
    callResult = ⟨uniqueId, response⟩ ∧
      (∃ profile, endpoint.getProfileForFeature (Payload.getFeatureName response) = some profile) ∧
      (validationEnabled = true -> callResult.validate = .ok []) := by
  unfold Endpoint.createCallResult at created
  dsimp only at created
  split at created
  · cases created
  · next profile found =>
    cases validationEnabled with
    | false =>
      cases created
      exact ⟨rfl, ⟨profile, found⟩, by simp⟩
    | true =>
      obtain ⟨violations, checked, created⟩ := bind_eq_ok.mp created
      cases violations with
      | nil =>
        cases created
        exact ⟨rfl, ⟨profile, found⟩, fun _ => checked⟩
      | cons violation rest => cases created

/-! ## Round trips -/

omit [Payload Q] [Payload R] in
theorem getProfileForFeature_of_profiles {sender receiver : Endpoint Q R}
    (same : receiver.profiles = sender.profiles) (name : String) :
    receiver.getProfileForFeature name = sender.getProfileForFeature name := by
  unfold Endpoint.getProfileForFeature
  rw [same]

/-- Reading the bytes gives the message. -/
def Arrives (codec : Codec Byte) (receiver : Endpoint Q R) (sprint : Json -> String)
    (pendingRequestState : ClientState Q) (data : List Byte) (message : Message Q R) : Prop :=
  ∃ arr, parseRawJsonMessage codec data = .ok arr ∧
    receiver.parseMessage sprint arr pendingRequestState = .ok (.message message)

section Arrival

variable {codec : Codec Byte} {sender receiver : Endpoint Q R} {validationEnabled : Bool}
  {data : List Byte}

section

variable (same : receiver.profiles = sender.profiles) (faithful : receiver.Faithful)
  (sprint : Json -> String)
include same faithful sprint

theorem call_arrives {call : Call Q}
    (created : sender.createCall validationEnabled request uniqueId = .ok (.ok call))
    (passed : call.validate = .ok []) (marshalled : call.bytes codec = .ok (.ok data))
    (pendingRequestState : ClientState Q) :
    Arrives codec receiver sprint pendingRequestState data (.call call) := by
  obtain ⟨rfl, ⟨profile, found⟩, -⟩ := createCall_ok created
  obtain ⟨elements, encoded, rfl⟩ := elements_of_bytes marshalled
  rw [← getProfileForFeature_of_profiles same] at found
  refine ⟨elements, codec.unmarshal_jsonMarshal elements, ?_⟩
  exact parseMessage_marshalled_call faithful found passed encoded pendingRequestState

theorem callResult_arrives {callResult : CallResult R}
    (created : sender.createCallResult validationEnabled response uniqueId = .ok (.ok callResult))
    (passed : callResult.validate = .ok []) (marshalled : callResult.bytes codec = .ok (.ok data))
    (pending : pendingRequestState.getPendingRequest uniqueId = some (some request))
    (answered : Payload.getFeatureName request = Payload.getFeatureName response) :
    Arrives codec receiver sprint pendingRequestState data (.callResult callResult) := by
  obtain ⟨rfl, ⟨profile, found⟩, -⟩ := createCallResult_ok created
  obtain ⟨elements, encoded, rfl⟩ := elements_of_bytes marshalled
  rw [← getProfileForFeature_of_profiles same] at found
  refine ⟨elements, codec.unmarshal_jsonMarshal elements, ?_⟩
  exact parseMessage_marshalled_callResult faithful found (CallResult.validIdentifier passed).1
    passed encoded pending answered

end

theorem callError_arrives (sprint : Json -> String) (passed : callError.validate = [])
    (pending : (pendingRequestState.getPendingRequest callError.uniqueId).isSome = true) :
    Arrives codec receiver sprint pendingRequestState (callError.bytes codec)
      (.callError { callError with errorDetails := receivedDetails callError.errorDetails }) := by
  refine ⟨callError.marshalJSON, ?_, parseMessage_marshalled_callError passed pending⟩
  rw [CallError.bytes, ocppMessageToJson_eq]
  exact codec.unmarshal_jsonMarshal _

end Arrival

/-- With validation switched on, whatever the constructors return is read as it was
built by an endpoint with the same profiles. -/
theorem frame_round_trip (codec : Codec Byte) {sender receiver : Endpoint Q R} (sprint : Json -> String)
    (same : receiver.profiles = sender.profiles) (faithful : receiver.Faithful) :
    (∀ request uniqueId call data pendingRequestState,
      sender.createCall true request uniqueId = .ok (.ok call) ->
      call.bytes codec = .ok (.ok data) ->
      Arrives codec receiver sprint pendingRequestState data (.call call)) ∧
    (∀ response uniqueId callResult data pendingRequestState request,
      sender.createCallResult true response uniqueId = .ok (.ok callResult) ->
      callResult.bytes codec = .ok (.ok data) ->
      pendingRequestState.getPendingRequest uniqueId = some (some request) ->
      Payload.getFeatureName request = Payload.getFeatureName response ->
      Arrives codec receiver sprint pendingRequestState data (.callResult callResult)) ∧
    (∀ uniqueId code description details callError pendingRequestState,
      createCallError true uniqueId code description details = .ok callError ->
      (pendingRequestState.getPendingRequest uniqueId).isSome = true ->
      Arrives codec receiver sprint pendingRequestState (callError.bytes codec)
        (.callError { callError with errorDetails := receivedDetails callError.errorDetails })) := by
  refine ⟨?_, ?_, ?_⟩
  · intro request uniqueId call data pendingRequestState created marshalled
    exact call_arrives same faithful sprint created ((createCall_ok created).2.2 rfl) marshalled
      pendingRequestState
  · intro response uniqueId callResult data pendingRequestState request created marshalled pending
      answered
    exact callResult_arrives same faithful sprint created ((createCallResult_ok created).2.2 rfl)
      marshalled pending answered
  · intro uniqueId code description details callError pendingRequestState created pending
    obtain ⟨rfl, passed⟩ := createCallError_ok created
    exact callError_arrives sprint (passed rfl) pending

/-- What arrives satisfies the validator, since `ParseMessage` always asks it. -/
theorem Arrives.sound {codec : Codec Byte} {receiver : Endpoint Q R} {sprint : Json -> String}
    {data : List Byte} {message : Message Q R}
    (arrives : Arrives codec receiver sprint pendingRequestState data message) :
    ∃ arr, Endpoint.Sound arr (.message message) := by
  obtain ⟨arr, -, parsed⟩ := arrives
  exact ⟨arr, Endpoint.parseMessage_sound parsed⟩

/-- With validation switched off, whatever the constructors return is read as it was
built if and only if it satisfies the validator all the same. -/
theorem unvalidated_round_trip (codec : Codec Byte) {sender receiver : Endpoint Q R}
    (sprint : Json -> String) (same : receiver.profiles = sender.profiles)
    (faithful : receiver.Faithful) :
    (∀ request uniqueId call data pendingRequestState,
      sender.createCall false request uniqueId = .ok (.ok call) ->
      call.bytes codec = .ok (.ok data) ->
      (Arrives codec receiver sprint pendingRequestState data (.call call) <->
        call.validate = .ok [])) ∧
    (∀ response uniqueId callResult data pendingRequestState request,
      sender.createCallResult false response uniqueId = .ok (.ok callResult) ->
      callResult.bytes codec = .ok (.ok data) ->
      pendingRequestState.getPendingRequest uniqueId = some (some request) ->
      Payload.getFeatureName request = Payload.getFeatureName response ->
      (Arrives codec receiver sprint pendingRequestState data (.callResult callResult) <->
        callResult.validate = .ok [])) ∧
    (∀ uniqueId code description details callError pendingRequestState,
      createCallError false uniqueId code description details = .ok callError ->
      (pendingRequestState.getPendingRequest uniqueId).isSome = true ->
      (Arrives codec receiver sprint pendingRequestState (callError.bytes codec)
          (.callError { callError with errorDetails := receivedDetails callError.errorDetails }) <->
        callError.validate = [])) := by
  refine ⟨?_, ?_, ?_⟩
  · intro request uniqueId call data pendingRequestState created marshalled
    refine ⟨fun arrives => ?_, fun passed => ?_⟩
    · obtain ⟨arr, sound⟩ := arrives.sound
      exact sound.1
    · exact call_arrives same faithful sprint created passed marshalled pendingRequestState
  · intro response uniqueId callResult data pendingRequestState request created marshalled pending
      answered
    refine ⟨fun arrives => ?_, fun passed => ?_⟩
    · obtain ⟨arr, sound⟩ := arrives.sound
      exact sound.1
    · exact callResult_arrives same faithful sprint created passed marshalled pending answered
  · intro uniqueId code description details callError pendingRequestState created pending
    obtain ⟨rfl, -⟩ := createCallError_ok created
    refine ⟨fun arrives => ?_, fun passed => callError_arrives sprint passed pending⟩
    obtain ⟨arr, sound⟩ := arrives.sound
    exact sound.1

/-! ## A codec of bytes -/

/-- The parts of a JSON value, each after what it is made of. -/
inductive Symbol where
  | null
  | bool (value : Bool)
  | num (value : Rat)
  | string (codes : List Nat)
  | array (size : Nat)
  | object (names : List (List Nat))
  deriving Encodable

def spell (text : String) : List Nat := text.toList.map Char.toNat

def unspell (codes : List Nat) : String := String.ofList (codes.map Char.ofNat)

theorem unspell_spell (text : String) : unspell (spell text) = text := by
  simp [unspell, spell, Function.comp_def]

mutual

def symbols : Json -> List Symbol
  | .null => [.null]
  | .bool value => [.bool value]
  | .num value => [.num value]
  | .string text => [.string (spell text)]
  | .array items => itemSymbols items ++ [.array items.length]
  | .object members =>
      memberSymbols members ++ [.object (members.map fun mem => spell mem.1)]

def itemSymbols : List Json -> List Symbol
  | [] => []
  | item :: rest => symbols item ++ itemSymbols rest

def memberSymbols : List (String × Json) -> List Symbol
  | [] => []
  | (_, value) :: rest => symbols value ++ memberSymbols rest

end

/-- A symbol takes its parts from the stack. -/
def build (stack : List Json) : Symbol -> List Json
  | .null => .null :: stack
  | .bool value => .bool value :: stack
  | .num value => .num value :: stack
  | .string codes => .string (unspell codes) :: stack
  | .array size => .array (stack.take size).reverse :: stack.drop size
  | .object names => .object ((names.map unspell).zip (stack.take names.length).reverse) ::
      stack.drop names.length

mutual

theorem build_symbols : (json : Json) -> (stack : List Json) ->
    (symbols json).foldl build stack = json :: stack
  | .null, _ => rfl
  | .bool _, _ => rfl
  | .num _, _ => rfl
  | .string text, _ => by simp [symbols, build, unspell_spell]
  | .array items, stack => by simp [symbols, build, build_items items]
  | .object members, stack => by
      simp [symbols, build, build_members members, Function.comp_def, unspell_spell, zip_map']

theorem build_items : (items stack : List Json) ->
    (itemSymbols items).foldl build stack = items.reverse ++ stack
  | [], _ => rfl
  | item :: rest, stack => by simp [itemSymbols, build_symbols item, build_items rest]

theorem build_members : (members : List (String × Json)) -> (stack : List Json) ->
    (memberSymbols members).foldl build stack = (members.map Prod.snd).reverse ++ stack
  | [], _ => rfl
  | (_, value) :: rest, stack => by
      simp [memberSymbols, build_symbols value, build_members rest]

end

/-- A number as its digits to the base 256. -/
def numberBytes (value : Nat) : List UInt8 := (Nat.digits 256 value).map UInt8.ofNat

theorem ofDigits_numberBytes (value : Nat) :
    Nat.ofDigits 256 ((numberBytes value).map UInt8.toNat) = value := by
  have bytes : (numberBytes value).map UInt8.toNat = Nat.digits 256 value := by
    rw [numberBytes, map_map]
    refine (map_congr_left fun digit mem => ?_).trans (map_id _)
    exact UInt8.toNat_ofNat_of_lt' (Nat.digits_lt_base (by decide) mem)
  rw [bytes, Nat.ofDigits_digits]

/-- Between the brackets stands the code of the symbols. -/
def byteCodec : Codec UInt8 where
  leftBracket := 91
  rightBracket := 93
  jsonMarshal elements := 91 :: (numberBytes (Encodable.encode (itemSymbols elements)) ++ [93])
  unmarshal data :=
    let code := Nat.ofDigits 256 (data.tail.dropLast.map UInt8.toNat)
    match (Encodable.decode code : Option (List Symbol)) with
    | none => .error "invalid character"
    | some symbols => .ok (symbols.foldl build []).reverse
  unmarshal_jsonMarshal elements := by
    simp [ofDigits_numberBytes, build_items]
  bracketed elements := ⟨_, rfl⟩

/-! ## Examples -/

structure AuthorizeRequest where
  idTag : String

/-- The tags `required,max=20` of the field. -/
def AuthorizeRequest.violations (request : AuthorizeRequest) : List FieldError :=
  if request.idTag = "" then [⟨"IdTag", "IdTag", "required", "", .string request.idTag⟩]
  else if 20 < request.idTag.length then [⟨"IdTag", "IdTag", "max", "20", .string request.idTag⟩]
  else []

instance : Payload AuthorizeRequest where
  getFeatureName _ := "Authorize"
  validate request := .ok request.violations
  marshal request := .ok (.ok (.object [("idTag", .string request.idTag)]))

def decodeAuthorize : Json -> Except String AuthorizeRequest
  | .object [("idTag", .string idTag)] => .ok ⟨idTag⟩
  | _ => .error "json: cannot unmarshal"

/-- The confirmation, with the status as all there is in the field `IdTagInfo`. -/
structure AuthorizeConfirmation where
  status : String

instance : Payload AuthorizeConfirmation where
  getFeatureName _ := "Authorize"
  validate confirmation := .ok (
    if confirmation.status ∈ ["Accepted", "Blocked", "Expired", "Invalid", "ConcurrentTx"] then []
    else [⟨"IdTagInfo.Status", "Status", "authorizationStatus16", "", .string confirmation.status⟩])
  marshal confirmation := .ok (.ok (.object [("idTagInfo",
    .object [("status", .string confirmation.status)])]))

def decodeAuthorizeConfirmation : Json -> Except String AuthorizeConfirmation
  | .object [("idTagInfo", .object [("status", .string status)])] => .ok ⟨status⟩
  | _ => .error "json: cannot unmarshal"

def authorizeEndpoint : Endpoint AuthorizeRequest AuthorizeConfirmation where
  dialect := .v16
  profiles := [⟨"Core", fun name =>
    if name = "Authorize" then some ⟨decodeAuthorize, decodeAuthorizeConfirmation⟩ else none⟩]

theorem authorizeEndpoint_faithful : authorizeEndpoint.Faithful := by
  have feature_eq : ∀ name profile feature,
      authorizeEndpoint.getProfileForFeature name = some profile ->
      profile.features name = some feature ->
      feature = ⟨decodeAuthorize, decodeAuthorizeConfirmation⟩ := by
    intro name profile feature found known
    have mem := mem_of_find?_eq_some found
    rw [mem_singleton.mp mem] at known
    dsimp only at known
    split at known
    · exact (Option.some.inj known).symm
    · cases known
  refine ⟨?_, ?_⟩
  · intro name profile feature found known request json _ marshalled
    rw [feature_eq name profile feature found known]
    cases marshalled
    exact ⟨by simp, rfl⟩
  · intro name profile feature found known response json _ marshalled
    rw [feature_eq name profile feature found known]
    cases marshalled
    exact ⟨by simp, rfl⟩

/-- The result of an authorization that is pending. -/
theorem frame_round_trip_authorize :
    Arrives byteCodec authorizeEndpoint (fun _ => "") ⟨"1", some ⟨"TAG"⟩⟩
      (byteCodec.jsonMarshal [.num 3, .string "1",
        .object [("idTagInfo", .object [("status", .string "Accepted")])]])
      (.callResult ⟨"1", ⟨"Accepted"⟩⟩) :=
  (frame_round_trip byteCodec (fun _ => "") rfl authorizeEndpoint_faithful).2.1 ⟨"Accepted"⟩ "1" _
    _ _ ⟨"TAG"⟩ rfl rfl rfl rfl

/-- A request with a tag that is short enough arrives. -/
theorem unvalidated_round_trip_authorize :
    Arrives byteCodec authorizeEndpoint (fun _ => "") .new
      (byteCodec.jsonMarshal [.num 2, .string "1", .string "Authorize",
        .object [("idTag", .string "TAG")]]) (.call ⟨"1", "Authorize", some ⟨"TAG"⟩⟩) :=
  ((unvalidated_round_trip byteCodec (fun _ => "") rfl authorizeEndpoint_faithful).1 ⟨"TAG"⟩ "1" _
    _ .new rfl rfl).mpr rfl

/-- A CALL whose tag has 21 characters is built and marshalled while validation is
switched off, and rejected by the receiver. -/
theorem unvalidated_call_rejected :
    ∃ call err, authorizeEndpoint.createCall false ⟨"012345678901234567890"⟩ "1" =
        .ok (.ok call) ∧
      call.marshalJSON = .ok (.ok [.num 2, .string "1", .string "Authorize",
        .object [("idTag", .string "012345678901234567890")]]) ∧
      authorizeEndpoint.parseMessage (fun _ => "") [.num 2, .string "1", .string "Authorize",
        .object [("idTag", .string "012345678901234567890")]] .new = .ok (.rejected err) ∧
      err.code = propertyConstraintViolationCode :=
  ⟨_, _, rfl, rfl, rfl, rfl⟩

end Ocppj
end OcppGo
