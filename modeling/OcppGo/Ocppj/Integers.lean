import Mathlib.Algebra.Group.Int.Defs
import OcppGo.Numeric.Binary64
import OcppGo.Ocppj.RoundTrip

namespace OcppGo
namespace Ocppj

open Numeric List

/-!
# Integers on their way into a payload

A payload is decoded three times over: `ParseRawJsonMessage` turns the text into
generic values, in which every number is a double, `parseRawJsonRequest` writes the
generic value as text again, and this text is decoded into the typed payload.
-/

/-- A JSON text up to layout.  A number is spelled as an integer, or with a fraction
or an exponent, and then stands for the double it reads as. -/
inductive Text where
  | null
  | bool (value : Bool)
  | integer (value : Int)
  | fraction (value : Rat)
  | string (text : String)
  | array (items : List Text)
  | object (members : List (String × Text))

mutual

/-- The generic value of a text. -/
def Text.generic : Text -> Json
  | .null => .null
  | .bool value => .bool value
  | .integer value => .num (nearestInt value)
  | .fraction value => .num value
  | .string text => .string text
  | .array items => .array (Text.genericItems items)
  | .object members => .object (Text.genericMembers members)

def Text.genericItems : List Text -> List Json
  | [] => []
  | item :: rest => item.generic :: Text.genericItems rest

def Text.genericMembers : List (String × Text) -> List (String × Json)
  | [] => []
  | (name, value) :: rest => (name, value.generic) :: Text.genericMembers rest

end

/-- How `json.Marshal` writes a double: without fraction and exponent if it is an
integer below `10 ^ 21`. -/
def writeNumber (value : Rat) : Text :=
  if value.den = 1 ∧ value.num.natAbs < 10 ^ 21 then .integer (shortestInt value.num)
  else .fraction value

mutual

/-- `json.Marshal` of a generic value. -/
def Json.write : Json -> Text
  | .null => .null
  | .bool value => .bool value
  | .num value => writeNumber value
  | .string text => .string text
  | .array items => .array (Json.writeItems items)
  | .object members => .object (Json.writeMembers members)

def Json.writeItems : List Json -> List Text
  | [] => []
  | item :: rest => item.write :: Json.writeItems rest

def Json.writeMembers : List (String × Json) -> List (String × Text)
  | [] => []
  | (name, value) :: rest => (name, value.write) :: Json.writeMembers rest

end

/-- The text that reaches the typed decoder. -/
def Text.received (text : Text) : Text := text.generic.write

/-! ## Integer fields -/

/-- One step into a text. -/
inductive Step where
  | mem (name : String)
  | item (index : Nat)
  deriving DecidableEq

abbrev Path := List Step

/-- The part of a text one step down.  Of several members with one name the last one
counts. -/
def Text.child : Step -> Text -> Option Text
  | .mem name, .object members => members.reverse.lookup name
  | .item index, .array items => items[index]?
  | _, _ => none

/-- The integer that is spelled at a path. -/
def Text.integerAt : Path -> Text -> Option Int
  | [], .integer value => some value
  | [], _ => none
  | step :: rest, text => (text.child step).bind (Text.integerAt rest)

theorem Text.genericItems_eq (items : List Text) :
    Text.genericItems items = items.map Text.generic := by
  induction items with
  | nil => rfl
  | cons item rest ih => rw [Text.genericItems, ih, map_cons]

theorem Text.genericMembers_eq (members : List (String × Text)) :
    Text.genericMembers members = members.map fun mem => (mem.1, mem.2.generic) := by
  induction members with
  | nil => rfl
  | cons mem rest ih => rw [Text.genericMembers, ih, map_cons]

theorem Json.writeItems_eq (items : List Json) : Json.writeItems items = items.map Json.write := by
  induction items with
  | nil => rfl
  | cons item rest ih => rw [Json.writeItems, ih, map_cons]

theorem Json.writeMembers_eq (members : List (String × Json)) :
    Json.writeMembers members = members.map fun mem => (mem.1, mem.2.write) := by
  induction members with
  | nil => rfl
  | cons mem rest ih => rw [Json.writeMembers, ih, map_cons]

theorem Text.received_array (items : List Text) :
    (Text.array items).received = .array (items.map Text.received) := by
  simp only [Text.received, Text.generic, Json.write, Text.genericItems_eq, Json.writeItems_eq,
    map_map]
  rfl

theorem Text.received_object (members : List (String × Text)) :
    (Text.object members).received =
      .object (members.map fun mem => (mem.1, mem.2.received)) := by
  simp only [Text.received, Text.generic, Json.write, Text.genericMembers_eq, Json.writeMembers_eq,
    map_map]
  rfl

theorem lookup_map_snd {α β : Type} (change : α -> β) (entries : List (String × α)) (name : String) :
    (entries.map fun entry => (entry.1, change entry.2)).lookup name =
      (entries.lookup name).map change := by
  induction entries with
  | nil => rfl
  | cons entry rest ih =>
    obtain ⟨first, value⟩ := entry
    by_cases same : name = first
    · simp [same]
    · have apart : (name == first) = false := by simpa using same
      simp [lookup_cons, apart, ih]

variable {text : Text}

/-- Whatever a text has below it arrives at the same place. -/
theorem Text.child_received {part : Text} {step : Step} (found : text.child step = some part) :
    text.received.child step = some part.received := by
  cases step with
  | mem name =>
    cases text with
    | object members =>
      rw [Text.received_object]
      simp only [Text.child, ← map_reverse] at found ⊢
      rw [lookup_map_snd, found]
      rfl
    | _ => cases found
  | item index =>
    cases text with
    | array items =>
      rw [Text.received_array]
      simp only [Text.child, getElem?_map] at found ⊢
      rw [found]
      rfl
    | _ => cases found

variable {value : Int}

/-- A 64-bit integer arrives as the decimal form of its double. -/
theorem Text.received_integer (bounded : value.natAbs ≤ 2 ^ 63) :
    (Text.integer value).received = .integer (shortestInt (nearestInt value)) := by
  have below : (nearestInt value).natAbs < 10 ^ 21 := by
    have doubled := nearest_le value.natAbs
    rw [natAbs_nearestInt]
    omega
  simp only [Text.received, Text.generic, Json.write, writeNumber]
  rw [if_pos ⟨Rat.den_intCast _, by rwa [Rat.num_intCast]⟩, Rat.num_intCast]

theorem Text.integerAt_received {path : Path} (spelled : text.integerAt path = some value)
    (bounded : value.natAbs ≤ 2 ^ 63) :
    text.received.integerAt path = some (shortestInt (nearestInt value)) := by
  induction path generalizing text with
  | nil =>
    cases text with
    | integer other =>
      cases spelled
      rw [Text.received_integer bounded]
      rfl
    | _ => cases spelled
  | cons step rest ih =>
    obtain ⟨part, found, below⟩ := Option.bind_eq_some_iff.mp spelled
    rw [Text.integerAt, Text.child_received found]
    exact ih below

mutual

/-- Every integer has 64 bits and survives, and no integer is spelled with a fraction or
an exponent. -/
def Text.Exact : Text -> Prop
  | .integer value => value.natAbs ≤ 2 ^ 63 ∧ Survives value
  | .fraction value => ¬ (value.den = 1 ∧ value.num.natAbs < 10 ^ 21)
  | .array items => Text.ExactItems items
  | .object members => Text.ExactMembers members
  | _ => True

def Text.ExactItems : List Text -> Prop
  | [] => True
  | item :: rest => item.Exact ∧ Text.ExactItems rest

def Text.ExactMembers : List (String × Text) -> Prop
  | [] => True
  | (_, value) :: rest => value.Exact ∧ Text.ExactMembers rest

end

mutual

/-- An exact text arrives as it was sent. -/
theorem Text.received_of_exact : (text : Text) -> text.Exact -> text.received = text
  | .null, _ => rfl
  | .bool _, _ => rfl
  | .integer _, kept => (Text.received_integer kept.1).trans (congrArg _ kept.2)
  | .fraction value, spelled => by
      simp only [Text.received, Text.generic, Json.write, writeNumber]
      exact if_neg spelled
  | .string _, _ => rfl
  | .array items, exact => by
      rw [Text.received_array, Text.received_items items exact]
  | .object members, exact => by
      rw [Text.received_object, Text.received_members members exact]

theorem Text.received_items : (items : List Text) -> Text.ExactItems items ->
    items.map Text.received = items
  | [], _ => rfl
  | item :: rest, exact => by
      rw [List.map_cons, Text.received_of_exact item exact.1, Text.received_items rest exact.2]

theorem Text.received_members : (members : List (String × Text)) -> Text.ExactMembers members ->
    (members.map fun mem => (mem.1, mem.2.received)) = members
  | [], _ => rfl
  | (name, value) :: rest, exact => by
      rw [List.map_cons, Text.received_of_exact value exact.1, Text.received_members rest exact.2]

end

/-! ## Typed payloads -/

/-- A payload type as `encoding/json` decodes it.  An integer field holds the integer
that the text spells there. -/
structure Typed (P : Type) where
  decode : Text -> Except String P
  integerFields : Path -> Prop
  field : P -> Path -> Option Int
  reads : ∀ text payload path value, decode text = .ok payload -> integerFields path ->
    text.integerAt path = some value -> field payload path = some value

variable {Q R : Type}

/-- Every feature decodes its payloads by writing the generic value and decoding the
text, as `parseRawJsonRequest` and `parseRawJsonConfirmation` do. -/
def Endpoint.DecodesBy (endpoint : Endpoint Q R) (requests : String -> Typed Q)
    (responses : String -> Typed R) : Prop :=
  ∀ name profile feature, endpoint.getProfileForFeature name = some profile ->
    profile.features name = some feature ->
      (∀ raw, feature.decodeRequest raw = (requests name).decode raw.write) ∧
      (∀ raw, feature.decodeResponse raw = (responses name).decode raw.write)

/-- A text with a part is not null, so nothing is put in its place. -/
theorem Text.orEmpty_generic {path : Path} (spelled : text.integerAt path = some value) :
    Profile.orEmpty text.generic = text.generic := by
  cases text with
  | null =>
    cases path with
    | nil => cases spelled
    | cons step rest =>
      cases step with
      | _ => cases spelled
  | _ => rfl

section Parsing

variable {endpoint : Endpoint Q R} {requests : String -> Typed Q} {responses : String -> Typed R}
  {profile : Profile Q R} {name : String} {text : Text} {path : Path} {value : Int}

variable (decodes : endpoint.DecodesBy requests responses)
  (found : endpoint.getProfileForFeature name = some profile)
include decodes found

theorem field_of_parseRequest {request : Q}
    (parsed : profile.parseRequest name text.generic = .ok request)
    (isField : (requests name).integerFields path) (spelled : text.integerAt path = some value)
    (bounded : value.natAbs ≤ 2 ^ 63) :
    (requests name).field request path = some value <-> Survives value := by
  obtain ⟨feature, known⟩ := Endpoint.feature_of_profile found
  simp only [Profile.parseRequest, known, Text.orEmpty_generic spelled] at parsed
  rw [(decodes name profile feature found known).1] at parsed
  rw [(requests name).reads _ _ _ _ parsed isField (Text.integerAt_received spelled bounded)]
  exact Option.some_inj

theorem field_of_parseResponse {response : R}
    (parsed : profile.parseResponse name text.generic = .ok response)
    (isField : (responses name).integerFields path) (spelled : text.integerAt path = some value)
    (bounded : value.natAbs ≤ 2 ^ 63) :
    (responses name).field response path = some value <-> Survives value := by
  obtain ⟨feature, known⟩ := Endpoint.feature_of_profile found
  simp only [Profile.parseResponse, known, Text.orEmpty_generic spelled] at parsed
  rw [(decodes name profile feature found known).2] at parsed
  rw [(responses name).reads _ _ _ _ parsed isField (Text.integerAt_received spelled bounded)]
  exact Option.some_inj

end Parsing

section Messages

variable [Payload Q] [Payload R] {endpoint : Endpoint Q R} {sprint : Json -> String}
  {pendingRequestState : ClientState Q} {uniqueId : String} {raw : Json}

/-- Where the payload of a CALL comes from. -/
theorem request_of_parseMessage {action : String} {call : Call Q} {request : Q}
    (parsed : endpoint.parseMessage sprint [.num 2, .string uniqueId, .string action, raw]
      pendingRequestState = .ok (.message (.call call))) (carried : call.payload = some request) :
    ∃ profile, endpoint.getProfileForFeature action = some profile ∧
      profile.parseRequest action raw = .ok request := by
  unfold Endpoint.parseMessage at parsed
  dsimp only at parsed
  split at parsed
  · exact absurd parsed Endpoint.formatError_ne_message
  · rw [if_pos Endpoint.messageType_two] at parsed
    obtain ⟨_, _, _, _, profile, other, same, found, decoded, rfl, -⟩ :=
      Endpoint.CallBody.of_parseCall parsed
    cases same
    cases carried
    exact ⟨profile, found, decoded⟩

/-- Where the payload of a CALL_RESULT comes from. -/
theorem response_of_parseMessage {callResult : CallResult R} {pending : Q}
    (parsed : endpoint.parseMessage sprint [.num 3, .string uniqueId, raw] pendingRequestState =
      .ok (.message (.callResult callResult)))
    (isPending : pendingRequestState.getPendingRequest uniqueId = some (some pending)) :
    ∃ profile, endpoint.getProfileForFeature (Payload.getFeatureName pending) = some profile ∧
      profile.parseResponse (Payload.getFeatureName pending) raw = .ok callResult.payload := by
  unfold Endpoint.parseMessage at parsed
  dsimp only at parsed
  split at parsed
  · exact absurd parsed Endpoint.formatError_ne_message
  · rw [if_neg (by decide), if_pos Endpoint.messageType_three] at parsed
    obtain ⟨request, profile, confirmation, again, found, decoded, rfl, -⟩ :=
      Endpoint.ResultBody.of_parseCallResult parsed
    rw [isPending] at again
    cases again
    exact ⟨profile, found, decoded⟩

end Messages

/-- A 64-bit integer is received exactly, in requests and in responses, if and only if it
survives, as every integer up to `2 ^ 53` does, and a payload without other integers is decoded
as if it were read from the text. -/
theorem integers_received_exactly [Payload Q] [Payload R] {endpoint : Endpoint Q R}
    {requests : String -> Typed Q} {responses : String -> Typed R}
    (decodes : endpoint.DecodesBy requests responses) (sprint : Json -> String)
    (pendingRequestState : ClientState Q) (text : Text) :
    (∀ uniqueId action call request path value,
      endpoint.parseMessage sprint [.num 2, .string uniqueId, .string action, text.generic]
        pendingRequestState = .ok (.message (.call call)) -> call.payload = some request ->
      (requests action).integerFields path -> text.integerAt path = some value ->
      value.natAbs ≤ 2 ^ 63 ->
      ((requests action).field request path = some value <-> Survives value)) ∧
    (∀ uniqueId pending callResult path value,
      endpoint.parseMessage sprint [.num 3, .string uniqueId, text.generic]
        pendingRequestState = .ok (.message (.callResult callResult)) ->
      pendingRequestState.getPendingRequest uniqueId = some (some pending) ->
      (responses (Payload.getFeatureName pending)).integerFields path ->
      text.integerAt path = some value -> value.natAbs ≤ 2 ^ 63 ->
      ((responses (Payload.getFeatureName pending)).field callResult.payload path = some value <->
        Survives value)) ∧
    (∀ value : Int, value.natAbs ≤ 2 ^ 53 -> Survives value) ∧
    (text.Exact -> ∀ name profile feature,
      endpoint.getProfileForFeature name = some profile -> profile.features name = some feature ->
        feature.decodeRequest text.generic = (requests name).decode text ∧
        feature.decodeResponse text.generic = (responses name).decode text) := by
  refine ⟨?_, ?_, fun value => survives_of_le, ?_⟩
  · intro uniqueId action call request path value parsed carried isField spelled bounded
    obtain ⟨profile, found, decoded⟩ := request_of_parseMessage parsed carried
    exact field_of_parseRequest decodes found decoded isField spelled bounded
  · intro uniqueId pending callResult path value parsed isPending isField spelled bounded
    obtain ⟨profile, found, decoded⟩ := response_of_parseMessage parsed isPending
    exact field_of_parseResponse decodes found decoded isField spelled bounded
  · intro exact name profile feature found known
    have received : text.generic.write = text := Text.received_of_exact text exact
    rw [(decodes name profile feature found known).1, (decodes name profile feature found known).2,
      received]
    exact ⟨rfl, rfl⟩

/-- A payload with one integer field. -/
structure Counted where
  connectorId : Int

instance : Payload Counted where
  getFeatureName _ := "UnlockConnector"
  validate _ := .ok []
  marshal counted := .ok (.ok (.object [("connectorId", .num counted.connectorId)]))

/-- The values of a field of type `int`. -/
def IsInt64 (value : Int) : Prop := -2 ^ 63 ≤ value ∧ value < 2 ^ 63
  deriving Decidable

/-- The decoder of a struct with a 64-bit field. -/
def decodeCounted (text : Text) : Except String Counted :=
  match text.integerAt [.mem "connectorId"] with
  | none => .ok ⟨0⟩
  | some value =>
    if IsInt64 value then .ok ⟨value⟩
    else .error "json: cannot unmarshal number"

def typedCounted : Typed Counted where
  decode := decodeCounted
  integerFields path := path = [.mem "connectorId"]
  field counted _ := some counted.connectorId
  reads text payload path value decoded isField spelled := by
    subst isField
    unfold decodeCounted at decoded
    rw [spelled] at decoded
    dsimp only at decoded
    split at decoded
    · cases decoded
      rfl
    · cases decoded

def countedEndpoint : Endpoint Counted Counted where
  dialect := .v16
  profiles := [⟨"Core", fun name =>
    if name = "UnlockConnector" then
      some ⟨fun raw => typedCounted.decode raw.write, fun raw => typedCounted.decode raw.write⟩
    else none⟩]

theorem countedEndpoint_decodes :
    countedEndpoint.DecodesBy (fun _ => typedCounted) fun _ => typedCounted := by
  intro name profile feature found known
  have mem := mem_of_find?_eq_some found
  rw [mem_singleton.mp mem] at known
  dsimp only at known
  split at known
  · cases known
    exact ⟨fun _ => rfl, fun _ => rfl⟩
  · cases known

/-- The text of a payload with one integer. -/
def countedText (value : Int) : Text := .object [("connectorId", .integer value)]

theorem parseMessage_countedText (survives : Survives value) (fits : IsInt64 value) :
    countedEndpoint.parseMessage (fun _ => "")
      [.num 2, .string "1", .string "UnlockConnector", (countedText value).generic] .new =
        .ok (.message (.call ⟨"1", "UnlockConnector", some ⟨value⟩⟩)) := by
  have decoded : decodeCounted (countedText value).generic.write = .ok ⟨value⟩ := by
    have received : (countedText value).generic.write = countedText value :=
      Text.received_of_exact _ ⟨⟨by unfold IsInt64 at fits; omega, survives⟩, trivial⟩
    rw [received]
    exact if_pos fits
  have passed : (Call.mk "1" "UnlockConnector" (some (Counted.mk value))).validate = .ok [] := by
    have identifier : checkIdentifier "Call" "UniqueId" "1" = [] := by decide +kernel
    have action : checkIdentifier "Call" "Action" "UnlockConnector" = [] := by decide +kernel
    simp only [Call.validate, identifier, action]
    rfl
  refine Endpoint.parseMessage_of_callFrame ⟨⟨_, _, rfl⟩, show "1" ≠ "" by decide, ?_⟩
  exact ⟨_, _, _, _, _, ⟨value⟩, rfl, rfl, decoded, rfl, passed⟩

/-- The integer `2 ^ 53 + 1` is received as `2 ^ 53`. -/
theorem integer_received_inexactly :
    countedEndpoint.parseMessage (fun _ => "")
      [.num 2, .string "1", .string "UnlockConnector",
        (countedText 9007199254740993).generic] .new =
      .ok (.message (.call ⟨"1", "UnlockConnector", some ⟨9007199254740992⟩⟩)) := by
  have rounded : nearestInt 9007199254740993 = nearestInt 9007199254740992 := by decide +kernel
  have collapsed : (countedText 9007199254740993).generic =
      (countedText 9007199254740992).generic := by
    simp only [countedText, Text.generic, Text.genericMembers, rounded]
  rw [collapsed]
  exact parseMessage_countedText (survives_of_le (by decide)) (by decide)

/-- Beyond `2 ^ 53` every second integer is a double. -/
theorem integers_received_exactly_even :
    typedCounted.field ⟨9007199254740994⟩ [.mem "connectorId"] = some 9007199254740994 :=
  have survives : Survives 9007199254740994 := by decide +kernel
  ((integers_received_exactly countedEndpoint_decodes (fun _ => "") .new
    (countedText 9007199254740994)).1 "1" "UnlockConnector" _ ⟨9007199254740994⟩
    [.mem "connectorId"] 9007199254740994 (parseMessage_countedText survives (by decide)) rfl rfl
    rfl (by decide)).mpr survives

end Ocppj
end OcppGo
