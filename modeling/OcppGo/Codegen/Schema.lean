import OcppGo.Codegen.Naming
import OcppGo.Sequential.Fallible

namespace OcppGo
namespace Codegen

open OcppGo.Sequential List

/-!
# Reading a schema document

`readSchema` turns the JSON value of one schema file into its root definition
and its named definitions.  It works in two passes: the first classifies every
named definition, the second reads the property lists and resolves each `$ref`
against the classification.

The JSON text itself is parsed before: a document arrives as a tree that keeps
the members of every object in their order, repeated names included.
-/

/-- A JSON value.  A number keeps the text it was written as. -/
inductive Raw where
  | null
  | bool (value : Bool)
  | num (literal : String)
  | string (value : String)
  | array (elements : List Raw)
  | object (members : List (String × Raw))

/-- The members of an object in declaration order. -/
abbrev RawObject := List (String × Raw)

def RawObject.keys (object : RawObject) : List String :=
  object.map Prod.fst

/-- The value of a member; the last one wins where a name is repeated. -/
def RawObject.value (object : RawObject) (key : String) : Option Raw :=
  (object.reverse.find? (fun mem => mem.1 = key)).map Prod.snd

/-- Go's own conversions: of number literals, of numbers into texts, and of a
decoder token into the text an error prints. -/
structure Strconv where
  parseInt : String -> Option Int
  parseFloat : String -> Option Rat
  formatFloat : Rat -> String
  sprint : Raw -> String

/-- What `encoding/json` calls a value in its error texts. -/
def Raw.kind : Raw -> String
  | .null => "null"
  | .bool _ => "bool"
  | .num _ => "number"
  | .string _ => "string"
  | .array _ => "array"
  | .object _ => "object"

def unmarshalTypeError (value target : String) : String :=
  "json: cannot unmarshal " ++ value ++ " into Go value of type " ++ target

/-- A JSON `null` leaves the Go value as it is and is no error. -/
def unmarshalString : Raw -> Except String String
  | .null => .ok ""
  | .string value => .ok value
  | other => .error (unmarshalTypeError other.kind "string")

def unmarshalBool : Raw -> Except String Bool
  | .null => .ok false
  | .bool value => .ok value
  | other => .error (unmarshalTypeError other.kind "bool")

def unmarshalInt (strconv : Strconv) : Raw -> Except String Int
  | .null => .ok 0
  | .num literal =>
    match strconv.parseInt literal with
    | some value => .ok value
    | none => .error (unmarshalTypeError ("number " ++ literal) "int")
  | other => .error (unmarshalTypeError other.kind "int")

def unmarshalFloat (strconv : Strconv) : Raw -> Except String Rat
  | .null => .ok 0
  | .num literal =>
    match strconv.parseFloat literal with
    | some value => .ok value
    | none => .error (unmarshalTypeError ("number " ++ literal) "float64")
  | other => .error (unmarshalTypeError other.kind "float64")

def unmarshalStrings : Raw -> Except String (List String)
  | .null => .ok []
  | .array elements => elements.mapM unmarshalString
  | other => .error (unmarshalTypeError other.kind "[]string")

def decodeOrderedObject (strconv : Strconv) : Raw -> Except String RawObject
  | .object members => .ok members
  | other => .error ("expected a JSON object, got " ++ strconv.sprint other)

/-- An exclusive bound, a number of its own in the dialect that is read. -/
structure Bound where
  boolean : Option Bool
  number : Option Rat
  deriving DecidableEq

/-- Everything a property says apart from the schema of its elements. -/
structure Facets where
  name : String
  pointer : String
  type : String
  format : String
  required : Bool
  enum : List String
  ref : String
  enumDefinition : String
  maxLength : Option Int
  minLength : Option Int
  minimum : Option Rat
  maximum : Option Rat
  exclusiveMinimum : Option Bound
  exclusiveMaximum : Option Bound
  minItems : Option Int
  maxItems : Option Int
  pattern : String
  additionalProperties : Option Bool
  untyped : Bool
  deriving DecidableEq

/-- A property with no constraint. -/
def Facets.plain (name pointer : String) (required : Bool) : Facets where
  name := name
  pointer := pointer
  type := ""
  format := ""
  required := required
  enum := []
  ref := ""
  enumDefinition := ""
  maxLength := none
  minLength := none
  minimum := none
  maximum := none
  exclusiveMinimum := none
  exclusiveMaximum := none
  minItems := none
  maxItems := none
  pattern := ""
  additionalProperties := none
  untyped := false

/-- A property, without and with a schema of its elements. -/
inductive Property where
  | single (facets : Facets)
  | listed (facets : Facets) (items : Property)
  deriving DecidableEq

def Property.facets : Property -> Facets
  | .single facets => facets
  | .listed facets _ => facets

def Property.items : Property -> Option Property
  | .single _ => none
  | .listed _ items => some items

/-- A property with the element schema, where one was written. -/
def Property.of (facets : Facets) : Option Property -> Property
  | none => .single facets
  | some items => .listed facets items

/-- A schema object, enum or message root. -/
structure Definition where
  name : String
  kind : DefinitionKind
  properties : List Property
  values : List String
  additionalProperties : Option Bool
  reserved : Bool
  occurrences : Nat
  files : List String
  deriving DecidableEq

structure SchemaDocument where
  file : String
  id : String
  title : String
  additionalProperties : Option Bool
  root : Definition
  defns : List Definition

/-! ## Keywords -/

def rootRecognized : List String :=
  ["$schema", "$id", "title", "type", "properties", "required", "definitions",
    "additionalProperties", "javaType", "comment", "description"]

def definitionRecognized : List String :=
  ["type", "properties", "required", "enum", "additionalProperties", "$ref", "javaType", "comment",
    "description", "default"]

def propertyRecognized : List String :=
  ["type", "format", "$ref", "maxLength", "minLength", "minimum", "maximum", "exclusiveMinimum",
    "exclusiveMaximum", "minItems", "maxItems", "pattern", "additionalProperties", "items",
    "javaType", "comment", "description", "default", "additionalItems"]

def rootPointer : String := "#"

def draft06Dialect : String := "http://json-schema.org/draft-06/schema#"

def rootTypes : List String := ["object"]

def objectDefinitionTypes : List String := ["object"]

def enumDefinitionTypes : List String := ["string"]

def propertyTypes : List String := ["array", "boolean", "integer", "number", "string"]

def identifierPrefix : String := "urn:OCPP:Cp:2:2020:3:"

def definitionsPrefix : String := "#/definitions/"

/-- The first-pass reading of one named definition. -/
structure DefinitionInfo where
  kind : DefinitionKind
  values : List String
  additionalProperties : Option Bool

/-- The classified definitions of one file, by name. -/
abbrev Infos := List (String × DefinitionInfo)

def Infos.find (infos : Infos) (name : String) : Option DefinitionInfo :=
  infos.lookup name

section Reading

variable (strconv : Strconv) (path : String)

/-- The text of a failure to read this file. -/
def readError (text : String) : String :=
  "read schema " ++ path ++ ": " ++ text

/-- A string-valued keyword, empty and marked absent where it is not written. -/
def stringValue (object : RawObject) (key location : String) : Except String (String × Bool) :=
  match object.value key with
  | none => .ok ("", false)
  | some raw =>
    match unmarshalString raw with
    | .ok value => .ok (value, true)
    | .error text =>
      .error (readError path (location ++ "/" ++ key ++ " is not a JSON string: " ++ text))

/-- A keyword of another type, absent where it is not written. -/
def optionalValue {α : Type} (unmarshal : Raw -> Except String α) (object : RawObject)
    (key : String) : Except String (Option α) :=
  match object.value key with
  | none => .ok none
  | some raw => some <$> unmarshal raw

def boolValue (object : RawObject) (key : String) : Except String (Option Bool) :=
  optionalValue unmarshalBool object key

def intValue (object : RawObject) (key : String) : Except String (Option Int) :=
  optionalValue (unmarshalInt strconv) object key

def floatValue (object : RawObject) (key : String) : Except String (Option Rat) :=
  optionalValue (unmarshalFloat strconv) object key

def rawObjectField (parent : RawObject) (key : String) : Except String RawObject :=
  match parent.value key with
  | none => .ok []
  | some raw => decodeOrderedObject strconv raw

def quotedList (values : List String) : String :=
  join ", " (values.map String.quote)

/-- Stop at the first keyword that is not recognized at this level. -/
def checkKeywords (recognized : List String) (object : RawObject) (failure : String -> String) :
    Except String Unit :=
  match object.keys.find? (fun key => key ∉ recognized) with
  | some key => .error (readError path (failure key))
  | none => .ok ()

def checkType (objectPointer value : String) (accepted : List String) : Except String Unit :=
  if value ∈ accepted then .ok ()
  else .error (readError path (objectPointer ++ "/type is " ++ value.quote ++
    ", which is not a type accepted there (accepted: " ++ quotedList accepted ++ ")"))

def requireType (objectPointer value : String) (present : Bool) (accepted : List String) :
    Except String Unit :=
  if present then checkType path objectPointer value accepted
  else .error (readError path ("no type is declared at " ++ objectPointer ++ "/type (expected: " ++
    quotedList accepted ++ ")"))

def parseEnumValues (name : String) (entry : RawObject) : Except String (List String) :=
  let missing := readError path ("enum definition " ++ name ++ " has no enum values")
  match entry.value "enum" with
  | none => .error missing
  | some raw =>
    match unmarshalStrings raw with
    | .error text => .error (readError path
        ("enum definition " ++ name ++ " has malformed enum values: " ++ text))
    | .ok values => if values.isEmpty then .error missing else .ok values

/-- The names of the required array written on the object itself. -/
def requiredSet (object : RawObject) : Except String (List String) :=
  match object.value "required" with
  | none => .ok []
  | some raw => unmarshalStrings raw

/-! ## Properties -/

def resolveLocalRef (pointer ref : String) (infos : Infos) : Except String String :=
  let notLocal := readError path (pointer ++ " has a non-local $ref " ++ ref)
  if hasPrefix ref definitionsPrefix then
    let name := trimPrefix ref definitionsPrefix
    if name = "" || name.toList.contains '/' then .error notLocal
    else if (infos.find name).isSome then .ok name
    else .error (readError path (pointer ++ " references undefined local target " ++ ref))
  else .error notLocal

/-- A property that resolves through a `$ref` takes what its target declares
and reads no keyword beside the reference. -/
def parseReference (name pointer : String) (required : Bool) (raw : Raw) (infos : Infos) :
    Except String Property := do
  let ref ← (unmarshalString raw).mapError fun text =>
    readError path (pointer ++ " has a malformed $ref: " ++ text)
  let target ← resolveLocalRef path pointer ref infos
  let facets := { Facets.plain name pointer required with ref := ref }
  match infos.find target with
  | none => return .single facets
  | some info =>
    let facets := { facets with additionalProperties := info.additionalProperties }
    match info.kind with
    | .enum => return .single { facets with enum := info.values, enumDefinition := target }
    | _ => return .single facets

/-- A property that declares its own type, given the reading of its elements. -/
def parseTyped (name pointer : String) (required : Bool) (type : String) (object : RawObject)
    (items : Option (Except String Property)) : Except String Property := do
  checkType path pointer type propertyTypes
  let (format, _) ← stringValue path object "format" pointer
  let failed (keyword text : String) :=
    readError path (pointer ++ " " ++ keyword ++ ": " ++ text)
  let maxLength ← (intValue strconv object "maxLength").mapError (failed "maxLength")
  let minLength ← (intValue strconv object "minLength").mapError (failed "minLength")
  let minItems ← (intValue strconv object "minItems").mapError (failed "minItems")
  let maxItems ← (intValue strconv object "maxItems").mapError (failed "maxItems")
  let minimum ← (floatValue strconv object "minimum").mapError (failed "minimum")
  let maximum ← (floatValue strconv object "maximum").mapError (failed "maximum")
  let exclusiveMinimum ←
    (floatValue strconv object "exclusiveMinimum").mapError (failed "exclusiveMinimum")
  let exclusiveMaximum ←
    (floatValue strconv object "exclusiveMaximum").mapError (failed "exclusiveMaximum")
  let (pattern, _) ← stringValue path object "pattern" pointer
  let additionalProperties ←
    (boolValue object "additionalProperties").mapError (failed "additionalProperties")
  let items ← items.mapM id
  return .of
    { Facets.plain name pointer required with
      type := type
      format := format
      maxLength := maxLength
      minLength := minLength
      minItems := minItems
      maxItems := maxItems
      minimum := minimum
      maximum := maximum
      exclusiveMinimum := exclusiveMinimum.map fun num => ⟨none, some num⟩
      exclusiveMaximum := exclusiveMaximum.map fun num => ⟨none, some num⟩
      pattern := pattern
      additionalProperties := additionalProperties }
    items

/-- Read one property, given the reading of its element schema if it has one. -/
def parsePropertyWith (name pointer : String) (object : RawObject) (required : Bool)
    (infos : Infos) (items : Option (Except String Property)) : Except String Property := do
  checkKeywords path propertyRecognized object fun key =>
    "unrecognized schema keyword at " ++ pointer ++ "/" ++ key
  match object.value "$ref" with
  | some raw => parseReference path name pointer required raw infos
  | none => do
      let (type, hasType) ← stringValue path object "type" pointer
      if hasType then parseTyped strconv path name pointer required type object items
      else return .single { Facets.plain name pointer required with untyped := true }

mutual

/-- The reading of the last `items` member, if there is one. -/
def itemsOf (infos : Infos) (pointer : String) :
    List (String × Raw) -> Option (Except String Property)
  | [] => none
  | mem :: rest =>
    match itemsOf infos pointer rest with
    | some found => some found
    | none => itemsOfMember infos pointer mem

def itemsOfMember (infos : Infos) (pointer : String) :
    String × Raw -> Option (Except String Property)
  | (key, value) => if key = "items" then some (parseItems infos pointer value) else none

def parseItems (infos : Infos) (pointer : String) : Raw -> Except String Property
  | .object members =>
    parsePropertyWith strconv path "" (pointer ++ "/items") members false infos
      (itemsOf infos (pointer ++ "/items") members)
  | other => .error (readError path (pointer ++ "/items: expected a JSON object, got " ++
      strconv.sprint other))

end

def parseProperty (name pointer : String) (object : RawObject) (required : Bool)
    (infos : Infos) : Except String Property :=
  parsePropertyWith strconv path name pointer object required infos
    (itemsOf strconv path infos pointer object)

def parseProperties (object : RawObject) (objectPointer : String) (infos : Infos) :
    Except String (List Property) := do
  let required ← (requiredSet object).mapError fun text =>
    readError path ("malformed required array at " ++ objectPointer ++ "/required: " ++ text)
  match object.value "properties" with
  | none => return []
  | some raw =>
    let properties ← (decodeOrderedObject strconv raw).mapError fun text =>
      readError path ("malformed properties object: " ++ text)
    properties.keys.mapM fun name => do
      let object ← (decodeOrderedObject strconv ((properties.value name).getD .null)).mapError
        fun text => readError path ("malformed property " ++ name ++ ": " ++ text)
      parseProperty strconv path name (objectPointer ++ "/properties/" ++ name) object
        (required.contains name) infos

/-! ## Definitions and documents -/

/-- A definition that is nothing but a reference is refused. -/
def rejectIndirection (name : String) (entry : RawObject) : Except String Unit :=
  if entry.keys = ["$ref"] then do
    let (ref, _) ← stringValue path entry "$ref" (definitionsPrefix ++ name)
    .error (readError path ("definition " ++ name ++ " at " ++ definitionsPrefix ++ name ++
      " is a direct reference indirection to " ++ ref ++ ", which is not permitted"))
  else .ok ()

/-- The kind of a definition and the values it lists if it is an enum. -/
def definitionKind (name : String) (entry : RawObject) :
    Except String (DefinitionKind × List String) :=
  if (entry.value "enum").isSome then do
    let values ← parseEnumValues path name entry
    return (.enum, values)
  else .ok (.object, [])

/-- The first pass over one named definition. -/
def classifyDefinition (name : String) (raw : Raw) : Except String DefinitionInfo := do
  let entry ← (decodeOrderedObject strconv raw).mapError fun text =>
    readError path ("malformed definition " ++ name ++ ": " ++ text)
  rejectIndirection path name entry
  checkKeywords path definitionRecognized entry fun key =>
    "unrecognized schema keyword " ++ key.quote ++ " on definition " ++ name
  let (kind, values) ← definitionKind path name entry
  let pointer := definitionsPrefix ++ name
  let (type, hasType) ← stringValue path entry "type" pointer
  requireType path pointer type hasType
    (if kind = .enum then enumDefinitionTypes else objectDefinitionTypes)
  let additionalProperties ← (boolValue entry "additionalProperties").mapError fun text =>
    readError path ("additionalProperties on definition " ++ name ++ ": " ++ text)
  return ⟨kind, values, additionalProperties⟩

/-- The property list of a named definition; an enum has none. -/
def definitionProperties (name : String) (kind : DefinitionKind) (entry : RawObject)
    (infos : Infos) : Except String (List Property) :=
  if kind = .enum then .ok []
  else parseProperties strconv path entry (definitionsPrefix ++ name) infos

/-- The second pass over one named definition. -/
def buildDefinition (file name : String) (raw : Raw) (infos : Infos) :
    Except String Definition := do
  let entry ← (decodeOrderedObject strconv raw).mapError fun text =>
    readError path ("malformed definition " ++ name ++ ": " ++ text)
  let info := (infos.find name).getD ⟨.object, [], none⟩
  let properties ← definitionProperties strconv path name info.kind entry infos
  return {
    name := name
    kind := info.kind
    properties := properties
    values := if info.kind = .enum then info.values else []
    additionalProperties := info.additionalProperties
    reserved := name = "CustomDataType"
    occurrences := 1
    files := [file] }

def checkDialect (root : RawObject) : Except String Unit := do
  let (dialect, hasDialect) ← stringValue path root "$schema" rootPointer
  if !hasDialect then
    .error (readError path ("no dialect is declared at " ++ rootPointer ++ "/$schema (only " ++
      draft06Dialect ++ " is supported)"))
  else if dialect ≠ draft06Dialect then
    .error (readError path ("unsupported schema dialect " ++ dialect.quote ++ " at " ++ rootPointer ++
      "/$schema (only " ++ draft06Dialect ++ " is supported)"))
  else .ok ()

/-- The identifier of the document, which ends in the stem of the file. -/
def readIdentifier (stem : String) (root : RawObject) : Except String String := do
  let (id, _) ← stringValue path root "$id" rootPointer
  let trailing := trimPrefix id identifierPrefix
  if !hasPrefix id identifierPrefix then
    .error (readError path ("schema $id " ++ id.quote ++ " is not a well-formed " ++
      identifierPrefix ++ " identifier"))
  else if trailing ≠ stem then
    .error (readError path ("schema $id trailing segment " ++ trailing.quote ++
      " does not match the file stem " ++ stem.quote))
  else .ok id

/-- Read the document of the file with this path and base name. -/
def readSchema (file : String) (document : Raw) : Except String SchemaDocument := do
  let stem := trimSuffix file ".json"
  let root ← (decodeOrderedObject strconv document).mapError (readError path)
  checkKeywords path rootRecognized root fun key =>
    "unrecognized schema keyword " ++ key.quote ++ " at the document root"
  checkDialect path root
  let id ← readIdentifier path stem root
  let (title, _) ← stringValue path root "title" rootPointer
  let (type, hasType) ← stringValue path root "type" rootPointer
  requireType path rootPointer type hasType rootTypes
  let additionalProperties ← (boolValue root "additionalProperties").mapError fun text =>
    readError path ("additionalProperties at the document root: " ++ text)
  let named ← (rawObjectField strconv root "definitions").mapError fun text =>
    readError path ("malformed definitions object: " ++ text)
  let infos ← named.keys.mapM fun name => do
    let info ← classifyDefinition strconv path name ((named.value name).getD .null)
    return (name, info)
  let defns ← named.keys.mapM fun name =>
    buildDefinition strconv path file name ((named.value name).getD .null) infos
  let properties ← parseProperties strconv path root rootPointer infos
  return {
    file := file
    id := id
    title := title
    additionalProperties := additionalProperties
    root :=
      { name := stem
        kind := .root
        properties := properties
        values := []
        additionalProperties := additionalProperties
        reserved := false
        occurrences := 1
        files := [file] }
    defns := defns }

end Reading

/-! ## References -/

/-- The definition a `$ref` names. -/
def refTargetName (ref : String) : String :=
  if ref = "" then "" else trimPrefix ref definitionsPrefix

def Facets.references (facets : Facets) : List String :=
  if facets.ref = "" then [] else [refTargetName facets.ref]

/-- The definitions a property names, itself and through its elements. -/
def Property.references : Property -> List String
  | .single facets => facets.references
  | .listed facets items => facets.references ++ items.references

theorem Property.facets_references (property : Property) :
    property.facets.references ⊆ property.references := by
  cases property with
  | single facets => exact Subset.refl _
  | listed facets items => exact subset_append_left _ _

variable {property : Property}

theorem Property.items_references {items : Property} (has : property.items = some items) :
    items.references ⊆ property.references := by
  cases property with
  | single facets => cases has
  | listed facets elements =>
    cases has
    exact subset_append_right _ _

def Definition.references (defn : Definition) : List String :=
  defn.properties.flatMap Property.references

/-- What the reader leaves in a property, given the kinds of the definitions of
its file.  A reference names one of them and knows whether it is an enum, and
it carries no shape of its own. -/
structure Facets.Resolved (kindOf : String -> Option DefinitionKind) (facets : Facets) : Prop where
  target : facets.ref ≠ "" -> refTargetName facets.ref ≠ "" ∧
    ∃ kind, kindOf (refTargetName facets.ref) = some kind ∧
      facets.enumDefinition = if kind = .enum then refTargetName facets.ref else ""
  shapeless : facets.ref ≠ "" -> facets.type = "" ∧ facets.format = "" ∧ facets.untyped = false
  plain : facets.ref = "" -> facets.enumDefinition = ""

inductive Property.Resolved (kindOf : String -> Option DefinitionKind) : Property -> Prop where
  | single {facets : Facets} (own : facets.Resolved kindOf) : Resolved kindOf (.single facets)
  | listed {facets : Facets} {items : Property} (own : facets.Resolved kindOf)
      (direct : facets.ref = "") (below : items.Resolved kindOf) :
      Resolved kindOf (.listed facets items)

/-- The reader's account of one document. -/
structure SchemaDocument.Reads (document : SchemaDocument)
    (kindOf : String -> Option DefinitionKind) : Prop where
  root_kind : document.root.kind = .root
  root_free : document.root.reserved = false
  declared : ∀ name kind, kindOf name = some kind ->
    ∃ defn, defn ∈ document.defns ∧ defn.name = name
  kinds : ∀ defn, defn ∈ document.defns ->
    kindOf defn.name = some defn.kind ∧ defn.kind ≠ .root
  reserved : ∀ defn, defn ∈ document.defns ->
    defn.reserved = decide (defn.name = "CustomDataType")
  enums : ∀ defn, defn ∈ document.defns -> defn.kind = .enum ->
    defn.properties = []
  resolved : ∀ defn, defn ∈ document.root :: document.defns ->
    ∀ property, property ∈ defn.properties -> property.Resolved kindOf

theorem mem_of_lookup {κ α : Type} [BEq κ] [LawfulBEq κ] {entries : List (κ × α)} {key : κ}
    {value : α} (found : entries.lookup key = some value) : (key, value) ∈ entries := by
  obtain ⟨pre, after, same, _⟩ := lookup_eq_some_iff.mp found
  rw [same]
  exact mem_append_right _ mem_cons_self

variable {infos : Infos} {name : String} {object : RawObject}

section Sound

variable {strconv : Strconv} {path : String}

def Infos.kindOf (infos : Infos) (name : String) : Option DefinitionKind :=
  (infos.find name).map DefinitionInfo.kind

theorem resolveLocalRef_ok {pointer ref target : String}
    (found : resolveLocalRef path pointer ref infos = .ok target) :
    ref ≠ "" ∧ target = refTargetName ref ∧ target ≠ "" ∧ ∃ info, infos.find target = some info := by
  unfold resolveLocalRef at found
  dsimp only at found
  split at found
  case isFalse => cases found
  case isTrue lead =>
    have written : ref ≠ "" := by
      intro empty
      subst empty
      exact absurd lead (by decide +kernel)
    split at found
    case isTrue => cases found
    case isFalse usable =>
      split at found
      case isFalse => cases found
      case isTrue known =>
        cases found
        refine ⟨written, by rw [refTargetName, if_neg written], ?_, Option.isSome_iff_exists.mp known⟩
        intro empty
        simp [empty] at usable

variable {required : Bool}

theorem parseReference_ok {pointer : String} {raw : Raw}
    (read : parseReference path name pointer required raw infos = .ok property) :
    property.Resolved infos.kindOf := by
  unfold parseReference at read
  obtain ⟨ref, _, read⟩ := bind_eq_ok.mp read
  obtain ⟨target, found, read⟩ := bind_eq_ok.mp read
  obtain ⟨written, same, nonempty, info, known⟩ := resolveLocalRef_ok found
  have kind : infos.kindOf (refTargetName ref) = some info.kind := by
    rw [← same, Infos.kindOf, known, Option.map_some]
  dsimp only at read
  rw [known] at read
  dsimp only at read
  by_cases isEnum : info.kind = .enum
  · rw [isEnum] at read kind
    obtain rfl := pure_eq_ok.mp read
    exact .single ⟨fun _ => ⟨same ▸ nonempty, .enum, kind, same⟩, fun _ => ⟨rfl, rfl, rfl⟩,
      fun empty => absurd empty written⟩
  · have other : property = .single { Facets.plain name pointer required with
        ref := ref, additionalProperties := info.additionalProperties } := by
      cases isKind : info.kind with
      | enum => exact absurd isKind isEnum
      | object | root =>
        rw [isKind] at read
        simp only [pure_eq_ok] at read
        exact read.symm
    subst other
    exact .single ⟨fun _ => ⟨same ▸ nonempty, info.kind, kind, (if_neg isEnum).symm⟩,
      fun _ => ⟨rfl, rfl, rfl⟩,
      fun empty => absurd empty written⟩

variable {items : Option (Except String Property)}

theorem parseTyped_ok {pointer type : String} {kindOf : String -> Option DefinitionKind}
    (below : ∀ item, items = some (.ok item) -> item.Resolved kindOf)
    (read : parseTyped strconv path name pointer required type object items = .ok property) :
    property.Resolved kindOf := by
  unfold parseTyped at read
  simp only [bind_eq_ok] at read
  obtain ⟨_, _, format, _, _, _, _, _, _, _, _, _, _, _, _, _, _, _, _, _, _, _, _, _, element,
    found, read⟩ := read
  obtain rfl := pure_eq_ok.mp read
  have own : ∀ facets : Facets, facets.ref = "" -> facets.enumDefinition = "" ->
      facets.Resolved kindOf := fun facets direct plain =>
    ⟨fun written => absurd direct written, fun written => absurd direct written, fun _ => plain⟩
  cases items with
  | none =>
    have absent : none = element := by simpa using found
    subst absent
    exact .single (own _ rfl rfl)
  | some reading =>
    cases reading with
    | error text => cases found
    | ok item =>
      have present : some item = element := by simpa using found
      subst present
      exact .listed (own _ rfl rfl) rfl (below item rfl)

theorem parsePropertyWith_ok {pointer : String}
    (below : ∀ item, items = some (.ok item) -> item.Resolved infos.kindOf)
    (read : parsePropertyWith strconv path name pointer object required infos items = .ok property) :
    property.Resolved infos.kindOf := by
  unfold parsePropertyWith at read
  obtain ⟨_, _, read⟩ := bind_eq_ok.mp read
  split at read
  · exact parseReference_ok read
  · obtain ⟨⟨type, hasType⟩, _, read⟩ := bind_eq_ok.mp read
    dsimp only at read
    split at read
    · exact parseTyped_ok below read
    · obtain rfl := pure_eq_ok.mp read
      exact .single ⟨fun written => absurd rfl written, fun written => absurd rfl written,
        fun _ => rfl⟩

mutual

theorem itemsOf_ok {pointer : String} :
    ∀ (members : List (String × Raw)) {item : Property},
      itemsOf strconv path infos pointer members = some (.ok item) -> item.Resolved infos.kindOf
  | [], _, read => by simp [itemsOf] at read
  | mem :: rest, _, read => by
      rw [itemsOf] at read
      split at read
      next found later =>
        cases read
        exact itemsOf_ok rest later
      next => exact itemsOfMember_ok mem read

theorem itemsOfMember_ok {pointer : String} :
    ∀ (mem : String × Raw) {item : Property},
      itemsOfMember strconv path infos pointer mem = some (.ok item) ->
        item.Resolved infos.kindOf
  | (key, value), _, read => by
      rw [itemsOfMember] at read
      split at read
      · exact parseItems_ok value (Option.some.inj read)
      · cases read

theorem parseItems_ok {pointer : String} :
    ∀ (value : Raw) {item : Property},
      parseItems strconv path infos pointer value = .ok item -> item.Resolved infos.kindOf
  | .object members, _, read => by
      rw [parseItems] at read
      exact parsePropertyWith_ok (fun _ found => itemsOf_ok members found) read
  | .null, _, read => by simp [parseItems] at read
  | .bool _, _, read => by simp [parseItems] at read
  | .num _, _, read => by simp [parseItems] at read
  | .string _, _, read => by simp [parseItems] at read
  | .array _, _, read => by simp [parseItems] at read

end

theorem parseProperties_ok {objectPointer : String} {properties : List Property}
    (read : parseProperties strconv path object objectPointer infos = .ok properties) :
    ∀ property, property ∈ properties -> property.Resolved infos.kindOf := by
  unfold parseProperties at read
  obtain ⟨required, _, read⟩ := bind_eq_ok.mp read
  split at read
  · obtain rfl := pure_eq_ok.mp read
    exact fun _ mem => absurd mem not_mem_nil
  · obtain ⟨members, _, read⟩ := bind_eq_ok.mp read
    intro property mem
    obtain ⟨name, _, read⟩ := mem_of_mapM read mem
    obtain ⟨fields, _, read⟩ := bind_eq_ok.mp read
    exact parsePropertyWith_ok (fun _ found => itemsOf_ok _ found) read

/-- A classified definition is an object or an enum. -/
theorem classifyDefinition_ok {raw : Raw} {info : DefinitionInfo}
    (read : classifyDefinition strconv path name raw = .ok info) : info.kind ≠ .root := by
  unfold classifyDefinition at read
  simp only [bind_eq_ok] at read
  obtain ⟨entry, _, _, _, _, _, ⟨kind, values⟩, classified, _, _, _, _, _, _, read⟩ := read
  obtain rfl := pure_eq_ok.mp read
  unfold definitionKind at classified
  split at classified
  · obtain ⟨listed, _, classified⟩ := bind_eq_ok.mp classified
    cases classified
    exact DefinitionKind.noConfusion
  · cases classified
    exact DefinitionKind.noConfusion

/-- The second pass keeps the name and the kind, and gives an enum no
properties. -/
theorem buildDefinition_ok {file : String} {raw : Raw} {info : DefinitionInfo}
    {defn : Definition} (known : infos.find name = some info)
    (read : buildDefinition strconv path file name raw infos = .ok defn) :
    defn.name = name ∧ defn.kind = info.kind ∧
      defn.reserved = decide (name = "CustomDataType") ∧
      (defn.kind = .enum -> defn.properties = []) ∧
      (∀ property, property ∈ defn.properties -> property.Resolved infos.kindOf) := by
  unfold buildDefinition at read
  obtain ⟨entry, _, read⟩ := bind_eq_ok.mp read
  dsimp only at read
  obtain ⟨properties, listed, read⟩ := bind_eq_ok.mp read
  obtain rfl := pure_eq_ok.mp read
  rw [known, Option.getD_some] at listed ⊢
  refine ⟨rfl, rfl, rfl, ?_⟩
  unfold definitionProperties at listed
  split at listed
  next isEnum =>
    cases listed
    exact ⟨fun _ => rfl, fun _ mem => absurd mem not_mem_nil⟩
  next other => exact ⟨fun isEnum => absurd isEnum other, parseProperties_ok listed⟩

/-- Every document that is read is accounted for, and its root is named by the
file it stands in. -/
theorem readSchema_ok {file : String} {document : Raw} {schema : SchemaDocument}
    (read : readSchema strconv path file document = .ok schema) :
    schema.root.name = trimSuffix file ".json" ∧ ∃ kindOf, schema.Reads kindOf := by
  unfold readSchema at read
  simp only [bind_eq_ok] at read
  obtain ⟨root, _, _, _, _, _, _, _, _, _, _, _, _, _, _, _, named, _, (infos : Infos), classified,
    defns, built, properties, listed, read⟩ := read
  obtain rfl := pure_eq_ok.mp read
  -- every key has been classified, and nothing else has
  have known : ∀ name, name ∈ named.keys -> ∃ info, infos.find name = some info := by
    intro name key
    obtain ⟨entry, mem, computed⟩ := exists_of_mapM classified key
    obtain ⟨info, _, same⟩ := bind_eq_ok.mp computed
    obtain rfl := pure_eq_ok.mp same
    exact Option.isSome_iff_exists.mp (lookup_isSome_iff.mpr ⟨_, mem, beq_self_eq_true _⟩)
  have kinds : ∀ name info, infos.find name = some info ->
      name ∈ named.keys ∧ info.kind ≠ .root := by
    intro name info found
    obtain ⟨key, mem, computed⟩ := mem_of_mapM classified (mem_of_lookup found)
    obtain ⟨other, read, same⟩ := bind_eq_ok.mp computed
    simp only [pure_eq_ok, Prod.mk.injEq] at same
    obtain ⟨same, agree⟩ := same
    subst same agree
    exact ⟨mem, classifyDefinition_ok read⟩
  have account : ∀ defn, defn ∈ defns -> ∃ info,
      infos.find defn.name = some info ∧ defn.kind = info.kind ∧
      defn.reserved = decide (defn.name = "CustomDataType") ∧
      (defn.kind = .enum -> defn.properties = []) ∧
      (∀ property, property ∈ defn.properties -> property.Resolved infos.kindOf) := by
    intro defn mem
    obtain ⟨name, key, computed⟩ := mem_of_mapM built mem
    obtain ⟨info, found⟩ := known name key
    obtain ⟨same, rest⟩ := buildDefinition_ok found computed
    subst same
    exact ⟨info, found, rest⟩
  refine ⟨rfl, infos.kindOf, rfl, rfl, ?_, ?_, ?_, ?_, ?_⟩
  · intro name kind found
    obtain ⟨info, listed, _⟩ := Option.map_eq_some_iff.mp found
    obtain ⟨defn, mem, computed⟩ := exists_of_mapM built (kinds name info listed).1
    exact ⟨defn, mem, (buildDefinition_ok listed computed).1⟩
  · intro defn mem
    obtain ⟨info, found, same, _⟩ := account defn mem
    exact ⟨by rw [Infos.kindOf, found, Option.map_some, same], same ▸ (kinds _ info found).2⟩
  · intro defn mem
    obtain ⟨info, _, _, reserved, _⟩ := account defn mem
    exact reserved
  · intro defn mem
    obtain ⟨info, _, _, _, enums, _⟩ := account defn mem
    exact enums
  · intro defn mem
    rcases mem_cons.mp mem with same | later
    · subst same
      exact parseProperties_ok listed
    · obtain ⟨info, _, _, _, _, resolved⟩ := account defn later
      exact resolved

end Sound

end Codegen
end OcppGo
