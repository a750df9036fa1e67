import OcppGo.Codegen.Overrides
import OcppGo.Schemacheck.Walk

namespace OcppGo
namespace Schemacheck

open Codegen (Strconv hasPrefix join sortStrings tagFamily tagValue trimPrefix)

/-!
# The classification of a field

`classifyField` compares a field of a struct with the property of its schema, in stages.  The first
stage that has something to say decides; the shape of the declared type is looked at last.
-/

/-- A field of a struct, as the walk of its file records it. -/
structure GoField where
  name : String
  declaredType : String
  wireType : String
  pointer : Bool
  slice : Bool
  customMarshaled : Bool
  jsonName : String
  omitempty : Bool
  validate : List String
  enumValues : List String
  structValidators : List String

structure SchemaField where
  type : Option String
  required : Bool
  format : Option String
  enum : List String
  constraints : Constraints

structure ComparisonInput where
  go : GoField
  schema : SchemaField
  goPresent : Bool
  schemaPresent : Bool

structure FieldSignature where
  present : Bool
  name : String
  declaredType : String
  constructorSignature : String
  enumType : String
  deriving DecidableEq

inductive Class where
  | forkBug
  | additive
  | structValidator
  | overrideCandidate
  | schemaFaithfulChange
  | identical
  | unexplained
  deriving DecidableEq

structure ClassificationResult where
  verdict : Class
  rule : String
  breaking : Bool

def breakingPredicate (verdict : Class) (pre after : FieldSignature) : Bool :=
  verdict = .schemaFaithfulChange && pre ≠ after

def schemaFaithfulShape (field : GoField) (expected rule : String) : ClassificationResult where
  verdict := .schemaFaithfulChange
  rule := rule
  breaking := breakingPredicate .schemaFaithfulChange ⟨true, field.name, field.declaredType, "", ""⟩
    ⟨true, field.name, expected, "", ""⟩

/-! ## Values and presence -/

def setDifference (left right : List String) : List String :=
  sortStrings (left.filter fun value => value ∉ right).dedup

def compareEnumValueSets (input : ComparisonInput) : Option ClassificationResult :=
  let missing := setDifference input.schema.enum input.go.enumValues
  let extra := setDifference input.go.enumValues input.schema.enum
  if input.go.enumValues = [] ∨ input.schema.enum = [] ∨ missing = [] ∧ extra = [] then none
  else some ⟨.forkBug, "enum value-set drift: " ++ join "; "
    ((if missing = [] then [] else ["the schema accepts " ++ join ", " missing ++
        ", which the hand-written validator rejects"]) ++
      if extra = [] then [] else ["the hand-written validator accepts " ++ join ", " extra ++
        ", which the schema does not list"]), false⟩

/-- The tokens of the field itself, those before `dive`. -/
def fieldLevelValidateTokens (validate : List String) : List String :=
  validate.takeWhile fun token => token ≠ "dive"

def hasFieldLevelRequired (field : GoField) : Bool :=
  "required" ∈ fieldLevelValidateTokens field.validate

def emptyInterfaceType : String := "interface\x7b\x7d"

def goBasicTypeNames : List String :=
  ["string", "bool", "int", "int8", "int16", "int32", "int64", "uint", "uint8", "uint16", "uint32",
    "uint64", "uintptr", "float32", "float64", "byte", "rune"]

/-- Whether the tag `omitempty` can take the field off the wire. -/
def omitemptyCanOmit (field : GoField) : Bool :=
  let declared := trimPrefix field.declaredType "*"
  if field.pointer || field.slice then true
  else if declared = emptyInterfaceType || declared = "any" || hasPrefix declared "map[" ||
      hasPrefix declared "[]" then true
  else if field.customMarshaled then false
  else declared ∈ goBasicTypeNames || field.wireType ∈ goBasicTypeNames

def compareRequiredness (input : ComparisonInput) : Option ClassificationResult :=
  if !input.schema.required || !input.go.omitempty || !omitemptyCanOmit input.go ||
    hasFieldLevelRequired input.go then none
  else some ⟨.forkBug, "optionality lie: the schema marks this property required, but the Go " ++
    "field is " ++ (if input.go.pointer then "a pointer" else "a value type") ++ " tagged json " ++
    "omitempty with no required validation, so the encoder omits it at its zero value", false⟩

def compareNullEmission (input : ComparisonInput) : Option ClassificationResult :=
  let schemaType := input.schema.type.getD ""
  if input.schema.required || !input.go.pointer || input.go.omitempty ||
    hasFieldLevelRequired input.go || schemaType = "" then none
  else some ⟨.forkBug, "optionality lie: the schema marks this property optional and types it " ++
    schemaType ++ ", which admits no null, but the Go field is a pointer with no json omitempty, " ++
    "so a nil encodes as null instead of being omitted", false⟩

/-! ## Bounds -/

def normalizeWireType (wireType : String) (slice : Bool) : String :=
  if slice then "array"
  else if wireType ∈ ["string", "integer", "number", "boolean", "array", "object"] then wireType
  else if wireType ∈ ["int", "int8", "int16", "int32", "int64", "uint", "uint8", "uint16", "uint32",
    "uint64", "uintptr"] then "integer"
  else if wireType ∈ ["float32", "float64"] then "number"
  else if wireType = "bool" then "boolean"
  else "object"

/-- The wire type of a field in the words of a schema, where the walk found one. -/
def GoField.schemaWireType (field : GoField) : String :=
  if field.wireType ≠ "" then normalizeWireType field.wireType field.slice else ""

def isNumericWireType (wireType : String) : Bool :=
  normalizeWireType wireType false ∈ ["integer", "number"]

/-- The numbers of a tag by the names of their tokens; a later token replaces an earlier one. -/
def parseValidateNumbers (strconv : Strconv) (validate : List String) (name : String) : Option Rat :=
  validate.reverse.findSome? fun token =>
    if tagFamily token = name then (tagValue token).bind strconv.parseFloat else none

structure GoBound where
  token : String
  value : Rat
  exclusive : Bool

def GoBound.describe (strconv : Strconv) (bound : GoBound) : String :=
  bound.token ++ "=" ++ strconv.formatFloat bound.value

def boundTokens (upper : Bool) : List String :=
  if upper then ["max", "lte", "lt", "len"] else ["min", "gte", "gt", "len"]

def tighterBound (candidate incumbent : GoBound) (upper : Bool) : Bool :=
  if candidate.value ≠ incumbent.value then
    if upper then candidate.value < incumbent.value else incumbent.value < candidate.value
  else candidate.exclusive && !incumbent.exclusive

def effectiveGoBound (tokens : String -> Option Rat) (upper : Bool) : Option GoBound :=
  (boundTokens upper).foldl (fun tightest token =>
    match tokens token with
    | none => tightest
    | some value =>
      let candidate := ⟨token, value, token = "gt" || token = "lt"⟩
      if tightest.all fun incumbent => tighterBound candidate incumbent upper then some candidate
      else tightest) none

def schemaBoundForKind (input : ComparisonInput) (upper : Bool) : String × Option Rat :=
  let constraints := input.schema.constraints
  if input.go.slice then
    if upper then ("maxItems", constraints.maxItems.map Int.cast)
    else ("minItems", constraints.minItems.map Int.cast)
  else if isNumericWireType input.go.wireType then
    if upper then ("maximum", constraints.maximum) else ("minimum", constraints.minimum)
  else if upper then ("maxLength", constraints.maxLength.map Int.cast)
  else ("minLength", constraints.minLength.map Int.cast)

inductive BoundVerdict where
  | same
  | stricter
  | looser

def compareBoundToSchema (bound : GoBound) (schemaValue : Rat) (upper : Bool) : BoundVerdict :=
  if bound.value = schemaValue then if bound.exclusive then .stricter else .same
  else if upper = decide (bound.value < schemaValue) then .stricter
  else .looser

section

variable (strconv : Strconv)

def stricterResult (bound : GoBound) (schemaName schemaValue : String) : ClassificationResult :=
  ⟨.overrideCandidate, "hand-written constraint " ++ bound.describe strconv ++
    " is stricter than schema " ++ schemaName ++ "=" ++ schemaValue ++ " and looks deliberate", false⟩

def looserResult (bound : GoBound) (schemaName schemaValue : String) : ClassificationResult :=
  ⟨.forkBug, "hand-written constraint " ++ bound.describe strconv ++ " is looser than schema " ++
    schemaName ++ "=" ++ schemaValue, false⟩

/-- One direction of the comparison. -/
def compareBound (input : ComparisonInput) (upper : Bool) : Option ClassificationResult :=
  let tokens := parseValidateNumbers strconv (fieldLevelValidateTokens input.go.validate)
  let schemaName := (schemaBoundForKind input upper).1
  match effectiveGoBound tokens upper, (schemaBoundForKind input upper).2 with
  | some bound, some schemaValue =>
    match compareBoundToSchema bound schemaValue upper with
    | .same => none
    | .stricter => some (stricterResult strconv bound schemaName (strconv.formatFloat schemaValue))
    | .looser => some (looserResult strconv bound schemaName (strconv.formatFloat schemaValue))
  | some bound, none => some (stricterResult strconv bound schemaName "no bound")
  | none, some schemaValue =>
    some ⟨.forkBug, "hand-written code declares no " ++ schemaName ++ " bound where the schema sets " ++
      schemaName ++ "=" ++ strconv.formatFloat schemaValue ++ ", so it is looser than the schema",
      false⟩
  | none, none => none

/-- Upper before lower. -/
def compareConstraints (input : ComparisonInput) : Option ClassificationResult :=
  [true, false].findSome? (compareBound strconv input)

end

/-! ## Syntax -/

/-- The formats that say what a token of the validator says about the syntax of a text. -/
def syntaxTokenFormats (token : String) : Option (List String) :=
  if token ∈ ["alpha", "alphanum", "alphaunicode", "alphanumunicode", "numeric", "number",
    "hexadecimal", "hexcolor", "rgb", "rgba", "hsl", "hsla", "e164", "file", "base64", "base64url",
    "isbn", "isbn10", "isbn13", "eth_addr", "btc_addr", "btc_addr_bech32", "ascii", "printascii",
    "multibyte", "datauri", "latitude", "longitude", "ssn", "cidrv4", "cidrv6", "cidr", "tcp4_addr",
    "tcp6_addr", "tcp_addr", "udp4_addr", "udp6_addr", "udp_addr", "unix_addr", "mac", "html",
    "html_encoded", "url_encoded", "dir"] then some []
  else if token ∈ ["uuid", "uuid3", "uuid4", "uuid5", "uuid_rfc4122", "uuid3_rfc4122",
    "uuid4_rfc4122", "uuid5_rfc4122"] then some ["uuid"]
  else if token ∈ ["hostname", "hostname_rfc1123", "fqdn"] then some ["hostname", "idn-hostname"]
  else [("email", ["email", "idn-email"]), ("url", ["uri", "iri"]),
    ("uri", ["uri", "uri-reference", "iri", "iri-reference"]), ("urn_rfc2141", ["uri"]),
    ("ipv4", ["ipv4"]), ("ipv6", ["ipv6"]), ("ip", ["ipv4", "ipv6"]), ("ip4_addr", ["ipv4"]),
    ("ip6_addr", ["ipv6"]), ("ip_addr", ["ipv4", "ipv6"])].lookup token

def compareSemanticConstraints (input : ComparisonInput) : Option ClassificationResult :=
  let schemaFormat := input.schema.format.getD ""
  if input.schema.type ≠ some "string" then none
  else (fieldLevelValidateTokens input.go.validate).findSome? fun token =>
    (syntaxTokenFormats (tagFamily token)).bind fun counterparts =>
      if schemaFormat ≠ "" ∧ schemaFormat ∈ counterparts then none
      else some ⟨.overrideCandidate, "hand-written constraint " ++ tagFamily token ++
        " restricts the value's syntax where the schema declares " ++
        (if schemaFormat = "" then "no format" else "format=" ++ schemaFormat) ++
        ", so it is stricter than the schema and looks deliberate", false⟩

/-! ## Shapes -/

def minimumExcludesZero (constraints : Constraints) : Bool :=
  constraints.minimum.any fun minimum => 0 < minimum

/-- The bound is a number of its own, or makes the minimum exclusive. -/
def exclusiveExcludesZero (constraints : Constraints) : Bool :=
  constraints.exclusiveMinimum.any fun bound =>
    (bound.number.any fun number => 0 ≤ number) ||
      bound.boolean = some true && (constraints.minimum.any fun minimum => 0 ≤ minimum)

def zeroExcludedByFloor (schemaType : String) (constraints : Constraints) : Bool :=
  (schemaType = "integer" || schemaType = "number") &&
    (minimumExcludesZero constraints || exclusiveExcludesZero constraints)

/-- The finding about the shape of a field, if there is one. -/
def compareOptionalityShape (input : ComparisonInput) (schemaType : String) :
    Option ClassificationResult :=
  let field := input.go
  let value := trimPrefix field.declaredType "*"
  let pointer := "*" ++ field.declaredType
  if field.slice then
    if schemaType = "array" && field.pointer then
      some (schemaFaithfulShape field value ("array -> slice (a slice already expresses absence, " ++
        "so the mapping wraps it in no pointer)"))
    else none
  else if schemaType ∉ ["object", "integer", "number", "boolean"] then none
  else if input.schema.required then
    if schemaType = "object" && field.pointer then
      some (schemaFaithfulShape field value ("required composite -> value (the property is always " ++
        "present, so nothing needs a pointer to express absence)"))
    else none
  else if zeroExcludedByFloor schemaType input.schema.constraints then
    if field.pointer then
      some (schemaFaithfulShape field value ("optional " ++ schemaType ++ " whose schema floor " ++
        "excludes zero -> value + omitempty (omitempty is unambiguous, so the pointer expresses " ++
        "nothing the value cannot)"))
    else none
  else if field.pointer then none
  else if schemaType = "object" && !omitemptyCanOmit field then
    some (schemaFaithfulShape field pointer ("optional composite -> pointer (a struct value always " ++
      "encodes, and omitempty does not apply to structs, so absence cannot be expressed)"))
  else if field.omitempty && omitemptyCanOmit field then
    some (schemaFaithfulShape field pointer ("optional " ++ schemaType ++
      " -> pointer (value + omitempty drops " ++ (if schemaType = "boolean" then "false" else "0") ++
      ", which the schema admits)"))
  else none

/-- The stage of the declared type. -/
def compareDeclaredShape (input : ComparisonInput) (schemaType : String) : ClassificationResult :=
  let field := input.go
  let actual := field.declaredType
  let base := trimPrefix actual "*"
  let generated := "generated named enum type"
  if schemaType = "string" ∧ input.schema.format = some "date-time" then
    if base ≠ field.wireType ∧ field.pointer = false then
      schemaFaithfulShape field "*types.DateTime" ("string format:date-time -> *types.DateTime " ++
        "(value modelled where the mapping is a pointer)")
    else if base = field.wireType then
      schemaFaithfulShape field "*types.DateTime" "string format:date-time -> *types.DateTime"
    else ⟨.identical, "", false⟩
  else if schemaType = "string" ∧ actual ≠ "string" then
    if base = "string" then
      schemaFaithfulShape field "string" ((if input.schema.required then "required" else "optional") ++
        " string -> value + omitempty")
    else if field.enumValues ≠ [] ∧ input.schema.enum ≠ [] then
      ⟨.schemaFaithfulChange, "string enum -> named enum type",
        breakingPredicate .schemaFaithfulChange ⟨true, field.name, actual, "", base⟩
          ⟨true, field.name, generated, "", generated⟩⟩
    else ⟨.unexplained, "", false⟩
  else if schemaType = "" then
    let rule := "untyped property -> " ++ emptyInterfaceType
    if actual = emptyInterfaceType ∨ actual = "any" then ⟨.identical, rule, false⟩
    else schemaFaithfulShape field emptyInterfaceType rule
  else (compareOptionalityShape input schemaType).getD ⟨.identical, "", false⟩

/-! ## The stages -/

/-- The findings that come before the shape. -/
def earlierFinding (strconv : Strconv) (input : ComparisonInput) : Option ClassificationResult :=
  compareEnumValueSets input <|> compareRequiredness input <|> compareNullEmission input <|>
    compareConstraints strconv input <|> compareSemanticConstraints input

def classifyField (strconv : Strconv) (input : ComparisonInput) :
    Except String ClassificationResult :=
  let schemaType := input.schema.type.getD ""
  let wireType := input.go.schemaWireType
  if !input.goPresent && !input.schemaPresent then
    .error ("classify field " ++ input.go.jsonName ++
      ": neither the Go tree nor the schema declares it")
  else if !input.schemaPresent then
    .ok ⟨.forkBug, "Go field not in schema: the hand-written struct declares a field the schema " ++
      "does not authorize", false⟩
  else if !input.goPresent then
    if input.schema.required then
      .ok ⟨.forkBug, "schema-required field missing from Go: the schema marks it required but the " ++
        "hand-written struct has no field for it", false⟩
    else
      .ok ⟨.additive, "schema has this optional field; a schema-faithful struct would gain it and " ++
        "nothing that exists today would break", false⟩
  else if input.go.structValidators ≠ [] then
    .ok ⟨.structValidator, "cross-field struct validation rule " ++
      join ", " input.go.structValidators ++
      " has no schema counterpart and needs human adjudication", false⟩
  else if schemaType ≠ "" ∧ wireType ≠ "" ∧ wireType ≠ schemaType then
    .ok ⟨.forkBug, "wrong type: hand-written wire type " ++ input.go.wireType.quote ++
      " (schema vocabulary " ++ wireType.quote ++ ") does not match schema type " ++
      schemaType.quote, false⟩
  else .ok ((earlierFinding strconv input).getD (compareDeclaredShape input schemaType))

end Schemacheck
end OcppGo
