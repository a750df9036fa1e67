import OcppGo.Codegen.Placement

namespace OcppGo
namespace Codegen

open OcppGo.Sequential

/-!
# From properties to fields

`mapProperty` gives the Go name, type and tags of the field a property becomes,
and says nothing about the file the field is declared in.  A Go type is written
as the tokens of its text, so that a name keeps the qualifier in front of it and
a generated name is told from a built-in or hand-written one.
-/

/-! ## Go types -/

inductive Builtin where
  | any
  | int
  | float64
  | bool
  | string
  deriving DecidableEq

/-- The residents of the types package that are not generated. -/
inductive Handwritten where
  | dateTime
  | customData
  deriving DecidableEq

/-- One token of the text of a type. -/
inductive Token where
  | brackets
  | star
  /-- The text `types.` in front of a name. -/
  | qualifier
  | builtin (name : Builtin)
  | handwritten (name : Handwritten)
  | generated (name : String)
  deriving DecidableEq

abbrev GoType := List Token

/-- A generated name as a type writes it. -/
structure Reference where
  qualified : Bool
  name : String
  deriving DecidableEq

/-- The generated names a type uses. -/
def GoType.references : GoType -> List Reference
  | [] => []
  | .qualifier :: .generated name :: rest => ⟨true, name⟩ :: references rest
  | .generated name :: rest => ⟨false, name⟩ :: references rest
  | _ :: rest => references rest

/-- Insert the qualifier in front of the bare name of a type. -/
def qualifyBareTypeName : GoType -> GoType
  | .brackets :: rest => .brackets :: .qualifier :: rest
  | .star :: rest => .star :: .qualifier :: rest
  | rest => .qualifier :: rest

/-- The type with every qualifier removed, as it is written inside the types
package. -/
def GoType.unqualified (goType : GoType) : GoType :=
  goType.filter fun token => token ≠ .qualifier

section Types

variable (defns : List Definition) (config : TransformConfig)

def mapNumericType (base : Builtin) (facets : Facets) : GoType :=
  if facets.required then [.builtin base]
  else
    match facets.minimum with
    | none => [.star, .builtin base]
    | some minimum => if minimum ≤ 0 then [.star, .builtin base] else [.builtin base]

def mapRefType (facets : Facets) : Except String GoType :=
  if facets.enumDefinition ≠ "" then do
    let goName ← transformIdentifier config facets.enumDefinition .enum
    return [.generated goName]
  else
    match findDefinitionByName defns (refTargetName facets.ref) with
    | none => .error ("map property: $ref " ++ facets.ref.quote ++
        " does not resolve to a known definition")
    | some target =>
      if target.reserved then .ok [.star, .qualifier, .handwritten .customData]
      else do
        let goName ← transformIdentifier config target.name .object
        return if facets.required then [.generated goName] else [.star, .generated goName]

def mapArrayElementType (item : Facets) : Except String GoType :=
  if item.enumDefinition ≠ "" then do
    let goName ← transformIdentifier config item.enumDefinition .enum
    return [.generated goName]
  else if item.ref ≠ "" then
    match findDefinitionByName defns (refTargetName item.ref) with
    | none => .error ("map property: array element $ref " ++ item.ref.quote ++
        " does not resolve to a known definition")
    | some target =>
      if target.reserved then .ok [.qualifier, .handwritten .customData]
      else do
        let goName ← transformIdentifier config target.name .object
        return [.generated goName]
  else if item.format = "date-time" then .ok [.star, .qualifier, .handwritten .dateTime]
  else if item.type = "integer" then .ok [.builtin .int]
  else if item.type = "number" then .ok [.builtin .float64]
  else if item.type = "boolean" then .ok [.builtin .bool]
  else if item.type = "string" then .ok [.builtin .string]
  else .error ("map property: unsupported array element type " ++ item.type.quote)

def mapArrayType (property : Property) : Except String GoType :=
  match property.items with
  | none => .error ("map property " ++ property.facets.name.quote ++ ": array has no items schema")
  | some item => do
      let element ← mapArrayElementType defns config item.facets
      return .brackets :: element

def mapGoType (property : Property) : Except String GoType :=
  let facets := property.facets
  if facets.untyped then .ok [.builtin .any]
  else if facets.format = "date-time" then .ok [.star, .qualifier, .handwritten .dateTime]
  else if facets.ref ≠ "" then mapRefType defns config facets
  else if facets.type = "array" then mapArrayType defns config property
  else if facets.type = "integer" then .ok (mapNumericType .int facets)
  else if facets.type = "number" then .ok (mapNumericType .float64 facets)
  else if facets.type = "boolean" then
    .ok (if facets.required then [.builtin .bool] else [.star, .builtin .bool])
  else if facets.type = "string" then .ok [.builtin .string]
  else .error ("map property " ++ facets.name.quote ++ ": unsupported schema type " ++
    facets.type.quote)

end Types

/-- One row of the override document. -/
structure OverrideRow where
  defn : String
  property : String
  rule : String
  tag : String
  fromToken : String
  deriving DecidableEq

section Tags

variable (strconv : Strconv) (config : TransformConfig)

def scalarBoundTokens (facets : Facets) : List String :=
  (facets.minLength.map fun bound => "min=" ++ toString bound).toList ++
    (facets.maxLength.map fun bound => "max=" ++ toString bound).toList ++
    (facets.minimum.map fun bound => "gte=" ++ strconv.formatFloat bound).toList ++
    (facets.maximum.map fun bound => "lte=" ++ strconv.formatFloat bound).toList

def arrayElementTokens (property : Property) : List String :=
  match property.items with
  | none => []
  | some item =>
    let bounds := scalarBoundTokens strconv item.facets
    if item.facets.ref = "" && item.facets.enumDefinition = "" && bounds.isEmpty then []
    else "dive" :: bounds

/-- The tags that follow from the schema alone. -/
def baseTagSet (property : Property) : List String :=
  let facets := property.facets
  let optionality :=
    if facets.required && facets.type = "boolean" then []
    else if facets.required then ["required"]
    else ["omitempty"]
  if facets.type = "array" then
    optionality ++
      (facets.minItems.map fun bound => "min=" ++ toString bound).toList ++
      (facets.maxItems.map fun bound => "max=" ++ toString bound).toList ++
      arrayElementTokens strconv property
  else optionality ++ scalarBoundTokens strconv facets

def applyTagOverride (base : List String) (row : OverrideRow) : Except String (List String) :=
  let lead := "apply tag override " ++ row.defn ++ "." ++ row.property ++ ": "
  if row.tag = "required" || row.tag = "omitempty" then
    .error (lead ++ "rule " ++ row.rule.quote ++ " may not name " ++ row.tag.quote ++
      ", an optionality tag — required/omitempty are decided by the mapping rules, " ++
      "never by an override")
  else if row.rule = "add" then .ok (base ++ [row.tag])
  else if row.rule = "tighten" then
    match base.findIdx? (fun token => token = row.fromToken) with
    | none => .error (lead ++ "tighten names from token " ++ row.fromToken.quote ++
        ", which is not present in the base tag set [" ++ join " " base ++ "]")
    | some index => .ok (base.set index row.tag)
  else .error (lead ++ "unknown override rule " ++ row.rule.quote)

/-- The enum whose validator a property carries, its own or that of its
elements. -/
def enumDefinitionOf (property : Property) : String :=
  if property.facets.enumDefinition = "" && property.facets.type = "array" then
    (property.items.map fun item => item.facets.enumDefinition).getD ""
  else property.facets.enumDefinition

def enumToken (property : Property) : Except String (List String) :=
  if enumDefinitionOf property = "" then .ok []
  else do
    let tag ← validatorTagName config (enumDefinitionOf property)
    return [tag]

def buildJSONTag (facets : Facets) : String :=
  "json:" ++ (if facets.required then facets.name else facets.name ++ ",omitempty").quote

/-- The field one property becomes. -/
structure FieldMapping where
  fieldName : String
  goType : GoType
  jsonTag : String
  validateTag : String

def mapProperty (defn : Definition) (property : Property) (defns : List Definition)
    (overrides : List OverrideRow) : Except String FieldMapping := do
  let facets := property.facets
  let failed (text : String) :=
    "map property " ++ defn.name ++ "." ++ facets.name ++ ": " ++ text
  let fieldName ← (transformPropertyName config facets.name).mapError failed
  let goType ← (mapGoType defns config property).mapError failed
  let enumTokens ← (enumToken config property).mapError failed
  let tokens ← (overrides.filter fun row =>
    row.defn = defn.name && row.property = facets.name).foldlM applyTagOverride
      (baseTagSet strconv property ++ enumTokens)
  return {
    fieldName := fieldName
    goType := goType
    jsonTag := buildJSONTag facets
    validateTag := if tokens.isEmpty then "" else "validate:\"" ++ join "," tokens ++ "\"" }

end Tags

end Codegen
end OcppGo
