import OcppGo.Schemacheck.Classify

namespace OcppGo
namespace Schemacheck

open Codegen (Builtin Definition Facets FieldMapping GoType OverrideRow Property Strconv
  TransformConfig join mapGoType mapNumericType mapProperty)
open OcppGo.Sequential (bind_eq_ok mapError_eq_ok pure_eq_ok)

/-!
# Which optional fields are pointers

The checker derives the shape of a field from the schema of its property and compares the shape a
struct has with it.  The generator has a rule of its own for the same question; what it emits should
not be reported by the checker.
-/

/-- What the walk of a file is given: the lookup of a key in a struct tag, the registered marshalers
and scalar types, and the values of the validators. -/
structure GoFileWalker where
  lookup : String -> String -> Option String
  resolveWireType : String -> Option String
  scalarAliasFor : String -> Option String
  enums : String -> List String

structure FieldTagInfo where
  name : String
  omitempty : Bool
  validate : List String

section Walker

variable (walker : GoFileWalker)

/-- The value of a key, split at its commas. -/
def tagParts (mapping : FieldMapping) (key : String) : List String :=
  let tag := join " " ([mapping.jsonTag, mapping.validateTag].filter fun part => part ≠ "")
  let value := (walker.lookup tag key).getD ""
  if value = "" then [] else (value.toList.splitOn ',').map String.ofList

def fieldTag (mapping : FieldMapping) : FieldTagInfo where
  name := (tagParts walker mapping "json").headD ""
  omitempty := "omitempty" ∈ (tagParts walker mapping "json").tail
  validate := tagParts walker mapping "validate"

def enumValuesFor (tag : FieldTagInfo) : List String :=
  ((fieldLevelValidateTokens tag.validate).findSome? fun token =>
    if '=' ∉ token.toList ∧ walker.enums token ≠ [] then some (walker.enums token) else none).getD []

def isPointer (goType : GoType) : Bool := goType.head? = some .star

/-- The row of a field with a name; the rows below it are not its own. -/
def walkFieldTypeAt (mapping : FieldMapping) : GoField :=
  let tag := fieldTag walker mapping
  let inner : GoType := if isPointer mapping.goType then mapping.goType.tail else mapping.goType
  let text := inner.text
  let slice : Bool := inner.head? = some .brackets
  let marshaled := if slice then none else walker.resolveWireType text
  { name := mapping.fieldName
    declaredType := mapping.goType.text
    wireType := if slice then text else marshaled.getD ((walker.scalarAliasFor text).getD text)
    pointer := isPointer mapping.goType
    slice := slice
    customMarshaled := marshaled.isSome
    jsonName := tag.name
    omitempty := tag.omitempty
    validate := tag.validate
    enumValues := enumValuesFor walker tag
    structValidators := [] }

end Walker

/-- The constraints of a property, as the checker reads them. -/
def constraintsOf (facets : Facets) : Constraints :=
  { facets with pattern := if facets.pattern = "" then none else some facets.pattern }

def toSchemaField (facets : Facets) : SchemaField where
  type := if facets.type = "" then none else some facets.type
  required := facets.required
  format := if facets.format = "" then none else some facets.format
  enum := facets.enum
  constraints := constraintsOf facets

/-- An emitted field beside its own property.  The validators of its struct are registered by the
tree, not by the field. -/
def emittedInput (walker : GoFileWalker) (structValidators : List String) (mapping : FieldMapping)
    (facets : Facets) : ComparisonInput where
  go := { walkFieldTypeAt walker mapping with structValidators := structValidators }
  schema := toSchemaField facets
  goPresent := true
  schemaPresent := true

section Findings

variable {strconv : Strconv} {input : ComparisonInput} {result : ClassificationResult}

/-- The stages that find a contradiction of the schema or nothing. -/
theorem verdict_of_contradiction {passes : Prop} [Decidable passes] {rule : String}
    (found : (if passes then none else some ⟨.forkBug, rule, false⟩) = some result) :
    result.verdict ≠ .schemaFaithfulChange := by
  obtain ⟨-, rfl⟩ := by simpa using found
  simp

theorem compareConstraints_verdict (found : compareConstraints strconv input = some result) :
    result.verdict ≠ .schemaFaithfulChange := by
  obtain ⟨upper, -, found⟩ := List.exists_of_findSome?_eq_some found
  unfold compareBound at found
  grind [stricterResult, looserResult]

theorem compareSemanticConstraints_verdict
    (found : compareSemanticConstraints input = some result) :
    result.verdict ≠ .schemaFaithfulChange := by
  unfold compareSemanticConstraints at found
  split at found
  · cases found
  · obtain ⟨token, -, found⟩ := List.exists_of_findSome?_eq_some found
    obtain ⟨counterparts, -, found⟩ := Option.bind_eq_some_iff.mp found
    grind

/-- The shape of a field is reported by the last stage only. -/
theorem earlierFinding_verdict (found : earlierFinding strconv input = some result) :
    result.verdict ≠ .schemaFaithfulChange := by
  simp only [earlierFinding, Option.orElse_eq_orElse, Option.orElse_eq_or,
    Option.or_eq_some_iff] at found
  rcases found with found | ⟨-, found | ⟨-, found | ⟨-, found | ⟨-, found⟩⟩⟩⟩
  · exact verdict_of_contradiction found
  · exact verdict_of_contradiction found
  · exact verdict_of_contradiction found
  · exact compareConstraints_verdict found
  · exact compareSemanticConstraints_verdict found

/-- A field whose declared type is what its schema asks for is not reported as a change. -/
theorem classifyField_unchanged (strconv : Strconv) (go : input.goPresent = true)
    (schema : input.schemaPresent = true)
    (shape : (compareDeclaredShape input (input.schema.type.getD "")).verdict ≠
      .schemaFaithfulChange) :
    ∃ result, classifyField strconv input = .ok result ∧ result.verdict ≠ .schemaFaithfulChange := by
  unfold classifyField
  simp only [go, schema, Bool.not_true, Bool.and_false, Bool.false_eq_true, if_false]
  split
  · exact ⟨_, rfl, by simp⟩
  split
  · exact ⟨_, rfl, by simp⟩
  · refine ⟨_, rfl, ?_⟩
    cases found : earlierFinding strconv input with
    | some result => exact earlierFinding_verdict found
    | none => exact shape

/-- An optional number is not reported when it is a pointer exactly where its floor admits zero. -/
theorem compareDeclaredShape_numeric {kind : String} (numeric : kind = "integer" ∨ kind = "number")
    (optional : input.schema.required = false)
    (agrees : input.go.pointer = !zeroExcludedByFloor kind input.schema.constraints) :
    compareDeclaredShape input kind = ⟨.identical, "", false⟩ := by
  have silent : compareOptionalityShape input kind = none := by
    cases excluded : zeroExcludedByFloor kind input.schema.constraints <;>
      rcases numeric with rfl | rfl <;>
      simp [compareOptionalityShape, optional, agrees, excluded]
  rcases numeric with rfl | rfl <;> simp [compareDeclaredShape, silent]

end Findings

/-! ## The two rules -/

theorem isPointer_mapNumericType {facets : Facets} (base : Builtin)
    (optional : facets.required = false) :
    isPointer (mapNumericType base facets) = !minimumExcludesZero (constraintsOf facets) := by
  unfold mapNumericType minimumExcludesZero
  cases floor : facets.minimum with
  | none => simp [optional, constraintsOf, floor, isPointer]
  | some minimum =>
    by_cases admits : minimum ≤ 0
    · simp [optional, constraintsOf, floor, isPointer, admits, Rat.not_lt.mpr admits]
    · simp [optional, constraintsOf, floor, isPointer, admits, Rat.not_le.mp admits]

theorem isPointer_mapGoType {defns : List Definition} {config : TransformConfig}
    {property : Property} {goType : GoType} (optional : property.facets.required = false)
    (numeric : property.facets.type = "integer" ∨ property.facets.type = "number")
    (typed : property.facets.untyped = false) (inline : property.facets.ref = "")
    (mapped : mapGoType defns config property = .ok goType) :
    isPointer goType = (property.facets.format = "date-time" ||
      !minimumExcludesZero (constraintsOf property.facets)) := by
  by_cases dated : property.facets.format = "date-time"
  · obtain rfl := by simpa [mapGoType, typed, dated] using mapped
    simp [dated, isPointer]
  · rcases numeric with kind | kind
    · obtain rfl := by simpa [mapGoType, typed, dated, inline, kind] using mapped
      simp [dated, isPointer_mapNumericType .int optional]
    · obtain rfl := by simpa [mapGoType, typed, dated, inline, kind] using mapped
      simp [dated, isPointer_mapNumericType .float64 optional]

theorem mapProperty_goType {strconv : Strconv} {config : TransformConfig} {defn : Definition}
    {property : Property} {defns : List Definition} {overrides : List OverrideRow}
    {mapping : FieldMapping}
    (mapped : mapProperty strconv config defn property defns overrides = .ok mapping) :
    mapGoType defns config property = .ok mapping.goType := by
  simp only [mapProperty, bind_eq_ok, mapError_eq_ok, pure_eq_ok] at mapped
  obtain ⟨_, -, goType, typed, _, -, _, -, rfl⟩ := mapped
  exact typed

/-- An optional number is emitted as a pointer exactly when the checker wants one, and is then not
reported as a change of the schema, if and only if it has no exclusive minimum that excludes zero
without its minimum doing so.  A date-time is emitted as a pointer whatever its bounds are. -/
theorem pointer_shapes_agree (strconv : Strconv) (config : TransformConfig) (defn : Definition)
    (property : Property) (defns : List Definition) (overrides : List OverrideRow)
    (walker : GoFileWalker) (structValidators : List String) (mapping : FieldMapping)
    (optional : property.facets.required = false)
    (numeric : property.facets.type = "integer" ∨ property.facets.type = "number")
    (typed : property.facets.untyped = false) (inline : property.facets.ref = "")
    (mapped : mapProperty strconv config defn property defns overrides = .ok mapping) :
    ((isPointer mapping.goType = true <->
          zeroExcludedByFloor property.facets.type (constraintsOf property.facets) = false) ∧
        ∃ result, classifyField strconv
            (emittedInput walker structValidators mapping property.facets) = .ok result ∧
          result.verdict ≠ .schemaFaithfulChange) <->
      if property.facets.format = "date-time" then
        minimumExcludesZero (constraintsOf property.facets) = false ∧
          exclusiveExcludesZero (constraintsOf property.facets) = false
      else exclusiveExcludesZero (constraintsOf property.facets) = true ->
        minimumExcludesZero (constraintsOf property.facets) = true := by
  have floors : zeroExcludedByFloor property.facets.type (constraintsOf property.facets) =
      (minimumExcludesZero (constraintsOf property.facets) ||
        exclusiveExcludesZero (constraintsOf property.facets)) := by
    have num : (property.facets.type = "integer" || property.facets.type = "number") = true := by
      simpa using numeric
    rw [zeroExcludedByFloor, num, Bool.true_and]
  have shape := isPointer_mapGoType optional numeric typed inline (mapProperty_goType mapped)
  have silent (agrees : isPointer mapping.goType =
      !zeroExcludedByFloor property.facets.type (constraintsOf property.facets)) :
      ∃ result, classifyField strconv
          (emittedInput walker structValidators mapping property.facets) = .ok result ∧
        result.verdict ≠ .schemaFaithfulChange := by
    have kind : (toSchemaField property.facets).type.getD "" = property.facets.type := by
      rcases numeric with kind | kind <;> simp [toSchemaField, kind]
    apply classifyField_unchanged strconv rfl rfl
    rw [show (emittedInput walker structValidators mapping property.facets).schema.type.getD "" = _
      from kind, compareDeclaredShape_numeric numeric optional agrees]
    simp
  -- The report follows from the agreement, which is a statement about the two floors.
  rw [and_iff_left_of_imp fun agrees => silent (by
    rw [Bool.eq_iff_iff, agrees, Bool.not_eq_true'])]
  rw [shape, floors]
  by_cases dated : property.facets.format = "date-time"
  · simp [dated]
  · cases minimumExcludesZero (constraintsOf property.facets) <;> simp [dated]

/-- A walk that knows no type beyond the file, on the tag of an optional count. -/
def countWalker (tokens : String) : GoFileWalker where
  lookup := fun _ key => some (if key = "json" then "count,omitempty" else tokens)
  resolveWireType := fun _ => none
  scalarAliasFor := fun _ => none
  enums := fun _ => []

def bareStrconv : Strconv := ⟨fun _ => none, fun _ => some 1, fun _ => "1", fun _ => ""⟩

/-- An optional count with the given bounds. -/
def countFacets (minimum : Option Rat) (exclusiveMinimum : Option Codegen.Bound) : Facets :=
  { Facets.plain "count" "#/properties/count" false with
    type := "integer", minimum := minimum, exclusiveMinimum := exclusiveMinimum }

def mapCount (facets : Facets) : Except String FieldMapping :=
  mapProperty bareStrconv ⟨Codegen.Unicode.ascii, []⟩
    ⟨"Request", .object, [.single facets], [], none, false, 1, []⟩ (.single facets) [] []

/-- An optional integer with a minimum above zero is a value on both sides. -/
theorem pointer_shapes_agree_value :
    ∃ mapping result, mapCount (countFacets (some 1) none) = .ok mapping ∧
      isPointer mapping.goType = false ∧
      classifyField bareStrconv (emittedInput (countWalker "omitempty,gte=1") [] mapping
        (countFacets (some 1) none)) = .ok result ∧ result.verdict ≠ .schemaFaithfulChange := by
  have agree := pointer_shapes_agree bareStrconv ⟨Codegen.Unicode.ascii, []⟩ _
    (.single (countFacets (some 1) none)) [] [] (countWalker "omitempty,gte=1") [] _ rfl (.inl rfl)
    rfl rfl (rfl : mapCount _ = _)
  obtain ⟨-, result, classified, unchanged⟩ := agree.mpr (by decide)
  exact ⟨_, result, rfl, rfl, classified, unchanged⟩

/-- An optional integer with an exclusive minimum of zero is emitted as a pointer and reported. -/
theorem exclusive_floor_reported :
    ∃ (facets : Facets) (mapping : FieldMapping), facets.required = false ∧
      facets.type = "integer" ∧ facets.ref = "" ∧ facets.untyped = false ∧
      mapCount facets = .ok mapping ∧ isPointer mapping.goType = true ∧
      zeroExcludedByFloor facets.type (constraintsOf facets) = true ∧
      (classifyField bareStrconv
        (emittedInput (countWalker "omitempty") [] mapping facets)).toOption.map
          ClassificationResult.verdict = some .schemaFaithfulChange :=
  ⟨countFacets none (some ⟨none, some 0⟩), _, rfl, rfl, rfl, rfl, rfl, rfl, by decide,
    by decide +kernel⟩

end Schemacheck
end OcppGo
