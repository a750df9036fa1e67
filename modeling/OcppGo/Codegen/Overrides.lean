import OcppGo.Codegen.Mapping

namespace OcppGo
namespace Codegen

open OcppGo.Sequential

/-!
# Loading the override document

A row of the override document adds a validator token to one field or replaces a
token of it by a stricter one.  `loadOverrides` checks a decoded document in two
passes.  The first judges each row by itself and against the schemas.  The second
walks the sorted rows and judges each of them against the tags its field carries
once the earlier rows have been applied.

The YAML text is decoded before.  What the first pass asks of the standard
library beyond the character classes is a parameter.
-/

/-- A row with its governance record. -/
structure OverrideRecord extends OverrideRow where
  version : String
  rationale : String
  source : String
  author : String
  date : String
  deriving DecidableEq

/-- The decoded document. -/
structure OverrideConfig where
  version : String
  tagOverrides : List OverrideRecord
  dedupAllowlist : List OverrideRecord
  deriving DecidableEq

structure OverrideTarget where
  defn : String
  property : String
  deriving DecidableEq

def OverrideRow.target (row : OverrideRow) : OverrideTarget := ⟨row.defn, row.property⟩

/-- What the emitter makes of one property when no row applies.  The kind is the
text of the Go type. -/
structure OverrideMapping where
  baseTags : List String
  goKind : String
  fieldName : String

/-- The newest entry of a target comes first. -/
abbrev OverrideMappings := List (OverrideTarget × OverrideMapping)

/-- The functions of the standard library the loader calls. -/
structure OverrideHost where
  strconv : Strconv
  unicode : Unicode
  isPrint : Char -> Bool
  parseUint : String -> Option Nat
  /-- The error of `time.Parse` with the layout of an ISO date, if there is one. -/
  parseDate : String -> Option String

def rowKey (defn property : String) : String :=
  if property = "" then defn else defn ++ "." ++ property

def OverrideRow.key (row : OverrideRow) : String := rowKey row.defn row.property

section Loading

variable (host : OverrideHost) (path : String)

def overridesError (text : String) : String := "load overrides " ++ path ++ ": " ++ text

def overrideRowError (key text : String) : String := overridesError path ("row " ++ key ++ ": " ++ text)

def legalOverrideVersions : List String := ["v201"]

def checkOverrideConfigVersion (version : String) : Except String Unit :=
  if version ∈ legalOverrideVersions then .ok ()
  else .error (overridesError path ("unknown version " ++ version.quote ++ ", want one of [" ++
    join " " legalOverrideVersions ++ "]"))

/-- The validator family of a token, the text before its `=`. -/
def tagFamily (token : String) : String :=
  String.ofList (token.toList.takeWhile fun char => char ≠ '=')

/-- The text after the first `=` of a token, if it has one. -/
def tagValue (token : String) : Option String :=
  match token.toList.dropWhile fun char => char ≠ '=' with
  | [] => none
  | _ :: value => some (String.ofList value)

def isDecimalDigit (char : Char) : Bool := '0' ≤ char && char ≤ '9'

/-- A digit run without a redundant leading zero. -/
def isWholeNumber : List Char -> Bool
  | [] => false
  | first :: rest =>
    if first = '0' then rest.isEmpty
    else isDecimalDigit first && rest.all isDecimalDigit

def isFraction : List Char -> Bool
  | [] => true
  | _ :: digits => !digits.isEmpty && digits.all isDecimalDigit

def isUnsignedDecimal (chars : List Char) : Bool :=
  isWholeNumber (chars.takeWhile fun char => char ≠ '.') &&
    isFraction (chars.dropWhile fun char => char ≠ '.')

def boundTagValuePattern (value : String) : Bool :=
  match value.toList with
  | [] => false
  | first :: rest =>
    if first = '-' then isUnsignedDecimal rest else isUnsignedDecimal (first :: rest)

def cardinalityTagValuePattern (value : String) : Bool := isWholeNumber value.toList

def tokenCharFault (key fieldLabel token : String) (char : Char) : Option String :=
  if char = ',' || char = '|' then
    some (overrideRowError path key (fieldLabel ++ " " ++ token.quote ++
      " is not a single validator token: " ++ (String.singleton char).quote ++
      " separates one validator token from the next, so this row would compose into more " ++
      "than the one constraint its record accounts for"))
  else if host.unicode.isSpace char || !host.isPrint char then
    some (overrideRowError path key (fieldLabel ++ " " ++ token.quote ++
      " carries whitespace or a non-printable character, which a validator token never does"))
  else none

def checkTagTokenShape (key fieldLabel token : String) : Except String Unit :=
  match token.toList.findSome? (tokenCharFault host path key fieldLabel token) with
  | some text => .error text
  | none =>
    if token.toList.count '=' > 1 then
      .error (overrideRowError path key (fieldLabel ++ " " ++ token.quote ++
        " carries more than one \"=\": a validator token names one parameter, and everything " ++
        "after the first \"=\" is read as that parameter's whole value"))
    else .ok ()

/-- The range check of a value that has the shape its family asks for. -/
def checkTagValueRange (key fieldLabel token family value : String) : Except String Unit :=
  let lead := fieldLabel ++ " " ++ token.quote ++ " carries the value " ++ value.quote
  if family = "min" || family = "max" then
    if (host.strconv.parseInt value).isSome then .ok ()
    else .error (overrideRowError path key (lead ++ ", which is outside the range a length or " ++
      "item-count bound is read into (-9223372036854775808 to 9223372036854775807)"))
  else if family = "gte" || family = "lte" then
    if (host.strconv.parseFloat value).isSome then .ok ()
    else .error (overrideRowError path key (lead ++ ", which is outside the range any numeric " ++
      "bound is read into (a value larger than 1.7976931348623157e+308 cannot be represented)"))
  else .ok ()

def checkValuedTagToken (key fieldLabel token family : String) (pattern : String -> Bool)
    (shape : String) : Except String Unit :=
  match tagValue token with
  | none => .error (overrideRowError path key (fieldLabel ++ " " ++ token.quote ++
      " carries no value: " ++ family ++ "= takes " ++ shape))
  | some value =>
    if pattern value then checkTagValueRange host path key fieldLabel token family value
    else .error (overrideRowError path key (fieldLabel ++ " " ++ token.quote ++
      " carries the value " ++ value.quote ++ ", which is not " ++ shape))

/-- The families of the fixed grammar, and registered names otherwise. -/
def checkTagGrammar (key fieldLabel token : String) (registeredValidators : List String) :
    Except String Unit :=
  let family := tagFamily token
  if family = "dive" then
    if token = "dive" then .ok ()
    else .error (overrideRowError path key (fieldLabel ++ " " ++ token.quote ++
      " carries a value: dive takes none"))
  else if family = "max" || family = "min" then
    checkValuedTagToken host path key fieldLabel token family cardinalityTagValuePattern
      "a non-negative whole number"
  else if family = "gte" || family = "lte" then
    checkValuedTagToken host path key fieldLabel token family boundTagValuePattern
      "a decimal number"
  else if token ∈ registeredValidators then .ok ()
  else .error (overrideRowError path key (fieldLabel ++ " " ++ token.quote ++
    " is not a recognized validator token"))

def checkTagVocabulary (key fieldLabel token : String) (registeredValidators : List String) :
    Except String Unit := do
  if token = "required" || token = "omitempty" then
    throw (overrideRowError path key (fieldLabel ++ " " ++ token.quote ++
      " is an optionality tag; optionality is decided by the base mapping, never by an override"))
  checkTagTokenShape host path key fieldLabel token
  checkTagGrammar host path key fieldLabel token registeredValidators

/-! ## The first pass -/

def checkRowIdentityFields (key : String) (row : OverrideRecord) : Except String Unit :=
  if host.unicode.blank row.defn then
    .error (overridesError path "a tagOverrides row is missing its definition")
  else if host.unicode.blank row.property then
    .error (overridesError path ("row " ++ key ++ " is missing property, the other half of its key"))
  else if host.unicode.blank row.tag then
    .error (overridesError path ("row " ++ key ++ " is missing tag"))
  else .ok ()

def OverrideRecord.governance (row : OverrideRecord) : List (String × String) :=
  [("rule", row.rule), ("rationale", row.rationale), ("source", row.source),
    ("author", row.author), ("date", row.date)]

def checkRecordCompleteness (key : String) (row : OverrideRecord) : Except String Unit :=
  match row.governance.find? fun field => host.unicode.blank field.2 with
  | some field => .error (overrideRowError path key (field.1 ++ " is required and must be non-empty"))
  | none => .ok ()

def checkDateParseable (key : String) (row : OverrideRecord) : Except String Unit :=
  match host.parseDate row.date with
  | some text => .error (overrideRowError path key ("date " ++ row.date.quote ++
      " is not a valid date (want YYYY-MM-DD): " ++ text))
  | none => .ok ()

def checkRuleValue (key : String) (row : OverrideRecord) : Except String Unit :=
  if row.rule = "add" || row.rule = "tighten" then .ok ()
  else .error (overrideRowError path key ("unknown rule " ++ row.rule.quote ++ ", want " ++
    "add".quote ++ " or " ++ "tighten".quote))

def checkTightenHasFrom (key : String) (row : OverrideRecord) : Except String Unit :=
  if row.rule = "tighten" && host.unicode.blank row.fromToken then
    .error (overrideRowError path key
      "rule tighten requires from, naming the base tag it replaces")
  else .ok ()

def findPropertyByName (properties : List Property) (name : String) : Option Property :=
  properties.find? fun property => property.facets.name = name

def checkReachability (key defn property : String) (ir : IR) : Except String Unit :=
  match findDefinitionByName ir.defns defn with
  | none => .error (overrideRowError path key ("definition " ++ defn.quote ++
      " does not resolve to any message root or shared definition the schemas declare"))
  | some target =>
    if property = "" then .ok ()
    else if (findPropertyByName target.properties property).isSome then .ok ()
    else .error (overrideRowError path key ("property " ++ property.quote ++
      " is not declared on " ++ defn))

def checkFromVocabulary (key : String) (row : OverrideRecord) (registeredValidators : List String) :
    Except String Unit :=
  if row.rule = "tighten" then
    checkTagVocabulary host path key "from" row.fromToken registeredValidators
  else .ok ()

def validateTagOverrideRow (ir : IR) (registeredValidators : List String) (row : OverrideRecord) :
    Except String Unit := do
  checkRowIdentityFields host path row.key row
  checkRecordCompleteness host path row.key row
  checkDateParseable host path row.key row
  checkRuleValue path row.key row
  checkTightenHasFrom host path row.key row
  checkTagVocabulary host path row.key "tag" row.tag registeredValidators
  checkFromVocabulary host path row.key row registeredValidators
  checkReachability path row.key row.defn row.property ir

def validateTagOverrideRows (rows : List OverrideRecord) (ir : IR)
    (registeredValidators : List String) : Except String Unit :=
  rows.forM (validateTagOverrideRow host path ir registeredValidators)

def validateDedupAllowlistRow (ir : IR) (row : OverrideRecord) : Except String Unit := do
  let key := rowKey row.defn ""
  if host.unicode.blank row.defn then
    throw (overridesError path "a dedupAllowlist entry is missing its definition")
  checkRecordCompleteness host path key row
  checkDateParseable host path key row
  checkRuleValue path key row
  checkReachability path key row.defn "" ir

def validateDedupAllowlistRows (rows : List OverrideRecord) (ir : IR) : Except String Unit :=
  rows.forM (validateDedupAllowlistRow host path ir)

def OverrideRecord.uniqueKey (row : OverrideRecord) : String :=
  join "\x00" [row.version, row.defn, row.property, row.tag]

def checkDuplicateOverrideKey (seen : List String) (row : OverrideRecord) :
    Except String (List String) :=
  if row.uniqueKey ∈ seen then
    .error (overridesError path ("duplicate tag-override row for version " ++ row.version ++ ", " ++
      row.key ++ ", tag " ++ row.tag ++
      ": a row must be unique across (version, definition, property, tag)"))
  else .ok (row.uniqueKey :: seen)

def checkDuplicateOverrideKeys (rows : List OverrideRecord) : Except String Unit := do
  let _ ← rows.foldlM (checkDuplicateOverrideKey path) []
  return ()

/-- The order by definition, property and tag. -/
def OverrideRow.pre (left right : OverrideRow) : Bool :=
  if left.defn ≠ right.defn then left.defn ≤ right.defn
  else if left.property ≠ right.property then left.property ≤ right.property
  else left.tag ≤ right.tag

def sortOverrideRows (rows : List OverrideRecord) : List OverrideRecord :=
  rows.insertionSort (fun left right => left.toOverrideRow.pre right.toOverrideRow)

def integerGoKinds : List String :=
  ["int", "int8", "int16", "int32", "int64", "uint", "uint8", "uint16", "uint32", "uint64"]

def unsignedGoKinds : List String := ["uint", "uint8", "uint16", "uint32", "uint64"]

def numericGoKinds : List String := integerGoKinds ++ ["float32", "float64"]

def isNumericGoKind (kind : String) : Bool := trimPrefix kind "*" ∈ numericGoKinds

def isSliceOrMapGoKind (kind : String) : Bool := hasPrefix kind "[]" || hasPrefix kind "map["

def isStringGoKind (kind : String) : Bool := trimPrefix kind "*" = "string"

def kindError (key tag goKind text : String) : String :=
  overrideRowError path key ("tag " ++ tag.quote ++ " does not apply to Go kind " ++ goKind.quote ++
    ": " ++ text)

/-- The bound of a whole-number field, which is read without a fraction. -/
def checkWholeBound (key tag goKind value : String) : Except String Unit :=
  if value.toList.contains '.' then
    .error (kindError path key tag goKind
      "a bound on a whole-number field must itself be a whole number")
  else if trimPrefix goKind "*" ∈ unsignedGoKinds then
    if hasPrefix value "-" then
      .error (kindError path key tag goKind "a bound on an unsigned field may not be negative")
    else if (host.parseUint value).isSome then .ok ()
    else .error (kindError path key tag goKind ("the bound " ++ value.quote ++
      " is outside the range an unsigned field's bound is read into (0 to 18446744073709551615)"))
  else if (host.strconv.parseInt value).isSome then .ok ()
  else .error (kindError path key tag goKind ("the bound " ++ value.quote ++
    " is outside the range a whole-number field's bound is read into " ++
    "(-9223372036854775808 to 9223372036854775807)"))

def checkBoundValueFitsGoKind (key tag goKind : String) : Except String Unit :=
  match tagValue tag with
  | none => .ok ()
  | some value =>
    if trimPrefix goKind "*" ∈ integerGoKinds then checkWholeBound host path key tag goKind value
    else .ok ()

def checkFieldKindApplicability (key tag goKind : String) : Except String Unit :=
  let family := tagFamily tag
  if family = "dive" then
    if isSliceOrMapGoKind goKind then .ok ()
    else .error (kindError path key tag goKind "dive only applies to a slice or map field")
  else if family = "gte" || family = "lte" then
    if isNumericGoKind goKind then checkBoundValueFitsGoKind host path key tag goKind
    else .error (kindError path key tag goKind (family ++ "= constrains a numeric field"))
  else if family = "max" || family = "min" then
    if isStringGoKind goKind || isSliceOrMapGoKind goKind then .ok ()
    else .error (kindError path key tag goKind (family ++
      "= constrains a string or slice field, not a numeric one (use gte=/lte= there)"))
  else .ok ()

/-- The number of `dive` tokens, which is the scope a further token lands in. -/
def diveCount (tokens : List String) : Nat := tokens.count "dive"

/-- The scope of the first occurrence of a token, and how often it occurs. -/
def scopeOfToken (tokens : List String) (wanted : String) : Nat × Nat :=
  if wanted ∈ tokens then
    (diveCount (tokens.takeWhile fun token => token ≠ wanted), tokens.count wanted)
  else (0, 0)

/-- One validator family in one scope.  The scope of `dive` itself is `-1`. -/
structure FamilyKey where
  scope : Int
  family : String
  deriving DecidableEq

/-- The token that holds a family, and the row that put it there, if any. -/
structure FamilyOwner where
  token : String
  row : String

/-- The newest owner of a key comes first. -/
abbrev FamilyOwners := List (FamilyKey × FamilyOwner)

def ownershipKey (scope : Nat) (family : String) : FamilyKey :=
  if family = "dive" then ⟨-1, family⟩ else ⟨scope, family⟩

def enumValueSetFamily : String := "enum value set"

def ownershipFamily (registeredValidators : List String) (token : String) : String :=
  if token ∈ registeredValidators then enumValueSetFamily else tagFamily token

def validatedGoKind (goKind : String) (scope : Nat) : String :=
  if 0 < scope then trimPrefix goKind "[]" else goKind

/-- Continue in the given scope. -/
def carriesRegisteredToken (registeredValidators : List String) (scope : Nat) :
    Nat -> List String -> Bool
  | _, [] => false
  | current, token :: rest =>
    (current = scope && token ∈ registeredValidators) ||
      carriesRegisteredToken registeredValidators scope
        (if token = "dive" then current + 1 else current) rest

def carriesRegisteredTokenInScope (tokens : List String) (scope : Nat)
    (registeredValidators : List String) : Bool :=
  carriesRegisteredToken registeredValidators scope 0 tokens

def checkRegisteredTokenTarget (key token goKind : String) (tokens : List String) (scope : Nat)
    (registeredValidators : List String) : Except String Unit :=
  if token ∉ registeredValidators then .ok ()
  else if isStringGoKind (validatedGoKind goKind scope) ||
      carriesRegisteredTokenInScope tokens scope registeredValidators then .ok ()
  else .error (kindError path key token (validatedGoKind goKind scope)
    ("a registered validator reads its field as a string and compares it against a fixed set " ++
      "of values, so it loads only onto a string field, a field of the generated type that " ++
      "registered it, or the elements of a slice of either"))

/-- The owners after one more base token; the first of a scope wins. -/
def addBaseOwner (registeredValidators : List String) (state : FamilyOwners × Nat)
    (token : String) : FamilyOwners × Nat :=
  let key := ownershipKey state.2 (ownershipFamily registeredValidators token)
  let held := ((state.1.lookup key).map FamilyOwner.token).getD ""
  (if held = "" then (key, ⟨token, ""⟩) :: state.1 else state.1,
    if token = "dive" then state.2 + 1 else state.2)

def baseFamilyOwners (baseTags registeredValidators : List String) : FamilyOwners :=
  (baseTags.foldl (addBaseOwner registeredValidators) ([], 0)).1

/-! ## The second pass: rules -/

/-- The number in a token `family=value`. -/
def parseNumericTagValue (token : String) : Option Rat :=
  (tagValue token).bind host.strconv.parseFloat

/-- A floor may only rise and a ceiling may only fall. -/
def checkTightenDirection (key family : String) (row : OverrideRow) : Except String Unit :=
  let lead := "tighten replacing " ++ row.fromToken.quote ++ " with " ++ row.tag.quote
  match parseNumericTagValue host row.fromToken, parseNumericTagValue host row.tag with
  | some fromValue, some toValue =>
    if family = "gte" || family = "min" then
      if fromValue < toValue then .ok ()
      else .error (overrideRowError path key (lead ++
        " does not raise the floor; gte/min may only increase"))
    else if toValue < fromValue then .ok ()
    else .error (overrideRowError path key (lead ++
      " does not lower the ceiling; lte/max may only decrease"))
  | _, _ => .error (overrideRowError path key (lead ++ " compares two " ++ family ++
      " bounds, and one of them carries no numeric value"))

def boundFamilies : List String := ["gte", "min", "lte", "max"]

def checkTightenReplacement (key : String) (row : OverrideRow) (registeredValidators : List String) :
    Except String Unit :=
  let lead := "tighten replacing " ++ row.fromToken.quote ++ " with " ++ row.tag.quote
  let family := ownershipFamily registeredValidators row.fromToken
  let replacement := ownershipFamily registeredValidators row.tag
  if replacement ≠ family then
    .error (overrideRowError path key (lead ++ " crosses validator families (" ++ family ++ " to " ++
      replacement ++ "); a tighten replaces a constraint with a stricter one of the same family, " ++
      "and " ++ replacement ++ "= would drop the " ++ family ++ "= constraint altogether"))
  else if row.tag = row.fromToken then
    .error (overrideRowError path key (lead ++
      " leaves the constraint unchanged; a tighten must strictly tighten it"))
  else if family ∈ boundFamilies then checkTightenDirection host path key family row
  else if row.fromToken ∈ registeredValidators then
    .error (overrideRowError path key (lead ++ " swaps one enum's permitted values for another's, " ++
      "which cannot be shown to be stricter; a field's permitted values follow from its own " ++
      "declared type"))
  else .ok ()

def checkTightenSource (key : String) (row : OverrideRow) (mapping : OverrideMapping)
    (tokens registeredValidators : List String) : Except String Unit :=
  let lead := "tighten names from token " ++ row.fromToken.quote
  if row.fromToken ∉ mapping.baseTags then
    .error (overrideRowError path key (lead ++ ", which is not present in the base tag set [" ++
      join " " mapping.baseTags ++ "]"))
  else if 1 < (scopeOfToken tokens row.fromToken).2 then
    .error (overrideRowError path key (lead ++ ", which the tag set [" ++ join " " tokens ++
      "] this row composes onto carries on both sides of dive: one occurrence bounds the list " ++
      "and the other bounds each of its values, and a row names a token, not which of the two " ++
      "it meant"))
  else checkTightenReplacement host path key row registeredValidators

def ownerDescription (owner : FamilyOwner) : String :=
  if owner.row = "" then "the base tag set" else "row " ++ owner.row

def checkNoDuplicateFamily (key : String) (row : OverrideRow) (family : String) (scope : Nat)
    (owners : FamilyOwners) : Except String Unit :=
  let lead := "add tag " ++ row.tag.quote
  match owners.lookup (ownershipKey scope family) with
  | none => .ok ()
  | some owner =>
    if family = enumValueSetFamily then
      .error (overrideRowError path key (lead ++ " gives the field a second " ++ family ++
        " alongside " ++ owner.token.quote ++ ", which " ++ ownerDescription owner ++
        " already carries it as; a value would have to satisfy both, and a field's permitted " ++
        "values follow from its own declared type"))
    else if owner.row = "" then
      .error (overrideRowError path key (lead ++ " duplicates the " ++ family ++
        " family the base tag set already carries as " ++ owner.token.quote ++
        "; use tighten with from: " ++ owner.token ++ " instead"))
    else
      .error (overrideRowError path key (lead ++ " duplicates the " ++ family ++ " family row " ++
        owner.row ++ " already added as " ++ owner.token.quote ++ "; one property carries one " ++
        "row per validator family, so state the constraint the field must end up with in a " ++
        "single row"))

def checkTightenOwnership (key : String) (row : OverrideRow) (family : String) (scope : Nat)
    (owners : FamilyOwners) : Except String Unit :=
  match owners.lookup (ownershipKey scope family) with
  | none => .ok ()
  | some owner =>
    if owner.row = "" then .ok ()
    else .error (overrideRowError path key ("tighten replacing " ++ row.fromToken.quote ++
      " with " ++ row.tag.quote ++ " collides with row " ++ owner.row ++
      ", which already replaced the " ++ family ++ " family with " ++ owner.token.quote ++
      "; one property carries one row per validator family, so state the constraint the field " ++
      "must end up with in a single row"))

def checkAddedTokenScope (key : String) (row : OverrideRow) (goKind : String)
    (tokens : List String) : Except String Unit :=
  if diveCount tokens = 0 then .ok ()
  else if tagFamily row.tag = "min" || tagFamily row.tag = "max" then
    .error (overrideRowError path key ("add tag " ++ row.tag.quote ++
      " cannot be placed: on a property mapping to " ++ goKind.quote ++ " the tag set [" ++
      join " " tokens ++ "] this row composes onto already dives, so an appended token " ++
      "constrains each value in the list, while a " ++ tagFamily row.tag ++ "= row on a slice " ++
      "property names the list's own item count; the row format cannot say which of the two " ++
      "it means"))
  else .ok ()

/-- What the walk keeps of one target: its mapping, the owners of its families
and its tags so far. -/
structure TargetState where
  mapping : OverrideMapping
  owners : FamilyOwners
  tokens : List String

/-- The scope a row's token lands in. -/
def rowScope (tokens : List String) (row : OverrideRow) : Nat :=
  if row.rule = "tighten" then (scopeOfToken tokens row.fromToken).1 else diveCount tokens

def checkRowRule (registeredValidators : List String) (state : TargetState) (row : OverrideRow) :
    Except String Unit :=
  let scope := rowScope state.tokens row
  let family := ownershipFamily registeredValidators row.tag
  if row.rule = "tighten" then do
    checkTightenSource host path row.key row state.mapping state.tokens registeredValidators
    checkTightenOwnership path row.key row family scope state.owners
  else if row.rule = "add" then do
    checkAddedTokenScope path row.key row state.mapping.goKind state.tokens
    checkNoDuplicateFamily path row.key row family scope state.owners
  else .ok ()

def startTarget (mappings : OverrideMappings) (registeredValidators : List String)
    (row : OverrideRow) : Except String TargetState :=
  match mappings.lookup row.target with
  | none => .error (overrideRowError path row.key ("missing mapping: the supplied override " ++
      "mappings carry no entry for this row's target"))
  | some mapping =>
    .ok ⟨mapping, baseFamilyOwners mapping.baseTags registeredValidators, mapping.baseTags⟩

/-- The checks of one row, and the state of its target once it is applied. -/
def secondPassRow (registeredValidators : List String) (state : TargetState) (row : OverrideRow) :
    Except String TargetState := do
  checkFieldKindApplicability host path row.key row.tag state.mapping.goKind
  let scope := rowScope state.tokens row
  checkRegisteredTokenTarget path row.key row.tag state.mapping.goKind state.tokens scope
    registeredValidators
  checkRowRule host path registeredValidators state row
  let next ← (applyTagOverride state.tokens row).mapError fun text =>
    overrideRowError path row.key text
  return {
    state with
    owners :=
      (ownershipKey scope (ownershipFamily registeredValidators row.tag), ⟨row.tag, row.key⟩) ::
        state.owners
    tokens := next }

def applySecondPassChecks (rows : List OverrideRow) (mappings : OverrideMappings)
    (registeredValidators : List String) : Except String Unit := do
  let _ ← foldKeyed OverrideRow.target (startTarget path mappings registeredValidators)
    (secondPassRow host path registeredValidators) rows
  return ()

def OverrideConfig.stamped (config : OverrideConfig) : OverrideConfig where
  version := config.version
  tagOverrides := config.tagOverrides.map fun row => { row with version := config.version }
  dedupAllowlist := config.dedupAllowlist.map fun row => { row with version := config.version }

def OverrideConfig.sorted (config : OverrideConfig) : OverrideConfig where
  version := config.version
  tagOverrides := sortOverrideRows config.tagOverrides
  dedupAllowlist := sortOverrideRows config.dedupAllowlist

/-- The rows the emitter is given. -/
def OverrideConfig.rows (config : OverrideConfig) : List OverrideRow :=
  config.tagOverrides.map OverrideRecord.toOverrideRow

def loadOverrides (config : OverrideConfig) (ir : IR) (mappings : Option OverrideMappings)
    (registeredValidators : List String) : Except String OverrideConfig := do
  checkOverrideConfigVersion path config.version
  let config := config.stamped
  validateTagOverrideRows host path config.tagOverrides ir registeredValidators
  validateDedupAllowlistRows host path config.dedupAllowlist ir
  checkDuplicateOverrideKeys path config.tagOverrides
  let config := config.sorted
  match mappings with
  | none => return config
  | some mappings => do
      applySecondPassChecks host path config.rows mappings registeredValidators
      return config

end Loading

def Builtin.text : Builtin -> String
  | .any => "any"
  | .int => "int"
  | .float64 => "float64"
  | .bool => "bool"
  | .string => "string"

def Handwritten.text : Handwritten -> String
  | .dateTime => "DateTime"
  | .customData => "CustomData"

def Token.text : Token -> String
  | .brackets => "[]"
  | .star => "*"
  | .qualifier => "types."
  | .builtin name => name.text
  | .handwritten name => name.text
  | .generated name => name

def GoType.text (goType : GoType) : String := join "" (goType.map Token.text)

/-- The tokens of a rendered validate tag. -/
def splitValidateTag (validateTag : String) : List String :=
  let inner := trimSuffix (trimPrefix validateTag "validate:\"") "\""
  if inner = "" then [] else (inner.toList.splitOn ',').map String.ofList

section Mappings

variable (strconv : Strconv) (config : TransformConfig) (ir : IR)

def addPropertyMapping (defn : Definition) (mappings : OverrideMappings)
    (property : Property) : Except String OverrideMappings := do
  let mapped ← (mapProperty strconv config defn property ir.defns []).mapError
    fun text => "map " ++ defn.name ++ "." ++ property.facets.name ++ ": " ++ text
  return (⟨defn.name, property.facets.name⟩,
    ⟨splitValidateTag mapped.validateTag, mapped.goType.text, mapped.fieldName⟩) :: mappings

def addDefinitionMappings (mappings : OverrideMappings) (defn : Definition) :
    Except String OverrideMappings :=
  if defn.kind = .enum then .ok mappings
  else defn.properties.foldlM (addPropertyMapping strconv config ir defn) mappings

def registeredValidatorOf (defn : Definition) : Except String String :=
  (validatorTagName config defn.name).mapError fun text =>
    "derive validator tag for " ++ defn.name ++ ": " ++ text

def buildOverrideMappings : Except String (OverrideMappings × List String) := do
  let mappings ← ir.defns.foldlM (addDefinitionMappings strconv config ir) []
  let registered ← (ir.defns.filter fun defn => defn.kind = .enum).mapM
    (registeredValidatorOf config)
  return (mappings, sortStrings registered)

end Mappings

end Codegen
end OcppGo
