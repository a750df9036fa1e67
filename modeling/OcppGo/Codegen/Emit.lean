import OcppGo.Codegen.Mapping

namespace OcppGo
namespace Codegen

open OcppGo.Sequential

/-!
# The emitted tree

The renderers of the message files and of the shared types file, down to the
declarations of each file: which names a file declares, and how every field and
every constructor parameter is typed.  The layout of the text is left to the
formatter, whose verdict on a file is a parameter.
-/

/-- The package a declaration is rendered in, seen from the types package. -/
structure PackageContext where
  inTypes : Bool

structure EmitterOptions where
  transform : TransformConfig
  overrides : List OverrideRow

structure EnumConstant where
  name : String
  type : String
  value : String

/-- A top-level declaration of a generated file. -/
inductive Declaration where
  | banner (phrase direction : String)
  | featureName (message : String)
  | enumType (goName : String)
  | constants (entries : List EnumConstant)
  | isValid (goName switchVar : String) (constNames : List String)
  | struct (name : String) (fields : List FieldMapping)
  /-- The feature type with its methods, and the feature name of both roots. -/
  | feature (message requestRoot responseRoot : String)
  | construct (name : String) (parameters : List (String × GoType))
      (arguments : List (String × String)) (returnsPointer : Bool)
  /-- The registration of the enums of a file. -/
  | register (qualified : Bool) (entries : List (String × String))

/-- The types a declaration declares. -/
def Declaration.declares : Declaration -> List String
  | .enumType goName => [goName]
  | .struct name _ => [name]
  | .feature message _ _ => [message ++ "Feature"]
  | _ => []

/-- The generated names in the fields of a struct, or in the parameters and the
result of a constructor. -/
def Declaration.uses : Declaration -> List Reference
  | .struct _ fields => fields.flatMap fun field => field.goType.references
  | .construct name parameters _ _ =>
    (parameters.flatMap fun parameter => GoType.references parameter.2) ++ [⟨false, name⟩]
  | _ => []

section Rendering

variable (strconv : Strconv) (ir : IR) (placement : PlacementPlan) (options : EmitterOptions)

/-- The definition whose name the type of a property is built from. -/
def Property.refName (property : Property) : Option String :=
  if property.facets.ref ≠ "" then some (refTargetName property.facets.ref)
  else if property.facets.type = "array" then
    match property.items with
    | some item => if item.facets.ref ≠ "" then some (refTargetName item.facets.ref) else none
    | none => none
  else none

/-- The Go type as it is written in a file, qualified where its definition lives
in the types package and the file does not. -/
def qualifyFor (context : PackageContext) (property : Property) (goType : GoType) : GoType :=
  if context.inTypes then goType.unqualified
  else if property.refName.bind placement.homeOf = some .types then qualifyBareTypeName goType
  else goType

def qualifiedFieldMapping (defn : Definition) (context : PackageContext)
    (property : Property) : Except String FieldMapping := do
  let mapping ← mapProperty strconv options.transform defn property ir.defns
    options.overrides
  return { mapping with goType := qualifyFor placement context property mapping.goType }

def structBody (structName : String) (defn : Definition) (context : PackageContext) :
    Except String Declaration := do
  let fields ← defn.properties.mapM
    (qualifiedFieldMapping strconv ir placement options defn context)
  return .struct structName fields

def buildEnumConstEntries (goName : String) (values : List String) : List EnumConstant :=
  ((buildEnumConstNames options.transform goName values).zip values).map fun (name, value) =>
    ⟨name, goName, value⟩

def buildIsValidFunc (goName : String) (values : List String) : Declaration :=
  .isValid goName
    (escapeGoKeyword (trimSuffix (lowerCamel options.transform.unicode goName) "Type"))
    (buildEnumConstNames options.transform goName values)

def buildEnumDeclaration (goName : String) (values : List String) : List Declaration :=
  [.enumType goName, .constants (buildEnumConstEntries options goName values),
    buildIsValidFunc options goName values]

/-- A composite is returned by pointer when an optional reference to it exists. -/
def determineReturnsPointer (name : String) : Bool :=
  ir.defns.any fun defn => defn.properties.any fun property =>
    property.facets.type ≠ "array" && property.facets.ref ≠ "" &&
      refTargetName property.facets.ref = name && !property.facets.required

def renderConstructor (structName : String) (defn : Definition) (context : PackageContext)
    (returnsPointer : Bool) : Except String Declaration := do
  let fields ← (defn.properties.filter fun property => property.facets.required).mapM
    (qualifiedFieldMapping strconv ir placement options defn context)
  let paramName (field : FieldMapping) :=
    escapeGoKeyword (lowerCamel options.transform.unicode field.fieldName)
  return .construct structName (fields.map fun field => (paramName field, field.goType))
    (fields.map fun field => (field.fieldName, paramName field)) returnsPointer

/-- A placed definition with its Go name. -/
structure PlacedItem where
  defn : Definition
  goName : String

/-- The definitions of one kind placed in one file, sorted by their Go name. -/
def localPlacedDefinitions (file : Home) (kind : DefinitionKind) :
    Except String (List PlacedItem) := do
  let items ← (placement.home.filter fun entry => entry.2 = file).mapM fun entry =>
    match findDefinitionByName ir.defns entry.1 with
    | none => .error ("render: placed definition " ++ entry.1 ++ " not found in the IR")
    | some defn =>
      if defn.kind ≠ kind then .ok none
      else do
        let goName ← transformIdentifier options.transform defn.name kind
        return some (PlacedItem.mk defn goName)
  return (items.filterMap id).insertionSort (fun left right => left.goName ≤ right.goName)

def registrations (qualified : Bool) (enums : List PlacedItem) : Except String (List Declaration) :=
  if enums.isEmpty then .ok []
  else do
    let entries ← enums.mapM fun item => do
      let tag ← validatorTagName options.transform item.defn.name
      return (tag, item.goName)
    return [.register qualified entries]

def formatBannerDirection (direction : String) : String :=
  direction.replace "->" " -> "

/-- The root a message file renders under this name. -/
def findRoot (message role rootName : String) : Except String Definition :=
  match findDefinitionByName ir.defns rootName with
  | some root => .ok root
  | none => .error ("render message " ++ message ++ ": " ++ role ++ " root " ++ rootName ++
      " not found")

/-- The enums of a message file: their types, one constant block, their
validators. -/
def enumDeclarations (enums : List PlacedItem) : List Declaration :=
  enums.map (fun item => .enumType item.goName) ++
    (if enums.isEmpty then [] else [.constants (enums.flatMap fun item =>
      buildEnumConstEntries options item.goName item.defn.values)]) ++
    enums.map (fun item => buildIsValidFunc options item.goName item.defn.values)

/-- The structs of a message file, each with whether its constructor returns a
pointer: the local objects, and the two roots, which always do. -/
def messageStructs (message : ManifestMessage) (objects : List PlacedItem)
    (requestRoot responseRoot : Definition) : List (PlacedItem × Bool) :=
  objects.map (fun item => (item, determineReturnsPointer ir item.defn.name)) ++
    [(⟨requestRoot, message.name ++ "Request"⟩, true),
      (⟨responseRoot, message.name ++ "Response"⟩, true)]

/-- The declarations of one message file. -/
def renderMessageBody (message : ManifestMessage) : Except String (List Declaration) := do
  let requestRootName := message.name ++ "Request"
  let responseRootName := message.name ++ "Response"
  let failed (text : String) := "render message " ++ message.name ++ ": " ++ text
  let requestRoot ← findRoot ir message.name "request" requestRootName
  let responseRoot ← findRoot ir message.name "response" responseRootName
  let file := Home.message message.name
  let localEnums ← (localPlacedDefinitions ir placement options file .enum).mapError failed
  let localObjects ← (localPlacedDefinitions ir placement options file .object).mapError failed
  let structs := messageStructs ir message localObjects requestRoot responseRoot
  let bodies ← structs.mapM fun (item, _) =>
    (structBody strconv ir placement options item.goName item.defn ⟨false⟩).mapError failed
  let constructors ← structs.mapM fun (item, returnsPointer) =>
    (renderConstructor strconv ir placement options item.goName item.defn ⟨false⟩
      returnsPointer).mapError failed
  let registered ← (registrations options true localEnums).mapError failed
  return ([.banner (splitToPhrase options.transform.unicode message.name)
      (formatBannerDirection message.direction), .featureName message.name] ++
    enumDeclarations options localEnums ++ bodies ++
    [.feature message.name requestRootName responseRootName] ++ constructors ++ registered)

/-- One entry of the shared types file: an object with its constructor, or an
enum with its constants and its validator. -/
def renderPlacedItem (item : PlacedItem) : Except String (List Declaration) :=
  match item.defn.kind with
  | .enum => .ok (buildEnumDeclaration options item.goName item.defn.values)
  | _ => do
      let body ← structBody strconv ir placement options item.goName item.defn ⟨true⟩
      let construct ← renderConstructor strconv ir placement options item.goName item.defn
        ⟨true⟩ (determineReturnsPointer ir item.defn.name)
      return [body, construct]

/-- The declarations of the shared types file. -/
def renderTypesFileBody : Except String (List Declaration) := do
  let failed (text : String) := "render shared types file: " ++ text
  let objects ← (localPlacedDefinitions ir placement options .types .object).mapError failed
  let enums ← (localPlacedDefinitions ir placement options .types .enum).mapError failed
  let items := (objects ++ enums).insertionSort (fun left right => left.goName ≤ right.goName)
  let bodies ← items.mapM fun item =>
    (renderPlacedItem strconv ir placement options item).mapError failed
  let registered ← (registrations options false
    (items.filter fun item => item.defn.kind = .enum)).mapError failed
  return bodies.flatten ++ registered

end Rendering

/-- A complete file: where it goes, the package clause, its declarations and
what produced it. -/
structure GeneratedFile where
  path : String
  package : String
  declarations : List Declaration
  source : String

/-- The parts of the run that belong to the host: Go's conversions and path
functions, the formatter and the file system. -/
structure Host where
  strconv : Strconv
  joinPath : List String -> String
  formatBody : List Declaration -> Except String Unit
  formatFile : String -> List Declaration -> Except String Unit
  writeIfChanged : GeneratedFile -> Except String Unit

section Emitting

variable (host : Host) (ir : IR) (manifest : Manifest) (outDir : String) (options : EmitterOptions)

def renderMessage (message : ManifestMessage) (placement : PlacementPlan) :
    Except String (List Declaration) := do
  let body ← renderMessageBody host.strconv ir placement options message
  host.formatBody body
  return body

/-- The wrapped and formatted file of one message. -/
def messageFile (placement : PlacementPlan) (message : ManifestMessage) :
    Except String GeneratedFile := do
  let body ← (renderMessage host ir options message placement).mapError fun text =>
    "render message " ++ message.name ++ ": " ++ text
  (host.formatFile message.block body).mapError fun text =>
    "assemble message " ++ message.name ++ ": " ++ text
  return {
    path := host.joinPath [outDir, manifest.goTree, message.block,
      snakeCase options.transform.unicode message.name ++ ".go"]
    package := message.block
    declarations := body
    source := "message " ++ message.name }

def typesFile (placement : PlacementPlan) : Except String GeneratedFile := do
  let body ← renderTypesFileBody host.strconv ir placement options
  (host.formatFile "types" body).mapError fun text => "assemble shared types file: " ++ text
  return {
    path := host.joinPath [outDir, manifest.goTree, "types", "types_gen.go"]
    package := "types"
    declarations := body
    source := "the shared types file" }

/-- No two files go to one place on a file system that ignores case. -/
def checkDestinationPaths (files : List GeneratedFile) : Except String Unit :=
  checkDistinct (fun file => .ok (options.transform.unicode.lowered file.path))
    (fun _ prior file =>
      if prior.path = file.path then
        prior.source ++ " and " ++ file.source ++ " both emit " ++ file.path
      else prior.source ++ " emits " ++ prior.path ++ " and " ++ file.source ++ " emits " ++
        file.path ++ ", which are one file on a case-insensitive filesystem")
    files

def renderTree : Except String (List GeneratedFile) := do
  let placement ← computePlacement ir
  checkEmissionCollisions options.transform ir placement
  let shared ← typesFile host ir manifest outDir options placement
  let files ← (manifest.messages.filter fun message => message.emit).mapM
    (messageFile host ir manifest outDir options placement)
  checkDestinationPaths options (shared :: files)
  return shared :: files

/-- Render the whole tree, then write it. -/
def emitGo : Except String (List GeneratedFile) := do
  let files ← (renderTree host ir manifest outDir options).mapError fun text => "emit go: " ++ text
  files.forM fun file => (host.writeIfChanged file).mapError fun text => "emit go: " ++ text
  return files

end Emitting

end Codegen
end OcppGo
