import Mathlib.Algebra.Order.Ring.Rat
import Mathlib.Data.List.AList
import Mathlib.Data.List.Lex
import Mathlib.Data.List.Sort
import Mathlib.Data.String.Basic

namespace OcppGo
namespace Symboldelta

/-!
# The symbol delta

The tool compares the symbol tables of two source trees.  Types that exist on one side only are
paired by what a rename keeps, the JSON keys of a struct or the values of an enum.  Go visits the
entries of a map in any order, so the order of every range statement is a parameter.
-/

/-- The range statements over maps. -/
inductive Range where
  | structPairs
  | enumPairs
  | fieldOwners
  | oldFields (owner : String)
  | newFields (owner : String)
  | oldFuncs
  | newFuncs
  | constructorOwners
  | oldTags
  | newTags
  | validatedEnums
  | structValidations

/-- The order in which every range statement visits the entries of its map. -/
structure Iteration where
  visit {α : Type} : Range -> List α -> List α
  perm {α : Type} (range : Range) (entries : List α) : (visit range entries).Perm entries

/-- A map of Go, whose keys are distinct. -/
abbrev GoMap (α : Type) := AList fun _ : String => α

structure FieldSymbol where
  goName : String
  goType : String
  jsonTag : String

structure FuncSymbol where
  name : String
  params : List String
  returnsStructName : String

structure SymbolTable where
  structs : GoMap (List FieldSymbol)
  enums : GoMap (List String)
  funcs : GoMap FuncSymbol
  registeredValidations : GoMap String
  structValidations : GoMap String

inductive DeltaClass where
  | renamedType
  | renamedField
  | changedPointerness
  | addedField
  | removedField
  | changedConstructorSig
  | renamedValidatorTag
  | removedStructValidator
  | addedType
  | removedType
  | ambiguousRename
  deriving DecidableEq

def DeltaClass.text : DeltaClass -> String
  | .renamedType => "renamed_type"
  | .renamedField => "renamed_field"
  | .changedPointerness => "changed_pointerness"
  | .addedField => "added_field"
  | .removedField => "removed_field"
  | .changedConstructorSig => "changed_constructor_signature"
  | .renamedValidatorTag => "renamed_validator_tag"
  | .removedStructValidator => "removed_struct_validator"
  | .addedType => "added_type"
  | .removedType => "removed_type"
  | .ambiguousRename => "ambiguous_rename"

structure DeltaRow where
  deltaClass : DeltaClass
  oldName : String
  newName : String
  ownerOld : String
  ownerNew : String
  detail : String
  deriving DecidableEq

inductive Kind where
  | struct
  | enum

def Kind.text : Kind -> String
  | .struct => "struct"
  | .enum => "enum"

/-- `keysOfStructs` and `keysOfEnums`. -/
def keysOf (table : SymbolTable) (kind : Kind) : List String :=
  (match kind with
    | .struct => table.structs.keys
    | .enum => table.enums.keys).insertionSort (· ≤ ·)

def onlyIn (names others : List String) : List String :=
  names.filter fun name => name ∉ others

/-- The types of a table which the other table does not have. -/
def unmatched (table other : SymbolTable) (kind : Kind) : List String :=
  onlyIn (keysOf table kind) (keysOf other kind)

def jsonKeySet (fields : List FieldSymbol) : List String :=
  ((fields.map FieldSymbol.jsonTag).filter fun key => key ≠ "" ∧ key ≠ "-").dedup

/-- What a rename of the type keeps. -/
def contentOf (table : SymbolTable) (kind : Kind) (name : String) : List String :=
  match kind with
  | .struct => jsonKeySet ((table.structs.lookup name).getD [])
  | .enum => ((table.enums.lookup name).getD []).dedup

def jaccard (left right : List String) : Rat :=
  let inter := (left.filter fun key => key ∈ right).length
  let union := left.length + right.length - inter
  if left = [] ∧ right = [] then 0 else if union = 0 then 0 else inter / union

def bestCandidates (candidates : List String) (threshold : Rat) (score : String -> Rat) :
    List String × Rat :=
  let best := candidates.foldl (fun best name => if best < score name then score name else best) 0
  if best < threshold then ([], best)
  else ((candidates.filter fun name => score name = best).insertionSort (· ≤ ·), best)

variable (formatScore : Rat -> String) (iteration : Iteration) (old new : SymbolTable) (kind : Kind)

def candidates (oldName : String) : List String × Rat :=
  bestCandidates (unmatched new old kind) (1 / 2) fun newName =>
    jaccard (contentOf old kind oldName) (contentOf new kind newName)

/-- `structPairs` and `enumPairs`. -/
def pairs : List (String × String) :=
  (unmatched old new kind).filterMap fun oldName =>
    match (candidates old new kind oldName).1 with
    | [newName] => some (oldName, newName)
    | _ => none

/-- `ambiguousOldStructNames` and `ambiguousOldEnumNames`. -/
def ambiguousOld : List String :=
  (unmatched old new kind).filter fun oldName => 2 ≤ (candidates old new kind oldName).1.length

/-- `ambiguousNewStructNames` and `ambiguousNewEnumNames`. -/
def ambiguousNew : List String :=
  (ambiguousOld old new kind).flatMap fun oldName => (candidates old new kind oldName).1

def ambiguousRows : List DeltaRow :=
  (ambiguousOld old new kind).map fun oldName =>
    let (best, tied) := candidates old new kind oldName
    ⟨.ambiguousRename, oldName, "", "", "", kind.text ++ ": tied at score " ++ formatScore tied ++
      " between " ++ ", ".intercalate best ++ " -- adjudicate by hand, not auto-paired"⟩

def renamedRow (pair : String × String) : DeltaRow :=
  ⟨.renamedType, pair.1, pair.2, "", "", kind.text ++ match kind with
    | .struct => ", paired by JSON tag key set"
    | .enum => ", paired by wire value set"⟩

def removedRow (oldName : String) : DeltaRow :=
  ⟨.removedType, oldName, "", "", "", kind.text ++ match kind with
    | .struct => ": no JSON-tag-set match found in new (Jaccard < 0.5 for every candidate)"
    | .enum => ": no wire-value-set match found in new"⟩

def removedRows : List DeltaRow :=
  ((unmatched old new kind).filter fun oldName =>
    oldName ∉ (pairs old new kind).map Prod.fst ∧ oldName ∉ ambiguousOld old new kind).map
      (removedRow kind)

def addedRow (newName : String) : DeltaRow :=
  ⟨.addedType, "", newName, "", "", kind.text ++ ": no counterpart in old"⟩

def addedRows : List DeltaRow :=
  ((unmatched new old kind).filter fun newName =>
    newName ∉ (pairs old new kind).map Prod.snd ∧ newName ∉ ambiguousNew old new kind).map
      (addedRow kind)

def typeRenameRows : List DeltaRow :=
  (iteration.visit .structPairs (pairs old new .struct)).map (renamedRow .struct) ++
    (iteration.visit .enumPairs (pairs old new .enum)).map (renamedRow .enum) ++
    removedRows old new .struct ++ addedRows old new .struct ++ removedRows old new .enum ++
    addedRows old new .enum

/-- The types of both tables that belong together. -/
def matched : List (String × String) :=
  ((keysOf old kind).filter fun name => name ∈ keysOf new kind).map (fun name => (name, name)) ++
    pairs old new kind

/-- Entries become a map; a later entry replaces an earlier one. -/
def collect {α : Type} (entries : List (String × α)) : GoMap α :=
  entries.foldl (fun map entry => map.insert entry.1 entry.2) ∅

def byJSONKey (fields : List FieldSymbol) : GoMap FieldSymbol :=
  collect ((fields.filter fun field => field.jsonTag ≠ "" ∧ field.jsonTag ≠ "-").map
    fun field => (field.jsonTag, field))

def isPointerType (goType : String) : Bool := goType.toList.head? = some '*'

/-- The rows of a field of the old struct. -/
def oldFieldRows (owners : String × String) (newFields : GoMap FieldSymbol)
    (entry : Sigma fun _ : String => FieldSymbol) : List DeltaRow :=
  let field := entry.2
  match newFields.lookup entry.1 with
  | none => [⟨.removedField, field.goName, "", owners.1, owners.2, "json:" ++ entry.1⟩]
  | some other =>
    (if field.goName ≠ other.goName then
      [⟨.renamedField, field.goName, other.goName, owners.1, owners.2, "json:" ++ entry.1⟩]
    else []) ++
    if isPointerType field.goType ≠ isPointerType other.goType then
      [⟨.changedPointerness, field.goName, other.goName, owners.1, owners.2,
        field.goType ++ " -> " ++ other.goType⟩]
    else []

def fieldsOf (table : SymbolTable) (owner : String) : GoMap FieldSymbol :=
  byJSONKey ((table.structs.lookup owner).getD [])

def fieldRows : List DeltaRow :=
  (iteration.visit .fieldOwners (matched old new .struct)).flatMap fun owners =>
    let oldFields := fieldsOf old owners.1
    let newFields := fieldsOf new owners.2
    (iteration.visit (.oldFields owners.1) oldFields.entries).flatMap (oldFieldRows owners newFields) ++
      ((iteration.visit (.newFields owners.1) newFields.entries).filter fun entry =>
        entry.1 ∉ oldFields.keys).map fun entry =>
          ⟨.addedField, "", entry.2.goName, owners.1, owners.2, "json:" ++ entry.1⟩

def joinParams (params : List String) : String := "(" ++ ", ".intercalate params ++ ")"

/-- The functions that return a struct, by the name of the struct. -/
def SymbolTable.returns (entries : List (Sigma fun _ : String => FuncSymbol)) :
    List (String × FuncSymbol) :=
  entries.filterMap fun entry =>
    if entry.2.returnsStructName ≠ "" then some (entry.2.returnsStructName, entry.2) else none

/-- `returnsOld` and `returnsNew`. -/
def returnsOf (range : Range) (table : SymbolTable) : GoMap FuncSymbol :=
  collect (SymbolTable.returns (iteration.visit range table.funcs.entries))

/-- The row of a struct whose constructors are given. -/
def constructorRow (owners : String × String) :
    Option FuncSymbol -> Option FuncSymbol -> Option DeltaRow
  | some func, none =>
    some ⟨.changedConstructorSig, func.name, "", owners.1, owners.2, "constructor removed"⟩
  | none, some func =>
    some ⟨.changedConstructorSig, "", func.name, owners.1, owners.2, "constructor added"⟩
  | some func, some other =>
    if func.params = other.params then none
    else some ⟨.changedConstructorSig, func.name, other.name, owners.1, owners.2,
      joinParams func.params ++ " -> " ++ joinParams other.params⟩
  | none, none => none

def constructorRows : List DeltaRow :=
  (iteration.visit .constructorOwners (matched old new .struct)).filterMap fun owners =>
    constructorRow owners ((returnsOf iteration .oldFuncs old).lookup owners.1)
      ((returnsOf iteration .newFuncs new).lookup owners.2)

/-- The functions that are bound to tags, with their tags. -/
def SymbolTable.tags (entries : List (Sigma fun _ : String => String)) : List (String × String) :=
  entries.filterMap fun entry => some (entry.2, entry.1)

/-- `oldFnToTag` and `newFnToTag`. -/
def tagsOf (range : Range) (table : SymbolTable) : GoMap String :=
  collect (SymbolTable.tags (iteration.visit range table.registeredValidations.entries))

/-- The row of an enum whose validators are bound to the given tags. -/
def validatorTagRow (owners : String × String) : Option String -> Option String -> Option DeltaRow
  | some oldTag, some newTag =>
    if oldTag = newTag then none
    else some ⟨.renamedValidatorTag, oldTag, newTag, owners.1, owners.2, ""⟩
  | _, _ => none

def validatorTagRows : List DeltaRow :=
  (iteration.visit .validatedEnums (matched old new .enum)).filterMap fun owners =>
    validatorTagRow owners ((tagsOf iteration .oldTags old).lookup ("isValid" ++ owners.1))
      ((tagsOf iteration .newTags new).lookup ("isValid" ++ owners.2))

def structValidatorRows : List DeltaRow :=
  (iteration.visit .structValidations old.structValidations.entries).filterMap fun entry =>
    let newTarget := ((matched old new .struct).lookup entry.1).getD entry.1
    if newTarget ∈ new.structValidations.keys then none
    else some ⟨.removedStructValidator, entry.2, "", entry.1, newTarget, ""⟩

/-- What the rows are sorted by. -/
def DeltaRow.key (row : DeltaRow) : List String :=
  [row.deltaClass.text, row.ownerOld, row.ownerNew, row.oldName, row.newName, row.detail]

def DeltaRow.Precedes (row other : DeltaRow) : Prop := row.key ≤ other.key
  deriving Decidable

/-- The rows before they are sorted. -/
def unsortedRows : List DeltaRow :=
  ambiguousRows formatScore old new .struct ++ ambiguousRows formatScore old new .enum ++
    typeRenameRows iteration old new ++ fieldRows iteration old new ++
    constructorRows iteration old new ++ validatorTagRows iteration old new ++
    structValidatorRows iteration old new

def computeDelta : List DeltaRow :=
  (unsortedRows formatScore iteration old new).insertionSort DeltaRow.Precedes

end Symboldelta
end OcppGo
