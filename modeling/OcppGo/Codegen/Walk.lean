import Mathlib.Data.List.Sort
import OcppGo.Codegen.Manifest
import OcppGo.Codegen.Schema
import OcppGo.Search.Marking

namespace OcppGo
namespace Codegen

open OcppGo.Sequential

/-!
# The schema walk

`walkSchemas` reads the files the manifest names and builds the index of
definitions and the list of messages.  The reach set of a message is computed
from its two documents; the definitions of all documents are merged by name
afterwards, and definitions that share a name must agree.
-/

/-- The view of one manifest row after the walk. -/
structure Message where
  name : String
  block : String
  direction : String
  request : String
  response : String
  requestRoot : String
  responseRoot : String
  roots : List String
  reach : List String
  emit : Bool
  deriving DecidableEq

structure IR where
  defns : List Definition
  messages : List Message

def sortStrings (texts : List String) : List String :=
  texts.insertionSort (fun left right => left ≤ right)

@[simp] theorem mem_sortStrings {texts : List String} {text : String} :
    text ∈ sortStrings texts <-> text ∈ texts :=
  List.mem_insertionSort _

/-- One `$ref` followed by the cycle detection, with the pointer of the property
that carries it. -/
structure ReferenceHop where
  name : String
  pointer : String

def Facets.hops (facets : Facets) (pointer : String) : List ReferenceHop :=
  if facets.ref = "" then [] else [⟨trimPrefix facets.ref definitionsPrefix, pointer⟩]

/-- The references of one property, through its element schemas. -/
def propertyHops : Property -> String -> List ReferenceHop
  | .single facets, pointer => facets.hops pointer
  | .listed facets items, pointer =>
    facets.hops pointer ++ propertyHops items
      (if items.facets.pointer = "" then pointer ++ "/items" else items.facets.pointer)

def referencedHops (defn : Definition) : List ReferenceHop :=
  let lead := if defn.kind = .root then "#/properties"
    else definitionsPrefix ++ defn.name ++ "/properties"
  defn.properties.flatMap fun property =>
    propertyHops property (if property.facets.pointer = "" then lead ++ "/" ++ property.facets.name
      else property.facets.pointer)

/-- The failure text for a hop to a name that is being visited. -/
def cycleError (trail : List ReferenceHop) (hop : ReferenceHop) : String :=
  let loop := trail.dropWhile (fun entry => entry.name ≠ hop.name)
  "definitions reference cycle: " ++
    join " -> " (loop.map ReferenceHop.name ++ [hop.name]) ++ " (through " ++
    join " -> " (loop.tail.map ReferenceHop.pointer ++ [hop.pointer]) ++ ")"

/-- Visit one hop.  The names on the trail are being visited, those of `done`
have been; every level of the recursion adds a name to the trail, and there is
no result if the depth does not suffice. -/
def visitHop (byName : String -> Option Definition) :
    Nat -> List ReferenceHop -> List String -> ReferenceHop -> ExceptT String Option (List String)
  | 0, _, _, _ => ExceptT.mk none
  | depth + 1, trail, done, hop =>
    if hop.name ∈ done then pure done
    else if hop.name ∈ trail.map ReferenceHop.name then throw (cycleError trail hop)
    else do
      let hops := ((byName hop.name).map referencedHops).getD []
      let done ← hops.foldlM (fun done next => visitHop byName depth (trail ++ [hop]) done next) done
      return hop.name :: done

/-- The last definition of a name. -/
def lastNamed (defns : List Definition) (name : String) : Option Definition :=
  defns.reverse.find? (fun defn => defn.name = name)

/-- The search of all definitions, with a bound on its depth. -/
def detectWithin (defns : List Definition) (depth : Nat) : ExceptT String Option Unit := do
  let _ ← defns.foldlM (fun done defn =>
    visitHop (lastNamed defns) depth [] done ⟨defn.name, ""⟩) []
  return ()

/-- The bound is never used up. -/
def detectCycles (defns : List Definition) : Except String Unit :=
  (detectWithin defns (defns.length + 2)).run.getD (.ok ())

/-- The names that can be expanded and what stands below each of them. -/
def below (defns : List Definition) (name : String) : List String :=
  ((lastNamed defns name).map Definition.references).getD []

/-- The search for the reach set, with a bound on its depth. -/
def reachWithin (requestDoc responseDoc : SchemaDocument) (depth : Nat) : Option (List String) := do
  let visit := Search.mark (below (requestDoc.defns ++ responseDoc.defns)) depth
  let reached ← visit requestDoc.root.references []
  let reached ← visit responseDoc.root.references reached
  return sortStrings reached

/-- The definitions a message reaches from the properties of its two roots.  The
bound is never used up. -/
def computeReach (requestDoc responseDoc : SchemaDocument) : List String :=
  (reachWithin requestDoc responseDoc
    ((requestDoc.defns ++ responseDoc.defns).length + 1)).getD []

/-- Where two definitions of one name differ: the pointer and a detail. -/
def firstDifference (left right : Definition) : Option (String × String) :=
  let pointer := definitionsPrefix ++ left.name
  if left.kind ≠ right.kind then
    some (pointer, "kind " ++ left.kind.text ++ " vs " ++ right.kind.text)
  else if left.additionalProperties ≠ right.additionalProperties then
    some (pointer ++ "/additionalProperties", "")
  else if left.kind = .enum then
    if left.values ≠ right.values then
      some (pointer ++ "/enum", "[" ++ join " " left.values ++ "] vs [" ++ join " " right.values ++ "]")
    else none
  else if left.properties.length ≠ right.properties.length then
    some (pointer ++ "/properties", toString left.properties.length ++ " properties vs " ++
      toString right.properties.length)
  else
    match (left.properties.zip right.properties).find? (fun pair => pair.1 ≠ pair.2) with
    | some (one, other) =>
      some (if one.facets.pointer = "" then other.facets.pointer else one.facets.pointer, "")
    | none => none

/-- The definitions of one name seen so far. -/
structure Group where
  canonical : Definition
  files : List String
  firstFiles : String

def Group.add (group : Group) (defn : Definition) : Group :=
  { group with files := group.files ++ defn.files.filter (fun file => file ∉ group.files) }

def conflict (group : Group) (defn : Definition) (difference : String × String) : String :=
  "deduplicate definitions: " ++ group.firstFiles ++ " and " ++ join "," defn.files ++
    " disagree at " ++ difference.1 ++ " for definition " ++ defn.name ++
    (if difference.2 = "" then "" else ": " ++ difference.2)

/-- Add a definition to the group of its name, or start one. -/
def addDefinition : List Group -> Definition -> Except String (List Group)
  | [], defn => .ok [Group.add
      ⟨{ defn with files := [], occurrences := 0 }, [], join "," defn.files⟩ defn]
  | group :: rest, defn =>
    if group.canonical.name = defn.name then
      match firstDifference group.canonical defn with
      | some difference => .error (conflict group defn difference)
      | none => .ok (group.add defn :: rest)
    else (fun rest => group :: rest) <$> addDefinition rest defn

def Group.merged (group : Group) : Definition :=
  { group.canonical with files := sortStrings group.files, occurrences := group.files.length }

def deduplicate (defns : List Definition) : Except String (List Definition) := do
  let groups ← defns.foldlM addDefinition []
  return (groups.map Group.merged).insertionSort (fun left right => left.name ≤ right.name)

/-- The files the walk reads, by the name a row gives them: the JSON value of
the file, its path for error texts and its base name. -/
structure SchemaFiles where
  read : String -> Except String Raw
  path : String -> String
  base : String -> String

section Walking

variable (strconv : Strconv) (files : SchemaFiles)

/-- The base name of a schema file without its extension. -/
def SchemaFiles.stem (file : String) : String :=
  trimSuffix (files.base file) ".json"

def walkSchema (file : String) : Except String SchemaDocument := do
  let raw ← (files.read file).mapError (readError (files.path file))
  let document ← readSchema strconv (files.path file) (files.base file) raw
  (detectCycles (document.root :: document.defns)).mapError fun text =>
    "walk schema " ++ files.path file ++ ": " ++ text
  return document

/-- The documents read so far, all their definitions and the messages built. -/
structure Walked where
  documents : List (String × SchemaDocument)
  defns : List Definition
  messages : List Message

/-- Read a file once; a file that was read before adds nothing. -/
def readFile (walked : Walked) (file : String) : Except String (SchemaDocument × Walked) :=
  match walked.documents.lookup file with
  | some document => .ok (document, walked)
  | none => do
      let document ← walkSchema strconv files file
      return (document,
        { walked with
          documents := (file, document) :: walked.documents
          defns := walked.defns ++ document.root :: document.defns })

/-- The message of a row whose two documents have been read. -/
def messageOf (row : ManifestMessage) (requestDoc responseDoc : SchemaDocument) : Message where
  name := row.name
  block := row.block
  direction := row.direction
  request := row.request
  response := row.response
  requestRoot := requestDoc.root.name
  responseRoot := responseDoc.root.name
  roots := sortStrings [requestDoc.root.name, responseDoc.root.name]
  reach := computeReach requestDoc responseDoc
  emit := row.emit

def walkRow (walked : Walked) (row : ManifestMessage) : Except String Walked := do
  let (requestDoc, walked) ← readFile strconv files walked row.request
  let (responseDoc, walked) ← readFile strconv files walked row.response
  return { walked with messages := walked.messages ++ [messageOf row requestDoc responseDoc] }

def walkSchemas (manifest : Manifest) : Except String IR := do
  let walked ← manifest.messages.foldlM (walkRow strconv files) ⟨[], [], []⟩
  let defns ← deduplicate walked.defns
  return ⟨defns, walked.messages.insertionSort (fun left right => left.name ≤ right.name)⟩

end Walking

end Codegen
end OcppGo
