import OcppGo.Codegen.Naming
import OcppGo.Sequential.Fallible

namespace OcppGo
namespace Codegen

open OcppGo.Sequential List

/-!
# The manifest

One row of the manifest names a message, the block it is emitted into and its
two schema files.  `validateManifest` is the row-by-row check a loaded manifest
has passed.  The YAML document is decoded before; the files the check asks for
are a parameter.
-/

/-- One request and response pair and its output policy. -/
structure ManifestMessage where
  name : String
  block : String
  direction : String
  request : String
  response : String
  emit : Bool
  deriving DecidableEq

/-- The decoded manifest, with the schema directory resolved. -/
structure Manifest where
  schemaDir : String
  goTree : String
  messages : List ManifestMessage

/-- What the check asks of the file system. -/
structure ManifestFiles where
  /-- A directory of this name stands under the generated tree. -/
  isBlock : String -> Bool
  /-- A file of this name stands in the schema directory. -/
  isSchema : String -> Bool
  /-- The entries of the schema directory, each with whether it is a directory. -/
  entries : Except String (List (String × Bool))

def legalDirections : List String := ["CS->CSMS", "CSMS->CS", "both"]

section Validation

variable (unicode : Unicode) (path : String)

def manifestError (text : String) : String :=
  "load manifest " ++ path ++ ": " ++ text

/-- A row is named by its name, or by its position where it has none. -/
def rowLabel (row : ManifestMessage) (index : Nat) : String :=
  if unicode.blank row.name then "row " ++ toString (index + 1) else row.name

/-- The rows that have claimed a name or a file, each with its position. -/
structure Claims where
  names : List (String × Nat)
  files : List (String × Nat)

def requireField (label field value : String) : Except String Unit :=
  if unicode.blank value then
    .error (manifestError path (label ++ " is missing required field " ++ field))
  else .ok ()

def checkPresent (label : String) (row : ManifestMessage) (emitPresent : Bool) :
    Except String Unit := do
  requireField unicode path label "name" row.name
  requireField unicode path label "block" row.block
  requireField unicode path label "direction" row.direction
  requireField unicode path label "request" row.request
  requireField unicode path label "response" row.response
  if emitPresent then .ok ()
  else .error (manifestError path (label ++ " is missing required field emit"))

def checkDirection (label : String) (row : ManifestMessage) : Except String Unit :=
  if row.direction ∈ legalDirections then .ok ()
  else .error (manifestError path (label ++ " has illegal direction " ++ row.direction.quote ++
    " (want CS->CSMS, CSMS->CS, or both)"))

def checkBlock (files : ManifestFiles) (manifest : Manifest) (label : String)
    (row : ManifestMessage) : Except String Unit :=
  if files.isBlock row.block then .ok ()
  else .error (manifestError path (label ++ " names unknown block " ++ row.block.quote ++
    " (no directory " ++ row.block ++ " under " ++ manifest.goTree ++ ")"))

def checkSchemaFile (files : ManifestFiles) (manifest : Manifest) (label role file : String) :
    Except String Unit :=
  if files.isSchema file then .ok ()
  else .error (manifestError path (label ++ " names " ++ role ++ " file " ++ file ++
    " not found in " ++ manifest.schemaDir))

def claimName (claims : Claims) (row : ManifestMessage) (index : Nat) : Except String Claims :=
  match claims.names.lookup row.name with
  | some first => .error (manifestError path ("row " ++ toString (index + 1) ++
      " duplicates message name " ++ row.name.quote ++ " first used by row " ++ toString (first + 1)))
  | none => .ok { claims with names := claims.names ++ [(row.name, index)] }

def claimFile (manifest : Manifest) (claims : Claims) (label file : String) (index : Nat) :
    Except String Claims :=
  match claims.files.lookup file with
  | some first => .error (manifestError path ("row " ++ label ++ " claims file " ++ file ++
      " already claimed by row " ++
      ((manifest.messages[first]?).map fun row => rowLabel unicode row first).getD ""))
  | none => .ok { claims with files := claims.files ++ [(file, index)] }

/-- The checks of one row, given what the rows before it have claimed. -/
def checkRow (files : ManifestFiles) (manifest : Manifest) (emitPresence : List Bool)
    (claims : Claims) (entry : ManifestMessage × Nat) : Except String Claims := do
  let (row, index) := entry
  let label := rowLabel unicode row index
  checkPresent unicode path label row (emitPresence[index]?.getD false)
  checkDirection path label row
  checkBlock path files manifest label row
  checkSchemaFile path files manifest label "request" row.request
  checkSchemaFile path files manifest label "response" row.response
  let claims ← claimName path claims row index
  let claims ← claimFile unicode path manifest claims label row.request index
  claimFile unicode path manifest claims label row.response index

def checkUnclaimedFiles (files : ManifestFiles) (manifest : Manifest)
    (claimed : List (String × Nat)) : Except String Unit := do
  let entries ← files.entries.mapError fun text => manifestError path
    ("read schema directory " ++ manifest.schemaDir ++ ": " ++ text)
  match entries.find? (fun entry =>
      !entry.2 && hasSuffix entry.1 ".json" && (claimed.lookup entry.1).isNone) with
  | some entry => .error (manifestError path ("schema file " ++ entry.1 ++ " in " ++
      manifest.schemaDir ++ " is claimed by no row"))
  | none => .ok ()

def validateManifest (files : ManifestFiles) (manifest : Manifest) (emitPresence : List Bool) :
    Except String Unit := do
  let claims ← manifest.messages.zipIdx.foldlM
    (checkRow unicode path files manifest emitPresence) ⟨[], []⟩
  checkUnclaimedFiles path files manifest claims.files

end Validation

section Accepted

variable {unicode : Unicode} {path : String}

variable {claims next : Claims}

theorem claimName_ok {row : ManifestMessage} {index : Nat}
    (claimed : claimName path claims row index = .ok next) :
    row.name ∉ claims.names.map Prod.fst ∧ next.names = claims.names ++ [(row.name, index)] := by
  unfold claimName at claimed
  split at claimed
  next => cases claimed
  next absent =>
    cases claimed
    refine ⟨?_, rfl⟩
    rw [lookup_eq_none_iff] at absent
    intro mem
    obtain ⟨entry, listed, same⟩ := mem_map.mp mem
    have apart := absent entry listed
    simp [same] at apart

variable {manifest : Manifest}

theorem claimFile_names {label file : String} {index : Nat}
    (claimed : claimFile unicode path manifest claims label file index = .ok next) :
    next.names = claims.names := by
  unfold claimFile at claimed
  split at claimed
  next => cases claimed
  next => cases claimed; rfl

variable {files : ManifestFiles} {emitPresence : List Bool}

theorem checkRow_ok {entry : ManifestMessage × Nat}
    (checked : checkRow unicode path files manifest emitPresence claims entry = .ok next) :
    entry.1.name ∉ claims.names.map Prod.fst ∧
      next.names = claims.names ++ [(entry.1.name, entry.2)] := by
  unfold checkRow at checked
  simp only [bind_eq_ok] at checked
  obtain ⟨_, _, _, _, _, _, _, _, _, _, named, claimed, requested, first, checked⟩ := checked
  obtain ⟨fresh, names⟩ := claimName_ok claimed
  refine ⟨fresh, ?_⟩
  rw [claimFile_names checked, claimFile_names first, names]

/-- The messages of an accepted manifest have different names. -/
theorem validateManifest_names
    (accepted : validateManifest unicode path files manifest emitPresence = .ok ()) :
    (manifest.messages.map ManifestMessage.name).Nodup := by
  obtain ⟨claims, run, _⟩ := bind_eq_ok.mp accepted
  -- the names claimed so far are those of the rows taken, and they differ
  have claimed := foldlM_ok
    (fun (taken : List (ManifestMessage × Nat)) claims =>
      claims.names.map Prod.fst = taken.map (fun entry => entry.1.name) ∧
        (taken.map fun entry => entry.1.name).Nodup)
    (fun taken entry state next kept checked => by
      obtain ⟨fresh, names⟩ := checkRow_ok checked
      obtain ⟨same, distinct⟩ := kept
      rw [same] at fresh
      refine ⟨by simp [names, same], ?_⟩
      rw [map_append, nodup_append]
      refine ⟨distinct, by simp, ?_⟩
      intro name mem other single same
      rw [map_singleton, mem_singleton] at single
      exact fresh (single ▸ same ▸ mem))
    ⟨rfl, nodup_nil⟩ run
  have names : manifest.messages.zipIdx.map (fun entry => entry.1.name) =
      manifest.messages.map ManifestMessage.name := by
    conv_rhs => rw [← zipIdx_map_fst 0 manifest.messages, map_map]
    rfl
  rw [← names]
  exact claimed.2

end Accepted

end Codegen
end OcppGo
