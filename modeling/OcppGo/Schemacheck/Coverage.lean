import Mathlib.Data.List.AList
import OcppGo.Schemacheck.Walk

namespace OcppGo
namespace Schemacheck
namespace Comparison

open Codegen (sortStrings mem_sortStrings hasPrefix hasSuffix trimSuffix)
open OcppGo.Sequential List

/-!
# What a report has compared

`runComparison` loads the schema files of all directories, finds the request and the response schema
of every feature of the Go tree and compares each side.  A feature without both schemas and a schema
that no feature has used are listed in the report, and a report with such a gap is not published.

What is read from the Go tree, the walk of one schema and the comparison of one side are parameters.
-/

inductive Side where
  | request
  | response
  deriving DecidableEq

def Side.text : Side -> String
  | .request => "request"
  | .response => "response"

/-- A side of the message of a feature. -/
abbrev Claim := Side × String

structure SchemaDocument (C : Type) where
  file : String
  filenameShape : FilenameShape
  content : C

structure Feature where
  featureName : String
  requestType : String
  responseType : String
  file : String

structure Message (S : Type) where
  featureName : String
  request : S
  response : S

structure Report (S : Type) where
  unpairedMessages : List String
  unpairedSchemaFiles : List String
  messages : List (Message S)

structure DirEntry where
  name : String
  isDir : Bool

/-- What a run reads and computes outside of this module.  `finish` stands for the stages that add
figures to the finished messages. -/
structure Host (C I S : Type) where
  readDir : String -> Except String (List DirEntry)
  walk : String -> Except String C
  discover : Except String (I × List Feature)
  buildMessageSide : I -> String -> String -> SchemaDocument C -> Except String S
  finish : List (Message S) -> Except String Unit

def baseName (path : String) : String :=
  String.ofList (path.toList.rtakeWhile fun char => char ≠ '/' && char ≠ '\\')

def claimOf (shape : FilenameShape) (name : String) : Claim :=
  match shape with
  | .response => (.response, trimSuffix name "Response.json")
  | .requestSuffixed => (.request, trimSuffix name "Request.json")
  | .requestBare => (.request, trimSuffix name ".json")

def SchemaDocument.claim {C : Type} (doc : SchemaDocument C) : String -> Claim :=
  claimOf doc.filenameShape

/-- The side a file claims by its name. -/
def fileClaim (file : String) : Claim := claimOf (filenameShape (base file)) (base file)

/-- `filepath.Clean` of a path that is not empty.  The elements are kept last first. -/
def filepathClean (path : String) : String :=
  let rooted := hasPrefix path "/"
  let kept := (split path).foldl (fun kept element =>
    if element = "" || element = "." then kept
    else if element = ".." then
      match kept with
      | [] => if rooted then [] else [".."]
      | last :: rest => if last = ".." then ".." :: kept else rest
    else element :: kept) []
  let text := (if rooted then "/" else "") ++ "/".intercalate kept.reverse
  if text = "" then "." else text

/-- `filepath.Join` of a directory and the name of an entry. -/
def filepathJoin (dir name : String) : String :=
  filepathClean (if dir = "" then name else dir ++ "/" ++ name)

variable {C I S : Type} (host : Host C I S)

def listSchemaFiles (dirs : List String) : Except String (List String) := do
  let files ← dirs.mapM fun dir => do
    let entries ← (host.readDir dir).mapError fun failure =>
      "read schema directory " ++ dir ++ ": " ++ failure
    return (entries.filter fun entry => !entry.isDir && hasSuffix entry.name ".json").map
      fun entry => filepathJoin dir entry.name
  return sortStrings files.flatten

def walkSchema (path : String) : Except String (SchemaDocument C) :=
  SchemaDocument.mk path (filenameShape (base path)) <$> host.walk path

abbrev ByName (C : Type) := AList fun _ : String => SchemaDocument C

/-- The documents by the base names of their files; a name that is repeated is overwritten. -/
def loadSchemas (schemaFiles : List String) : Except String (ByName C) :=
  schemaFiles.foldlM (fun docs file => do
    let doc ← (walkSchema host file).mapError fun failure =>
      "read schema " ++ file ++ ": " ++ failure
    return docs.insert (base file) doc) ∅

/-- The two maps from features to documents, as one map. -/
abbrev ByClaim (C : Type) := AList fun _ : Claim => SchemaDocument C

def indexSchemasByFeature (byName : ByName C) : Except String (ByClaim C) :=
  (sortStrings byName.keys).foldlM (fun target name =>
    match byName.lookup name with
    | none => .ok target
    | some doc =>
      match target.lookup (doc.claim name) with
      | some existing => .error ("two schema files claim the " ++ (doc.claim name).1.text ++
          " side of " ++ (doc.claim name).2.quote ++ ": " ++ existing.file ++ " and " ++ doc.file)
      | none => .ok (target.insert (doc.claim name) doc)) ∅

structure Progress (S : Type) where
  usedSchemaFiles : List String
  messages : List (Message S)
  unpairedMessages : List String

def compareFeature (index : I) (schemas : ByClaim C) (progress : Progress S) (feature : Feature) :
    Except String (Progress S) :=
  match schemas.lookup (.request, feature.featureName),
    schemas.lookup (.response, feature.featureName) with
  | some reqDoc, some respDoc => do
      let failed (side : Side) (failure : String) :=
        "message " ++ feature.featureName ++ " " ++ side.text ++ ": " ++ failure
      let request ← (host.buildMessageSide index feature.requestType feature.file reqDoc).mapError
        (failed .request)
      let response ← (host.buildMessageSide index feature.responseType feature.file respDoc).mapError
        (failed .response)
      return ⟨progress.usedSchemaFiles ++ [baseName reqDoc.file, baseName respDoc.file],
        progress.messages ++ [⟨feature.featureName, request, response⟩], progress.unpairedMessages⟩
  | _, _ => .ok { progress with
      unpairedMessages := progress.unpairedMessages ++ [feature.featureName] }

def runComparison (dirs : List String) : Except String (Report S) := do
  let schemaFiles ← listSchemaFiles host dirs
  let (index, features) ← host.discover
  let byName ← loadSchemas host schemaFiles
  let schemas ← indexSchemasByFeature byName
  let progress ← features.foldlM (compareFeature host index schemas) ⟨[], [], []⟩
  let messages := progress.messages.insertionSort fun left right =>
    left.featureName ≤ right.featureName
  host.finish messages
  return ⟨sortStrings progress.unpairedMessages,
    (sortStrings byName.keys).filter fun name => name ∉ progress.usedSchemaFiles, messages⟩

/-- The failures of a report that are about coverage. -/
def coverageFailures (report : Report S) : List String :=
  report.unpairedMessages.map (fun name =>
      "message " ++ name ++ " has no schema pair, so its fields were never compared") ++
    report.unpairedSchemaFiles.map fun name => "schema file " ++ name ++
      " was not consumed by any message, so its properties were never compared"

variable {host}

theorem rtakeWhile_rtakeWhile {first second : Char -> Bool}
    (stronger : ∀ char, first char = true -> second char = true) (chars : List Char) :
    (chars.rtakeWhile second).rtakeWhile first = chars.rtakeWhile first := by
  have both : (fun char => decide (first char = true ∧ second char = true)) = first := by
    funext char
    by_cases holds : first char = true
    · simp [holds, stronger char holds]
    · simp [holds]
  rw [List.rtakeWhile, List.rtakeWhile, reverse_reverse, takeWhile_takeWhile, both]
  rfl

theorem baseName_base (path : String) : baseName (base path) = baseName path := by
  rw [baseName, base, String.toList_ofList, rtakeWhile_rtakeWhile (by simp +contextual)]
  rfl

theorem baseName_baseName (path : String) : baseName (baseName path) = baseName path := by
  unfold baseName
  rw [String.toList_ofList, rtakeWhile_rtakeWhile fun _ same => same]

theorem walkSchema_ok {file : String} {doc : SchemaDocument C}
    (walked : walkSchema host file = .ok doc) :
    doc.file = file ∧ doc.claim (base file) = fileClaim file := by
  unfold walkSchema at walked
  rcases map_eq_ok.mp walked with ⟨content, _, same⟩
  rw [← same]
  exact ⟨rfl, by rw [SchemaDocument.claim, fileClaim]⟩

/-- Every document was read from a listed file, and every listed file has a document of its name. -/
structure Loaded (host : Host C I S) (files : List String) (byName : ByName C) : Prop where
  read : ∀ name doc, byName.lookup name = some doc ->
    ∃ file, file ∈ files ∧ base file = name ∧ walkSchema host file = .ok doc
  present : ∀ file, file ∈ files -> base file ∈ byName

theorem loadSchemas_ok {files : List String} {byName : ByName C}
    (loaded : loadSchemas host files = .ok byName) : Loaded host files byName := by
  refine foldlM_ok (Loaded host) ?_ ⟨by simp, by simp⟩ loaded
  intro taken file byName onward holds round
  rcases bind_eq_ok.mp round with ⟨doc, walked, same⟩
  rw [mapError_eq_ok] at walked
  rw [← pure_eq_ok.mp same]
  constructor
  · intro name found lookup
    by_cases new : name = base file
    · subst new
      rw [AList.lookup_insert] at lookup
      exact ⟨file, by simp, rfl, Option.some.inj lookup ▸ walked⟩
    · rw [AList.lookup_insert_ne new] at lookup
      rcases holds.read name found lookup with ⟨other, listed, rest⟩
      exact ⟨other, by simp [listed], rest⟩
  · simp only [AList.mem_insert]
    exact forall_mem_append.mpr ⟨fun other earlier => .inr (holds.present other earlier),
      forall_mem_singleton.mpr (.inl rfl)⟩

/-- The documents of the map by names, each under its own claim. -/
structure Indexed (byName : ByName C) (names : List String) (schemas : ByClaim C) : Prop where
  named : ∀ claim doc, schemas.lookup claim = some doc ->
    ∃ name, byName.lookup name = some doc
  claimed : ∀ name, name ∈ names -> ∀ doc, byName.lookup name = some doc ->
    schemas.lookup (doc.claim name) = some doc

theorem indexSchemasByFeature_ok {byName : ByName C} {schemas : ByClaim C}
    (indexed : indexSchemasByFeature byName = .ok schemas) :
    Indexed byName (sortStrings byName.keys) schemas := by
  refine foldlM_ok (Indexed byName) ?_ ⟨by simp, by simp⟩ indexed
  intro taken name schemas onward holds round
  split at round
  · rename_i absent
    rw [← Except.ok.inj round]
    refine ⟨holds.named, forall_mem_append.mpr ⟨holds.claimed, forall_mem_singleton.mpr ?_⟩⟩
    simp [absent]
  · rename_i doc present
    split at round
    · cases round
    · rename_i free
      rw [← Except.ok.inj round]
      constructor
      · intro claim other found
        by_cases same : claim = doc.claim name
        · rw [same, AList.lookup_insert] at found
          exact ⟨name, present.trans found⟩
        · rw [AList.lookup_insert_ne same] at found
          exact holds.named claim other found
      · refine forall_mem_append.mpr ⟨?_, forall_mem_singleton.mpr ?_⟩
        · intro other earlier second found
          have kept := holds.claimed other earlier second found
          rw [AList.lookup_insert_ne, kept]
          intro same
          rw [same, free] at kept
          cases kept
        · intro second found
          rw [Option.some.inj (found.symm.trans present), AList.lookup_insert]

/-! ## The loop -/

/-- The document is one side of a message of the list. -/
def Paired (host : Host C I S) (index : I) (messages : List (Message S)) (doc : SchemaDocument C) :
    Prop :=
  ∃ message, message ∈ messages ∧ ∃ type file,
    (host.buildMessageSide index type file doc = .ok message.request ∨
      host.buildMessageSide index type file doc = .ok message.response)

/-- What the loop has done: the names that are marked as used are names of documents that are one
side of a message, and a feature has a message or is listed. -/
structure Compared (host : Host C I S) (index : I) (schemas : ByClaim C) (features : List Feature)
    (progress : Progress S) : Prop where
  used : ∀ name, name ∈ progress.usedSchemaFiles -> ∃ claim doc,
    schemas.lookup claim = some doc ∧ baseName doc.file = name ∧
      Paired host index progress.messages doc
  done : ∀ feature, feature ∈ features -> feature.featureName ∈ progress.unpairedMessages ∨
    ∃ message, message ∈ progress.messages ∧ message.featureName = feature.featureName

theorem compareFeatures_ok {index : I} {schemas : ByClaim C} {features : List Feature}
    {progress : Progress S}
    (compared : features.foldlM (compareFeature host index schemas) ⟨[], [], []⟩ = .ok progress) :
    Compared host index schemas features progress := by
  refine foldlM_ok (Compared host index schemas) ?_ ⟨by simp, by simp⟩ compared
  intro taken feature progress onward holds round
  unfold compareFeature at round
  split at round
  · rename_i reqDoc respDoc hasRequest hasResponse
    rcases bind_eq_ok.mp round with ⟨request, requested, round⟩
    rcases bind_eq_ok.mp round with ⟨response, responded, round⟩
    rw [mapError_eq_ok] at requested responded
    rw [← pure_eq_ok.mp round]
    constructor
    · intro name used
      rcases mem_append.mp used with earlier | new
      · rcases holds.used name earlier with ⟨claim, doc, found, named, message, listed, rest⟩
        exact ⟨claim, doc, found, named, message, mem_append_left _ listed, rest⟩
      · rcases mem_pair.mp new with rfl | rfl
        · exact ⟨_, reqDoc, hasRequest, rfl, _, mem_append_right _ (mem_singleton_self _),
            _, _, .inl requested⟩
        · exact ⟨_, respDoc, hasResponse, rfl, _, mem_append_right _ (mem_singleton_self _),
            _, _, .inr responded⟩
    · refine forall_mem_append.mpr ⟨?_, forall_mem_singleton.mpr
        (.inr ⟨_, mem_append_right _ (mem_singleton_self _), rfl⟩)⟩
      intro other earlier
      refine (holds.done other earlier).imp_right ?_
      rintro ⟨message, listed, same⟩
      exact ⟨message, mem_append_left _ listed, same⟩
  · rw [← Except.ok.inj round]
    exact ⟨holds.used, forall_mem_append.mpr
      ⟨fun other earlier => (holds.done other earlier).imp_left (mem_append_left _),
        forall_mem_singleton.mpr (.inl (mem_append_right _ (mem_singleton_self _)))⟩⟩

/-- After a run that reports no gap, every listed file was walked and is one side of a message of the
report, every feature has a message and no two files claim the same side, if and only if the base
names of the listed files are distinct. -/
theorem report_compares_everything (host : Host C I S) (dirs files : List String)
    (report : Report S) (listed : listSchemaFiles host dirs = .ok files)
    (ran : runComparison host dirs = .ok report) (covered : coverageFailures report = []) :
    (∃ index features, host.discover = .ok (index, features) ∧
      (∀ file, file ∈ files -> ∃ doc, walkSchema host file = .ok doc ∧
        Paired host index report.messages doc) ∧
      (∀ feature, feature ∈ features -> ∃ message, message ∈ report.messages ∧
        message.featureName = feature.featureName) ∧
      ∀ file, file ∈ files -> ∀ other, other ∈ files -> fileClaim file = fileClaim other ->
        file = other) <->
      ∀ file, file ∈ files -> ∀ other, other ∈ files -> base file = base other -> file = other := by
  constructor
  · rintro ⟨-, -, -, -, -, claims⟩ file mem other others same
    exact claims file mem other others (by rw [fileClaim, fileClaim, same])
  intro distinct
  unfold runComparison at ran
  rcases bind_eq_ok.mp ran with ⟨_, same, ran⟩
  obtain rfl := Except.ok.inj (listed.symm.trans same)
  rcases bind_eq_ok.mp ran with ⟨⟨index, features⟩, discovered, ran⟩
  rcases bind_eq_ok.mp ran with ⟨byName, loaded, ran⟩
  rcases bind_eq_ok.mp ran with ⟨schemas, indexed, ran⟩
  rcases bind_eq_ok.mp ran with ⟨progress, compared, ran⟩
  rcases bind_eq_ok.mp ran with ⟨_, _, ran⟩
  obtain rfl := pure_eq_ok.mp ran
  have loaded := loadSchemas_ok loaded
  have indexed := indexSchemasByFeature_ok indexed
  have compared := compareFeatures_ok compared
  obtain ⟨unpaired, unused⟩ := append_eq_nil_iff.mp covered
  rw [map_eq_nil_iff] at unpaired unused
  -- the document of a listed file is the one under its base name
  have own : ∀ file, file ∈ files -> ∃ doc, byName.lookup (base file) = some doc ∧
      walkSchema host file = .ok doc := by
    intro file mem
    obtain ⟨doc, found⟩ := Option.isSome_iff_exists.mp
      (AList.lookup_isSome.mpr (loaded.present file mem))
    rcases loaded.read _ doc found with ⟨other, others, same, walked⟩
    exact ⟨doc, found, distinct other others file mem same ▸ walked⟩
  have marked : ∀ file, file ∈ files -> base file ∈ progress.usedSchemaFiles := by
    intro file mem
    by_contra free
    have gap : base file ∈ ([] : List String) := unused ▸ mem_filter.mpr
      ⟨mem_sortStrings.mpr (loaded.present file mem), decide_eq_true free⟩
    cases gap
  -- names that are marked as used have no backslash
  have plain : ∀ file, file ∈ files -> baseName file = base file := by
    intro file mem
    rcases compared.used _ (marked file mem) with ⟨_, used, _, named, _⟩
    rw [← baseName_base, ← named, baseName_baseName]
  refine ⟨index, features, discovered, fun file mem => ?_, fun feature mem => ?_,
    fun file mem other others same => ?_⟩
  · rcases own file mem with ⟨doc, found, walked⟩
    rcases compared.used _ (marked file mem) with ⟨claim, used, lookup, named, message, sent, built⟩
    rcases indexed.named claim used lookup with ⟨name, kept⟩
    rcases loaded.read name used kept with ⟨other, others, _, read⟩
    have names : base other = base file := by
      rw [← plain other others, ← (walkSchema_ok read).1, named]
    rw [distinct other others file mem names, walked] at read
    rw [← Except.ok.inj read] at built
    exact ⟨doc, walked, message, (mem_insertionSort _).mpr sent, built⟩
  · rcases compared.done feature mem with gap | ⟨message, sent, same⟩
    · have none : feature.featureName ∈ ([] : List String) := unpaired ▸ mem_sortStrings.mpr gap
      cases none
    · exact ⟨message, (mem_insertionSort _).mpr sent, same⟩
  · rcases own file mem with ⟨doc, found, walked⟩
    rcases own other others with ⟨second, also, read⟩
    have first := indexed.claimed _ (mem_sortStrings.mpr (loaded.present file mem)) doc found
    have later := indexed.claimed _ (mem_sortStrings.mpr (loaded.present other others)) second also
    rw [(walkSchema_ok walked).2, same, ← (walkSchema_ok read).2, later] at first
    rw [← (walkSchema_ok walked).1, ← (walkSchema_ok read).1, Option.some.inj first]

/-- A host with one directory and a feature, and sides that record the file they were built from. -/
def sample (entries : String -> List DirEntry) : Host Unit Unit String where
  readDir dir := .ok (entries dir)
  walk _ := .ok ()
  discover := .ok ((), [⟨"Boot", "BootRequest", "BootResponse", "boot.go"⟩])
  buildMessageSide _ _ _ doc := .ok doc.file
  finish _ := .ok ()

def bootFiles : List DirEntry := [⟨"BootRequest.json", false⟩, ⟨"BootResponse.json", false⟩]

theorem report_compares_everything_boot :
    let host := sample fun _ => bootFiles
    let messages := [(⟨"Boot", "a/BootRequest.json", "a/BootResponse.json"⟩ : Message String)]
    ∃ index features, host.discover = .ok (index, features) ∧
      (∀ file, file ∈ ["a/BootRequest.json", "a/BootResponse.json"] ->
        ∃ doc, walkSchema host file = .ok doc ∧ Paired host index messages doc) ∧
      (∀ feature, feature ∈ features -> ∃ message, message ∈ messages ∧
        message.featureName = feature.featureName) ∧
      fileClaim "a/BootRequest.json" ≠ fileClaim "a/BootResponse.json" := by
  have listed : listSchemaFiles (sample fun _ => bootFiles) ["a"] =
      .ok ["a/BootRequest.json", "a/BootResponse.json"] := by rfl
  have ran : runComparison (sample fun _ => bootFiles) ["a"] =
      .ok ⟨[], [], [⟨"Boot", "a/BootRequest.json", "a/BootResponse.json"⟩]⟩ := by rfl
  obtain ⟨index, features, discovered, paired, named, claims⟩ :=
    (report_compares_everything _ ["a"] _ _ listed ran rfl).mpr (by decide)
  exact ⟨index, features, discovered, paired, named,
    fun same => absurd (claims _ (by simp) _ (by simp) same) (by decide)⟩

/-- Two directories with a file of one name: the first one is overwritten by the second and never
compared, and no gap is reported. -/
theorem overwritten_schema_unreported :
    ∃ (host : Host Unit Unit String) (dirs files : List String) (report : Report String),
      listSchemaFiles host dirs = .ok files ∧ runComparison host dirs = .ok report ∧
        coverageFailures report = [] ∧ ∃ file, file ∈ files ∧ ∀ doc,
          walkSchema host file = .ok doc -> ¬ Paired host () report.messages doc := by
  let host := sample fun dir => if dir = "a" then [⟨"BootRequest.json", false⟩] else bootFiles
  have listed : listSchemaFiles host ["a", "b"] =
      .ok ["a/BootRequest.json", "b/BootRequest.json", "b/BootResponse.json"] := by rfl
  refine ⟨host, ["a", "b"], _, ⟨[], [], [⟨"Boot", "b/BootRequest.json", "b/BootResponse.json"⟩]⟩,
    listed, ?_, rfl, "a/BootRequest.json", by simp, ?_⟩
  · rw [runComparison, listed]
    rfl
  rintro doc walked ⟨message, listed, type, file, built⟩
  have same := (walkSchema_ok walked).1
  obtain rfl := mem_singleton.mp listed
  rcases built with built | built
  · exact absurd (same.symm.trans (Except.ok.inj built)) (by decide)
  · exact absurd (same.symm.trans (Except.ok.inj built)) (by decide)

end Comparison
end Schemacheck
end OcppGo
