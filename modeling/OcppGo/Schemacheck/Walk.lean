import Mathlib.Data.List.DropRight
import Mathlib.Order.Filter.AtTopBot.Basic
import Mathlib.Order.Filter.Finite
import OcppGo.Codegen.Walk

namespace OcppGo
namespace Schemacheck

open Codegen (Raw RawObject Strconv Bound sortStrings trimPrefix hasPrefix hasSuffix)
open Relation List Option

/-!
# The schema walk of the checker

`walkSchema` lists every property a schema document declares.  It follows each local `$ref` to the
definition it names and goes on with the properties of that definition; no definition is marked as
visited.  A walk that may go on for ever is a walk that is given a number of levels, and has no
result as long as they do not suffice.
-/

/-! ## Properties -/

structure Constraints where
  maxLength : Option Int
  minLength : Option Int
  minimum : Option Rat
  maximum : Option Rat
  minItems : Option Int
  maxItems : Option Int
  pattern : Option String
  additionalProperties : Option Bool
  exclusiveMinimum : Option Bound
  exclusiveMaximum : Option Bound

structure SchemaProperty where
  pointer : String
  path : String
  name : String
  type : String
  format : Option String
  required : Bool
  enum : List String
  constraints : Constraints
  enclosingDefinition : String

inductive FilenameShape where
  | response
  | requestSuffixed
  | requestBare
  deriving DecidableEq

structure SchemaShape where
  schema : String
  filenameShape : FilenameShape

structure SchemaDocument where
  file : String
  shape : SchemaShape
  rootType : String
  properties : List SchemaProperty
  ignoredKeywords : List String

/-! The type assertions on a decoded value. -/

def asString : Raw -> Option String
  | .string value => some value
  | _ => none

def asBool : Raw -> Option Bool
  | .bool value => some value
  | _ => none

def asArray : Raw -> List Raw
  | .array elements => elements
  | _ => []

def asObject : Raw -> Option RawObject
  | .object members => some members
  | _ => none

def asNumber (strconv : Strconv) : Raw -> Option Rat
  | .num literal => strconv.parseFloat literal
  | _ => none

/-- The conversion of a float to an integer. -/
def truncate (value : Rat) : Int := value.num.tdiv value.den

def typeOf (object : RawObject) : String := ((object.value "type").bind asString).getD ""

def buildExclusiveBound (strconv : Strconv) : Option Raw -> Option Bound
  | some (.bool value) => some ⟨some value, none⟩
  | some (.num literal) => some ⟨none, strconv.parseFloat literal⟩
  | _ => none

def buildConstraints (strconv : Strconv) (target : RawObject) : Constraints :=
  let num := fun key => (target.value key).bind (asNumber strconv)
  let whole := fun key => (num key).map truncate
  { maxLength := whole "maxLength"
    minLength := whole "minLength"
    minimum := num "minimum"
    maximum := num "maximum"
    minItems := whole "minItems"
    maxItems := whole "maxItems"
    pattern := (target.value "pattern").bind asString
    additionalProperties := (target.value "additionalProperties").bind asBool
    exclusiveMinimum := buildExclusiveBound strconv (target.value "exclusiveMinimum")
    exclusiveMaximum := buildExclusiveBound strconv (target.value "exclusiveMaximum") }

def stringSet (raw : Option Raw) : List String := ((raw.map asArray).getD []).filterMap asString

def buildSchemaProperty (strconv : Strconv) (target : RawObject) (pointer path name : String)
    (required : Bool) (enclosingDefinition : String) : SchemaProperty where
  pointer := pointer
  path := path
  name := name
  type := typeOf target
  format := (target.value "format").bind asString
  required := required
  enum := stringSet (target.value "enum")
  constraints := buildConstraints strconv target
  enclosingDefinition := enclosingDefinition

def split (text : String) : List String := (text.toList.splitOn '/').map String.ofList

def resolveSegments (reference : String) : Raw -> List String -> Except String Raw
  | current, [] => .ok current
  | current, segment :: rest =>
    let failure := "local $ref " ++ reference.quote ++ " could not be resolved: "
    match asObject current with
    | none => .error (failure ++ segment.quote ++ " is not an object")
    | some container =>
      match container.value segment with
      | none => .error (failure ++ "missing " ++ segment.quote)
      | some next => resolveSegments reference next rest

def resolveLocalRef (document : RawObject) (reference : String) : Except String RawObject :=
  if hasPrefix reference "#/" then do
    match asObject (← resolveSegments reference (.object document)
      (split (trimPrefix reference "#/"))) with
    | none => .error ("local $ref " ++ reference.quote ++ " does not resolve to an object")
    | some resolved =>
      if (resolved.value "$ref").isSome then
        .error ("multi-level $ref chain at " ++ reference.quote ++
          ": the resolved definition is itself a $ref, which is not supported")
      else .ok resolved
  else .error ("non-local $ref " ++ reference.quote ++
    ": only local references (starting with \"#/\") are supported")

def definitionNameFromRef (reference : String) : Option String :=
  let name := trimPrefix reference "#/definitions/"
  if hasPrefix reference "#/definitions/" then
    if name = "" || name.toList.contains '/' then none else some name
  else none

/-- What a schema stands for: itself, or the definition it refers to, with the pointer and the
definition its own properties are listed under. -/
def resolveTarget (root : RawObject) (failure : String) (schema : RawObject)
    (pointer enclosingDefinition : String) : Except String (RawObject × String × String) :=
  match schema.value "$ref" with
  | none => .ok (schema, pointer, enclosingDefinition)
  | some (.string reference) => do
      let resolved ← resolveLocalRef root reference
      match definitionNameFromRef reference with
      | some name => .ok (resolved, "#/definitions/" ++ name, name)
      | none => .ok (resolved, pointer, enclosingDefinition)
  | some _ => .error failure

/-! ## The walk -/

/-- A computation that may not return, and may fail where it does. -/
abbrev Walk := ExceptT String Option

/-- The rest of a walk below a schema: its pointer, its definition and the path it was reached by
are given, and the document so far. -/
abbrev Below := RawObject -> String -> String -> String -> SchemaDocument -> Walk SchemaDocument

def SchemaDocument.recordIgnoredKeywords (document : SchemaDocument) (object : RawObject)
    (pointer : String) : SchemaDocument :=
  { document with ignoredKeywords := document.ignoredKeywords ++
      (["javaType", "comment", "description"].filter fun keyword =>
        (object.value keyword).isSome).map fun keyword => pointer ++ ":" ++ keyword }

section

variable (strconv : Strconv) (root : RawObject) (next : Below)

def walkPropertyOccurrence (val : RawObject) (pointer path name enclosingDefinition : String)
    (required : Bool) (document : SchemaDocument) : Walk SchemaDocument := do
  let (target, recursionPrefix, recursionEnclosing) ← MonadExcept.ofExcept (resolveTarget root
    ("schema walk " ++ pointer ++ ": $ref at " ++ pointer ++ " is not a string") val pointer
    enclosingDefinition)
  let document := document.recordIgnoredKeywords target pointer
  next target recursionPrefix recursionEnclosing path { document with
    properties := document.properties ++
      [buildSchemaProperty strconv target pointer path name required enclosingDefinition] }

def walkObjectProperties (object : RawObject)
    (pointerPrefix enclosingDefinition pathPrefix : String) (document : SchemaDocument) :
    Walk SchemaDocument :=
  match (object.value "properties").bind asObject with
  | none => pure document
  | some properties =>
    (sortStrings properties.keys.dedup).foldlM (fun document name =>
      match (properties.value name).bind asObject with
      | none => pure document
      | some val => walkPropertyOccurrence strconv root next val (pointerPrefix ++ "/" ++ name)
          (if pathPrefix = "" then name else pathPrefix ++ "." ++ name) name enclosingDefinition
          (stringSet (object.value "required") |>.contains name) document) document

def walkArrayItems (items : RawObject) (pointer enclosingDefinition pathPrefix : String)
    (document : SchemaDocument) : Walk SchemaDocument := do
  let (target, recursionPrefix, recursionEnclosing) ← MonadExcept.ofExcept (resolveTarget root
    ("schema walk " ++ pointer ++ ": $ref is not a string") items pointer enclosingDefinition)
  next target recursionPrefix recursionEnclosing pathPrefix
    (document.recordIgnoredKeywords target pointer)

end

/-- The recursion of a property and of the items of an array, through so many levels. -/
def descend (strconv : Strconv) (root : RawObject) : Nat -> Below
  | 0, _, _, _, _, _ => ExceptT.mk none
  | levels + 1, target, recursionPrefix, recursionEnclosing, path, document =>
    if typeOf target = "object" then
      walkObjectProperties strconv root (descend strconv root levels) target
        (recursionPrefix ++ "/properties") recursionEnclosing path document
    else if typeOf target = "array" then
      match (target.value "items").bind asObject with
      | some items => walkArrayItems root (descend strconv root levels) items
          (recursionPrefix ++ "/items") recursionEnclosing path document
      | none => pure document
    else pure document

def filenameShape (filename : String) : FilenameShape :=
  if hasSuffix filename "Response.json" then .response
  else if hasSuffix filename "Request.json" then .requestSuffixed
  else .requestBare

def draftLabel (schemaURL : String) : String :=
  ((split schemaURL).find? (hasPrefix · "draft-")).getD schemaURL

def detectSchemaShape (document : RawObject) (filename : String) : Except String SchemaShape :=
  let schema := ((document.value "$schema").bind asString).getD ""
  if schema ∈ ["http://json-schema.org/draft-04/schema#", "http://json-schema.org/draft-06/schema#"]
  then .ok ⟨schema, filenameShape filename⟩
  else .error ("unknown schema draft " ++ schema.quote ++ " in " ++ filename ++ ": dialect " ++
    draftLabel schema ++ " is not recognized")

/-- `filepath.Base` of the path of a file. -/
def base (path : String) : String := String.ofList (path.toList.rtakeWhile fun char => char ≠ '/')

/-- The walk of a document, through so many levels of properties and items. -/
def walkSchema (strconv : Strconv) (loadJSONDocument : String -> Except String RawObject)
    (levels : Nat) (path : String) : Walk SchemaDocument := do
  let document ← MonadExcept.ofExcept (loadJSONDocument path)
  let shape ← MonadExcept.ofExcept (detectSchemaShape document (base path))
  walkObjectProperties strconv document (descend strconv document levels) document "#/properties" ""
    "" ((⟨path, shape, typeOf document, [], []⟩ : SchemaDocument).recordIgnoredKeywords document "#")

/-! ## Which schemas lead to which -/

/-- What a schema stands for in a document: itself, or the definition it refers to. -/
def resolve (root schema : RawObject) : Option RawObject :=
  match schema.value "$ref" with
  | none => some schema
  | some (.string reference) => (resolveLocalRef root reference).toOption
  | some _ => none

/-- The properties of an object, in the order of the walk. -/
def declared (object : RawObject) : List RawObject :=
  match (object.value "properties").bind asObject with
  | none => []
  | some properties => (sortStrings properties.keys.dedup).filterMap fun name =>
      (properties.value name).bind asObject

/-- The schemas a schema holds, in the order of the walk. -/
def below (schema : RawObject) : List RawObject :=
  if typeOf schema = "object" then declared schema
  else if typeOf schema = "array" then ((schema.value "items").bind asObject).toList
  else []

/-- Every reference on the way down from a schema resolves, and the ways down end. -/
inductive Sound (root : RawObject) : RawObject -> Prop where
  | intro (schema) : (∀ val, val ∈ below schema -> (resolve root val).isSome) ->
      (∀ val child, val ∈ below schema -> resolve root val = some child -> Sound root child) ->
      Sound root schema

/-- A walk of schemas comes to one of them: there is no error in those before it. -/
def Comes (root : RawObject) (vals : List RawObject) (child : RawObject) : Prop :=
  ∃ former val rest, vals = former ++ val :: rest ∧ resolve root val = some child ∧
    ∀ other, other ∈ former -> ∃ done, resolve root other = some done ∧ Sound root done

/-- The walk goes on from one schema to another. -/
def Leads (root schema child : RawObject) : Prop := Comes root (below schema) child

/-- The walk of a document comes to a schema. -/
def Reached (root schema : RawObject) : Prop :=
  ∃ first, Comes root (declared root) first ∧ ReflTransGen (Leads root) first schema

/-- No schema of the walk leads back to itself. -/
def Acyclic (root : RawObject) : Prop :=
  ∀ schema, Reached root schema -> ¬ TransGen (Leads root) schema schema

/-! ### The schemas of a document are finitely many -/

def children : Raw -> List Raw
  | .array elements => elements
  | .object members => members.map Prod.snd
  | _ => []

/-- A value stands somewhere inside another one. -/
abbrev Inside : Raw -> Raw -> Prop := ReflTransGen fun value child => child ∈ children value

theorem sizeOf_child {value child : Raw} (mem : child ∈ children value) :
    sizeOf child < sizeOf value := by
  cases value with
  | array elements =>
    have smaller : sizeOf child < sizeOf elements := sizeOf_lt_of_mem mem
    rw [Raw.array.sizeOf_spec]
    omega
  | object members =>
    rcases mem_map.mp mem with ⟨⟨name, value⟩, listed, rfl⟩
    have smaller := sizeOf_lt_of_mem listed
    rw [Prod.mk.sizeOf_spec] at smaller
    change sizeOf value < sizeOf (Raw.object members)
    rw [Raw.object.sizeOf_spec]
    omega
  | _ => cases mem

theorem finite_inside (value : Raw) : {inner | Inside value inner}.Finite := by
  have below : ∀ child, child ∈ {child | child ∈ children value} ->
      {inner | Inside child inner}.Finite := fun child mem => finite_inside child
  refine (((finite_toSet _).biUnion below).insert value).subset ?_
  intro inner inside
  rcases ReflTransGen.cases_head inside with same | ⟨child, mem, later⟩
  · exact .inl same.symm
  · exact .inr (Set.mem_biUnion mem later)
termination_by sizeOf value
decreasing_by exact sizeOf_child mem

theorem inside_value {object : RawObject} {key : String} {value : Raw}
    (found : object.value key = some value) : value ∈ children (.object object) := by
  rcases map_eq_some_iff.mp found with ⟨mem, listed, rfl⟩
  exact mem_map_of_mem (mem_reverse.mp (mem_of_find?_eq_some listed))

variable {root : RawObject}

theorem inside_segments {reference : String} {current value : Raw} {segments : List String}
    (resolved : resolveSegments reference current segments = .ok value) : Inside current value := by
  induction segments generalizing current with
  | nil =>
    cases resolved
    exact .refl
  | cons segment rest ih =>
    cases current with
    | object container =>
      simp only [resolveSegments, asObject] at resolved
      split at resolved
      · cases resolved
      · rename_i next found
        exact .head (inside_value found) (ih resolved)
    | _ => cases resolved

theorem inside_reference {reference : String} {resolved : RawObject}
    (found : resolveLocalRef root reference = .ok resolved) :
    Inside (.object root) (.object resolved) := by
  unfold resolveLocalRef at found
  split at found
  · rcases Sequential.bind_eq_ok.mp found with ⟨value, segments, found⟩
    cases value with
    | object members =>
      simp only [asObject] at found
      split at found
      · cases found
      · cases found
        exact inside_segments segments
    | _ => cases found
  · cases found

variable {schema child : RawObject} {vals : List RawObject}

theorem eq_of_asObject {found : Option Raw} {object : RawObject}
    (same : found.bind asObject = some object) : found = some (.object object) := by
  rcases bind_eq_some_iff.mp same with ⟨value, rfl, members⟩
  cases value <;> cases members
  rfl

theorem inside_declared {val : RawObject} (mem : val ∈ declared schema) :
    Inside (.object schema) (.object val) := by
  unfold declared at mem
  split at mem
  · cases mem
  · rename_i properties listed
    obtain ⟨name, _, found⟩ := mem_filterMap.mp mem
    exact .tail (.single (inside_value (eq_of_asObject listed)))
      (inside_value (eq_of_asObject found))

theorem inside_below {val : RawObject} (mem : val ∈ below schema) :
    Inside (.object schema) (.object val) := by
  unfold below at mem
  split at mem
  · exact inside_declared mem
  · split at mem
    · exact .single (inside_value (eq_of_asObject (mem_toList.mp mem)))
    · cases mem

theorem Comes.inside (comes : Comes root vals child)
    (inside : ∀ val, val ∈ vals -> Inside (.object root) (.object val)) :
    Inside (.object root) (.object child) := by
  obtain ⟨former, val, rest, rfl, resolved, _⟩ := comes
  unfold resolve at resolved
  split at resolved
  · cases resolved
    exact inside _ (mem_append_right _ mem_cons_self)
  · rename_i reference _
    cases found : resolveLocalRef root reference <;> rw [found] at resolved <;> cases resolved
    exact inside_reference found
  · cases resolved

theorem finite_reached (root : RawObject) : {schema | Reached root schema}.Finite := by
  have injective : Function.Injective Raw.object := fun _ _ same => Raw.object.inj same
  refine ((finite_inside (.object root)).preimage injective.injOn).subset ?_
  rintro schema ⟨first, comes, leads⟩
  induction leads with
  | refl => exact comes.inside fun val mem => inside_declared mem
  | tail _ step ih => exact step.inside fun val mem => ih.trans (inside_below mem)

/-! ## What becomes of the walk -/

/-- Whether a walk returns, and without an error. -/
def fate {α : Type} (walk : Walk α) : Option Bool := walk.run.map Except.isOk

/-- A walk goes on only after one that returned without an error. -/
def andThen : Option Bool -> Option Bool -> Option Bool
  | some true, rest => rest
  | other, _ => other

/-- What becomes of the walk of a schema, given what becomes of it below. -/
def visit (root : RawObject) (deeper : RawObject -> Option Bool) (val : RawObject) : Option Bool :=
  (resolve root val).elim (some false) deeper

def scan (root : RawObject) (deeper : RawObject -> Option Bool) (vals : List RawObject) :
    Option Bool :=
  vals.foldr (fun val rest => andThen (visit root deeper val) rest) (some true)

/-- What becomes of the walk below a schema, through so many levels. -/
def outcome (root : RawObject) : Nat -> RawObject -> Option Bool
  | 0, _ => none
  | levels + 1, schema => scan root (outcome root levels) (below schema)

theorem fate_bind {α β : Type} {first : Walk α} {onward : α -> Walk β} {result : Option Bool}
    (same : ∀ value, fate (onward value) = result) :
    fate (first >>= onward) = andThen (fate first) result := by
  unfold fate at same ⊢
  rw [ExceptT.run_bind]
  rcases first.run with _ | (_ | value)
  · rfl
  · rfl
  · exact same value

variable {strconv : Strconv} {next : Below} {deeper : RawObject -> Option Bool}

theorem fate_resolveTarget {failure pointer enclosing : String} {val : RawObject}
    {onward : RawObject × String × String -> Walk SchemaDocument}
    (same : ∀ target, fate (onward target) = deeper target.1) :
    fate (MonadExcept.ofExcept (resolveTarget root failure val pointer enclosing) >>= onward) =
      visit root deeper val := by
  unfold resolveTarget visit resolve
  split
  · exact same _
  · rename_i reference _
    cases resolveLocalRef root reference with
    | error _ => rfl
    | ok resolved => cases definitionNameFromRef reference <;> exact same _
  · rfl

section

variable (same : ∀ target pointer enclosing path document,
  fate (next target pointer enclosing path document) = deeper target)
include same

theorem fate_properties (object : RawObject) (pointer enclosing path : String)
    (document : SchemaDocument) :
    fate (walkObjectProperties strconv root next object pointer enclosing path document) =
      scan root deeper (declared object) := by
  unfold walkObjectProperties declared
  split
  · rfl
  · rename_i properties _
    generalize sortStrings properties.keys.dedup = names
    induction names generalizing document with
    | nil => rfl
    | cons name rest ih =>
      rw [foldlM_cons, fate_bind ih]
      cases found : (properties.value name).bind asObject with
      | none =>
        simp only [filterMap_cons, found]
        rfl
      | some val =>
        simp only [filterMap_cons, found]
        exact congrArg (andThen · _) (fate_resolveTarget fun _ => same ..)

end

theorem fate_descend (levels : Nat) (target : RawObject) (pointer enclosing path : String)
    (document : SchemaDocument) :
    fate (descend strconv root levels target pointer enclosing path document) =
      outcome root levels target := by
  induction levels generalizing target pointer enclosing path document with
  | zero => rfl
  | succ levels ih =>
    unfold descend outcome below
    split
    · exact fate_properties ih ..
    · split
      · cases (target.value "items").bind asObject with
        | none => rfl
        | some items =>
          have visited : fate (walkArrayItems root (descend strconv root levels) items
              (pointer ++ "/items") enclosing path document) =
              visit root (outcome root levels) items := fate_resolveTarget fun _ => ih ..
          rw [toList_some]
          refine visited.trans ?_
          change _ = andThen _ (some true)
          rcases visit root (outcome root levels) items with _ | (_ | _) <;> rfl
      · rfl

/-! ## The walk returns -/

theorem Comes.cons {val done : RawObject} (resolved : resolve root val = some done)
    (sound : Sound root done) (comes : Comes root vals child) : Comes root (val :: vals) child := by
  obtain ⟨former, next, rest, rfl, found, fine⟩ := comes
  exact ⟨val :: former, next, rest, rfl, found, forall_mem_cons.mpr ⟨⟨done, resolved, sound⟩, fine⟩⟩

/-- A walk of schemas returns if it does below each of them it comes to. -/
theorem scan_isSome (sound : ∀ schema, deeper schema = some true -> Sound root schema)
    (returns : ∀ child, Comes root vals child -> (deeper child).isSome) :
    (scan root deeper vals).isSome := by
  induction vals with
  | nil => rfl
  | cons val rest ih =>
    change (andThen (visit root deeper val) (scan root deeper rest)).isSome
    cases resolved : resolve root val with
    | none =>
      rw [visit, resolved]
      rfl
    | some child =>
      have result := returns child ⟨[], val, rest, rfl, resolved, by simp⟩
      rw [visit, resolved, Option.elim]
      rcases ended : deeper child with _ | (_ | _)
      · rw [ended] at result
        cases result
      · rfl
      · exact ih fun later comes => returns later (comes.cons resolved (sound child ended))

theorem scan_true (ended : scan root deeper vals = some true) {val : RawObject}
    (mem : val ∈ vals) : ∃ child, resolve root val = some child ∧ deeper child = some true := by
  induction vals with
  | nil => cases mem
  | cons head rest ih =>
    change andThen (visit root deeper head) (scan root deeper rest) = _ at ended
    cases resolved : resolve root head with
    | none =>
      rw [visit, resolved] at ended
      cases ended
    | some child =>
      rw [visit, resolved, Option.elim] at ended
      rcases below : deeper child with _ | (_ | _) <;> rw [below] at ended
      · cases ended
      · cases ended
      · rcases mem_cons.mp mem with rfl | later
        · exact ⟨child, resolved, below⟩
        · exact ih ended later

theorem sound_of_outcome {levels : Nat} (ended : outcome root levels schema = some true) :
    Sound root schema := by
  induction levels generalizing schema with
  | zero => cases ended
  | succ levels ih =>
    refine .intro schema (fun val mem => ?_) fun val child mem resolved => ?_
    · obtain ⟨child, resolved, _⟩ := scan_true ended mem
      rw [resolved]
      rfl
    · obtain ⟨other, same, fine⟩ := scan_true ended mem
      obtain rfl := Option.some.inj (resolved.symm.trans same)
      exact ih fine

/-- Schemas without an error end in what comes after them, unless they do not end. -/
theorem scan_former (fine : ∀ val, val ∈ vals -> ∃ child, resolve root val = some child ∧
    deeper child ≠ some false) (last : Option Bool) :
    vals.foldr (fun val rest => andThen (visit root deeper val) rest) last = none ∨
      vals.foldr (fun val rest => andThen (visit root deeper val) rest) last = last := by
  induction vals with
  | nil => exact .inr rfl
  | cons val rest ih =>
    obtain ⟨child, resolved, other⟩ := fine val mem_cons_self
    rw [foldr_cons, visit, resolved, Option.elim]
    rcases ended : deeper child with _ | (_ | _)
    · exact .inl rfl
    · exact absurd ended other
    · exact ih fun val mem => fine val (mem_cons_of_mem _ mem)

theorem outcome_ne_false (sound : Sound root schema) (levels : Nat) :
    outcome root levels schema ≠ some false := by
  induction sound generalizing levels with
  | intro schema resolves _ ih =>
    cases levels with
    | zero => exact fun failed => by cases failed
    | succ levels =>
      have fine : ∀ val, val ∈ below schema -> ∃ child, resolve root val = some child ∧
          outcome root levels child ≠ some false := by
        intro val mem
        obtain ⟨child, resolved⟩ := isSome_iff_exists.mp (resolves val mem)
        exact ⟨child, resolved, ih val child mem resolved levels⟩
      rcases scan_former fine (some true) with none | done
      · exact fun failed => by cases none.symm.trans failed
      · exact fun failed => by cases done.symm.trans failed

/-- A walk does not return if it comes to a schema below which it does not. -/
theorem Comes.diverges {levels : Nat} (comes : Comes root vals child)
    (stuck : outcome root levels child = none) : scan root (outcome root levels) vals = none := by
  obtain ⟨former, val, rest, rfl, resolved, sound⟩ := comes
  have fine : ∀ other, other ∈ former -> ∃ done, resolve root other = some done ∧
      outcome root levels done ≠ some false := by
    intro other mem
    obtain ⟨done, resolved, sound⟩ := sound other mem
    exact ⟨done, resolved, outcome_ne_false sound levels⟩
  have last : scan root (outcome root levels) (val :: rest) = none := by
    rw [scan, foldr_cons, visit, resolved, Option.elim, stuck]
    rfl
  rw [scan, foldr_append, ← scan, last]
  exact (scan_former fine none).elim id id

/-- A schema on the way to one that leads back to itself is never done with. -/
theorem outcome_none (levels : Nat) (loop : TransGen (Leads root) child child)
    (way : ReflTransGen (Leads root) schema child) : outcome root levels schema = none := by
  induction levels generalizing schema with
  | zero => rfl
  | succ levels ih =>
    rcases ReflTransGen.cases_head way with same | ⟨next, leads, way⟩
    · subst same
      obtain ⟨next, leads, back⟩ := TransGen.head'_iff.mp loop
      exact leads.diverges (ih back)
    · exact leads.diverges (ih way)

/-- Where nothing leads back to itself, every schema the walk comes to is done with, given enough
levels. -/
theorem Acyclic.returns (acyclic : Acyclic root) (reached : Reached root schema) :
    ∀ᶠ levels in Filter.atTop, (outcome root levels schema).isSome := by
  let Reachable := {schema // Reached root schema}
  have : Finite Reachable := finite_reached root
  let obeys : Reachable -> Reachable -> Prop := fun later former =>
    TransGen (Leads root) former.1 later.1
  have transitive : IsTrans Reachable obeys := ⟨fun _ _ _ later former => former.trans later⟩
  have irreflexive : Std.Irrefl obeys := ⟨fun schema loop => acyclic schema.1 schema.2 loop⟩
  have founded : WellFounded obeys := Finite.wellFounded_of_trans_of_irrefl obeys
  suffices ends : ∀ schema : Reachable,
      ∀ᶠ levels in Filter.atTop, (outcome root levels schema.1).isSome from ends ⟨schema, reached⟩
  intro schema
  induction schema using founded.induction with
  | _ schema ih =>
    have goesOn : ∀ child, Leads root schema.1 child -> Reached root child := by
      intro child leads
      rcases schema.2 with ⟨first, comes, way⟩
      exact ⟨first, comes, way.tail leads⟩
    have below : ∀ᶠ levels in Filter.atTop, ∀ child, child ∈ {child | Leads root schema.1 child} ->
        (outcome root levels child).isSome :=
      (Filter.eventually_all_finite ((finite_reached root).subset goesOn)).mpr fun child leads =>
        ih ⟨child, goesOn child leads⟩ (.single leads)
    rcases Filter.eventually_atTop.mp below with ⟨enough, returns⟩
    refine Filter.eventually_atTop.mpr ⟨enough + 1, fun levels more => ?_⟩
    obtain ⟨levels, rfl⟩ := Nat.exists_eq_succ_of_ne_zero (Nat.ne_of_gt (Nat.zero_lt_of_lt more))
    exact scan_isSome (fun _ => sound_of_outcome) (returns levels (Nat.le_of_succ_le_succ more))

theorem fate_walkSchema {loadJSONDocument : String -> Except String RawObject} {path : String}
    {document : RawObject} {shape : SchemaShape} (loaded : loadJSONDocument path = .ok document)
    (detected : detectSchemaShape document (base path) = .ok shape) (levels : Nat) :
    fate (walkSchema strconv loadJSONDocument levels path) =
      scan document (outcome document levels) (declared document) := by
  unfold walkSchema
  rw [loaded]
  change fate (MonadExcept.ofExcept (detectSchemaShape document (base path)) >>= _) = _
  rw [detected]
  exact fate_properties (fate_descend levels) ..

/-- The walk of a document returns a property list or an error, given enough levels, exactly if no
schema that it comes to without an error leads back to itself. -/
theorem schema_walk_returns (strconv : Strconv) (loadJSONDocument : String -> Except String RawObject)
    (path : String) :
    (∃ enough, ∀ levels, enough ≤ levels ->
      (walkSchema strconv loadJSONDocument levels path).run.isSome) <->
      ∀ document shape, loadJSONDocument path = .ok document ->
        detectSchemaShape document (base path) = .ok shape -> Acyclic document := by
  constructor
  · rintro ⟨enough, returns⟩ document shape loaded detected schema ⟨first, comes, way⟩ loop
    have result := returns enough le_rfl
    have stuck : fate (walkSchema strconv loadJSONDocument enough path) = none :=
      (fate_walkSchema loaded detected enough).trans
        (comes.diverges (outcome_none enough loop way))
    rw [map_eq_none_iff.mp stuck] at result
    cases result
  · intro acyclic
    cases loaded : loadJSONDocument path with
    | error failure =>
      refine ⟨0, fun levels _ => ?_⟩
      rw [walkSchema, loaded]
      rfl
    | ok document =>
      cases detected : detectSchemaShape document (base path) with
      | error failure =>
        refine ⟨0, fun levels _ => ?_⟩
        rw [walkSchema, loaded]
        change Option.isSome (ExceptT.run (MonadExcept.ofExcept
          (detectSchemaShape document (base path)) >>= _ : Walk SchemaDocument)) = true
        rw [detected]
        rfl
      | ok shape =>
        have reached : ∀ child, Comes document (declared document) child ->
            Reached document child := fun child comes => ⟨child, comes, .refl⟩
        have below : ∀ᶠ levels in Filter.atTop, ∀ child,
            child ∈ {child | Comes document (declared document) child} ->
            (outcome document levels child).isSome :=
          (Filter.eventually_all_finite ((finite_reached document).subset reached)).mpr
            fun child comes => (acyclic document shape loaded detected).returns (reached child comes)
        rcases Filter.eventually_atTop.mp below with ⟨enough, returns⟩
        refine ⟨enough, fun levels more => ?_⟩
        have ends := scan_isSome (fun _ => sound_of_outcome) (returns levels more)
        rwa [← fate_walkSchema loaded detected levels, fate, isSome_map] at ends

/-! ### A definition that refers to itself -/

/-- A schema that refers to the definition below. -/
def refers : RawObject := [("$ref", .string "#/definitions/Node")]

/-- A document with one property, which refers to its only definition. -/
def single (defn : RawObject) : RawObject :=
  [("$schema", .string "http://json-schema.org/draft-06/schema#"),
    ("properties", .object [("node", .object refers)]),
    ("definitions", .object [("Node", .object defn)])]

def node : RawObject :=
  [("type", .string "object"), ("properties", .object [("next", .object refers)])]

/-- A definition with a property that refers to the definition itself is never done with. -/
theorem schema_walk_diverges :
    ∃ (loadJSONDocument : String -> Except String RawObject) (path : String),
      ∀ (strconv : Strconv) (levels : Nat),
        (walkSchema strconv loadJSONDocument levels path).run = none := by
  refine ⟨fun _ => .ok (single node), "NodeRequest.json", fun strconv levels => ?_⟩
  have leads : Leads (single node) node node := ⟨[], refers, [], rfl, rfl, by simp⟩
  have stuck : scan (single node) (outcome (single node) levels) (declared (single node)) = none :=
    Comes.diverges ⟨[], refers, [], rfl, rfl, by simp⟩ (outcome_none levels (.single leads) .refl)
  exact map_eq_none_iff.mp ((fate_walkSchema rfl rfl levels).trans stuck)

end Schemacheck
end OcppGo
