import Mathlib.Data.List.Dedup
import OcppGo.Codegen.Consistency

namespace OcppGo
namespace Codegen

open OcppGo.Sequential List

/-!
# Placement

A definition that exactly one message reaches is emitted in the file of that
message, one that several messages reach in the shared types file.  Placement
counts all declared messages, not only the emitted ones.  The collision check
runs over the placed names before anything is rendered.
-/

/-- The file a definition is emitted in. -/
inductive Home where
  | types
  | message (name : String)
  deriving DecidableEq

def Home.text : Home -> String
  | .types => "types"
  | .message name => "message:" ++ name

/-- The home of each definition that is neither a root nor reserved. -/
structure PlacementPlan where
  home : List (String × Home)

def PlacementPlan.homeOf (plan : PlacementPlan) (name : String) : Option Home :=
  plan.home.lookup name

/-- The messages whose reach set contains the name, one for each occurrence. -/
def reachingMessages (ir : IR) (name : String) : List String :=
  ir.messages.flatMap fun message =>
    (message.reach.filter (fun reached => reached = name)).map fun _ => message.name

def Definition.placeable (defn : Definition) : Bool :=
  defn.kind ≠ .root && !defn.reserved

def computeHome (ir : IR) (name : String) : Except String Home :=
  match reachingMessages ir name with
  | [] =>
    let files := ((findDefinitionByName ir.defns name).map fun defn =>
      join ", " defn.files).getD ""
    .error ("compute definition placement: " ++ name ++ " is unreachable (declared in " ++ files ++
      ", but no message's reach set references it)")
  | [only] => .ok (.message only)
  | _ => .ok .types

def computePlacement (ir : IR) : Except String PlacementPlan := do
  let candidates := ((ir.defns.filter Definition.placeable).map Definition.name).dedup
  let home ← (sortStrings candidates).mapM fun name => do
    let home ← computeHome ir name
    return (name, home)
  return ⟨home⟩

/-- One identifier claimed in a scope, with its description. -/
structure CollisionEntry where
  key : String
  description : String

/-- Go through the elements in order and stop at the first whose name was
claimed before. -/
def checkDistinct {α : Type} (name : α -> Except String String) (collide : String -> α -> α -> String)
    (elements : List α) : Except String Unit := do
  let _ ← elements.foldlM
    (fun (seen : List (String × α)) element => do
      let key ← name element
      match seen.lookup key with
      | some prior => .error (collide key prior element)
      | none => .ok (seen ++ [(key, element)])) []
  return ()

section Collisions

variable (config : TransformConfig)

def messageBlocks (ir : IR) : List (String × String) :=
  (ir.messages.filter fun message => !config.unicode.blank message.block).map fun message =>
    (message.name, message.block)

/-- The Go package a home is emitted into. -/
def emissionPackage (home : Home) (blocks : List (String × String)) : String :=
  match home with
  | .types => "types"
  | .message name => (blocks.lookup name).getD home.text

def sortedPlacedNames (placement : PlacementPlan) : List String :=
  sortStrings (placement.home.map Prod.fst)

/-- The constant each value of an enum derives, in schema order. -/
def buildEnumConstNames (goName : String) (values : List String) : List String :=
  values.map fun value => goName ++ join "" (enumValueGoWords config value)

def emitted (home : Home) (key description : String) : CollisionEntry :=
  ⟨key, description ++ ", emitted in " ++ home.text⟩

/-- The package-level identifiers of one placed definition. -/
def placedEntries (ir : IR) (placement : PlacementPlan) (name : String) :
    Except String (List (String × CollisionEntry)) := do
  let home := (placement.homeOf name).getD (.message "")
  let package := emissionPackage home (messageBlocks config ir)
  match findDefinitionByName ir.defns name with
  | none => .error ("check emission collisions: placed definition " ++ name ++ " not found in the IR")
  | some defn => do
      let goName ← (transformIdentifier config defn.name defn.kind).mapError fun text =>
        "check emission collisions: " ++ text
      let files := join ", " defn.files
      let own := emitted home goName
        (defn.kind.text ++ " " ++ defn.name ++ " (" ++ files ++ ")")
      let others := match defn.kind with
        | .object => [emitted home ("New" ++ goName) ("constructor New" ++ goName ++ " (" ++ files ++ ")")]
        | .enum => ((buildEnumConstNames config goName defn.values).zip defn.values).map
            fun (constName, value) => emitted home constName ("enum constant " ++ constName ++
              " from value " ++ value.quote ++ " of enum " ++ defn.name ++ " (" ++ files ++ ")")
        | .root => []
      return (own :: others).map fun entry => (package, entry)

/-- The package-level identifiers of one message: its roots with their
constructors and the feature symbols. -/
def messageEntries (ir : IR) (message : Message) : List (String × CollisionEntry) :=
  let home := Home.message message.name
  let package := emissionPackage home (messageBlocks config ir)
  let roots := ([message.requestRoot, message.responseRoot].filter (fun root => root ≠ "")).flatMap
    fun root =>
      let files := ((findDefinitionByName ir.defns root).map fun defn =>
        join ", " defn.files).getD ""
      [emitted home root ("root " ++ root ++ " (" ++ files ++ ")"),
        emitted home ("New" ++ root) ("constructor New" ++ root ++ " (" ++ files ++ ")")]
  let feature := message.name ++ "Feature"
  (roots ++ [emitted home feature ("feature " ++ feature),
    emitted home (feature ++ "Name") ("feature-name const " ++ feature ++ "Name")]).map
      fun entry => (package, entry)

def checkPackageCollisions (ir : IR) (placement : PlacementPlan) : Except String Unit := do
  let placed ← (sortedPlacedNames placement).mapM (placedEntries config ir placement)
  let entries := placed.flatten ++ ir.messages.flatMap (messageEntries config ir)
  (sortStrings (entries.map Prod.fst).dedup).forM fun package =>
    checkDistinct (fun entry => .ok entry.2.key)
      (fun _ prior entry => "check emission collisions: in package " ++ package ++ ": " ++
        prior.2.description ++ " collides with " ++ entry.2.description)
      (entries.filter fun entry => entry.1 = package)

/-- The structs that are rendered: the placed objects and the message roots. -/
def renderedStructs (ir : IR) (placement : PlacementPlan) : List Definition :=
  ((sortedPlacedNames placement).filterMap (findDefinitionByName ir.defns)).filter
      (fun defn => defn.kind = .object) ++
    ir.messages.flatMap fun message =>
      ([message.requestRoot, message.responseRoot].filter (fun root => root ≠ "")).filterMap
        (findDefinitionByName ir.defns)

def checkFieldCollisions (ir : IR) (placement : PlacementPlan) : Except String Unit :=
  (renderedStructs ir placement).forM fun defn =>
    checkDistinct
      (fun property => (transformPropertyName config (Property.facets property).name).mapError
        fun text => "check emission collisions: " ++ text)
      (fun field prior property => "check emission collisions: field " ++ field ++ " on " ++
        defn.kind.text ++ " " ++ defn.name ++ " (" ++ join ", " defn.files ++
        ") claimed by both properties " ++ prior.facets.name ++ " and " ++ property.facets.name)
      defn.properties

def checkValidatorTagCollisions (ir : IR) (placement : PlacementPlan) : Except String Unit :=
  checkDistinct
    (fun defn => (validatorTagName config (Definition.name defn)).mapError
      fun text => "check emission collisions: " ++ text)
    (fun tag prior defn => "check emission collisions: validator " ++ tag ++
      " registered by both enum " ++ prior.name ++ " (" ++ join ", " prior.files ++ ") and enum " ++
      defn.name ++ " (" ++ join ", " defn.files ++ ")")
    (((sortedPlacedNames placement).filterMap (findDefinitionByName ir.defns)).filter
      fun defn => defn.kind = .enum)

def checkEmissionCollisions (ir : IR) (placement : PlacementPlan) : Except String Unit := do
  checkPackageCollisions config ir placement
  checkFieldCollisions config ir placement
  checkValidatorTagCollisions config ir placement

end Collisions

/-! ## Where a reference leads -/

section Homes

variable {ir : IR}

/-- A reach set has no repetitions, so each message that reaches a name is
counted once. -/
theorem reachingMessages_eq (consistent : ir.Consistent) (name : String) :
    reachingMessages ir name =
      (ir.messages.filter fun message => name ∈ message.reach).map Message.name := by
  have once : ∀ messages : List Message, messages ⊆ ir.messages ->
      (messages.flatMap fun message =>
        (message.reach.filter fun reached => reached = name).map fun _ => message.name) =
      (messages.filter fun message => name ∈ message.reach).map Message.name := by
    intro messages
    induction messages with
    | nil => exact fun _ => rfl
    | cons message rest ih =>
      intro included
      have distinct := consistent.nodup message (included mem_cons_self)
      have others := ih fun other mem =>
        included (mem_cons_of_mem _ mem)
      rw [flatMap_cons, others, filter_cons]
      by_cases reached : name ∈ message.reach
      · have single : message.reach.filter (fun reached => reached = name) = [name] := by
          rw [filter_eq, count_eq_one_of_mem distinct reached]
          rfl
        simp [reached, single]
      · have none : message.reach.filter (fun reached => reached = name) = [] := by
          rw [filter_eq_nil_iff]
          intro other mem same
          exact reached ((of_decide_eq_true same) ▸ mem)
        simp [reached, none]
  exact once ir.messages (Subset.refl _)

variable {name : String}

theorem mem_reachingMessages (consistent : ir.Consistent) {message : Message}
    (mem : message ∈ ir.messages) (reached : name ∈ message.reach) :
    message.name ∈ reachingMessages ir name := by
  rw [reachingMessages_eq consistent]
  exact mem_map_of_mem (mem_filter.mpr ⟨mem, by simpa using reached⟩)

variable {defn : Definition}

/-- Whoever reaches a definition reaches what it refers to. -/
theorem reachingMessages_sublist (consistent : ir.Consistent) (mem : defn ∈ ir.defns)
    (named : name ∈ defn.references) :
    (reachingMessages ir defn.name).Sublist (reachingMessages ir name) := by
  rw [reachingMessages_eq consistent, reachingMessages_eq consistent]
  refine Sublist.map _ ?_
  have larger : (ir.messages.filter fun message => defn.name ∈ message.reach) =
      (ir.messages.filter fun message => name ∈ message.reach).filter
        fun message => defn.name ∈ message.reach := by
    rw [filter_filter]
    refine filter_congr fun message listed => ?_
    by_cases reached : defn.name ∈ message.reach
    · have closed := consistent.reached message listed _ reached defn mem rfl named
      simp [reached, closed]
    · simp [reached]
  rw [larger]
  exact filter_sublist

theorem computeHome_types (several : 2 ≤ (reachingMessages ir name).length) :
    computeHome ir name = .ok .types := by
  unfold computeHome
  split
  next none => simp [none] at several
  next only single => simp [single] at several
  next => rfl

theorem computeHome_types_length (home : computeHome ir name = .ok .types) :
    2 ≤ (reachingMessages ir name).length := by
  unfold computeHome at home
  split at home
  next => cases home
  next => cases home
  next none single =>
    match same : reachingMessages ir name with
    | [] => exact absurd same none
    | [only] => exact absurd same (single only)
    | _ :: _ :: _ => simp

theorem computeHome_message {only : String} :
    computeHome ir name = .ok (.message only) <-> reachingMessages ir name = [only] := by
  refine ⟨fun home => ?_, fun single => by rw [computeHome, single]⟩
  unfold computeHome at home
  split at home
  next => cases home
  next single => cases home; exact single
  next => cases home

/-- A name that a message reaches has its home with that message or in the
shared types file. -/
theorem computeHome_of_mem {only : String} (mem : only ∈ reachingMessages ir name) :
    computeHome ir name = .ok .types ∨ computeHome ir name = .ok (.message only) := by
  match same : reachingMessages ir name with
  | [] => rw [same] at mem; cases mem
  | [single] =>
    rw [same, mem_singleton] at mem
    subst mem
    exact .inr (by simp [computeHome, same])
  | _ :: _ :: _ => exact .inl (computeHome_types (by simp [same]))

variable {plan : PlacementPlan} (placed : computePlacement ir = .ok plan)
include placed

/-- A plan says of every placeable name what its reach count says, and nothing
of other names. -/
theorem computePlacement_ok :
    (∀ defn, defn ∈ ir.defns -> defn.placeable ->
      ∃ home, plan.homeOf defn.name = some home) ∧
    (∀ name home, plan.homeOf name = some home -> computeHome ir name = .ok home ∧
      ∃ defn, defn ∈ ir.defns ∧ defn.placeable ∧
        defn.name = name) := by
  unfold computePlacement at placed
  dsimp only at placed
  obtain ⟨(home : List (String × Home)), computed, placed⟩ := bind_eq_ok.mp placed
  obtain rfl := pure_eq_ok.mp placed
  constructor
  · intro defn mem placeable
    have candidate : defn.name ∈ sortStrings
        ((ir.defns.filter Definition.placeable).map Definition.name).dedup := by
      rw [mem_sortStrings, mem_dedup]
      exact mem_map_of_mem (mem_filter.mpr ⟨mem, placeable⟩)
    obtain ⟨entry, listed, found⟩ := exists_of_mapM computed candidate
    obtain ⟨where_, _, same⟩ := bind_eq_ok.mp found
    obtain rfl := pure_eq_ok.mp same
    exact Option.isSome_iff_exists.mp (lookup_isSome_iff.mpr ⟨_, listed, beq_self_eq_true _⟩)
  · intro name there found
    obtain ⟨key, candidate, entry⟩ := mem_of_mapM computed (mem_of_lookup found)
    obtain ⟨other, run, same⟩ := bind_eq_ok.mp entry
    simp only [pure_eq_ok, Prod.mk.injEq] at same
    obtain ⟨sameName, sameHome⟩ := same
    subst sameName sameHome
    rw [mem_sortStrings, mem_dedup, mem_map] at candidate
    obtain ⟨defn, listed, named⟩ := candidate
    obtain ⟨mem, placeable⟩ := mem_filter.mp listed
    exact ⟨run, defn, mem, placeable, named⟩

/-- The plan has one home for each name. -/
theorem homeOf_of_mem {home : Home} (mem : (name, home) ∈ plan.home) :
    plan.homeOf name = some home := by
  have spec := (computePlacement_ok placed).2
  obtain ⟨found, same⟩ : ∃ found, plan.homeOf name = some found :=
    Option.isSome_iff_exists.mp (lookup_isSome_iff.mpr ⟨_, mem, beq_self_eq_true _⟩)
  have computed := (spec name found same).1
  unfold computePlacement at placed
  dsimp only at placed
  obtain ⟨(homes : List (String × Home)), run, placed⟩ := bind_eq_ok.mp placed
  obtain rfl := pure_eq_ok.mp placed
  obtain ⟨key, _, entry⟩ := mem_of_mapM run mem
  obtain ⟨other, again, equal⟩ := bind_eq_ok.mp entry
  simp only [pure_eq_ok, Prod.mk.injEq] at equal
  obtain ⟨sameName, sameHome⟩ := equal
  subst sameName sameHome
  rw [again] at computed
  cases computed
  exact same

variable {other : Home}

theorem home_of_mem {owner : String} (mem : owner ∈ reachingMessages ir name)
    (target : plan.homeOf name = some other) : other = .types ∨ other = .message owner := by
  have computed := ((computePlacement_ok placed).2 _ _ target).1
  rcases computeHome_of_mem mem with types | own
  · rw [types] at computed
    cases computed
    exact .inl rfl
  · rw [own] at computed
    cases computed
    exact .inr rfl

variable (consistent : ir.Consistent)
include consistent

/-- The home of an entry of the index. -/
theorem homeOf_iff (mem : defn ∈ ir.defns) :
    plan.homeOf defn.name = some other <->
      defn.placeable ∧ computeHome ir defn.name = .ok other := by
  constructor
  · intro there
    obtain ⟨computed, entry, listed, placeable, named⟩ := (computePlacement_ok placed).2 _ _ there
    exact ⟨inj_on_of_nodup_map consistent.distinct listed mem named ▸ placeable, computed⟩
  · rintro ⟨placeable, computed⟩
    obtain ⟨home, there⟩ := (computePlacement_ok placed).1 defn mem placeable
    have same := ((computePlacement_ok placed).2 _ _ there).1
    rwa [Except.ok.inj (same.symm.trans computed)] at there

/-- A reference leads to the reserved definition or to a home. -/
theorem home_of_reference (mem : defn ∈ ir.defns)
    (named : name ∈ defn.references) :
    ∃ target, target ∈ ir.defns ∧ target.name = name ∧ target.kind ≠ .root ∧
      (target.reserved = true ∨ ∃ home, plan.homeOf name = some home) := by
  obtain ⟨target, listed, targetName, notRoot⟩ := consistent.referred defn mem name named
  refine ⟨target, listed, targetName, notRoot, ?_⟩
  by_cases reserved : target.reserved = true
  · exact .inl reserved
  · have placeable : target.placeable := by simp [Definition.placeable, notRoot, reserved]
    exact .inr (targetName ▸ (computePlacement_ok placed).1 target listed placeable)

/-- A definition of the types file refers to definitions of the types file. -/
theorem home_of_types (mem : defn ∈ ir.defns)
    (home : plan.homeOf defn.name = some .types) (named : name ∈ defn.references)
    (target : plan.homeOf name = some other) : other = .types := by
  have several := computeHome_types_length ((computePlacement_ok placed).2 _ _ home).1
  have more := Nat.le_trans several (reachingMessages_sublist consistent mem named).length_le
  have computed := ((computePlacement_ok placed).2 _ _ target).1
  rw [computeHome_types more] at computed
  cases computed
  rfl

/-- A definition of the file of a message refers to definitions of that file or
of the types file. -/
theorem home_of_message (mem : defn ∈ ir.defns) {owner : String}
    (home : plan.homeOf defn.name = some (.message owner))
    (named : name ∈ defn.references) (target : plan.homeOf name = some other) :
    other = .types ∨ other = .message owner := by
  have single := computeHome_message.mp ((computePlacement_ok placed).2 _ _ home).1
  have included := (reachingMessages_sublist consistent mem named).subset
    (single ▸ mem_singleton_self owner)
  exact home_of_mem placed included target

end Homes

end Codegen
end OcppGo
