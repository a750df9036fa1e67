import OcppGo.Codegen.Cycles
import OcppGo.Codegen.Emit

namespace OcppGo
namespace Codegen

open OcppGo.Sequential List

/-!
# Emitted references resolve

Every generated name in a field or a constructor of an emitted file is declared
in a file of the same package, or in the shared types file with the qualifier in
front of it.  The argument follows one name from the property it is written for:
the definition the property refers to has a home, the file of that home declares
the name, and the home is the types file or the file that uses it.
-/

/-! ## The names a type is built from -/

/-- No generated name stands in the type. -/
def GoType.Plain (goType : GoType) : Prop :=
  ∀ name, Token.generated name ∉ goType

variable {goType : GoType}

theorem GoType.Plain.references (plain : goType.Plain) : goType.references = [] := by
  fun_induction GoType.references goType with
  | case1 => rfl
  | case2 name rest => exact absurd (by simp) (plain name)
  | case3 name rest => exact absurd mem_cons_self (plain name)
  | case4 token rest _ _ ih =>
    exact ih fun name mem => plain name (mem_cons_of_mem _ mem)

theorem GoType.Plain.qualified (plain : goType.Plain) :
    GoType.Plain (qualifyBareTypeName goType) := by
  intro name mem
  refine plain name ?_
  unfold qualifyBareTypeName at mem
  split at mem
  all_goals simpa using mem

theorem GoType.Plain.unqualified (plain : goType.Plain) : GoType.Plain goType.unqualified :=
  fun name mem => plain name (mem_of_mem_filter mem)

/-- A type that names one generated type, bare, by pointer or as elements. -/
inductive GoType.Names (goName : String) : GoType -> Prop where
  | bare : Names goName [.generated goName]
  | pointer : Names goName [.star, .generated goName]
  | slice : Names goName [.brackets, .generated goName]

theorem GoType.Names.references {goName : String} (names : goType.Names goName) :
    goType.references = [⟨false, goName⟩] ∧ goType.unqualified = goType ∧
      GoType.references (qualifyBareTypeName goType) = [⟨true, goName⟩] := by
  cases names with
  | _ => exact ⟨rfl, rfl, rfl⟩

variable {name : String}

section Fields

variable {ir : IR} {config : TransformConfig}

/-- The definition whose Go name is written in the type of a property. -/
def Property.named (property : Property) : Option String :=
  if property.facets.untyped ∨ property.facets.format = "date-time" then none
  else property.refName

/-- The type names the Go type of the definition, unless that is the reserved one. -/
def NamesTarget (ir : IR) (config : TransformConfig) (name : String) (goType : GoType) : Prop :=
  ∃ target, findDefinitionByName ir.defns name = some target ∧
    (target.reserved = true ∧ goType.Plain ∨
      ∃ goName, (target.reserved = false ∨ target.kind = .enum) ∧
        transformIdentifier config name target.kind = .ok goName ∧ goType.Names goName)

variable {facets : Facets}

/-- What the reader left in a reference, in terms of the entry it names. -/
theorem resolved_target (resolved : facets.Resolved ir.kindOf) (written : facets.ref ≠ "")
    (notRoot : ∀ target, findDefinitionByName ir.defns (refTargetName facets.ref) = some
      target -> target.kind ≠ .root) :
    ∃ target, findDefinitionByName ir.defns (refTargetName facets.ref) = some target ∧
      target.name = refTargetName facets.ref ∧
      (facets.enumDefinition ≠ "" ->
        target.kind = .enum ∧ facets.enumDefinition = refTargetName facets.ref) ∧
      (¬ facets.enumDefinition ≠ "" -> target.kind = .object) := by
  obtain ⟨nonempty, kind, known, enumDefinition⟩ := resolved.target written
  obtain ⟨target, found, same⟩ := Option.map_eq_some_iff.mp known
  refine ⟨target, found, (findDefinitionByName_ok found).2, ?_, ?_⟩
  · intro isWritten
    by_cases isEnum : kind = .enum
    · rw [if_pos isEnum] at enumDefinition
      exact ⟨same.trans isEnum, enumDefinition⟩
    · rw [if_neg isEnum] at enumDefinition
      exact absurd enumDefinition isWritten
  · intro empty
    cases isKind : target.kind with
    | object => rfl
    | enum =>
      rw [← same, if_pos isKind] at enumDefinition
      exact absurd (enumDefinition.symm.trans (not_not.mp empty)) nonempty
    | root => exact absurd isKind (notRoot target found)

theorem mapNumericType_plain {base : Builtin} : (mapNumericType base facets).Plain := by
  intro name
  unfold mapNumericType
  repeat' split
  all_goals simp

theorem mapRefType_ok (resolved : facets.Resolved ir.kindOf) (written : facets.ref ≠ "")
    (notRoot : ∀ target, findDefinitionByName ir.defns (refTargetName facets.ref) = some
      target -> target.kind ≠ .root) (mapped : mapRefType ir.defns config facets = .ok goType)
    : NamesTarget ir config (refTargetName facets.ref) goType := by
  obtain ⟨target, found, named, whenEnum, whenObject⟩ := resolved_target resolved written notRoot
  unfold mapRefType at mapped
  split at mapped
  next isWritten =>
    obtain ⟨goName, computed, mapped⟩ := bind_eq_ok.mp mapped
    obtain rfl := pure_eq_ok.mp mapped
    obtain ⟨kind, same⟩ := whenEnum isWritten
    exact ⟨target, found, .inr ⟨goName, .inr kind, by rw [kind, ← same, computed], .bare⟩⟩
  next empty =>
    rw [found] at mapped
    dsimp only at mapped
    split at mapped
    next reserved =>
      cases mapped
      exact ⟨target, found, .inl ⟨reserved, fun name => by simp⟩⟩
    next free =>
      obtain ⟨goName, computed, mapped⟩ := bind_eq_ok.mp mapped
      obtain rfl := pure_eq_ok.mp mapped
      refine ⟨target, found, .inr ⟨goName, .inl (by simpa using free), ?_, ?_⟩⟩
      · rw [whenObject empty, ← named, computed]
      · split
        · exact .bare
        · exact .pointer

theorem mapArrayElementType_ok {item : Facets} (resolved : item.Resolved ir.kindOf)
    (notRoot : item.ref ≠ "" -> ∀ target, findDefinitionByName ir.defns (refTargetName
      item.ref) = some target -> target.kind ≠ .root)
    (mapped : mapArrayElementType ir.defns config item = .ok goType) :
    item.ref = "" ∧ goType.Plain ∨ item.ref ≠ "" ∧
      NamesTarget ir config (refTargetName item.ref) (.brackets :: goType) := by
  unfold mapArrayElementType at mapped
  by_cases written : item.ref = ""
  · -- without a reference the element is a scalar or a date
    rw [if_neg (not_not.mpr (resolved.plain written)), if_neg (not_not.mpr written)] at mapped
    refine .inl ⟨written, fun name => ?_⟩
    split_ifs at mapped
    all_goals
      cases mapped
      try simp
  · obtain ⟨target, found, named, whenEnum, whenObject⟩ :=
      resolved_target resolved written (notRoot written)
    rw [if_pos written] at mapped
    split at mapped
    next isWritten =>
      obtain ⟨goName, computed, mapped⟩ := bind_eq_ok.mp mapped
      obtain rfl := pure_eq_ok.mp mapped
      obtain ⟨kind, same⟩ := whenEnum isWritten
      exact .inr ⟨written, target, found, .inr ⟨goName, .inr kind,
        by rw [kind, ← same, computed], .slice⟩⟩
    next empty =>
      rw [found] at mapped
      dsimp only at mapped
      split at mapped
      next reserved =>
        cases mapped
        exact .inr ⟨written, target, found, .inl ⟨reserved, fun name => by simp⟩⟩
      next free =>
        obtain ⟨goName, computed, mapped⟩ := bind_eq_ok.mp mapped
        obtain rfl := pure_eq_ok.mp mapped
        exact .inr ⟨written, target, found, .inr ⟨goName, .inl (by simpa using free),
          by rw [whenObject empty, ← named, computed], .slice⟩⟩

variable {property : Property}

theorem Property.refName_of_named (property : Property) (named : property.named = some name) :
    property.refName = some name := by
  unfold Property.named at named
  split at named
  · cases named
  · exact named

/-- The definition a property refers to is among its references. -/
theorem refName_mem (found : property.refName = some name) : name ∈ property.references := by
  have own : ∀ facets : Facets, facets.ref ≠ "" ->
      refTargetName facets.ref ∈ facets.references := by
    intro facets written
    rw [Facets.references, if_neg written]
    exact mem_singleton_self _
  unfold Property.refName at found
  split at found
  next written =>
    cases found
    exact property.facets_references (own property.facets written)
  next =>
    split at found
    next =>
      split at found
      next item has =>
        split at found
        next written =>
          cases found
          exact Property.items_references has (item.facets_references (own item.facets written))
        next => cases found
      next => cases found
    next => cases found

theorem named_mem {defn : Definition} (listed : property ∈ defn.properties)
    (named : property.named = some name) : name ∈ defn.references :=
  mem_flatMap.mpr ⟨property, listed, refName_mem (property.refName_of_named named)⟩

variable {kindOf : String -> Option DefinitionKind}

/-- The own facets of a resolved property, and those of its elements. -/
theorem Property.Resolved.own (resolved : property.Resolved kindOf) :
    property.facets.Resolved kindOf := by
  cases resolved with
  | single here => exact here
  | listed here _ _ => exact here

theorem Property.Resolved.element {items : Property} (resolved : property.Resolved kindOf)
    (has : property.items = some items) : items.facets.Resolved kindOf := by
  cases resolved with
  | single here => cases has
  | listed _ _ elements =>
    cases has
    exact elements.own

theorem mapGoType_ok (resolved : property.Resolved ir.kindOf)
    (notRoot : ∀ name, name ∈ property.references -> ∀ target, findDefinitionByName
      ir.defns name = some target -> target.kind ≠ .root)
    (mapped : mapGoType ir.defns config property = .ok goType) :
    property.named = none ∧ goType.Plain ∨
      ∃ name, property.named = some name ∧ NamesTarget ir config name goType := by
  unfold mapGoType at mapped
  dsimp only at mapped
  split at mapped
  next untyped => cases mapped; exact .inl ⟨if_pos (.inl untyped), fun name => by simp⟩
  next typed =>
    split at mapped
    next date => cases mapped; exact .inl ⟨if_pos (.inr date), fun name => by simp⟩
    next other =>
      rw [Property.named, if_neg (not_or.mpr ⟨typed, other⟩)]
      split at mapped
      next written =>
        have found : property.refName = some (refTargetName property.facets.ref) := by
          rw [Property.refName, if_pos written]
        exact .inr ⟨_, found, mapRefType_ok resolved.own written
          (notRoot _ (refName_mem found)) mapped⟩
      next unwritten =>
        split at mapped
        next isArray =>
          unfold mapArrayType at mapped
          split at mapped
          next => cases mapped
          next item has =>
            obtain ⟨element, computed, mapped⟩ := bind_eq_ok.mp mapped
            obtain rfl := pure_eq_ok.mp mapped
            have found : property.refName = if item.facets.ref ≠ "" then
                some (refTargetName item.facets.ref) else none := by
              simp [Property.refName, not_not.mp unwritten, isArray, has]
            rcases mapArrayElementType_ok (resolved.element has)
              (fun written => notRoot _ (refName_mem (found.trans (if_pos written)))) computed with
              ⟨empty, plain⟩ | ⟨written, names⟩
            · refine .inl ⟨found.trans (if_neg (not_not.mpr empty)), fun name mem => plain name ?_⟩
              simpa using mem
            · exact .inr ⟨_, found.trans (if_pos written), names⟩
        next scalar =>
          refine .inl ⟨?_, fun name => ?_⟩
          · rw [Property.refName, if_neg unwritten, if_neg scalar]
          split_ifs at mapped
          all_goals cases mapped
          · exact mapNumericType_plain name
          · exact mapNumericType_plain name
          all_goals simp

end Fields

/-! ## Where a reference leads -/

variable {declaration : Declaration}

section Leading

variable {strconv : Strconv} {ir : IR} {plan : PlacementPlan} {options : EmitterOptions}

/-- A reference written for a property of the definition: it names the Go type
of a placed definition, and it is qualified when that is in the types file and
the using file is not. -/
def Leads (ir : IR) (plan : PlacementPlan) (config : TransformConfig) (context : PackageContext)
    (defn : Definition) (reference : Reference) : Prop :=
  ∃ property name target home, property ∈ defn.properties ∧ property.named = some name ∧
    findDefinitionByName ir.defns name = some target ∧ target.kind ≠ .root ∧
    plan.homeOf name = some home ∧ transformIdentifier config name target.kind = .ok reference.name ∧
    reference.qualified = (!context.inTypes && decide (home = .types))

/-- The entry of the name is the reserved definition. -/
def IsReserved (ir : IR) (name : String) : Prop :=
  ∃ target, findDefinitionByName ir.defns name = some target ∧ target.reserved = true

/-- No type of a property of the definition names the reserved one, as it would an enum. -/
def Definition.Free (ir : IR) (defn : Definition) : Prop :=
  ∀ property, property ∈ defn.properties -> ∀ name target, property.named = some name ->
    findDefinitionByName ir.defns name = some target -> target.reserved = true ->
      target.kind ≠ .enum

variable {property : Property} {context : PackageContext}

theorem qualifyFor_references {goName : String} {home : Home} (names : goType.Names goName)
    (found : property.refName = some name) (placed : plan.homeOf name = some home) :
    GoType.references (qualifyFor plan context property goType) =
      [⟨!context.inTypes && decide (home = .types), goName⟩] := by
  obtain ⟨bare, unqualified, qualified⟩ := names.references
  unfold qualifyFor
  rw [found, Option.bind_some, placed]
  by_cases inTypes : context.inTypes = true
  · rw [if_pos inTypes, unqualified, bare, inTypes, Bool.not_true, Bool.false_and]
  · rw [if_neg inTypes]
    simp only [Bool.not_eq_true] at inTypes
    by_cases shared : home = .types
    · rw [shared, if_pos rfl, qualified, inTypes]
      rfl
    · have apart : some home ≠ some Home.types := fun same => shared (Option.some.inj same)
      rw [if_neg apart, bare, inTypes, decide_eq_false shared]
      rfl

theorem qualifyFor_plain (plain : goType.Plain) :
    GoType.references (qualifyFor plan context property goType) = [] := by
  unfold qualifyFor
  split
  · exact plain.unqualified.references
  · split
    · exact plain.qualified.references
    · exact plain.references

variable {defn : Definition}

section

variable (consistent : ir.Consistent) (placed : computePlacement ir = .ok plan)
  (free : defn.Free ir) (mem : defn ∈ ir.defns)
include consistent placed free mem

/-- The type of a field is written without a generated name, or with that of a definition that has
a home. -/
theorem field_references (listed : property ∈ defn.properties) {field : FieldMapping} (mapped :
    qualifiedFieldMapping strconv ir plan options defn context property = .ok field) :
    field.goType.references = [] ∧ (∀ name, property.named = some name -> IsReserved ir name) ∨
      ∃ name target home goName, property.named = some name ∧
        findDefinitionByName ir.defns name = some target ∧ target.kind ≠ .root ∧
        plan.homeOf name = some home ∧
        transformIdentifier options.transform name target.kind = .ok goName ∧
        field.goType.references = [⟨!context.inTypes && decide (home = .types), goName⟩] := by
  obtain ⟨mapping, computed, mapped⟩ := bind_eq_ok.mp mapped
  obtain rfl := pure_eq_ok.mp mapped
  unfold mapProperty at computed
  dsimp only at computed
  simp only [bind_eq_ok] at computed
  obtain ⟨fieldName, _, goType, typed, _, _, _, _, computed⟩ := computed
  obtain rfl := pure_eq_ok.mp computed
  dsimp only
  rw [mapError_eq_ok] at typed
  have within : ∀ name, name ∈ property.references -> name ∈ defn.references :=
    fun name named => mem_flatMap.mpr ⟨property, listed, named⟩
  -- the entry of a reference is the one the placement speaks about
  have entry : ∀ name, name ∈ property.references -> ∀ target,
      findDefinitionByName ir.defns name = some target -> target.kind ≠ .root ∧
        (target.reserved = true ∨ ∃ home, plan.homeOf name = some home) := by
    intro name named target found
    obtain ⟨other, stands, otherName, notRoot, home⟩ :=
      home_of_reference placed consistent mem (within name named)
    have same := findDefinitionByName_eq consistent.distinct stands
    rw [otherName, found, Option.some.injEq] at same
    subst same
    exact ⟨notRoot, home⟩
  rcases mapGoType_ok (consistent.resolved defn mem property listed)
    (fun name named target found => (entry name named target found).1) typed with
    ⟨none, plain⟩ | ⟨name, named, target, found,
      ⟨reserved, plain⟩ | ⟨goName, usable, transformed, names⟩⟩
  · exact .inl ⟨qualifyFor_plain plain, fun name named => by cases none.symm.trans named⟩
  · refine .inl ⟨qualifyFor_plain plain, fun other same => ?_⟩
    cases named.symm.trans same
    exact ⟨target, found, reserved⟩
  · have refName := property.refName_of_named named
    obtain ⟨notRoot, reserved | ⟨home, there⟩⟩ := entry name (refName_mem refName) target found
    · rcases usable with other | isEnum
      · cases other.symm.trans reserved
      · exact absurd isEnum (free property listed name target named found reserved)
    · exact .inr ⟨name, target, home, goName, named, found, notRoot, there, transformed,
        qualifyFor_references names refName there⟩

theorem field_leads (listed : property ∈ defn.properties) {field : FieldMapping} (mapped :
    qualifiedFieldMapping strconv ir plan options defn context property = .ok field) :
    ∀ reference, reference ∈ field.goType.references ->
      Leads ir plan options.transform context defn reference := by
  intro reference used
  rcases field_references consistent placed free mem listed mapped with ⟨none, _⟩ |
    ⟨name, target, home, goName, named, found, notRoot, there, transformed, single⟩
  · rw [none] at used
    cases used
  · rw [single, mem_singleton] at used
    subst used
    exact ⟨property, name, target, home, listed, named, found, notRoot, there, transformed, rfl⟩

theorem structBody_leads {structName : String}
    (rendered : structBody strconv ir plan options structName defn context = .ok declaration) :
    declaration.declares = [structName] ∧ ∀ reference, reference ∈ declaration.uses ->
      Leads ir plan options.transform context defn reference := by
  obtain ⟨fields, mapped, rendered⟩ := bind_eq_ok.mp rendered
  obtain rfl := pure_eq_ok.mp rendered
  refine ⟨rfl, fun reference used => ?_⟩
  obtain ⟨field, found, used⟩ := mem_flatMap.mp used
  obtain ⟨property, listed, computed⟩ := mem_of_mapM mapped found
  exact field_leads consistent placed free mem listed computed reference used

theorem renderConstructor_leads {structName : String} {returnsPointer : Bool}
    (rendered : renderConstructor strconv ir plan options structName defn context
      returnsPointer = .ok declaration) :
    declaration.declares = [] ∧ ∀ reference, reference ∈ declaration.uses ->
      Leads ir plan options.transform context defn reference ∨
        reference = ⟨false, structName⟩ := by
  obtain ⟨fields, mapped, rendered⟩ := bind_eq_ok.mp rendered
  obtain rfl := pure_eq_ok.mp rendered
  refine ⟨rfl, fun reference used => ?_⟩
  rcases mem_append.mp used with parameter | result
  · obtain ⟨entry, found, used⟩ := mem_flatMap.mp parameter
    obtain ⟨field, built, same⟩ := mem_map.mp found
    subst same
    obtain ⟨property, listed, computed⟩ := mem_of_mapM mapped built
    exact .inl (field_leads consistent placed free mem (mem_of_mem_filter listed) computed
      reference used)
  · exact .inr (mem_singleton.mp result)

end

end Leading

/-! ## What the files declare and use -/

variable {message : ManifestMessage}

section Files

variable {strconv : Strconv} {ir : IR} {plan : PlacementPlan} {options : EmitterOptions}

/-- The types a list of declarations declares. -/
def declaredTypes (declarations : List Declaration) : List String :=
  declarations.flatMap Declaration.declares

/-- The generated names a list of declarations uses. -/
def usedNames (declarations : List Declaration) : List Reference :=
  declarations.flatMap Declaration.uses

/-- The placed items of a file are exactly the definitions with that home, of
the kind that was asked for. -/
theorem localPlacedDefinitions_ok (placed : computePlacement ir = .ok plan) {file : Home}
    {kind : DefinitionKind} {items : List PlacedItem}
    (run : localPlacedDefinitions ir plan options file kind = .ok items) :
    (∀ item, item ∈ items -> item.defn ∈ ir.defns ∧ item.defn.kind = kind ∧
      plan.homeOf item.defn.name = some file) ∧
    (∀ name target, plan.homeOf name = some file ->
      findDefinitionByName ir.defns name = some target -> target.kind = kind ->
        ∃ item, item ∈ items ∧ item.defn = target ∧
          transformIdentifier options.transform name kind = .ok item.goName) := by
  obtain ⟨found, mapped, sorted⟩ := bind_eq_ok.mp run
  obtain rfl := pure_eq_ok.mp sorted
  constructor
  · intro item mem
    obtain ⟨option, listed, same⟩ := mem_filterMap.mp ((mem_insertionSort _).mp mem)
    obtain rfl := same
    obtain ⟨⟨name, home⟩, entry, computed⟩ := mem_of_mapM mapped listed
    obtain ⟨stands, there⟩ := mem_filter.mp entry
    dsimp only at computed there
    split at computed
    next => cases computed
    next defn isFound =>
      obtain ⟨inIndex, named⟩ := findDefinitionByName_ok isFound
      split at computed
      next => cases computed
      next isKind =>
        obtain ⟨goName, _, computed⟩ := bind_eq_ok.mp computed
        simp only [pure_eq_ok, Option.some.injEq] at computed
        subst computed
        have home := homeOf_of_mem placed stands
        rw [of_decide_eq_true there] at home
        exact ⟨inIndex, not_not.mp isKind, named.symm ▸ home⟩
  · intro name target home isFound isKind
    have entry : (name, file) ∈ plan.home.filter fun entry => entry.2 = file :=
      mem_filter.mpr ⟨mem_of_lookup home, by simp⟩
    obtain ⟨option, listed, computed⟩ := exists_of_mapM mapped entry
    dsimp only at computed
    rw [isFound] at computed
    dsimp only at computed
    rw [if_neg (not_not.mpr isKind), (findDefinitionByName_ok isFound).2] at computed
    obtain ⟨goName, transformed, computed⟩ := bind_eq_ok.mp computed
    cases computed
    exact ⟨⟨target, goName⟩, (mem_insertionSort _).mpr
      (mem_filterMap.mpr ⟨_, listed, rfl⟩), rfl, transformed⟩

/-- The definitions rendered in a file are placed there or are its roots. -/
def RenderedIn (ir : IR) (plan : PlacementPlan) (roots : List String) (file : Home)
    (defn : Definition) : Prop :=
  defn ∈ ir.defns ∧
    (plan.homeOf defn.name = some file ∨ defn.name ∈ roots)

/-- What is known of the declarations of one file. -/
structure Accounted (ir : IR) (plan : PlacementPlan) (config : TransformConfig)
    (roots : List String) (file : Home) (context : PackageContext) (declarations : List Declaration)
    : Prop where
  declared : ∀ name target goName, plan.homeOf name = some file ->
    findDefinitionByName ir.defns name = some target -> target.kind ≠ .root ->
    transformIdentifier config name target.kind = .ok goName -> goName ∈ declaredTypes declarations
  used : ∀ reference, reference ∈ usedNames declarations ->
    (∃ defn, RenderedIn ir plan roots file defn ∧
      Leads ir plan config context defn reference) ∨
    (reference.qualified = false ∧ reference.name ∈ declaredTypes declarations)

variable {declarations : List Declaration}

theorem mem_declaredTypes (mem : declaration ∈ declarations)
    (declares : name ∈ declaration.declares) : name ∈ declaredTypes declarations :=
  mem_flatMap.mpr ⟨declaration, mem, declares⟩

theorem usedNames_append (first second : List Declaration) :
    usedNames (first ++ second) = usedNames first ++ usedNames second :=
  flatMap_append

theorem declaredTypes_append (first second : List Declaration) :
    declaredTypes (first ++ second) = declaredTypes first ++ declaredTypes second :=
  flatMap_append

/-- The registration of the enums declares and uses no type. -/
theorem registrations_ok {qualified : Bool} {enums : List PlacedItem}
    (run : registrations options qualified enums = .ok declarations) :
    usedNames declarations = [] := by
  unfold registrations at run
  split at run
  · cases run
    rfl
  · obtain ⟨entries, _, run⟩ := bind_eq_ok.mp run
    obtain rfl := pure_eq_ok.mp run
    rfl

theorem renderPlacedItem_ok (consistent : ir.Consistent) (placed : computePlacement ir = .ok plan)
    {item : PlacedItem} (free : item.defn.Free ir) (mem : item.defn ∈ ir.defns)
    {piece : List Declaration}
    (rendered : renderPlacedItem strconv ir plan options item = .ok piece) :
    item.goName ∈ declaredTypes piece ∧ ∀ reference, reference ∈ usedNames piece ->
      Leads ir plan options.transform ⟨true⟩ item.defn reference ∨
        reference = ⟨false, item.goName⟩ := by
  unfold renderPlacedItem at rendered
  split at rendered
  next =>
    cases rendered
    refine ⟨mem_declaredTypes mem_cons_self (mem_singleton_self _), ?_⟩
    intro reference used
    simp [usedNames, buildEnumDeclaration, buildIsValidFunc, Declaration.uses] at used
  next =>
    obtain ⟨body, first, rendered⟩ := bind_eq_ok.mp rendered
    obtain ⟨construct, second, rendered⟩ := bind_eq_ok.mp rendered
    obtain rfl := pure_eq_ok.mp rendered
    obtain ⟨declares, bodyLeads⟩ :=
      structBody_leads consistent placed free mem first
    obtain ⟨_, constructLeads⟩ :=
      renderConstructor_leads consistent placed free mem second
    refine ⟨mem_declaredTypes mem_cons_self (by simp [declares]), ?_⟩
    intro reference used
    simp only [usedNames, flatMap_cons, flatMap_nil, append_nil,
      mem_append] at used
    rcases used with inBody | inConstruct
    · exact .inl (bodyLeads reference inBody)
    · exact constructLeads reference inConstruct

/-- The steps of the shared types file. -/
structure TypesParts (strconv : Strconv) (ir : IR) (plan : PlacementPlan) (options : EmitterOptions)
    (body : List Declaration) where
  objects : List PlacedItem
  enums : List PlacedItem
  items : List PlacedItem
  bodies : List (List Declaration)
  registered : List Declaration
  localObjects : localPlacedDefinitions ir plan options .types .object = .ok objects
  localEnums : localPlacedDefinitions ir plan options .types .enum = .ok enums
  sorted : items.Perm (objects ++ enums)
  rendered : items.mapM (renderPlacedItem strconv ir plan options) = .ok bodies
  registers : registrations options false
    (items.filter fun item => item.defn.kind = .enum) = .ok registered
  same : body = bodies.flatten ++ registered

variable {body : List Declaration}

theorem renderTypesFileBody_parts
    (rendered : renderTypesFileBody strconv ir plan options = .ok body) :
    Nonempty (TypesParts strconv ir plan options body) := by
  unfold renderTypesFileBody at rendered
  dsimp only at rendered
  simp only [bind_eq_ok] at rendered
  obtain ⟨objects, localObjects, enums, localEnums, bodies, mapped, registered, registers,
    rendered⟩ := rendered
  simp only [pure_eq_ok] at rendered
  exact ⟨⟨objects, enums, _, bodies, registered, mapError_eq_ok.mp localObjects,
    mapError_eq_ok.mp localEnums, perm_insertionSort _ _, mapM_mapError.mp mapped,
    mapError_eq_ok.mp registers, rendered.symm⟩⟩

theorem renderTypesFileBody_ok (consistent : ir.Consistent)
    (placed : computePlacement ir = .ok plan)
    (free : ∀ defn, RenderedIn ir plan [] .types defn -> defn.Free ir)
    (rendered : renderTypesFileBody strconv ir plan options = .ok body) :
    Accounted ir plan options.transform [] .types ⟨true⟩ body := by
  obtain ⟨objects, enums, sortedItems, bodies, registered, localObjects, localEnums, sorted, mapped,
    registers, rfl⟩ := renderTypesFileBody_parts rendered
  obtain ⟨objectsHome, objectsAll⟩ := localPlacedDefinitions_ok placed localObjects
  obtain ⟨enumsHome, enumsAll⟩ := localPlacedDefinitions_ok placed localEnums
  have items : ∀ item, item ∈ sortedItems <-> item ∈ objects ∨ item ∈ enums := by
    intro item
    rw [sorted.mem_iff, mem_append]
  have home : ∀ item, item ∈ objects ∨ item ∈ enums -> item.defn ∈ ir.defns ∧
      plan.homeOf item.defn.name = some .types := by
    rintro item (isObject | isEnum)
    · exact ⟨(objectsHome item isObject).1, (objectsHome item isObject).2.2⟩
    · exact ⟨(enumsHome item isEnum).1, (enumsHome item isEnum).2.2⟩
  have frees : ∀ item, item ∈ objects ∨ item ∈ enums -> item.defn.Free ir := fun item mem =>
    free _ ⟨(home item mem).1, .inl (home item mem).2⟩
  have declares : ∀ item, item ∈ objects ∨ item ∈ enums ->
      item.goName ∈ declaredTypes (bodies.flatten ++ registered) := by
    intro item mem
    obtain ⟨piece, listed, computed⟩ := exists_of_mapM mapped ((items item).mpr mem)
    have declared := (renderPlacedItem_ok consistent placed (frees item mem) (home item mem).1
      computed).1
    rw [declaredTypes_append]
    obtain ⟨declaration, inPiece, declares⟩ := mem_flatMap.mp declared
    exact mem_append_left _
      (mem_declaredTypes (mem_flatten.mpr ⟨piece, listed, inPiece⟩) declares)
  refine ⟨?_, ?_⟩
  · intro name target goName there found notRoot transformed
    cases kind : target.kind with
    | root => exact absurd kind notRoot
    | object =>
      rw [kind] at transformed
      obtain ⟨item, mem, _, same⟩ := objectsAll name target there found kind
      cases transformed.symm.trans same
      exact declares item (.inl mem)
    | enum =>
      rw [kind] at transformed
      obtain ⟨item, mem, _, same⟩ := enumsAll name target there found kind
      cases transformed.symm.trans same
      exact declares item (.inr mem)
  · intro reference used
    rw [usedNames_append, registrations_ok registers, append_nil] at used
    obtain ⟨declaration, listed, used⟩ := mem_flatMap.mp used
    obtain ⟨piece, inBodies, inPiece⟩ := mem_flatten.mp listed
    obtain ⟨item, mem, computed⟩ := mem_of_mapM mapped inBodies
    have isItem := (items item).mp mem
    rcases (renderPlacedItem_ok consistent placed (frees item isItem) (home item isItem).1 computed).2
      reference (mem_flatMap.mpr ⟨declaration, inPiece, used⟩) with leads | own
    · exact .inl ⟨item.defn, ⟨(home item isItem).1, .inl (home item isItem).2⟩, leads⟩
    · subst own
      exact .inr ⟨rfl, declares item isItem⟩

theorem findRoot_ok {message role rootName : String} {root : Definition}
    (found : findRoot ir message role rootName = .ok root) :
    root ∈ ir.defns ∧ root.name = rootName := by
  unfold findRoot at found
  split at found
  next isFound =>
    cases found
    exact findDefinitionByName_ok isFound
  next => cases found

/-- The names of the two roots a message file renders. -/
def rootNames (message : ManifestMessage) : List String :=
  [message.name ++ "Request", message.name ++ "Response"]

/-- The enums of a message file are declared there and use no generated name. -/
theorem enumDeclarations_ok (enums : List PlacedItem) :
    usedNames (enumDeclarations options enums) = [] ∧ ∀ item, item ∈ enums ->
      item.goName ∈ declaredTypes (enumDeclarations options enums) := by
  constructor
  · refine flatMap_eq_nil_iff.mpr fun declaration mem => ?_
    simp only [enumDeclarations, mem_append, mem_map] at mem
    rcases mem with (⟨item, _, same⟩ | isConstants) | ⟨item, _, same⟩
    · subst same
      rfl
    · split at isConstants
      · cases isConstants
      · rw [mem_singleton.mp isConstants]
        rfl
    · subst same
      rfl
  · intro item mem
    have listed : Declaration.enumType item.goName ∈ enumDeclarations options enums :=
      mem_append_left _ (mem_append_left _ (mem_map.mpr ⟨item, mem, rfl⟩))
    exact mem_declaredTypes listed (mem_singleton_self _)

/-- The steps of a message file. -/
structure MessageParts (strconv : Strconv) (ir : IR) (plan : PlacementPlan)
    (options : EmitterOptions) (message : ManifestMessage) (body : List Declaration) where
  requestRoot : Definition
  responseRoot : Definition
  enums : List PlacedItem
  objects : List PlacedItem
  bodies : List Declaration
  constructors : List Declaration
  registered : List Declaration
  isRequest : findRoot ir message.name "request" (message.name ++ "Request") = .ok requestRoot
  isResponse : findRoot ir message.name "response" (message.name ++ "Response") = .ok responseRoot
  localEnums : localPlacedDefinitions ir plan options (.message message.name) .enum = .ok enums
  localObjects : localPlacedDefinitions ir plan options (.message message.name) .object =
    .ok objects
  rendered : (messageStructs ir message objects requestRoot responseRoot).mapM (fun entry =>
    structBody strconv ir plan options entry.1.goName entry.1.defn ⟨false⟩) = .ok bodies
  constructed : (messageStructs ir message objects requestRoot responseRoot).mapM (fun entry =>
    renderConstructor strconv ir plan options entry.1.goName entry.1.defn ⟨false⟩ entry.2) =
      .ok constructors
  registers : registrations options true enums = .ok registered
  same : body = [.banner (splitToPhrase options.transform.unicode message.name)
      (formatBannerDirection message.direction), .featureName message.name] ++
    enumDeclarations options enums ++ bodies ++
    [.feature message.name (message.name ++ "Request") (message.name ++ "Response")] ++
    constructors ++ registered

theorem renderMessageBody_parts
    (rendered : renderMessageBody strconv ir plan options message = .ok body) :
    Nonempty (MessageParts strconv ir plan options message body) := by
  unfold renderMessageBody at rendered
  dsimp only at rendered
  simp only [bind_eq_ok] at rendered
  obtain ⟨requestRoot, isRequest, responseRoot, isResponse, enums, localEnums, objects,
    localObjects, bodies, mapped, constructors, constructed, registered, registers, rendered⟩ :=
    rendered
  simp only [pure_eq_ok] at rendered
  exact ⟨⟨requestRoot, responseRoot, enums, objects, bodies, constructors, registered, isRequest,
    isResponse, mapError_eq_ok.mp localEnums, mapError_eq_ok.mp localObjects,
    mapM_mapError.mp mapped, mapM_mapError.mp constructed, mapError_eq_ok.mp registers,
    rendered.symm⟩⟩

theorem renderMessageBody_ok (consistent : ir.Consistent) (placed : computePlacement ir = .ok plan)
    (free : ∀ defn, RenderedIn ir plan (rootNames message) (.message message.name) defn ->
      defn.Free ir)
    (rendered : renderMessageBody strconv ir plan options message = .ok body) :
    Accounted ir plan options.transform (rootNames message) (.message message.name) ⟨false⟩ body := by
  obtain ⟨requestRoot, responseRoot, enums, objects, bodies, constructors, registered, isRequest,
    isResponse, localEnums, localObjects, mapped, constructed, registers, rendered⟩ :=
    renderMessageBody_parts rendered
  obtain ⟨enumsHome, enumsAll⟩ := localPlacedDefinitions_ok placed localEnums
  obtain ⟨objectsHome, objectsAll⟩ := localPlacedDefinitions_ok placed localObjects
  obtain ⟨enumsUse, enumsDeclare⟩ := @enumDeclarations_ok options enums
  -- every struct of the file is that of a definition rendered in it
  have structs : ∀ entry, entry ∈ messageStructs ir message objects requestRoot responseRoot ->
      RenderedIn ir plan (rootNames message) (.message message.name) entry.1.defn := by
    intro entry mem
    simp only [messageStructs, mem_append, mem_map, mem_cons, not_mem_nil,
      or_false] at mem
    rcases mem with ⟨item, isObject, same⟩ | isRoot | isRoot
    · subst same
      exact ⟨(objectsHome item isObject).1, .inl (objectsHome item isObject).2.2⟩
    · subst isRoot
      obtain ⟨inIndex, named⟩ := findRoot_ok isRequest
      exact ⟨inIndex, .inr (by simp [rootNames, named])⟩
    · subst isRoot
      obtain ⟨inIndex, named⟩ := findRoot_ok isResponse
      exact ⟨inIndex, .inr (by simp [rootNames, named])⟩
  have declares : ∀ entry, entry ∈ messageStructs ir message objects requestRoot responseRoot ->
      entry.1.goName ∈ declaredTypes body := by
    intro entry mem
    obtain ⟨declaration, listed, computed⟩ := exists_of_mapM mapped mem
    have own := (structBody_leads consistent placed (free _ (structs entry mem))
      (structs entry mem).1 computed).1
    have inBody : declaration ∈ body := by simp [rendered, listed]
    exact mem_declaredTypes inBody (own ▸ mem_singleton_self _)
  refine ⟨?_, ?_⟩
  · intro name target goName there found notRoot transformed
    cases kind : target.kind with
    | root => exact absurd kind notRoot
    | object =>
      rw [kind] at transformed
      obtain ⟨item, mem, _, same⟩ := objectsAll name target there found kind
      cases transformed.symm.trans same
      exact declares (item, _) (mem_append_left _ (mem_map.mpr ⟨item, mem, rfl⟩))
    | enum =>
      rw [kind] at transformed
      obtain ⟨item, mem, _, same⟩ := enumsAll name target there found kind
      cases transformed.symm.trans same
      rw [rendered]
      simp only [declaredTypes_append, mem_append]
      have declared := enumsDeclare item mem
      tauto
  · intro reference used
    rw [rendered] at used
    simp only [usedNames_append, registrations_ok registers, enumsUse, mem_append,
      append_nil] at used
    rcases used with ((isNone | inBodies) | isNone) | inConstructors
    · simp [usedNames, Declaration.uses] at isNone
    · obtain ⟨declaration, listed, uses⟩ := mem_flatMap.mp inBodies
      obtain ⟨entry, mem, computed⟩ := mem_of_mapM mapped listed
      exact .inl ⟨entry.1.defn, structs entry mem,
        (structBody_leads consistent placed (free _ (structs entry mem)) (structs entry mem).1
          computed).2 reference uses⟩
    · simp [usedNames, Declaration.uses] at isNone
    · obtain ⟨declaration, listed, uses⟩ := mem_flatMap.mp inConstructors
      obtain ⟨entry, mem, computed⟩ := mem_of_mapM constructed listed
      rcases (renderConstructor_leads consistent placed (free _ (structs entry mem))
        (structs entry mem).1 computed).2 reference uses with leads | own
      · exact .inl ⟨entry.1.defn, structs entry mem, leads⟩
      · subst own
        exact .inr ⟨rfl, declares entry mem⟩

/-- Every property of a definition rendered with a message is a field of its file. -/
theorem renderMessageBody_fields (consistent : ir.Consistent)
    (placed : computePlacement ir = .ok plan)
    (rendered : renderMessageBody strconv ir plan options message = .ok body) {defn : Definition}
    (within : RenderedIn ir plan (rootNames message) (.message message.name) defn)
    {property : Property} (listed : property ∈ defn.properties) :
    ∃ field, qualifiedFieldMapping strconv ir plan options defn ⟨false⟩ property = .ok field ∧
      field.goType.references ⊆ usedNames body := by
  obtain ⟨requestRoot, responseRoot, enums, objects, bodies, constructors, registered, isRequest,
    isResponse, localEnums, localObjects, mapped, constructed, registers, rfl⟩ :=
    renderMessageBody_parts rendered
  obtain ⟨entry, stands, rfl⟩ : ∃ entry,
      entry ∈ messageStructs ir message objects requestRoot responseRoot ∧
        entry.1.defn = defn := by
    obtain ⟨mem, there | isRoot⟩ := within
    · have placeable := ((homeOf_iff placed consistent mem).mp there).1
      cases kind : defn.kind with
      | root => simp [Definition.placeable, kind] at placeable
      | enum =>
        rw [consistent.enums defn mem kind] at listed
        cases listed
      | object =>
        obtain ⟨item, isItem, same, _⟩ := (localPlacedDefinitions_ok placed localObjects).2 _ _ there
          (findDefinitionByName_eq consistent.distinct mem) kind
        exact ⟨(item, _), mem_append_left _ (mem_map.mpr ⟨item, isItem, rfl⟩), same⟩
    · have same : ∀ root, root ∈ ir.defns ∧ root.name = defn.name -> root = defn :=
        fun root found => inj_on_of_nodup_map consistent.distinct found.1 mem found.2
      rcases mem_cons.mp isRoot with request | response
      · obtain ⟨stands, named⟩ := findRoot_ok isRequest
        exact ⟨_, mem_append_right _ mem_cons_self, same _ ⟨stands, named.trans request.symm⟩⟩
      · obtain ⟨stands, named⟩ := findRoot_ok isResponse
        exact ⟨_, mem_append_right _ (mem_cons_of_mem _ mem_cons_self),
          same _ ⟨stands, named.trans (mem_singleton.mp response).symm⟩⟩
  obtain ⟨declaration, inBodies, computed⟩ := exists_of_mapM mapped stands
  obtain ⟨fields, typed, same⟩ := bind_eq_ok.mp computed
  obtain rfl := pure_eq_ok.mp same
  obtain ⟨field, inFields, mapping⟩ := exists_of_mapM typed listed
  refine ⟨field, mapping, fun reference used => ?_⟩
  have uses : reference ∈ usedNames bodies :=
    mem_flatMap.mpr ⟨_, inBodies, mem_flatMap.mpr ⟨field, inFields, used⟩⟩
  simp only [usedNames_append, mem_append]
  tauto

end Files

/-! ## The tree -/

section Tree

variable {host : Host} {ir : IR} {manifest : Manifest} {outDir : String} {options : EmitterOptions}

/-- A name used in a file is declared in a file of its package and written bare,
or it is declared in the shared types file and written with the qualifier
exactly when the file is outside the types package. -/
def Resolves (tree : List GeneratedFile) (file : GeneratedFile) (reference : Reference) : Prop :=
  (∃ other, other ∈ tree ∧ other.package = file.package ∧
    reference.name ∈ declaredTypes other.declarations ∧ reference.qualified = false) ∨
  (∃ shared, shared ∈ tree ∧ shared.source = "the shared types file" ∧
    reference.name ∈ declaredTypes shared.declarations ∧
    (reference.qualified = true <-> file.package ≠ "types"))
  deriving Decidable

variable {plan : PlacementPlan}

theorem messageFile_ok {file : GeneratedFile}
    (rendered : messageFile host ir manifest outDir options plan message = .ok file) :
    file.package = message.block ∧
      renderMessageBody host.strconv ir plan options message = .ok file.declarations ∧
      file.path = host.joinPath [outDir, manifest.goTree, message.block,
        snakeCase options.transform.unicode message.name ++ ".go"] := by
  obtain ⟨body, run, rendered⟩ := bind_eq_ok.mp rendered
  obtain ⟨_, _, rendered⟩ := bind_eq_ok.mp rendered
  obtain rfl := pure_eq_ok.mp rendered
  rw [mapError_eq_ok] at run
  obtain ⟨other, computed, formatted⟩ := bind_eq_ok.mp run
  obtain ⟨_, _, same⟩ := bind_eq_ok.mp formatted
  obtain rfl := pure_eq_ok.mp same
  exact ⟨rfl, computed, rfl⟩

theorem typesFile_ok {file : GeneratedFile}
    (rendered : typesFile host ir manifest outDir options plan = .ok file) :
    file.package = "types" ∧ file.source = "the shared types file" ∧
      renderTypesFileBody host.strconv ir plan options = .ok file.declarations ∧
      file.path = host.joinPath [outDir, manifest.goTree, "types", "types_gen.go"] := by
  obtain ⟨body, run, rendered⟩ := bind_eq_ok.mp rendered
  obtain ⟨_, _, rendered⟩ := bind_eq_ok.mp rendered
  obtain rfl := pure_eq_ok.mp rendered
  exact ⟨rfl, rfl, run, rfl⟩

/-- An emitted tree is the shared types file and the file of each emitted row,
all rendered with one plan. -/
theorem emitGo_ok {tree : List GeneratedFile}
    (emitted : emitGo host ir manifest outDir options = .ok tree) :
    ∃ plan shared files, computePlacement ir = .ok plan ∧
      checkEmissionCollisions options.transform ir plan = .ok () ∧
      typesFile host ir manifest outDir options plan = .ok shared ∧
      (manifest.messages.filter fun message => message.emit).mapM
        (messageFile host ir manifest outDir options plan) = .ok files ∧
      tree = shared :: files := by
  obtain ⟨rendered, run, emitted⟩ := bind_eq_ok.mp emitted
  obtain ⟨_, _, emitted⟩ := bind_eq_ok.mp emitted
  obtain rfl := pure_eq_ok.mp emitted
  simp only [mapError_eq_ok, renderTree, bind_eq_ok, pure_eq_ok] at run
  obtain ⟨plan, placed, _, checked, shared, types, files, messages, _, _, run⟩ := run
  exact ⟨plan, shared, files, placed, checked, types, messages, run.symm⟩

/-- What a definition of the index refers to is reserved or has a home. -/
theorem reserved_or_home (consistent : ir.Consistent) (placed : computePlacement ir = .ok plan)
    {defn : Definition} (mem : defn ∈ ir.defns)
    (named : name ∈ defn.references) :
    IsReserved ir name ∨ ∃ home, plan.homeOf name = some home := by
  obtain ⟨target, listed, targetName, _, reserved | home⟩ :=
    home_of_reference placed consistent mem named
  · exact .inl ⟨target, targetName ▸ findDefinitionByName_eq consistent.distinct listed, reserved⟩
  · exact .inr home

/-- The file of a row renders the definition: one of its roots, or what no other message reaches. -/
def Renders (ir : IR) (row : ManifestMessage) (defn : Definition) : Prop :=
  defn ∈ ir.defns ∧ (defn.placeable ∧ reachingMessages ir defn.name = [row.name] ∨
    defn.name ∈ rootNames row)

/-- A file of the tree renders the definition. -/
def Rendered (ir : IR) (manifest : Manifest) (defn : Definition) : Prop :=
  defn ∈ ir.defns ∧ defn.placeable ∧ 2 ≤ (reachingMessages ir defn.name).length ∨
    ∃ row, row ∈ manifest.messages ∧ row.emit = true ∧ Renders ir row defn

/-- What the roots of an emitted row refer to is not reached by another message alone, and no type
in a row of the block `types` names a definition that several messages reach. -/
structure Orderly (ir : IR) (manifest : Manifest) : Prop where
  own : ∀ row, row ∈ manifest.messages -> row.emit = true -> ∀ root, root ∈ ir.defns ->
    root.name ∈ rootNames row -> ∀ name, name ∈ root.references -> ¬ IsReserved ir name ->
      ∀ other, reachingMessages ir name = [other] -> other = row.name
  outside : ∀ row, row ∈ manifest.messages -> row.emit = true -> row.block = "types" ->
    ∀ defn, Renders ir row defn -> ∀ property, property ∈ defn.properties ->
      ∀ name, property.named = some name -> ¬ IsReserved ir name ->
        (reachingMessages ir name).length < 2

section

variable (consistent : ir.Consistent) (placed : computePlacement ir = .ok plan)
include consistent placed

theorem renderedIn_iff {row : ManifestMessage} {defn : Definition} :
    RenderedIn ir plan (rootNames row) (.message row.name) defn <-> Renders ir row defn :=
  and_congr_right fun mem => or_congr_left
    ((homeOf_iff placed consistent mem).trans (and_congr_right fun _ => computeHome_message))

/-- What has a home is not reserved. -/
theorem not_reserved {home : Home} (there : plan.homeOf name = some home) :
    ¬ IsReserved ir name := by
  rintro ⟨target, found, reserved⟩
  obtain ⟨mem, rfl⟩ := findDefinitionByName_ok found
  have placeable := ((homeOf_iff placed consistent mem).mp there).1
  simp [Definition.placeable, reserved] at placeable

/-- A definition rendered with an emitted row refers to definitions of the types file or of the
file of the row. -/
theorem home_of_rendered (orderly : Orderly ir manifest) {row : ManifestMessage}
    (listed : row ∈ manifest.messages) (emits : row.emit = true) {defn : Definition}
    (rendered : RenderedIn ir plan (rootNames row) (.message row.name) defn)
    (named : name ∈ defn.references) {home : Home} (target : plan.homeOf name = some home) :
    home = .types ∨ home = .message row.name := by
  obtain ⟨mem, there | isRoot⟩ := rendered
  · exact home_of_message placed consistent mem there named target
  · cases home with
    | types => exact .inl rfl
    | message other =>
      have single := computeHome_message.mp ((computePlacement_ok placed).2 _ _ target).1
      exact .inr (congrArg _ (orderly.own row listed emits defn mem isRoot name named
        (not_reserved consistent placed target) other single))

variable {config : TransformConfig} {file shared : GeneratedFile} {tree : List GeneratedFile}
  {reference : Reference} {row : ManifestMessage}

/-- What the types file uses is declared there. -/
theorem Accounted.resolves_types (account : Accounted ir plan config [] .types ⟨true⟩
      file.declarations) (mem : file ∈ tree) (used : reference ∈ usedNames file.declarations) :
    Resolves tree file reference := by
  rcases account.used reference used with ⟨defn, rendered, leads⟩ | ⟨bare, own⟩
  · obtain ⟨property, name, target, home, listed, named, found, notRoot, there, transformed,
      qualified⟩ := leads
    have inTypes : plan.homeOf defn.name = some .types := by
      rcases rendered.2 with there | isRoot
      · exact there
      · cases isRoot
    obtain rfl := home_of_types placed consistent rendered.1 inTypes (named_mem listed named) there
    exact .inl ⟨file, mem, rfl, account.declared name target _ there found notRoot transformed,
      qualified⟩
  · exact .inl ⟨file, mem, rfl, own, bare⟩

/-- What the file of a row uses is declared there or in the types file. -/
theorem Accounted.resolves_message (orderly : Orderly ir manifest)
    (isRow : row ∈ manifest.messages) (emits : row.emit = true)
    (account : Accounted ir plan config (rootNames row) (.message row.name) ⟨false⟩
      file.declarations) (package : file.package = row.block) (mem : file ∈ tree)
    (types : Accounted ir plan config [] .types ⟨true⟩ shared.declarations)
    (source : shared.source = "the shared types file") (stands : shared ∈ tree)
    (used : reference ∈ usedNames file.declarations) : Resolves tree file reference := by
  rcases account.used reference used with ⟨defn, rendered, leads⟩ | ⟨bare, own⟩
  · obtain ⟨property, name, target, home, listed, named, found, notRoot, there, transformed,
      qualified⟩ := leads
    rcases home_of_rendered consistent placed orderly isRow emits rendered (named_mem listed named)
      there with shares | stays
    · subst shares
      refine .inr ⟨shared, stands, source,
        types.declared name target _ there found notRoot transformed, ?_⟩
      rw [qualified, package]
      refine ⟨fun _ block => ?_, fun _ => rfl⟩
      have few := orderly.outside row isRow emits block defn
        ((renderedIn_iff consistent placed).mp rendered) property listed name named
        (not_reserved consistent placed there)
      exact absurd (computeHome_types_length ((computePlacement_ok placed).2 _ _ there).1)
        (not_le.mpr few)
    · subst stays
      exact .inl ⟨file, mem, rfl, account.declared name target _ there found notRoot transformed,
        qualified⟩
  · exact .inl ⟨file, mem, rfl, own, bare⟩

/-- In a row of the block `types` a type that names a shared definition is qualified and does not
resolve. -/
theorem outside_of_resolves (package : file.package = "types")
    (body : renderMessageBody host.strconv ir plan options row = .ok file.declarations)
    (resolves : ∀ reference, reference ∈ usedNames file.declarations ->
      Resolves tree file reference) {defn : Definition} (free : defn.Free ir)
    (within : RenderedIn ir plan (rootNames row) (.message row.name) defn) {property : Property}
    (listed : property ∈ defn.properties) (named : property.named = some name)
    (notReserved : ¬ IsReserved ir name) : (reachingMessages ir name).length < 2 := by
  by_contra few
  obtain ⟨field, mapped, uses⟩ := renderMessageBody_fields consistent placed body within listed
  rcases field_references consistent placed free within.1 listed mapped with
    ⟨_, reserved⟩ | ⟨other, target, home, goName, same, _, _, there, _, single⟩
  · exact notReserved (reserved name named)
  · obtain rfl := Option.some.inj (named.symm.trans same)
    have computed := ((computePlacement_ok placed).2 _ _ there).1
    rw [computeHome_types (not_lt.mp few)] at computed
    obtain rfl := Except.ok.inj computed
    rcases resolves _ (uses (single ▸ mem_cons_self)) with
      ⟨_, _, _, _, bare⟩ | ⟨_, _, _, _, qualified⟩
    · cases bare
    · exact qualified.mp rfl package

end

variable {files : SchemaFiles}

/-- The roots of a row whose files are named after it refer to what the row reaches. -/
theorem own_of_stems {strconv : Strconv} (consistent : ir.Consistent)
    (walked : walkSchemas strconv files manifest = .ok ir)
    {row : ManifestMessage} (listed : row ∈ manifest.messages)
    (matched : files.stem row.request = row.name ++ "Request" ∧
      files.stem row.response = row.name ++ "Response")
    {root : Definition} (mem : root ∈ ir.defns) (isRoot : root.name ∈ rootNames row)
    (named : name ∈ root.references) {other : String}
    (single : reachingMessages ir name = [other]) : other = row.name := by
  obtain ⟨message, isMessage, sameName, _, request, response⟩ := walkSchemas_row walked listed
  have isOwn : root.name = message.requestRoot ∨ root.name = message.responseRoot := by
    rw [request, response, matched.1, matched.2]
    simpa [rootNames] using isRoot
  have reached := (consistent.roots message isMessage root mem isOwn).2 named
  have mem := mem_reachingMessages consistent isMessage reached
  rw [single, mem_singleton] at mem
  exact mem.symm.trans sameName

/-- Every reference of the emitted tree resolves, and leads to the types file or stays in its own,
exactly if the rows are in order, provided that no type of the tree names a reserved enum. -/
theorem references_resolve {unicode : Unicode} {path : String} {manifestFiles : ManifestFiles}
    {emitPresence : List Bool} {files : SchemaFiles} {tree : List GeneratedFile}
    (accepted : validateManifest unicode path manifestFiles manifest emitPresence = .ok ())
    (walked : walkSchemas host.strconv files manifest = .ok ir)
    (emitted : emitGo host ir manifest outDir options = .ok tree)
    (free : ∀ defn, Rendered ir manifest defn -> defn.Free ir) :
    ((∀ file, file ∈ tree -> ∀ reference, reference ∈ usedNames file.declarations ->
      Resolves tree file reference) ∧
    ∃ plan, computePlacement ir = .ok plan ∧
      (∀ defn, defn ∈ ir.defns ->
        plan.homeOf defn.name = some .types -> ∀ name, name ∈ defn.references ->
          IsReserved ir name ∨ plan.homeOf name = some .types) ∧
      (∀ row, row ∈ manifest.messages -> row.emit = true -> ∀ defn,
        RenderedIn ir plan (rootNames row) (.message row.name) defn ->
          ∀ name, name ∈ defn.references ->
            IsReserved ir name ∨ plan.homeOf name = some .types ∨
              plan.homeOf name = some (.message row.name))) <-> Orderly ir manifest := by
  have consistent := walkSchemas_consistent (validateManifest_names accepted) walked
  obtain ⟨plan, shared, messages, placed, _, types, run, same⟩ := emitGo_ok emitted
  subst same
  have frees : ∀ row, row ∈ manifest.messages -> row.emit = true -> ∀ defn,
      RenderedIn ir plan (rootNames row) (.message row.name) defn -> defn.Free ir :=
    fun row isRow emits defn rendered =>
      free defn (.inr ⟨row, isRow, emits, (renderedIn_iff consistent placed).mp rendered⟩)
  constructor
  · rintro ⟨resolves, other, again, _, own⟩
    obtain rfl := Except.ok.inj (placed.symm.trans again)
    refine ⟨?_, ?_⟩
    · intro row isRow emits root mem isRoot name named notReserved other single
      rcases own row isRow emits root ⟨mem, .inr isRoot⟩ name named with reserved | there | there
      · exact absurd reserved notReserved
      all_goals have computed := ((computePlacement_ok placed).2 _ _ there).1
      · have several := computeHome_types_length computed
        simp [single] at several
      · rw [computeHome_message.mp computed] at single
        simpa using single.symm
    · intro row isRow emits block defn renders property listed name named notReserved
      obtain ⟨file, stands, computed⟩ := exists_of_mapM run (mem_filter.mpr ⟨isRow, emits⟩)
      obtain ⟨package, body, _⟩ := messageFile_ok computed
      have within := (renderedIn_iff consistent placed).mpr renders
      exact outside_of_resolves consistent placed (package.trans block) body
        (resolves file (mem_cons_of_mem _ stands)) (frees row isRow emits defn within) within listed
        named notReserved
  intro orderly
  obtain ⟨_, sharedSource, sharedBody, _⟩ := typesFile_ok types
  have sharedFree : ∀ defn, RenderedIn ir plan [] .types defn -> defn.Free ir := by
    rintro defn ⟨mem, there | none⟩
    · obtain ⟨placeable, computed⟩ := (homeOf_iff placed consistent mem).mp there
      exact free defn (.inl ⟨mem, placeable, computeHome_types_length computed⟩)
    · cases none
  have sharedAccount := renderTypesFileBody_ok consistent placed sharedFree sharedBody
  refine ⟨?_, plan, placed, ?_, ?_⟩
  · intro file mem reference used
    rcases mem_cons.mp mem with isShared | isMessage
    · subst isShared
      exact sharedAccount.resolves_types consistent placed mem used
    · obtain ⟨row, listed, computed⟩ := mem_of_mapM run isMessage
      obtain ⟨isRow, emits⟩ := mem_filter.mp listed
      obtain ⟨package, body, _⟩ := messageFile_ok computed
      have account := renderMessageBody_ok consistent placed (frees row isRow emits) body
      exact account.resolves_message consistent placed orderly isRow emits package mem sharedAccount
        sharedSource mem_cons_self used
  · intro defn mem inTypes name named
    rcases reserved_or_home consistent placed mem named with reserved | ⟨home, there⟩
    · exact .inl reserved
    · exact .inr (home_of_types placed consistent mem inTypes named there ▸ there)
  · intro row isRow emits defn rendered name named
    rcases reserved_or_home consistent placed rendered.1 named with reserved | ⟨home, there⟩
    · exact .inl reserved
    · rcases home_of_rendered consistent placed orderly isRow emits rendered named there with
        shares | stays
      · exact .inr (.inl (shares ▸ there))
      · exact .inr (.inr (stays ▸ there))

/-! ## Runs of the generator -/

/-- A host whose formatter and file system accept everything. -/
def plainHost : Host where
  strconv := ⟨fun _ => none, fun _ => none, fun _ => "", fun _ => ""⟩
  joinPath := join "/"
  formatBody := fun _ => .ok ()
  formatFile := fun _ _ => .ok ()
  writeIfChanged := fun _ => .ok ()

def plainOptions : EmitterOptions := ⟨⟨.ascii, []⟩, []⟩

/-- A schema document with the given properties and definitions. -/
def schemaOf (stem : String) (properties defns : List (String × Raw)) : Raw :=
  .object [("$schema", .string draft06Dialect), ("$id", .string (identifierPrefix ++ stem)),
    ("type", .string "object"), ("properties", .object properties),
    ("definitions", .object defns)]

/-- The schema files of two messages.  The first request refers to a definition
of its own and to one that the second request shares; the custom data of the
second request is declared as given. -/
def pairFiles (customData : Raw) : SchemaFiles where
  read := fun file =>
    if file = "AlphaRequest.json" then
      .ok (schemaOf "AlphaRequest"
        [("detail", .object [("$ref", .string "#/definitions/DetailType")]),
          ("shared", .object [("$ref", .string "#/definitions/SharedType")])]
        [("DetailType", .object [("type", .string "object")]),
          ("SharedType", .object [("type", .string "object")])])
    else if file = "BetaRequest.json" then
      .ok (schemaOf "BetaRequest"
        [("shared", .object [("$ref", .string "#/definitions/SharedType")]),
          ("customData", .object [("$ref", .string "#/definitions/CustomDataType")])]
        [("SharedType", .object [("type", .string "object")]), ("CustomDataType", customData)])
    else .ok (schemaOf (trimSuffix file ".json") [] [])
  path := id
  base := id

def objectSchema : Raw := .object [("type", .string "object")]

def enumSchema : Raw := .object [("type", .string "string"), ("enum", .array [.string "one"])]

def pairManifestFiles : ManifestFiles where
  isBlock := fun _ => true
  isSchema := fun _ => true
  entries := .ok []

/-- Two emitted rows: the block of the first, and the files of each. -/
def pairManifest (block firstFiles secondFiles : String) : Manifest where
  schemaDir := "schemas"
  goTree := "tree"
  messages :=
    [⟨"Alpha", block, "both", firstFiles ++ "Request.json", firstFiles ++ "Response.json", true⟩,
      ⟨"Beta", "two", "both", secondFiles ++ "Request.json", secondFiles ++ "Response.json", true⟩]

/-- The manifest is accepted and the tree is emitted, with a reference in it that
does not resolve. -/
def Unresolved (files : SchemaFiles) (manifest : Manifest) : Prop :=
  validateManifest .ascii "manifest.yaml" pairManifestFiles manifest [true, true] = .ok () ∧
  ∃ ir, walkSchemas plainHost.strconv files manifest = .ok ir ∧
    ∃ tree, emitGo plainHost ir manifest "out" plainOptions = .ok tree ∧
      ∃ file, file ∈ tree ∧ ∃ reference, reference ∈ usedNames file.declarations ∧
        ¬ Resolves tree file reference

/-- A run of the walk and the emitter that passes a check of the tree. -/
theorem run_of_succeeds {check : List GeneratedFile -> Bool}
    (checked : succeeds (walkSchemas plainHost.strconv files manifest) (fun ir => succeeds (emitGo
      plainHost ir manifest "out" plainOptions) check) = true) :
    ∃ ir, walkSchemas plainHost.strconv files manifest = .ok ir ∧
      ∃ tree, emitGo plainHost ir manifest "out" plainOptions = .ok tree ∧ check tree = true := by
  obtain ⟨ir, walked, checked⟩ := exists_of_succeeds checked
  obtain ⟨tree, emitted, checked⟩ := exists_of_succeeds checked
  exact ⟨ir, walked, tree, emitted, checked⟩

theorem unresolved_of_succeeds
    (accepted : validateManifest .ascii "manifest.yaml" pairManifestFiles manifest [true, true] =
      .ok ())
    (checked : succeeds (walkSchemas plainHost.strconv files manifest) (fun ir => succeeds (emitGo
      plainHost ir manifest "out" plainOptions) fun tree => tree.any fun file => (usedNames
      file.declarations).any fun reference => !decide (Resolves tree file reference)) = true) :
    Unresolved files manifest := by
  obtain ⟨ir, walked, tree, emitted, checked⟩ := run_of_succeeds checked
  obtain ⟨file, mem, checked⟩ := any_eq_true.mp checked
  obtain ⟨reference, used, fails⟩ := any_eq_true.mp checked
  exact ⟨accepted, ir, walked, tree, emitted, file, mem, reference, used, by simpa using fails⟩

/-- A row whose files belong to another message, a row in the block of the types
package, and a reserved definition that is an enum each leave a name that does
not resolve. -/
theorem reference_unresolved :
    Unresolved (pairFiles objectSchema) (pairManifest "one" "Beta" "Alpha") ∧
    Unresolved (pairFiles objectSchema) (pairManifest "types" "Alpha" "Beta") ∧
    Unresolved (pairFiles enumSchema) (pairManifest "one" "Alpha" "Beta") :=
  ⟨unresolved_of_succeeds rfl (by decide +kernel), unresolved_of_succeeds rfl (by decide +kernel),
    unresolved_of_succeeds rfl (by decide +kernel)⟩

/-- A tree in which a request refers to a type of its own file and to one of the
types file. -/
theorem references_resolve_pair :
    ∃ ir tree, walkSchemas plainHost.strconv (pairFiles objectSchema)
        (pairManifest "one" "Alpha" "Beta") = .ok ir ∧
      emitGo plainHost ir (pairManifest "one" "Alpha" "Beta") "out" plainOptions = .ok tree ∧
      (∃ file, file ∈ tree ∧ Reference.mk true "Shared" ∈ usedNames file.declarations ∧
        Reference.mk false "Detail" ∈ usedNames file.declarations) ∧
      ∀ file, file ∈ tree -> ∀ reference, reference ∈ usedNames file.declarations ->
        Resolves tree file reference := by
  have run : ∃ ir, walkSchemas plainHost.strconv (pairFiles objectSchema)
        (pairManifest "one" "Alpha" "Beta") = .ok ir ∧
      ∃ tree, emitGo plainHost ir (pairManifest "one" "Alpha" "Beta") "out" plainOptions =
        .ok tree ∧ (tree.any fun file =>
          (usedNames file.declarations).contains ⟨true, "Shared"⟩ &&
            (usedNames file.declarations).contains ⟨false, "Detail"⟩) = true :=
    run_of_succeeds (by decide +kernel)
  have reserved : succeeds (walkSchemas plainHost.strconv (pairFiles objectSchema)
      (pairManifest "one" "Alpha" "Beta")) (fun ir => ir.defns.all fun defn =>
        !defn.reserved || defn.kind ≠ .enum) = true := by decide +kernel
  obtain ⟨ir, walked, tree, emitted, checked⟩ := run
  obtain ⟨file, mem, checked⟩ := any_eq_true.mp checked
  rw [walked] at reserved
  have free : ∀ defn, Rendered ir (pairManifest "one" "Alpha" "Beta") defn -> defn.Free ir := by
    intro defn _ property _ name target _ found isReserved
    have object := all_eq_true.mp reserved target (findDefinitionByName_ok found).1
    simpa [isReserved] using object
  refine ⟨ir, tree, walked, emitted, ⟨file, mem, by simpa using checked⟩, ?_⟩
  have rows : ∀ row, row ∈ (pairManifest "one" "Alpha" "Beta").messages ->
      row.block ≠ "types" ∧
        (pairFiles objectSchema).stem row.request = row.name ++ "Request" ∧
        (pairFiles objectSchema).stem row.response = row.name ++ "Response" := by
    decide +kernel
  have accepted : validateManifest .ascii "manifest.yaml" pairManifestFiles
      (pairManifest "one" "Alpha" "Beta") [true, true] = .ok () := rfl
  have consistent := walkSchemas_consistent (validateManifest_names accepted) walked
  exact ((references_resolve accepted walked emitted free).mpr
    ⟨fun row listed _ root mem isRoot name named _ other =>
        own_of_stems consistent walked listed (rows row listed).2 mem isRoot named,
      fun row listed _ block => absurd block (rows row listed).1⟩).1

end Tree

open Relation

section

variable {defns : List Definition} {name : String}

/-- What the cycle detection follows are the references of the definition of a name. -/
theorem targets_eq {defn : Definition} (last : lastNamed defns name = some defn) :
    targets defns name = defn.references := by
  have names (property : Property) (pointer : String) :
      (propertyHops property pointer).map ReferenceHop.name = property.references := by
    induction property generalizing pointer with
    | _ => simp_all [propertyHops, Property.references, Facets.hops, Facets.references, refTargetName,
        apply_ite (List.map ReferenceHop.name)]
  rw [targets, hopsOf_eq last, referencedHops, map_flatMap]
  simp only [names, Definition.references]

/-- Definitions that refer to each other only and have passed the detection are on no cycle of an
index that agrees with them. -/
theorem acyclic_of_detectCycles {index : List Definition}
    (passed : detectCycles defns = .ok ())
    (closed : ∀ defn, defn ∈ defns ->
      defn.references ⊆ defns.map Definition.name)
    (agree : ∀ defn, defn ∈ defns -> ∀ entry, entry ∈ index ->
      entry.name = defn.name -> entry.references = defn.references)
    (listed : name ∈ defns.map Definition.name) : ¬ TransGen (Names index) name name := by
  have edge {above below : String} (listed : above ∈ defns.map Definition.name)
      (names : Names index above below) :
      below ∈ defns.map Definition.name ∧ below ∈ targets defns above := by
    obtain ⟨_, stands, rfl⟩ := mem_map.mp listed
    obtain ⟨last, isLast⟩ := exists_lastNamed stands
    obtain ⟨entry, mem, named, refers⟩ := names
    have ⟨stands, lastName⟩ := lastNamed_ok isLast
    rw [agree last stands entry mem (named.trans lastName.symm)] at refers
    exact ⟨closed last stands refers, targets_eq isLast ▸ refers⟩
  have path (below : String) (path : TransGen (Names index) name below) :
      below ∈ defns.map Definition.name ∧
        TransGen (fun above below => below ∈ targets defns above) name below := by
    induction path with
    | single names => exact (edge listed names).imp id .single
    | tail _ names ih => exact (edge ih.1 names).imp id (.tail ih.2)
  obtain ⟨_, ⟨_, _, _, failed⟩ | ⟨_, result, finished⟩⟩ := detectCycles_cases defns
  · cases failed.symm.trans passed
  · exact fun cycle =>
      finished.ordered.acyclic (finished.found (by simpa using listed)) (path name cycle).2

end

/-- The documents are searched for cycles one by one, and no search of the whole index is needed:
its references are acyclic. -/
theorem index_acyclic {strconv : Strconv} {files : SchemaFiles} {manifest : Manifest} {ir : IR}
    (walked : walkSchemas strconv files manifest = .ok ir) (name : String) :
    ¬ TransGen (Names ir.defns) name name := by
  intro cycle
  obtain ⟨_, good, joined, _⟩ := walkSchemas_ok walked
  obtain ⟨_, ⟨entry, mem, rfl, _⟩, _⟩ := TransGen.head'_iff.mp cycle
  obtain ⟨first, taken, same⟩ := joined.origin entry mem
  obtain ⟨file, document, cached, stands⟩ := good.origin first taken
  have read := good.cached file document cached
  obtain ⟨_, kindOf, reads⟩ := walkSchema_ok read
  simp only [walkSchema, bind_eq_ok, mapError_eq_ok] at read
  obtain ⟨_, _, _, _, _, passed, read⟩ := read
  obtain rfl := pure_eq_ok.mp read
  refine acyclic_of_detectCycles passed ?_ ?_ ?_ cycle
  · intro defn stands _ refers
    obtain ⟨target, declared, named⟩ := reads.names stands refers
    exact mem_map.mpr ⟨target, mem_cons_of_mem _ declared, named⟩
  · intro defn stands entry mem named
    simp only [Definition.references, (entry_eq good joined cached stands mem named).2]
  · exact mem_map.mpr ⟨first, stands, (Definition.eq_of_bare same).1.symm⟩

/-- The index of two messages that share a definition. -/
theorem index_acyclic_pair :
    ∃ ir, walkSchemas plainHost.strconv (pairFiles objectSchema)
        (pairManifest "one" "Alpha" "Beta") = .ok ir ∧
      (ir.defns.any fun defn => defn.references.contains "SharedType") = true ∧
      ∀ name, ¬ TransGen (Names ir.defns) name name :=
  (exists_of_succeeds (by decide +kernel)).imp fun _ found =>
    ⟨found.1, found.2, index_acyclic found.1⟩

end Codegen
end OcppGo
