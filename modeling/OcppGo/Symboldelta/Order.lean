import Mathlib.Data.Finmap
import OcppGo.Symboldelta.Delta

namespace OcppGo
namespace Symboldelta

open List

/-!
# The order of the rows

The rows are sorted by everything they say, so the order in which maps are visited matters only where
a map is inverted that has two keys for a value, and there only if a row tells the keys apart.
-/

/-- What a key may be mapped to, depending on the entry that is written last. -/
def Possible {α : Type} (entries : List (String × α)) (key : String) : Option α -> Prop
  | none => ∀ value, (key, value) ∉ entries
  | some value => (key, value) ∈ entries

variable {α β : Type} {key : String}

theorem possible_collect (entries : List (String × α)) :
    Possible entries key ((collect entries).lookup key) := by
  induction entries using List.reverseRecOn with
  | nil => simp [collect, Possible]
  | append_singleton entries entry ih =>
    have last : collect (entries ++ [entry]) = (collect entries).insert entry.1 entry.2 := by
      simp [collect]
    rw [last]
    by_cases same : key = entry.1
    · subst same
      rw [AList.lookup_insert]
      exact mem_append_right _ mem_cons_self
    · rw [AList.lookup_insert_ne same]
      cases found : (collect entries).lookup key with
      | none =>
        rw [found] at ih
        intro value mem
        rcases mem_append.mp mem with earlier | new
        · exact ih value earlier
        · exact same (congrArg Prod.fst (mem_singleton.mp new))
      | some value =>
        rw [found] at ih
        exact mem_append_left _ ih

/-- Every possible value is the one that is found if the entries are rotated far enough. -/
theorem exists_rotate (pick : β -> Option (String × α)) {entries : List β} {value : Option α}
    (possible : Possible (entries.filterMap pick) key value) :
    ∃ shift, (collect ((entries.rotate shift).filterMap pick)).lookup key = value := by
  cases value with
  | none =>
    refine ⟨0, ?_⟩
    rw [rotate_zero]
    cases found : (collect (entries.filterMap pick)).lookup key with
    | none => rfl
    | some value =>
      have present : Possible _ key _ := possible_collect (entries.filterMap pick)
      rw [found] at present
      exact absurd present (possible value)
  | some value =>
    obtain ⟨entry, mem, picked⟩ := mem_filterMap.mp possible
    obtain ⟨pre, after, rfl⟩ := append_of_mem mem
    refine ⟨(pre ++ [entry]).length, ?_⟩
    rw [← singleton_append, ← append_assoc, rotate_append_length_eq]
    simp [collect, picked]

theorem key_injective : Function.Injective DeltaRow.key := by
  rintro ⟨first, _⟩ ⟨second, _⟩ same
  simp only [DeltaRow.key, List.cons.injEq] at same
  have classes : first = second := by
    cases first <;> cases second <;> first | rfl | simp [DeltaClass.text] at same
  grind

theorem insertionSort_perm {rows rows' : List DeltaRow} (same : rows.Perm rows') :
    rows.insertionSort DeltaRow.Precedes = rows'.insertionSort DeltaRow.Precedes := by
  have total : Std.Total DeltaRow.Precedes := ⟨fun row other => le_total row.key other.key⟩
  have trans : IsTrans DeltaRow DeltaRow.Precedes := ⟨fun _ _ _ => le_trans⟩
  refine Perm.eq_of_pairwise (fun _ _ _ _ lower upper => key_injective (le_antisymm lower upper))
    (pairwise_insertionSort _ _) (pairwise_insertionSort _ _) ?_
  exact ((perm_insertionSort _ _).trans same).trans (perm_insertionSort _ _).symm

variable {formatScore : Rat -> String} {old new : SymbolTable} (first second : Iteration)

theorem Iteration.perm_perm {α : Type} (range : Range) (entries : List α) :
    (first.visit range entries).Perm (second.visit range entries) :=
  (first.perm range entries).trans (second.perm range entries).symm

/-- Whichever possible values are found, the row is the same. -/
def Decided (entries others : List (String × α)) (keys : String × String)
    (row : Option α -> Option α -> Option DeltaRow) : Prop :=
  ∀ value value' other other', Possible entries keys.1 value -> Possible entries keys.1 value' ->
    Possible others keys.2 other -> Possible others keys.2 other' ->
      row value other = row value' other'

/-- The row of every struct is the same for all functions that return it, and the row of every enum
for all tags that are bound to its validator. -/
structure Settled (old new : SymbolTable) : Prop where
  constructors : ∀ owners, owners ∈ matched old new .struct -> Decided
    (SymbolTable.returns old.funcs.entries) (SymbolTable.returns new.funcs.entries) owners
    (constructorRow owners)
  tags : ∀ owners, owners ∈ matched old new .enum -> Decided
    (SymbolTable.tags old.registeredValidations.entries)
    (SymbolTable.tags new.registeredValidations.entries)
    ("isValid" ++ owners.1, "isValid" ++ owners.2) (validatorTagRow owners)

theorem Possible.of_perm {entries entries' : List (String × α)} (same : entries.Perm entries')
    {value : Option α} (possible : Possible entries key value) : Possible entries' key value := by
  cases value with
  | none => exact fun value mem => possible value (same.mem_iff.mpr mem)
  | some value => exact same.mem_iff.mp possible

theorem possible_returnsOf (iteration : Iteration) (range : Range) (table : SymbolTable) :
    Possible (SymbolTable.returns table.funcs.entries) key
      ((returnsOf iteration range table).lookup key) :=
  (possible_collect _).of_perm ((iteration.perm range _).filterMap _)

theorem possible_tagsOf (iteration : Iteration) (range : Range) (table : SymbolTable) :
    Possible (SymbolTable.tags table.registeredValidations.entries) key
      ((tagsOf iteration range table).lookup key) :=
  (possible_collect _).of_perm ((iteration.perm range _).filterMap _)

/-- Rows that are the same for every entry do not depend on the order. -/
theorem filterMap_perm {range : Range} {entries : List α} {row row' : α -> Option DeltaRow}
    (same : ∀ entry, entry ∈ entries -> row entry = row' entry) :
    ((first.visit range entries).filterMap row).Perm
      ((second.visit range entries).filterMap row') := by
  rw [filterMap_congr fun entry mem => same entry ((first.perm range entries).mem_iff.mp mem)]
  exact (first.perm_perm second range entries).filterMap _

theorem fieldRows_perm : (fieldRows first old new).Perm (fieldRows second old new) := by
  refine Perm.flatMap (first.perm_perm second _ _) fun owners _ => Perm.append ?_ ?_
  · exact Perm.flatMap (first.perm_perm second _ _) fun _ _ => .refl _
  · exact ((first.perm_perm second _ _).filter _).map _

theorem unsortedRows_perm (settled : Settled old new) :
    (unsortedRows formatScore first old new).Perm (unsortedRows formatScore second old new) := by
  have visits {α : Type} range (entries : List α) := first.perm_perm second range entries
  have renames : (typeRenameRows first old new).Perm (typeRenameRows second old new) :=
    (((((visits _ _).map _).append ((visits _ _).map _)).append_right _).append_right _
      |>.append_right _).append_right _
  have constructors : (constructorRows first old new).Perm (constructorRows second old new) :=
    filterMap_perm first second fun owners mem => settled.constructors owners mem _ _ _ _
      (possible_returnsOf ..) (possible_returnsOf ..) (possible_returnsOf ..) (possible_returnsOf ..)
  have tags : (validatorTagRows first old new).Perm (validatorTagRows second old new) :=
    filterMap_perm first second fun owners mem => settled.tags owners mem _ _ _ _
      (possible_tagsOf ..) (possible_tagsOf ..) (possible_tagsOf ..) (possible_tagsOf ..)
  exact ((((renames.append_left _).append (fieldRows_perm first second)).append constructors).append
    tags).append ((visits _ _).filterMap _)

/-- Functions and tags of the old and the new table are visited from the given places on. -/
def rotating (shift shift' : Nat) : Iteration where
  visit range entries := entries.rotate (match range with
    | .oldFuncs | .oldTags => shift
    | .newFuncs | .newTags => shift'
    | _ => 0)
  perm _ _ := List.rotate_perm _ _

variable {iteration : Iteration} {row : DeltaRow} {owners : String × String}

theorem constructorRow_eq_some {func other : Option FuncSymbol}
    (made : constructorRow owners func other = some row) :
    row.deltaClass = .changedConstructorSig ∧ (row.ownerOld, row.ownerNew) = owners := by
  unfold constructorRow at made
  grind

theorem validatorTagRow_eq_some {oldTag newTag : Option String}
    (made : validatorTagRow owners oldTag newTag = some row) :
    row.deltaClass = .renamedValidatorTag ∧ (row.ownerOld, row.ownerNew) = owners := by
  unfold validatorTagRow at made
  grind

/-- The rows of constructors and of validator tags are told from others by their class. -/
theorem mem_computeDelta : (row ∈ computeDelta formatScore iteration old new ∧
      row.deltaClass = .changedConstructorSig <-> row ∈ constructorRows iteration old new) ∧
    (row ∈ computeDelta formatScore iteration old new ∧ row.deltaClass = .renamedValidatorTag <->
      row ∈ validatorTagRows iteration old new) := by
  have ambiguous kind (mem : row ∈ ambiguousRows formatScore old new kind) :
      row.deltaClass = .ambiguousRename := by
    obtain ⟨_, _, rfl⟩ := mem_map.mp mem
    rfl
  have renamed (mem : row ∈ typeRenameRows iteration old new) :
      row.deltaClass ∈ [.renamedType, .removedType, .addedType] := by
    simp only [typeRenameRows, removedRows, addedRows, mem_append, mem_map] at mem
    rcases mem with ((((⟨_, _, rfl⟩ | ⟨_, _, rfl⟩) | ⟨_, _, rfl⟩) | ⟨_, _, rfl⟩) | ⟨_, _, rfl⟩) |
      ⟨_, _, rfl⟩ <;> simp [renamedRow, removedRow, addedRow]
  have field (mem : row ∈ fieldRows iteration old new) :
      row.deltaClass ∈ [.removedField, .renamedField, .changedPointerness, .addedField] := by
    simp only [fieldRows, mem_flatMap, mem_append, mem_map] at mem
    obtain ⟨owners, _, ⟨entry, _, listed⟩ | ⟨entry, _, rfl⟩⟩ := mem
    · unfold oldFieldRows at listed
      grind
    · simp
  have constructor (mem : row ∈ constructorRows iteration old new) :
      row.deltaClass = .changedConstructorSig := by
    obtain ⟨_, _, made⟩ := mem_filterMap.mp mem
    exact (constructorRow_eq_some made).1
  have tag (mem : row ∈ validatorTagRows iteration old new) :
      row.deltaClass = .renamedValidatorTag := by
    obtain ⟨_, _, made⟩ := mem_filterMap.mp mem
    exact (validatorTagRow_eq_some made).1
  have validator (mem : row ∈ structValidatorRows iteration old new) :
      row.deltaClass = .removedStructValidator := by
    obtain ⟨_, _, made⟩ := mem_filterMap.mp mem
    dsimp only at made
    split at made <;> cases made
    rfl
  simp only [computeDelta, mem_insertionSort, unsortedRows, mem_append]
  grind

/-- If the deltas are the same, so is the row of every pair of types. -/
theorem row_eq {range : Range} {pairs : List (String × String)} {deltaClass : DeltaClass}
    {rowOf : Iteration -> String × String -> Option DeltaRow}
    (listed : ∀ iteration row, row ∈ computeDelta formatScore iteration old new ∧
      row.deltaClass = deltaClass <-> row ∈ (iteration.visit range pairs).filterMap (rowOf iteration))
    (named : ∀ iteration owners row, rowOf iteration owners = some row ->
      (row.ownerOld, row.ownerNew) = owners) (mem : owners ∈ pairs)
    (same : computeDelta formatScore first old new = computeDelta formatScore second old new) :
    rowOf first owners = rowOf second owners := by
  have kept {iteration other : Iteration} {row : DeltaRow}
      (same : computeDelta formatScore iteration old new = computeDelta formatScore other old new)
      (made : rowOf iteration owners = some row) : rowOf other owners = some row := by
    have here := (listed iteration row).mpr
      (mem_filterMap.mpr ⟨owners, (iteration.perm range pairs).mem_iff.mpr mem, made⟩)
    rw [same] at here
    obtain ⟨others, _, again⟩ := mem_filterMap.mp ((listed other row).mp here)
    rwa [← named _ _ _ again, named _ _ _ made] at again
  exact Option.ext fun row => ⟨kept same, kept same.symm⟩

/-- The rows do not depend on the order in which the maps are visited if and only if the row of
every struct and of every enum is the same for all functions and tags there are for it. -/
theorem delta_order_independent (formatScore : Rat -> String) (old new : SymbolTable) :
    (∀ first second, computeDelta formatScore first old new =
      computeDelta formatScore second old new) <-> Settled old new := by
  refine ⟨fun independent => ?_, fun settled first second =>
    insertionSort_perm (unsortedRows_perm first second settled)⟩
  constructor
  · intro owners mem func func' other other' here here' there there'
    obtain ⟨shift, rfl⟩ := exists_rotate _ here
    obtain ⟨shift', rfl⟩ := exists_rotate _ here'
    obtain ⟨turn, rfl⟩ := exists_rotate _ there
    obtain ⟨turn', rfl⟩ := exists_rotate _ there'
    exact row_eq (rotating shift turn) (rotating shift' turn') (fun _ _ => mem_computeDelta.1)
      (fun _ _ _ made => (constructorRow_eq_some made).2) mem (independent _ _)
  · intro owners mem tag tag' other other' here here' there there'
    obtain ⟨shift, rfl⟩ := exists_rotate _ here
    obtain ⟨shift', rfl⟩ := exists_rotate _ here'
    obtain ⟨turn, rfl⟩ := exists_rotate _ there
    obtain ⟨turn', rfl⟩ := exists_rotate _ there'
    exact row_eq (rotating shift turn) (rotating shift' turn') (fun _ _ => mem_computeDelta.2)
      (fun _ _ _ made => (validatorTagRow_eq_some made).2) mem (independent _ _)

/-- Two functions return the same struct. -/
def ambiguousConstructors : SymbolTable :=
  ⟨AList.singleton "Status" [], ∅, (AList.singleton "NewStatus" ⟨"NewStatus", [], "Status"⟩).insert
    "MakeStatus" ⟨"MakeStatus", ["string"], "Status"⟩, ∅, ∅⟩

def inOrder : Iteration := ⟨fun _ entries => entries, fun _ _ => .refl _⟩

def backwards : Iteration := ⟨fun _ entries => entries.reverse, fun _ _ => List.reverse_perm _⟩

/-- Which of two constructors was removed depends on the order in which they are visited. -/
theorem delta_depends_on_order :
    let new : SymbolTable := ⟨AList.singleton "Status" [], ∅, ∅, ∅, ∅⟩
    computeDelta (fun _ => "") inOrder ambiguousConstructors new ≠
      computeDelta (fun _ => "") backwards ambiguousConstructors new := by
  decide +kernel

end Symboldelta
end OcppGo
