import OcppGo.Codegen.Walk

namespace OcppGo
namespace Codegen

open OcppGo.Sequential List

/-!
# The index is consistent

What later stages rely on is a property of the index alone: names are unique,
every reference names an entry that is not a root and knows its kind, and the
reach set of a message is closed under the references of its members and of its
two roots.  `walkSchemas_consistent` says that every successful walk over a
manifest with distinct names establishes it.
-/

namespace Definition

/-- Two definitions of one name that may be merged. -/
structure Agrees (left right : Definition) : Prop where
  name : left.name = right.name
  kind : left.kind = right.kind
  additionalProperties : left.additionalProperties = right.additionalProperties
  values : left.kind = .enum -> left.values = right.values
  properties : left.kind ≠ .enum -> left.properties = right.properties

/-- A definition without the record of where it was found. -/
def bare (defn : Definition) : Definition :=
  { defn with files := [], occurrences := 0 }

/-- Definitions that differ only in where they were found say the same. -/
theorem eq_of_bare {left right : Definition} (same : left.bare = right.bare) :
    left.name = right.name ∧ left.kind = right.kind ∧ left.properties = right.properties ∧
      left.reserved = right.reserved := by
  simp only [bare, mk.injEq] at same
  exact ⟨same.1, same.2.1, same.2.2.1, same.2.2.2.2.2.1⟩

end Definition

/-! ## Merging -/

theorem eq_of_zip_find_none {left right : List Property} (same : left.length = right.length)
    (none : (left.zip right).find? (fun pair => pair.1 ≠ pair.2) = none) : left = right := by
  refine ext_getElem same ?_
  intro index inLeft inRight
  rw [find?_eq_none] at none
  have mem : (left[index], right[index]) ∈ left.zip right := by
    have inZip : index < (left.zip right).length := by
      rw [length_zip]
      omega
    have entry : (left.zip right)[index] = (left[index], right[index]) := getElem_zip
    exact entry ▸ getElem_mem inZip
  simpa using none _ mem

theorem agrees_of_firstDifference {left right : Definition} (named : left.name = right.name)
    (none : firstDifference left right = none) : left.Agrees right := by
  unfold firstDifference at none
  dsimp only at none
  split at none
  case isTrue => cases none
  case isFalse kind =>
    split at none
    case isTrue => cases none
    case isFalse additional =>
      simp only [ne_eq, not_not] at kind additional
      split at none
      case isTrue isEnum =>
        split at none
        case isTrue => cases none
        case isFalse values =>
          simp only [ne_eq, not_not] at values
          exact ⟨named, kind, additional, fun _ => values, fun other => absurd isEnum other⟩
      case isFalse notEnum =>
        split at none
        case isTrue => cases none
        case isFalse length =>
          simp only [ne_eq, not_not] at length
          split at none
          case h_1 => cases none
          case h_2 pairs =>
            exact ⟨named, kind, additional, fun isEnum => absurd isEnum notEnum,
              fun _ => eq_of_zip_find_none length pairs⟩

variable {defn : Definition}

/-- A definition joins the group of its name, or starts the last one. -/
theorem addDefinition_ok {groups next : List Group}
    (added : addDefinition groups defn = .ok next) :
    (next.map Group.canonical = groups.map Group.canonical ∧
      ∃ canonical, canonical ∈ groups.map Group.canonical ∧ canonical.Agrees defn) ∨
    (next.map Group.canonical = groups.map Group.canonical ++ [defn.bare] ∧
      defn.name ∉ (groups.map Group.canonical).map Definition.name) := by
  induction groups generalizing next with
  | nil =>
    cases added
    exact .inr ⟨rfl, by simp⟩
  | cons group rest ih =>
    rw [addDefinition] at added
    split at added
    next named =>
      split at added
      next => cases added
      next none =>
        cases added
        exact .inl ⟨rfl, group.canonical, mem_cons_self, agrees_of_firstDifference named none⟩
    next apart =>
      obtain ⟨others, run, same⟩ := map_eq_ok.mp added
      subst same
      rcases ih run with ⟨kept, canonical, mem, agrees⟩ | ⟨extended, fresh⟩
      · exact .inl ⟨by simp [kept], canonical, mem_cons_of_mem _ mem, agrees⟩
      · refine .inr ⟨by simp [extended], ?_⟩
        simp only [map_cons, mem_cons, not_or]
        exact ⟨fun same => apart same.symm, fresh⟩

/-- What merging a list of definitions gives. -/
structure Merged (defns merged : List Definition) : Prop where
  distinct : (merged.map Definition.name).Nodup
  covers : ∀ defn, defn ∈ defns ->
    ∃ entry, entry ∈ merged ∧ entry.Agrees defn
  origin : ∀ entry, entry ∈ merged ->
    ∃ defn, defn ∈ defns ∧ entry.bare = defn.bare

variable {defns : List Definition}

theorem merged_of_addDefinition {groups : List Group}
    (run : defns.foldlM addDefinition [] = .ok groups) :
    Merged defns (groups.map Group.canonical) := by
  have initially : Merged [] (([] : List Group).map Group.canonical) :=
    ⟨nodup_nil, fun _ mem => absurd mem not_mem_nil,
      fun _ mem => absurd mem not_mem_nil⟩
  refine foldlM_ok (fun taken groups => Merged taken (groups.map Group.canonical)) ?_ initially run
  intro taken defn groups next kept added
  rcases addDefinition_ok added with ⟨same, canonical, mem, agrees⟩ | ⟨extended, fresh⟩
  · rw [same]
    refine ⟨kept.distinct, ?_, ?_⟩
    · intro other found
      rcases mem_append.mp found with early | last
      · exact kept.covers other early
      · rw [mem_singleton.mp last]
        exact ⟨canonical, mem, agrees⟩
    · intro entry found
      obtain ⟨other, early, same⟩ := kept.origin entry found
      exact ⟨other, mem_append_left _ early, same⟩
  · rw [extended]
    refine ⟨?_, ?_, ?_⟩
    · rw [map_append, nodup_append]
      refine ⟨kept.distinct, by simp, ?_⟩
      intro name mem other single same
      rw [map_singleton, mem_singleton] at single
      have equal : name = defn.name := same.trans single
      exact fresh (equal ▸ mem)
    · intro other found
      rcases mem_append.mp found with early | last
      · obtain ⟨entry, mem, agrees⟩ := kept.covers other early
        exact ⟨entry, mem_append_left _ mem, agrees⟩
      · rw [mem_singleton.mp last]
        exact ⟨defn.bare, mem_append_right _ (mem_singleton_self _),
          rfl, rfl, rfl, fun _ => rfl, fun _ => rfl⟩
    · intro entry found
      rcases mem_append.mp found with early | last
      · obtain ⟨other, mem, same⟩ := kept.origin entry early
        exact ⟨other, mem_append_left _ mem, same⟩
      · rw [mem_singleton.mp last]
        exact ⟨defn, mem_append_right _ (mem_singleton_self _), rfl⟩

theorem deduplicate_ok {merged : List Definition} (run : deduplicate defns = .ok merged) :
    Merged defns merged := by
  obtain ⟨groups, added, run⟩ := bind_eq_ok.mp run
  obtain rfl := pure_eq_ok.mp run
  have canonicals := merged_of_addDefinition added
  have names : (groups.map Group.merged).map Definition.name =
      (groups.map Group.canonical).map Definition.name := by
    simp [map_map, Function.comp_def, Group.merged]
  refine ⟨?_, ?_, ?_⟩
  · have sorted := ((perm_insertionSort (fun left right : Definition => left.name ≤ right.name)
      (groups.map Group.merged)).map Definition.name).nodup_iff
    rw [sorted, names]
    exact canonicals.distinct
  · intro defn mem
    obtain ⟨canonical, found, agrees⟩ := canonicals.covers defn mem
    obtain ⟨group, grouped, same⟩ := mem_map.mp found
    subst same
    refine ⟨group.merged, (mem_insertionSort _).mpr (mem_map_of_mem grouped), ?_⟩
    exact ⟨agrees.name, agrees.kind, agrees.additionalProperties, agrees.values, agrees.properties⟩
  · intro entry mem
    obtain ⟨group, grouped, same⟩ := mem_map.mp ((mem_insertionSort _).mp mem)
    subst same
    exact canonicals.origin group.canonical (mem_map_of_mem grouped)

variable {document : SchemaDocument} {file : String}

section Walking

variable {strconv : Strconv} {files : SchemaFiles}

/-- A document that was walked is accounted for by the reader. -/
theorem walkSchema_ok (walked : walkSchema strconv files file = .ok document) :
    document.root.name = files.stem file ∧ ∃ kindOf, document.Reads kindOf := by
  simp only [walkSchema, bind_eq_ok] at walked
  obtain ⟨raw, _, read, computed, _, _, walked⟩ := walked
  obtain rfl := pure_eq_ok.mp walked
  exact readSchema_ok computed

/-- What is known while the rows are walked. -/
structure Walked.Good (strconv : Strconv) (files : SchemaFiles) (taken : List ManifestMessage)
    (walked : Walked) : Prop where
  cached : ∀ file document, (file, document) ∈ walked.documents ->
    walkSchema strconv files file = .ok document
  stored : ∀ file document, (file, document) ∈ walked.documents ->
    ∀ defn, defn ∈ document.root :: document.defns ->
      defn ∈ walked.defns
  origin : ∀ defn, defn ∈ walked.defns ->
    ∃ file document, (file, document) ∈ walked.documents ∧
      defn ∈ document.root :: document.defns
  listed : ∀ message, message ∈ walked.messages -> ∃ row requestDoc responseDoc,
    row ∈ taken ∧ (row.request, requestDoc) ∈ walked.documents ∧
      (row.response, responseDoc) ∈ walked.documents ∧ message = messageOf row requestDoc responseDoc
  built : ∀ row, row ∈ taken -> ∃ requestDoc responseDoc,
    (row.request, requestDoc) ∈ walked.documents ∧ (row.response, responseDoc) ∈ walked.documents ∧
      messageOf row requestDoc responseDoc ∈ walked.messages
  names : walked.messages.map Message.name = taken.map ManifestMessage.name

variable {taken : List ManifestMessage}

section

variable {walked next : Walked} (good : walked.Good strconv files taken)
include good

/-- Reading a file keeps what is known and puts the document into the cache. -/
theorem readFile_ok (read : readFile strconv files walked file = .ok (document, next)) :
    next.Good strconv files taken ∧ (file, document) ∈ next.documents ∧
      walked.documents ⊆ next.documents ∧ next.messages = walked.messages := by
  unfold readFile at read
  split at read
  next found cached =>
    cases read
    exact ⟨good, mem_of_lookup cached, Subset.refl _, rfl⟩
  next =>
    obtain ⟨fresh, computed, stored⟩ := bind_eq_ok.mp read
    simp only [pure_eq_ok, Prod.mk.injEq] at stored
    obtain ⟨same, stored⟩ := stored
    subst same stored
    refine ⟨⟨?_, ?_, ?_, ?_, ?_, good.names⟩, mem_cons_self, subset_cons_self _ _, rfl⟩
    · intro other stored mem
      rcases mem_cons.mp mem with same | early
      · cases same
        exact computed
      · exact good.cached other stored early
    · intro other stored mem defn found
      rcases mem_cons.mp mem with same | early
      · cases same
        exact mem_append_right _ found
      · exact mem_append_left _ (good.stored other stored early defn found)
    · intro defn mem
      rcases mem_append.mp mem with early | late
      · obtain ⟨other, stored, cached, found⟩ := good.origin defn early
        exact ⟨other, stored, mem_cons_of_mem _ cached, found⟩
      · exact ⟨file, fresh, mem_cons_self, late⟩
    · intro message mem
      obtain ⟨row, requestDoc, responseDoc, row_taken, request, response, same⟩ :=
        good.listed message mem
      exact ⟨row, requestDoc, responseDoc, row_taken, mem_cons_of_mem _ request,
        mem_cons_of_mem _ response, same⟩
    · intro row mem
      obtain ⟨requestDoc, responseDoc, request, response, found⟩ := good.built row mem
      exact ⟨requestDoc, responseDoc, mem_cons_of_mem _ request,
        mem_cons_of_mem _ response, found⟩

theorem walkRow_ok {row : ManifestMessage} (run : walkRow strconv files walked row = .ok next) :
    next.Good strconv files (taken ++ [row]) := by
  unfold walkRow at run
  obtain ⟨⟨requestDoc, middle⟩, first, run⟩ := bind_eq_ok.mp run
  obtain ⟨⟨responseDoc, last⟩, second, run⟩ := bind_eq_ok.mp run
  obtain rfl := pure_eq_ok.mp run
  obtain ⟨goodMiddle, requested, _, sameMiddle⟩ := readFile_ok good first
  obtain ⟨goodLast, responded, larger, sameLast⟩ := readFile_ok goodMiddle second
  refine ⟨goodLast.cached, goodLast.stored, goodLast.origin, ?_, ?_, ?_⟩
  · intro message mem
    rcases mem_append.mp mem with early | late
    · obtain ⟨other, request, response, row_taken, rest⟩ := goodLast.listed message early
      exact ⟨other, request, response, mem_append_left _ row_taken, rest⟩
    · exact ⟨row, requestDoc, responseDoc, mem_append_right _ (mem_singleton_self row),
        larger requested, responded, mem_singleton.mp late⟩
  · intro other mem
    rcases mem_append.mp mem with early | late
    · obtain ⟨request, response, cachedRequest, cachedResponse, found⟩ := goodLast.built other early
      exact ⟨request, response, cachedRequest, cachedResponse, mem_append_left _ found⟩
    · rw [mem_singleton.mp late]
      exact ⟨requestDoc, responseDoc, larger requested, responded,
        mem_append_right _ (mem_singleton_self _)⟩
  · simp [goodLast.names, messageOf]

end

/-- The walk before the definitions are merged. -/
theorem walkRows_ok {rows : List ManifestMessage} {walked : Walked}
    (run : rows.foldlM (walkRow strconv files) ⟨[], [], []⟩ = .ok walked) :
    walked.Good strconv files rows := by
  have initially : Walked.Good strconv files [] ⟨[], [], []⟩ := by
    refine ⟨?_, ?_, ?_, ?_, ?_, rfl⟩
    all_goals simp
  exact foldlM_ok (fun taken walked => walked.Good strconv files taken)
    (fun _ _ _ _ good run => walkRow_ok good run) initially run

end Walking

/-! ## Reach sets -/

variable {name : String}

theorem lastNamed_ok (found : lastNamed defns name = some defn) :
    defn ∈ defns ∧ defn.name = name := by
  have mem := mem_of_find?_eq_some found
  have named := find?_some found
  exact ⟨mem_reverse.mp mem, by simpa using named⟩

theorem exists_lastNamed (mem : defn ∈ defns) :
    ∃ last, lastNamed defns defn.name = some last := by
  rw [← Option.isSome_iff_exists, lastNamed, find?_isSome]
  exact ⟨defn, mem_reverse.mpr mem, by simp⟩

theorem below_eq (found : lastNamed defns name = some defn) :
    below defns name = defn.references := by
  rw [below, found, Option.map_some, Option.getD_some]

/-- A name with something below it is the name of a definition. -/
theorem mem_names_of_below (nonempty : below defns name ≠ []) :
    name ∈ defns.map Definition.name := by
  rw [below] at nonempty
  cases found : lastNamed defns name with
  | none => simp [found] at nonempty
  | some defn =>
    obtain ⟨mem, named⟩ := lastNamed_ok found
    exact named ▸ mem_map_of_mem mem

/-- The marks a message starts from and what they are closed under. -/
theorem computeReach_marks (requestDoc responseDoc : SchemaDocument) :
    ∃ found, reachWithin requestDoc responseDoc
        ((requestDoc.defns ++ responseDoc.defns).length + 1) =
          some (sortStrings found) ∧
      computeReach requestDoc responseDoc = sortStrings found ∧
      Search.Marks (below (requestDoc.defns ++ responseDoc.defns))
        (requestDoc.root.references ++ responseDoc.root.references) [] found := by
  have bound : ∀ marked, Search.unmarked
      ((requestDoc.defns ++ responseDoc.defns).map Definition.name) marked <
      (requestDoc.defns ++ responseDoc.defns).length + 1 := by
    intro marked
    refine Nat.lt_succ_of_le (Nat.le_trans (length_filter_le _ _) ?_)
    rw [length_map]
  have listed := fun name => @mem_names_of_below (requestDoc.defns ++ responseDoc.defns) name
  obtain ⟨middle, early, first⟩ :=
    Search.mark_spec listed _ requestDoc.root.references [] (.inr (bound _))
  obtain ⟨found, late, second⟩ :=
    Search.mark_spec listed _ responseDoc.root.references middle (.inr (bound _))
  have ends : reachWithin requestDoc responseDoc
      ((requestDoc.defns ++ responseDoc.defns).length + 1) =
        some (sortStrings found) :=
    Option.bind_eq_some_iff.mpr ⟨middle, early, Option.bind_eq_some_iff.mpr ⟨found, late, rfl⟩⟩
  exact ⟨found, ends, by rw [computeReach, ends, Option.getD_some], first.append second⟩

section

variable {kindOf : String -> Option DefinitionKind} {property : Property}
  (resolved : property.Resolved kindOf)
include resolved

/-- A resolved property names only definitions of its file. -/
theorem Property.Resolved.known (named : name ∈ property.references) :
    ∃ kind, kindOf name = some kind := by
  have own : ∀ facets : Facets, facets.Resolved kindOf -> name ∈ facets.references ->
      ∃ kind, kindOf name = some kind := by
    intro facets resolved mem
    unfold Facets.references at mem
    split at mem
    next => cases mem
    next written =>
      obtain ⟨_, kind, found, _⟩ := resolved.target written
      exact ⟨kind, (mem_singleton.mp mem) ▸ found⟩
  induction resolved with
  | single here => exact own _ here named
  | listed here _ _ ih =>
    rcases mem_append.mp named with early | late
    · exact own _ here early
    · exact ih late

theorem Property.Resolved.mono {larger : String -> Option DefinitionKind}
    (included : ∀ name kind, kindOf name = some kind -> larger name = some kind) :
    property.Resolved larger := by
  have own : ∀ facets : Facets, facets.Resolved kindOf -> facets.Resolved larger := by
    intro facets resolved
    refine ⟨fun written => ?_, resolved.shapeless, resolved.plain⟩
    obtain ⟨nonempty, kind, found, rest⟩ := resolved.target written
    exact ⟨nonempty, kind, included _ kind found, rest⟩
  induction resolved with
  | single here => exact .single (own _ here)
  | listed here direct _ ih =>
    exact .listed (own _ here) direct ih

end

/-- Whatever a definition of a document names is a definition of the document. -/
theorem SchemaDocument.Reads.names {kindOf : String -> Option DefinitionKind}
    (reads : document.Reads kindOf) (mem : defn ∈ document.root :: document.defns)
    (named : name ∈ defn.references) :
    ∃ target, target ∈ document.defns ∧ target.name = name := by
  obtain ⟨property, listed, found⟩ := mem_flatMap.mp named
  obtain ⟨kind, known⟩ := (reads.resolved defn mem property listed).known found
  exact reads.declared name kind known

/-- Every name a message reaches is a definition of one of its documents, and
the references of that definition are reached too. -/
theorem computeReach_closed {requestDoc responseDoc : SchemaDocument}
    {requestKinds responseKinds : String -> Option DefinitionKind}
    (request : requestDoc.Reads requestKinds) (response : responseDoc.Reads responseKinds) :
    ∀ name, name ∈ computeReach requestDoc responseDoc ->
      ∃ defn, defn ∈ requestDoc.defns ++ responseDoc.defns ∧
        defn.name = name ∧ defn.references ⊆ computeReach requestDoc responseDoc := by
  obtain ⟨found, _, same, marks⟩ := computeReach_marks requestDoc responseDoc
  rw [same]
  -- a name is met at a root or below a definition, and is declared beside it
  have declared : ∀ name, name ∈ found -> ∃ defn,
      defn ∈ requestDoc.defns ++ responseDoc.defns ∧ defn.name = name := by
    have beside : ∀ above name,
        (above ∈ requestDoc.root :: requestDoc.defns ∨
          above ∈ responseDoc.root :: responseDoc.defns) ->
        name ∈ above.references -> ∃ defn,
          defn ∈ requestDoc.defns ++ responseDoc.defns ∧ defn.name = name := by
      intro above name stands named
      rcases stands with mem | mem
      · obtain ⟨target, listed, same⟩ := request.names mem named
        exact ⟨target, mem_append_left _ listed, same⟩
      · obtain ⟨target, listed, same⟩ := response.names mem named
        exact ⟨target, mem_append_right _ listed, same⟩
    intro name mem
    obtain ⟨start, pending, path⟩ := marks.sound name mem not_mem_nil
    cases path with
    | refl =>
      rcases mem_append.mp pending with early | late
      · exact beside requestDoc.root _ (.inl mem_cons_self) early
      · exact beside responseDoc.root _ (.inr mem_cons_self) late
    | @tail above _ _ edge =>
      cases last : lastNamed (requestDoc.defns ++ responseDoc.defns) above with
      | none => simp [below, last] at edge
      | some defn =>
        rw [below_eq last] at edge
        have stands := mem_append.mp (lastNamed_ok last).1
        exact beside defn name
          (stands.imp (mem_cons_of_mem _) (mem_cons_of_mem _)) edge
  intro name mem
  rw [mem_sortStrings] at mem
  obtain ⟨defn, listed, named⟩ := declared name mem
  obtain ⟨last, isLast⟩ := exists_lastNamed listed
  rw [named] at isLast
  obtain ⟨stands, lastNamed⟩ := lastNamed_ok isLast
  refine ⟨last, stands, lastNamed, ?_⟩
  intro next edge
  rw [← below_eq isLast] at edge
  exact mem_sortStrings.mpr (marks.closed name mem not_mem_nil edge)

theorem computeReach_roots (requestDoc responseDoc : SchemaDocument) :
    requestDoc.root.references ⊆ computeReach requestDoc responseDoc ∧
      responseDoc.root.references ⊆ computeReach requestDoc responseDoc := by
  obtain ⟨found, _, same, marks⟩ := computeReach_marks requestDoc responseDoc
  rw [same]
  constructor
  · exact fun name mem => mem_sortStrings.mpr (marks.covered (mem_append_left _ mem))
  · exact fun name mem => mem_sortStrings.mpr (marks.covered (mem_append_right _ mem))

theorem computeReach_nodup (requestDoc responseDoc : SchemaDocument) :
    (computeReach requestDoc responseDoc).Nodup := by
  obtain ⟨found, _, same, marks⟩ := computeReach_marks requestDoc responseDoc
  rw [same]
  exact (perm_insertionSort _ found).nodup_iff.mpr (marks.nodup nodup_nil)

/-! ## The index -/

def findDefinitionByName (defns : List Definition) (name : String) : Option Definition :=
  defns.find? (fun defn => defn.name = name)

/-- The kind of the entry of a name. -/
def IR.kindOf (ir : IR) (name : String) : Option DefinitionKind :=
  (findDefinitionByName ir.defns name).map Definition.kind

theorem findDefinitionByName_ok (found : findDefinitionByName defns name = some defn) :
    defn ∈ defns ∧ defn.name = name :=
  ⟨mem_of_find?_eq_some found, by simpa using find?_some found⟩

/-- In an index with distinct names the entry of a name is the only one. -/
theorem findDefinitionByName_eq (distinct : (defns.map Definition.name).Nodup)
    (mem : defn ∈ defns) :
    findDefinitionByName defns defn.name = some defn := by
  have present : (findDefinitionByName defns defn.name).isSome := by
    rw [findDefinitionByName, find?_isSome]
    exact ⟨defn, mem, by simp⟩
  obtain ⟨found, same⟩ := Option.isSome_iff_exists.mp present
  obtain ⟨listed, named⟩ := findDefinitionByName_ok same
  rw [same, inj_on_of_nodup_map distinct listed mem named]

/-- An index whose reach sets and references fit together. -/
structure IR.Consistent (ir : IR) : Prop where
  distinct : (ir.defns.map Definition.name).Nodup
  names : (ir.messages.map Message.name).Nodup
  resolved : ∀ defn, defn ∈ ir.defns ->
    ∀ property, property ∈ defn.properties -> property.Resolved ir.kindOf
  referred : ∀ defn, defn ∈ ir.defns ->
    ∀ name, name ∈ defn.references ->
      ∃ target, target ∈ ir.defns ∧ target.name = name ∧ target.kind ≠ .root
  reached : ∀ message, message ∈ ir.messages -> ∀ name, name ∈ message.reach ->
    ∀ defn, defn ∈ ir.defns -> defn.name = name ->
      defn.references ⊆ message.reach
  roots : ∀ message, message ∈ ir.messages ->
    ∀ defn, defn ∈ ir.defns ->
      defn.name = message.requestRoot ∨ defn.name = message.responseRoot ->
        defn.kind = .root ∧ defn.references ⊆ message.reach
  nodup : ∀ message, message ∈ ir.messages -> message.reach.Nodup
  enums : ∀ defn, defn ∈ ir.defns -> defn.kind = .enum -> defn.properties = []

section Index

variable {strconv : Strconv} {files : SchemaFiles} {rows : List ManifestMessage} {walked : Walked}
  {merged : List Definition}

section

variable (good : walked.Good strconv files rows)
include good

/-- An enum has no properties in any document. -/
theorem properties_enum (cached : (file, document) ∈ walked.documents)
    (stands : defn ∈ document.root :: document.defns) (isEnum : defn.kind = .enum) :
    defn.properties = [] := by
  obtain ⟨_, kindOf, reads⟩ := walkSchema_ok (good.cached file document cached)
  rcases mem_cons.mp stands with same | listed
  · rw [same, reads.root_kind] at isEnum
    cases isEnum
  · exact reads.enums defn listed isEnum

variable (joined : Merged walked.defns merged)
include joined

/-- An entry of the index keeps the kind and the properties of every definition
of its name. -/
theorem entry_eq (cached : (file, document) ∈ walked.documents)
    (stands : defn ∈ document.root :: document.defns) {entry : Definition}
    (mem : entry ∈ merged) (named : entry.name = defn.name) :
    entry.kind = defn.kind ∧ entry.properties = defn.properties := by
  obtain ⟨other, listed, agrees⟩ := joined.covers defn
    (good.stored file document cached defn stands)
  have same : other = entry :=
    inj_on_of_nodup_map joined.distinct listed mem (agrees.name.trans named.symm)
  subst same
  refine ⟨agrees.kind, ?_⟩
  by_cases isEnum : other.kind = .enum
  · obtain ⟨first, taken, origin⟩ := joined.origin other mem
    obtain ⟨firstFile, firstDocument, firstCached, firstStands⟩ := good.origin first taken
    obtain ⟨_, firstKind, firstProperties, _⟩ := Definition.eq_of_bare origin
    rw [firstProperties, properties_enum good firstCached firstStands (firstKind ▸ isEnum),
      properties_enum good cached stands (agrees.kind ▸ isEnum)]
  · exact agrees.properties isEnum

/-- A definition the reader knows in one file has the same kind in the index. -/
theorem kindOf_eq {messages : List Message} (cached : (file, document) ∈ walked.documents)
    {kindOf : String -> Option DefinitionKind} (reads : document.Reads kindOf)
    {kind : DefinitionKind} (known : kindOf name = some kind) :
    IR.kindOf ⟨merged, messages⟩ name = some kind := by
  obtain ⟨defn, listed, named⟩ := reads.declared name kind known
  have kinds := (reads.kinds defn listed).1
  rw [named, known, Option.some.injEq] at kinds
  obtain ⟨entry, mem, agrees⟩ := joined.covers defn
    (good.stored file document cached defn (mem_cons_of_mem _ listed))
  rw [← named, ← agrees.name, IR.kindOf, findDefinitionByName_eq joined.distinct mem,
    Option.map_some, agrees.kind, kinds]

theorem consistent_of_good
    (distinct : (rows.map ManifestMessage.name).Nodup) {messages : List Message}
    (sorted : messages.Perm walked.messages) : IR.Consistent ⟨merged, messages⟩ := by
  -- each entry has the kind and the properties of a definition of some document
  have origin : ∀ entry, entry ∈ merged -> ∃ file document kindOf defn,
      (file, document) ∈ walked.documents ∧ document.Reads kindOf ∧
        defn ∈ document.root :: document.defns ∧
        entry.kind = defn.kind ∧ entry.properties = defn.properties := by
    intro entry mem
    obtain ⟨defn, taken, same⟩ := joined.origin entry mem
    obtain ⟨file, document, cached, stands⟩ := good.origin defn taken
    obtain ⟨_, kindOf, reads⟩ := walkSchema_ok (good.cached file document cached)
    obtain ⟨_, kind, properties, _⟩ := Definition.eq_of_bare same
    exact ⟨file, document, kindOf, defn, cached, reads, stands, kind, properties⟩
  have references : ∀ entry defn : Definition,
      entry.properties = defn.properties -> entry.references = defn.references := by
    intro entry defn same
    rw [Definition.references, Definition.references, same]
  refine ⟨joined.distinct, ?_, ?_, ?_, ?_, ?_, ?_, ?_⟩
  · rwa [(sorted.map Message.name).nodup_iff, good.names]
  · intro entry mem property listed
    obtain ⟨file, document, kindOf, defn, cached, reads, stands, _, same⟩ := origin entry mem
    rw [same] at listed
    exact (reads.resolved defn stands property listed).mono
      (fun name kind => kindOf_eq good joined cached reads)
  · intro entry mem name named
    obtain ⟨file, document, kindOf, defn, cached, reads, stands, _, same⟩ := origin entry mem
    rw [references entry defn same] at named
    obtain ⟨target, declared, targetName⟩ := reads.names stands named
    obtain ⟨other, listed, agrees⟩ := joined.covers target
      (good.stored file document cached target (mem_cons_of_mem _ declared))
    exact ⟨other, listed, agrees.name.trans targetName,
      agrees.kind ▸ (reads.kinds target declared).2⟩
  · intro message mem name reached entry listed named
    obtain ⟨row, requestDoc, responseDoc, _, request, response, same⟩ :=
      good.listed message (sorted.mem_iff.mp mem)
    subst same
    obtain ⟨_, requestKinds, requestReads⟩ := walkSchema_ok (good.cached _ _ request)
    obtain ⟨_, responseKinds, responseReads⟩ := walkSchema_ok (good.cached _ _ response)
    obtain ⟨defn, stands, definitionName, closed⟩ :=
      computeReach_closed requestReads responseReads name reached
    have equal : entry.properties = defn.properties := by
      rcases mem_append.mp stands with early | late
      · exact (entry_eq good joined request (mem_cons_of_mem _ early) listed
          (named.trans definitionName.symm)).2
      · exact (entry_eq good joined response (mem_cons_of_mem _ late) listed
          (named.trans definitionName.symm)).2
    rwa [references entry defn equal]
  · intro message mem entry listed root
    obtain ⟨row, requestDoc, responseDoc, _, request, response, same⟩ :=
      good.listed message (sorted.mem_iff.mp mem)
    subst same
    obtain ⟨_, requestKinds, requestReads⟩ := walkSchema_ok (good.cached _ _ request)
    obtain ⟨_, responseKinds, responseReads⟩ := walkSchema_ok (good.cached _ _ response)
    obtain ⟨requestReach, responseReach⟩ := computeReach_roots requestDoc responseDoc
    rcases root with isRequest | isResponse
    · obtain ⟨kind, equal⟩ := entry_eq good joined request mem_cons_self listed isRequest
      exact ⟨kind.trans requestReads.root_kind, references entry _ equal ▸ requestReach⟩
    · obtain ⟨kind, equal⟩ := entry_eq good joined response mem_cons_self listed isResponse
      exact ⟨kind.trans responseReads.root_kind, references entry _ equal ▸ responseReach⟩
  · intro message mem
    obtain ⟨row, requestDoc, responseDoc, _, _, _, same⟩ :=
      good.listed message (sorted.mem_iff.mp mem)
    subst same
    exact computeReach_nodup requestDoc responseDoc
  · intro entry mem isEnum
    obtain ⟨file, document, kindOf, defn, cached, reads, stands, kind, same⟩ := origin entry mem
    rw [same, properties_enum good cached stands (kind ▸ isEnum)]

end

variable {manifest : Manifest}

/-- What a successful walk has gone through. -/
theorem walkSchemas_ok {ir : IR} (run : walkSchemas strconv files manifest = .ok ir) :
    ∃ walked, Walked.Good strconv files manifest.messages walked ∧
      Merged walked.defns ir.defns ∧ ir.messages.Perm walked.messages := by
  obtain ⟨walked, rows, run⟩ := bind_eq_ok.mp run
  obtain ⟨merged, joined, run⟩ := bind_eq_ok.mp run
  obtain rfl := pure_eq_ok.mp run
  exact ⟨walked, walkRows_ok rows, deduplicate_ok joined, perm_insertionSort _ _⟩

theorem walkSchemas_consistent {ir : IR}
    (distinct : (manifest.messages.map ManifestMessage.name).Nodup)
    (run : walkSchemas strconv files manifest = .ok ir) : ir.Consistent := by
  obtain ⟨walked, good, joined, sorted⟩ := walkSchemas_ok run
  exact consistent_of_good good joined distinct sorted

/-- Every row has its message, whose roots are named by the files of the row. -/
theorem walkSchemas_row {ir : IR} (run : walkSchemas strconv files manifest = .ok ir)
    {row : ManifestMessage} (mem : row ∈ manifest.messages) :
    ∃ message, message ∈ ir.messages ∧ message.name = row.name ∧ message.block = row.block ∧
      message.requestRoot = files.stem row.request ∧
      message.responseRoot = files.stem row.response := by
  obtain ⟨walked, good, _, sorted⟩ := walkSchemas_ok run
  obtain ⟨requestDoc, responseDoc, request, response, built⟩ := good.built row mem
  exact ⟨_, sorted.mem_iff.mpr built, rfl, rfl, (walkSchema_ok (good.cached _ _ request)).1,
    (walkSchema_ok (good.cached _ _ response)).1⟩

end Index

end Codegen
end OcppGo
