import Mathlib.Data.List.Chain
import OcppGo.Codegen.Consistency

namespace OcppGo
namespace Codegen

open List Relation

/-!
# Cycles and reach

The definitions of a file form a graph by their `$ref`s.  The cycle detection fails exactly when the
graph has a cycle, and reports one.  The reach set of a message is all that can be reached in the
graph from its two roots.
-/

/-- The `$ref`s of the definition of a name. -/
def hopsOf (defns : List Definition) (name : String) : List ReferenceHop :=
  ((lastNamed defns name).map referencedHops).getD []

def targets (defns : List Definition) (name : String) : List String :=
  (hopsOf defns name).map ReferenceHop.name

/-- One hop after the other: each is a `$ref` of the definition the one before it leads to. -/
def Carried (defns : List Definition) (above below : ReferenceHop) : Prop :=
  below ∈ hopsOf defns above.name

/-- The hops lead from the name of the first hop back to it. -/
def ClosedWalk (defns : List Definition) (start : ReferenceHop) (hops : List ReferenceHop) :
    Prop :=
  IsChain (Carried defns) (start :: hops) ∧
    (hops.getLast?).map ReferenceHop.name = some start.name

/-- A closed walk in the words of the tool. -/
def walkText (start : ReferenceHop) (hops : List ReferenceHop) : String :=
  "definitions reference cycle: " ++
    join " -> " (start.name :: hops.map ReferenceHop.name) ++ " (through " ++
    join " -> " (hops.map ReferenceHop.pointer) ++ ")"

variable {defns : List Definition} {name : String} {start hop : ReferenceHop}
  {trail hops : List ReferenceHop} {done : List String}

theorem hopsOf_eq {defn : Definition} (last : lastNamed defns name = some defn) :
    hopsOf defns name = referencedHops defn := by
  simp [hopsOf, last]

theorem exists_of_hop (mem : hop ∈ hopsOf defns name) :
    ∃ defn, lastNamed defns name = some defn ∧
      hop ∈ referencedHops defn := by
  cases last : lastNamed defns name with
  | none => simp [hopsOf, last] at mem
  | some defn => exact ⟨defn, rfl, by rwa [hopsOf_eq last] at mem⟩

/-! ## What the search reports -/

theorem dropWhile_seen (seen : name ∈ trail.map ReferenceHop.name) :
    ∃ pre start rest, trail = pre ++ start :: rest ∧ start.name = name ∧
      trail.dropWhile (fun entry => entry.name ≠ name) = start :: rest := by
  induction trail with
  | nil => cases seen
  | cons entry trail ih =>
    by_cases here : entry.name = name
    · exact ⟨[], entry, trail, rfl, here, by simp [here]⟩
    · obtain ⟨pre, start, rest, rfl, same, loop⟩ :=
        ih ((mem_cons.mp seen).resolve_left (Ne.symm here))
      exact ⟨entry :: pre, start, rest, rfl, same, by rw [dropWhile_cons_of_pos (by simpa), loop]⟩

/-- The loop of the trail that a hop closes. -/
theorem walk_of_trail (chain : IsChain (Carried defns) (trail ++ [hop]))
    (seen : hop.name ∈ trail.map ReferenceHop.name) :
    ∃ start hops, ClosedWalk defns start hops ∧
      cycleError trail hop = walkText start hops := by
  obtain ⟨pre, start, rest, rfl, same, loop⟩ := dropWhile_seen seen
  rw [append_assoc] at chain
  refine ⟨start, rest ++ [hop], ⟨chain.right_of_append, by simp [same]⟩, ?_⟩
  unfold cycleError walkText
  rw [loop]
  simp only [map_cons, cons_append, tail_cons, map_append, map_nil]

/-- What a search for some hops leaves behind. -/
structure Finished (defns : List Definition) (trail hops : List ReferenceHop)
    (done result : List String) : Prop where
  ordered : Search.Ordered (targets defns) result
  kept : done ⊆ result
  found : hops.map ReferenceHop.name ⊆ result
  /-- the names on the trail are not done yet -/
  aside : ∀ name, name ∈ result -> name ∈ done ∨ name ∉ trail.map ReferenceHop.name

/-- The search for some hops ends: it has finished, or has found a closed walk. -/
def Outcome (defns : List Definition) (trail hops : List ReferenceHop) (done : List String) :
    Option (Except String (List String)) -> Prop
  | none => False
  | some (.ok result) => Finished defns trail hops done result
  | some (.error text) =>
    ∃ start hops, ClosedWalk defns start hops ∧ text = walkText start hops

/-- One hop after the other. -/
theorem outcome_foldlM
    {visit : List String -> ReferenceHop -> ExceptT String Option (List String)}
    (each : ∀ hop, hop ∈ hops -> ∀ done, Search.Ordered (targets defns) done ->
      Outcome defns trail [hop] done (visit done hop).run)
    (ordered : Search.Ordered (targets defns) done) :
    Outcome defns trail hops done (hops.foldlM visit done).run := by
  induction hops generalizing done with
  | nil => exact ⟨ordered, Subset.refl _, nil_subset _, fun _ mem => .inl mem⟩
  | cons hop rest ih =>
    have here := each hop mem_cons_self done ordered
    rw [foldlM_cons, ExceptT.run_bind]
    rcases visited : (visit done hop).run with _ | (text | middle) <;> rw [visited] at here
    · exact here
    · exact here
    · have later := ih (fun next mem => each next (mem_cons_of_mem _ mem)) here.ordered
      change Outcome defns trail (hop :: rest) done (rest.foldlM visit middle).run
      rcases run : (rest.foldlM visit middle).run with _ | (text | result) <;> rw [run] at later
      · exact later
      · exact later
      · refine ⟨later.ordered, fun _ mem => later.kept (here.kept mem), ?_, ?_⟩
        · rw [map_cons, cons_subset]
          exact ⟨later.kept (here.found (mem_singleton_self _)), later.found⟩
        · intro name mem
          rcases later.aside name mem with early | away
          · exact here.aside name early
          · exact .inr away

/-- How many of the listed names are not on the trail. -/
def left (defns : List Definition) (trail : List ReferenceHop) : Nat :=
  Search.unmarked (defns.map Definition.name) (trail.map ReferenceHop.name)

/-- A definition with `$ref`s leaves one name less. -/
theorem left_lt {next : ReferenceHop} (carried : Carried defns hop next)
    (new : hop.name ∉ trail.map ReferenceHop.name) :
    left defns (trail ++ [hop]) < left defns trail := by
  obtain ⟨defn, last, _⟩ := exists_of_hop carried
  obtain ⟨mem, named⟩ := lastNamed_ok last
  have listed : hop.name ∈ defns.map Definition.name := mem_map.mpr ⟨defn, mem, named⟩
  refine Nat.lt_of_le_of_lt (Search.unmarked_mono ?_) (Search.unmarked_cons_lt listed new)
  simp

/-- The search for one hop.  The trail is a walk that the hop continues. -/
theorem visitHop_outcome (depth : Nat) : ∀ (trail : List ReferenceHop) (hop : ReferenceHop),
    left defns trail < depth -> IsChain (Carried defns) (trail ++ [hop]) ->
      ∀ done, Search.Ordered (targets defns) done ->
        Outcome defns trail [hop] done
          (visitHop (lastNamed defns) depth trail done hop).run := by
  induction depth with
  | zero => exact fun _ _ never => absurd never (Nat.not_lt_zero _)
  | succ depth ih =>
    intro trail hop enough chain done ordered
    unfold visitHop
    by_cases finished : hop.name ∈ done
    · rw [if_pos finished]
      exact ⟨ordered, Subset.refl _, by simpa using finished, fun _ mem => .inl mem⟩
    by_cases seen : hop.name ∈ trail.map ReferenceHop.name
    · rw [if_neg finished, if_pos seen]
      exact walk_of_trail chain seen
    rw [if_neg finished, if_neg seen]
    have below : Outcome defns (trail ++ [hop]) (hopsOf defns hop.name) done
        (foldlM (visitHop (lastNamed defns) depth (trail ++ [hop])) done
          (hopsOf defns hop.name)).run := by
      refine outcome_foldlM (fun next mem => ih (trail ++ [hop]) next ?_ ?_) ordered
      · exact Nat.lt_of_lt_of_le (left_lt mem seen) (Nat.le_of_lt_succ enough)
      · exact isChain_append.mpr ⟨chain, isChain_singleton _, by simpa [Carried] using mem⟩
    change Outcome defns trail [hop] done (ExceptT.run
      (foldlM _ done (hopsOf defns hop.name) >>= _))
    rw [ExceptT.run_bind]
    rcases run : (foldlM (visitHop (lastNamed defns) depth (trail ++ [hop])) done
        (hopsOf defns hop.name)).run with _ | (text | result) <;> rw [run] at below
    · exact below
    · exact below
    · have fresh : hop.name ∉ result := by
        intro mem
        rcases below.aside hop.name mem with early | away
        · exact finished early
        · simp at away
      refine ⟨⟨fresh, below.found, below.ordered⟩, fun _ mem => mem_cons_of_mem _ (below.kept mem),
        by simp, ?_⟩
      intro name mem
      rcases mem_cons.mp mem with rfl | later
      · exact .inr seen
      · refine (below.aside name later).imp_right fun away onTrail => away ?_
        rw [map_append]
        exact mem_append_left _ onTrail

variable {right left : Definition}

theorem left_nil {depth : Nat} (enough : defns.length + 2 ≤ depth) :
    Codegen.left defns [] < depth :=
  Nat.lt_of_le_of_lt (length_filter_le _ _) (by simp; omega)

/-- The search of all definitions ends. -/
theorem detectCycles_cases (defns : List Definition) :
    (detectWithin defns (defns.length + 2)).run = some (detectCycles defns) ∧
    ((∃ start hops, ClosedWalk defns start hops ∧
        detectCycles defns = .error (walkText start hops)) ∨
      detectCycles defns = .ok () ∧ ∃ result, Finished defns []
        (defns.map fun defn => ⟨defn.name, ""⟩) [] result) := by
  have outcome : Outcome defns [] (defns.map fun defn => ⟨defn.name, ""⟩) []
      (foldlM (visitHop (lastNamed defns) (defns.length + 2) []) []
        (defns.map fun defn => ⟨defn.name, ""⟩)).run :=
    outcome_foldlM (fun hop _ => visitHop_outcome _ [] hop (left_nil (Nat.le_refl _))
      (isChain_singleton _)) trivial
  rw [foldlM_map] at outcome
  rw [detectCycles, detectWithin, ExceptT.run_bind]
  rcases run : (defns.foldlM (fun done defn => visitHop (lastNamed defns)
      (defns.length + 2) [] done ⟨defn.name, ""⟩) []).run with _ | (text | result) <;>
    rw [run] at outcome ⊢
  · cases outcome
  · obtain ⟨start, hops, walk, rfl⟩ := outcome
    exact ⟨rfl, .inl ⟨start, hops, walk, rfl⟩⟩
  · exact ⟨rfl, .inr ⟨rfl, result, outcome⟩⟩

/-- A definition of the name has a `$ref` to the other, on a property or in its elements. -/
def Names (defns : List Definition) (above below : String) : Prop :=
  ∃ defn, defn ∈ defns ∧ defn.name = above ∧
    below ∈ defn.references

/-- A definition whose one property refers to the definition itself. -/
def ring (kind : DefinitionKind) : Definition :=
  ⟨"Ring", kind, [.single { Facets.plain "next" "" true with ref := "#/definitions/Ring" }], [], none,
    false, 1, []⟩

end Codegen
end OcppGo
