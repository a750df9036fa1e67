import Mathlib.Data.List.Nodup
import Mathlib.Logic.Relation

namespace OcppGo
namespace Search

open List

/-!
# Marking a graph depth first

A depth-first search over a graph given by successor lists.  The marks are
shared by everything that is searched, so a node is expanded the first time it
is met and never again, and a cycle of the graph ends the descent.

The recursion is on the nesting depth.  A descent marks a new node at every
level, so a depth above the number of nodes with successors is never used up: a
search without a result is one whose depth did not suffice, and `mark_spec`
states the result under that bound.
-/

variable {α : Type}

/-- What a search that starts from `marked` and is asked for `pending` returns. -/
structure Marks (successors : α -> List α) (pending marked result : List α) : Prop where
  kept : marked ⊆ result
  covered : pending ⊆ result
  closed : ∀ node, node ∈ result -> node ∉ marked -> successors node ⊆ result
  sound : ∀ node, node ∈ result -> node ∉ marked ->
    ∃ start, start ∈ pending ∧
      Relation.ReflTransGen (fun above below => below ∈ successors above) start node
  nodup : marked.Nodup -> result.Nodup

namespace Marks

variable {successors : α -> List α} {pending marked result : List α}

/-- Nodes that are marked already add nothing. -/
theorem skip (covered : pending ⊆ marked) : Marks successors pending marked marked where
  kept := Subset.refl _
  covered := covered
  closed := fun _ mem unmarked => absurd mem unmarked
  sound := fun _ mem unmarked => absurd mem unmarked
  nodup := id

/-- Expanding a node that was not marked. -/
theorem expand {node : α} (unmarked : node ∉ marked)
    (below : Marks successors (successors node) (node :: marked) result) :
    Marks successors [node] marked result := by
  have present : node ∈ result := below.kept mem_cons_self
  refine ⟨fun other mem => below.kept (mem_cons_of_mem _ mem), by simpa using present,
    ?_, ?_, fun distinct => below.nodup (nodup_cons.mpr ⟨unmarked, distinct⟩)⟩
  · intro other mem fresh
    by_cases same : other = node
    · subst same
      exact below.covered
    · exact below.closed other mem (by simp [same, fresh])
  · intro other mem fresh
    refine ⟨node, mem_singleton_self node, ?_⟩
    by_cases same : other = node
    · subst same
      exact Relation.ReflTransGen.refl
    · obtain ⟨start, edge, path⟩ := below.sound other mem (by simp [same, fresh])
      exact Relation.ReflTransGen.head edge path

/-- Searching for one list of nodes and then for another. -/
theorem append {later middle : List α} (first : Marks successors pending marked middle)
    (second : Marks successors later middle result) :
    Marks successors (pending ++ later) marked result := by
  refine ⟨fun _ mem => second.kept (first.kept mem), ?_, ?_, ?_,
    fun distinct => second.nodup (first.nodup distinct)⟩
  · intro node mem
    rcases mem_append.mp mem with early | late
    · exact second.kept (first.covered early)
    · exact second.covered late
  · intro node mem fresh
    by_cases early : node ∈ middle
    · exact fun _ edge => second.kept (first.closed node early fresh edge)
    · exact second.closed node mem early
  · intro node mem fresh
    by_cases early : node ∈ middle
    · obtain ⟨start, found, path⟩ := first.sound node early fresh
      exact ⟨start, mem_append_left _ found, path⟩
    · obtain ⟨start, found, path⟩ := second.sound node mem early
      exact ⟨start, mem_append_right _ found, path⟩

end Marks

/-- Every node stands before its successors, as when each is put in front once what is below it has
been searched. -/
def Ordered (successors : α -> List α) : List α -> Prop
  | [] => True
  | node :: rest => node ∉ rest ∧ successors node ⊆ rest ∧ Ordered successors rest

namespace Ordered

variable {successors : α -> List α} {nodes : List α} {node next : α}

variable (ordered : Ordered successors nodes) (mem : node ∈ nodes)
include ordered mem

theorem closed
    (path : Relation.ReflTransGen (fun above below => below ∈ successors above) node next) :
    next ∈ nodes := by
  induction path with
  | refl => exact mem
  | tail _ edge here =>
    clear mem
    induction nodes with
    | nil => cases here
    | cons head rest ih =>
      rcases mem_cons.mp here with rfl | later
      · exact mem_cons_of_mem _ (ordered.2.1 edge)
      · exact mem_cons_of_mem _ (ih ordered.2.2 later)

/-- No finished node lies on a cycle. -/
theorem acyclic : ¬ Relation.TransGen (fun above below => below ∈ successors above) node node := by
  intro cycle
  induction nodes with
  | nil => cases mem
  | cons head rest ih =>
    rcases mem_cons.mp mem with rfl | later
    · obtain ⟨below, edge, path⟩ := Relation.TransGen.head'_iff.mp cycle
      exact ordered.1 (ordered.2.2.closed (ordered.2.1 edge) path)
    · exact ih ordered.2.2 later

end Ordered

variable [DecidableEq α]

/-- Mark the pending nodes and all that is found below them. -/
def mark (successors : α -> List α) : Nat -> List α -> List α -> Option (List α)
  | 0, pending, marked => if pending.isEmpty then some marked else none
  | depth + 1, pending, marked =>
    pending.foldlM
      (fun marked node =>
        if node ∈ marked then some marked
        else mark successors depth (successors node) (node :: marked))
      marked

/-- How many of the nodes are not marked. -/
def unmarked (nodes marked : List α) : Nat :=
  (nodes.filter (fun node => node ∉ marked)).length

variable {nodes : List α}

theorem unmarked_mono {marked larger : List α} (included : marked ⊆ larger) :
    unmarked nodes larger ≤ unmarked nodes marked := by
  refine Sublist.length_le (monotone_filter_right nodes fun node absent => ?_)
  simp only [decide_eq_true_eq] at absent ⊢
  exact fun mem => absent (included mem)

theorem unmarked_cons_lt {marked : List α} {node : α} (listed : node ∈ nodes)
    (absent : node ∉ marked) : unmarked nodes (node :: marked) < unmarked nodes marked := by
  have fewer : nodes.filter (fun other => other ∉ node :: marked) =
      (nodes.filter (fun other => other ∉ marked)).filter (fun other => other ≠ node) := by
    simp [filter_filter, not_or]
  rw [unmarked, fewer]
  exact length_filter_lt_length_iff_exists.mpr ⟨node, by simp [listed, absent], by simp⟩

variable {successors : α -> List α} (listed : ∀ node, successors node ≠ [] -> node ∈ nodes)
  (depth : Nat)
include listed

/-- With a depth above the number of unmarked nodes that have successors, the
search ends, and marks what it is asked for and everything below it. -/
theorem mark_spec :
    ∀ (pending marked : List α), (pending = [] ∨ unmarked nodes marked < depth) ->
      ∃ result, mark successors depth pending marked = some result ∧
        Marks successors pending marked result := by
  induction depth with
  | zero =>
    intro pending marked enough
    rcases enough with rfl | never
    · exact ⟨marked, rfl, Marks.skip (nil_subset _)⟩
    · exact absurd never (Nat.not_lt_zero _)
  | succ depth ih =>
    intro pending
    induction pending with
    | nil => exact fun marked _ => ⟨marked, rfl, Marks.skip (nil_subset _)⟩
    | cons node rest restHypothesis =>
      intro marked enough
      have bound : unmarked nodes marked < depth + 1 := by
        rcases enough with never | bound
        · cases never
        · exact bound
      -- the head of the list is skipped or expanded, and the rest continues from its marks
      obtain ⟨middle, found, step⟩ : ∃ middle, (if node ∈ marked then some marked
          else mark successors depth (successors node) (node :: marked)) = some middle ∧
          Marks successors [node] marked middle := by
        by_cases mem : node ∈ marked
        · exact ⟨marked, if_pos mem, Marks.skip (by simpa using mem)⟩
        · rw [if_neg mem]
          refine (ih _ _ ?_).imp fun _ found => ⟨found.1, Marks.expand mem found.2⟩
          by_cases leaf : successors node = []
          · exact .inl leaf
          · exact .inr (Nat.lt_of_lt_of_le (unmarked_cons_lt (listed node leaf) mem)
              (Nat.le_of_lt_succ bound))
      obtain ⟨result, later, marks⟩ := restHypothesis middle (.inr
        (Nat.lt_of_le_of_lt (unmarked_mono step.kept) bound))
      refine ⟨result, ?_, Marks.append step marks⟩
      rw [mark, foldlM_cons, found]
      exact later

omit listed

end Search
end OcppGo
