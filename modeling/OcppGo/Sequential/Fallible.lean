import Mathlib.Data.List.Forall2

namespace OcppGo
namespace Sequential

open List

/-!
# Code that stops at its first failure

Sequential code that returns a value or an error is written in `Except`.  The
lemmas below take a successful run apart: a sequence succeeds when each step
does, a traversal succeeds element by element, and a loop keeps what every
round keeps.
-/

variable {ε δ α β γ : Type}

variable {first : Except ε α}

theorem bind_eq_ok {onward : α -> Except ε β} {value : β} :
    (first >>= onward) = .ok value <->
      ∃ middle, first = .ok middle ∧ onward middle = .ok value := by
  cases first with
  | _ => simp [bind, Except.bind]

theorem map_eq_ok {function : α -> β} {value : β} :
    (function <$> first) = .ok value <-> ∃ middle, first = .ok middle ∧ function middle = value := by
  cases first with
  | _ => simp [Functor.map, Except.map]

@[simp] theorem mapError_eq_ok {function : ε -> δ} {value : α} :
    first.mapError function = .ok value <-> first = .ok value := by
  cases first with
  | _ => simp [Except.mapError]

@[simp] theorem pure_eq_ok {first value : α} :
    (pure first : Except ε α) = .ok value <-> first = value := by
  simp [pure, Except.pure]

section

variable {cond : Prop} [Decidable cond] {failure : ε} {rest : Except ε α} {value : α}

/-- A check that fails where its condition holds. -/
theorem unless_eq_ok : (if cond then .error failure else rest) = .ok value <->
    ¬ cond ∧ rest = .ok value := by
  split <;> simp_all

/-- A check that fails where its condition does not hold. -/
theorem when_eq_ok : (if cond then rest else .error failure) = .ok value <->
    cond ∧ rest = .ok value := by
  split <;> simp_all

end

variable {elements : List α} {function : α -> Except ε β} {values : List β}

/-- A traversal that succeeds has succeeded on each element. -/
theorem mapM_ok (mapped : elements.mapM function = .ok values) :
    List.Forall₂ (fun element value => function element = .ok value) elements values := by
  induction elements generalizing values with
  | nil =>
    simp only [mapM_nil, pure_eq_ok] at mapped
    subst mapped
    exact Forall₂.nil
  | cons head rest ih =>
    rw [mapM_cons, bind_eq_ok] at mapped
    obtain ⟨value, first, mapped⟩ := mapped
    obtain ⟨others, onward, mapped⟩ := bind_eq_ok.mp mapped
    obtain rfl := pure_eq_ok.mp mapped
    exact Forall₂.cons first (ih onward)

/-- A value of a related list belongs to an element. -/
theorem exists_of_forall₂ {relation : α -> β -> Prop}
    (related : List.Forall₂ relation elements values) {value : β} (mem : value ∈ values) :
    ∃ element, element ∈ elements ∧ relation element value := by
  induction related with
  | nil => cases mem
  | cons first _ ih =>
    rcases mem_cons.mp mem with same | later
    · subst same
      exact ⟨_, mem_cons_self, first⟩
    · obtain ⟨element, found, holds⟩ := ih later
      exact ⟨element, mem_cons_of_mem _ found, holds⟩

theorem mem_of_mapM (mapped : elements.mapM function = .ok values) {value : β}
    (mem : value ∈ values) : ∃ element, element ∈ elements ∧ function element = .ok value :=
  exists_of_forall₂ (mapM_ok mapped) mem

theorem exists_of_mapM (mapped : elements.mapM function = .ok values) {element : α}
    (mem : element ∈ elements) : ∃ value, value ∈ values ∧ function element = .ok value :=
  have flipped : Forall₂ (fun value element => function element = .ok value) values elements :=
    Forall₂.flip (mapM_ok mapped)
  exists_of_forall₂ flipped mem

theorem mapM_mapError {wrap : α -> ε -> δ} :
    (elements.mapM fun element => (function element).mapError (wrap element)) = .ok values <->
      elements.mapM function = .ok values := by
  induction elements generalizing values with
  | nil => simp
  | cons head rest ih => simp only [mapM_cons, bind_eq_ok, mapError_eq_ok, pure_eq_ok, ih]

variable {round : β -> α -> Except ε β} {state final : β}

/-- A loop that succeeds keeps a relation between the elements it has taken and
its state. -/
theorem foldlM_ok (relation : List α -> β -> Prop)
    (keeps : ∀ taken element state next, relation taken state ->
      round state element = .ok next -> relation (taken ++ [element]) next)
    (initially : relation [] state) (run : elements.foldlM round state = .ok final) :
    relation elements final := by
  have continued : ∀ taken state, relation taken state ->
      elements.foldlM round state = .ok final -> relation (taken ++ elements) final := by
    clear initially run
    induction elements with
    | nil =>
      intro taken state holds run
      simp only [foldlM_nil, pure_eq_ok] at run
      subst run
      simpa using holds
    | cons head rest ih =>
      intro taken state holds run
      rw [foldlM_cons, bind_eq_ok] at run
      obtain ⟨next, first, run⟩ := run
      have kept := ih (taken ++ [head]) next (keeps taken head state next holds first) run
      simpa using kept
  exact continued [] state initially run

/-- Every element of a loop that succeeds has had its round. -/
theorem exists_round (run : elements.foldlM round state = .ok final) {element : α}
    (mem : element ∈ elements) : ∃ pre after, round pre element = .ok after := by
  induction elements generalizing state with
  | nil => cases mem
  | cons head rest ih =>
    rw [foldlM_cons] at run
    obtain ⟨next, first, run⟩ := bind_eq_ok.mp run
    rcases mem_cons.mp mem with rfl | later
    · exact ⟨state, next, first⟩
    · exact ih run later

/-- A loop whose rounds are rounds of another one, seen through a projection, runs
as the other one does. -/
theorem foldlM_project {roundSeen : γ -> α -> Except δ γ} (project : β -> γ)
    (rounds : ∀ state element next, round state element = .ok next ->
      roundSeen (project state) element = .ok (project next))
    (run : elements.foldlM round state = .ok final) :
    elements.foldlM roundSeen (project state) = .ok (project final) := by
  induction elements generalizing state with
  | nil =>
    simp only [foldlM_nil, pure_eq_ok] at run ⊢
    rw [run]
  | cons head rest ih =>
    rw [foldlM_cons] at run ⊢
    obtain ⟨next, first, run⟩ := bind_eq_ok.mp run
    exact bind_eq_ok.mpr ⟨_, rounds state head next first, ih run⟩

/-- A check of every element that succeeds has succeeded on each. -/
theorem forM_ok {check : α -> Except ε PUnit} (checked : elements.forM check = .ok ()) {element : α}
    (mem : element ∈ elements) : check element = .ok () := by
  induction elements with
  | nil => cases mem
  | cons head rest ih =>
    rw [List.forM] at checked
    obtain ⟨_, first, checked⟩ := bind_eq_ok.mp checked
    rcases mem_cons.mp mem with rfl | later
    · exact first
    · exact ih checked later

section Keyed

variable {κ σ τ : Type} [DecidableEq κ]

/-- The state of the element's key, started if the key has none. -/
def keyedState (key : α -> κ) (start : α -> Except ε σ) (states : List (κ × σ)) (element : α) :
    Except ε σ :=
  match states.lookup (key element) with
  | some state => .ok state
  | none => start element

def keyedRound (key : α -> κ) (start : α -> Except ε σ) (round : σ -> α -> Except ε σ)
    (states : List (κ × σ)) (element : α) : Except ε (List (κ × σ)) := do
  let state ← keyedState key start states element
  let next ← round state element
  return (key element, next) :: states

/-- Run a loop over the elements of each key separately, in one walk. -/
def foldKeyed (key : α -> κ) (start : α -> Except ε σ) (round : σ -> α -> Except ε σ)
    (elements : List α) : Except ε (List (κ × σ)) :=
  elements.foldlM (keyedRound key start round) []

/-- The elements of one key have been run by themselves to the state kept for it. -/
def RanAlone (key : α -> κ) (start : α -> Except ε σ) (round : σ -> α -> Except ε σ) (wanted : κ)
    (elements : List α) (states : List (κ × σ)) : Prop :=
  match elements.filter fun element => key element = wanted with
  | [] => states.lookup wanted = none
  | first :: rest => ∃ initial final, start first = .ok initial ∧
      (first :: rest).foldlM round initial = .ok final ∧ states.lookup wanted = some final

theorem foldKeyed_ok {key : α -> κ} {start : α -> Except ε σ} {round : σ -> α -> Except ε σ}
    {states : List (κ × σ)} (run : foldKeyed key start round elements = .ok states) (wanted : κ) :
    RanAlone key start round wanted elements states := by
  refine foldlM_ok (fun taken states => RanAlone key start round wanted taken states)
    ?_ (show RanAlone key start round wanted [] [] from rfl) run
  intro taken element states next ran walked
  obtain ⟨state, reached, walked⟩ := bind_eq_ok.mp walked
  obtain ⟨onward, stepped, walked⟩ := bind_eq_ok.mp walked
  obtain rfl := pure_eq_ok.mp walked
  unfold RanAlone at ran ⊢
  rw [filter_append]
  by_cases same : key element = wanted
  · subst same
    have alone : [element].filter (fun other => key other = key element) = [element] := by simp
    rw [alone]
    unfold keyedState at reached
    cases earlier : taken.filter fun other => key other = key element with
    | nil =>
      simp only [earlier] at ran
      simp only [ran] at reached
      exact ⟨state, onward, reached, by simp [stepped], by simp⟩
    | cons first rest =>
      simp only [earlier] at ran
      obtain ⟨initial, final, started, folded, kept⟩ := ran
      simp only [kept, Except.ok.injEq] at reached
      subst reached
      refine ⟨initial, onward, started, ?_, by simp⟩
      show ((first :: rest) ++ [element]).foldlM round initial = .ok onward
      rw [foldlM_append, folded]
      exact bind_eq_ok.mpr ⟨_, rfl, by simp [stepped]⟩
  · have none : [element].filter (fun other => key other = wanted) = [] := by simp [same]
    have other : List.lookup wanted ((key element, onward) :: states) = states.lookup wanted := by
      rw [lookup_cons, beq_false_of_ne (Ne.symm same)]
    rwa [none, append_nil, other]

end Keyed

/-- A check of the value, failed where there is none. -/
def succeeds (computed : Except ε α) (check : α -> Bool) : Bool :=
  match computed with
  | .ok value => check value
  | .error _ => false

theorem exists_of_succeeds {computed : Except ε α} {check : α -> Bool}
    (checked : succeeds computed check = true) :
    ∃ value, computed = .ok value ∧ check value = true := by
  cases computed with
  | error failure => cases checked
  | ok value => exact ⟨value, rfl, checked⟩

end Sequential
end OcppGo
