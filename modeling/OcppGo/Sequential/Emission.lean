import Mathlib.Data.List.Basic

namespace OcppGo
namespace Sequential

open List

/-!
# Counting the events of sequential code that may panic

A goroutine that runs on its own is a function of its state which returns a
value or panics, and keeps the state it has reached either way: `EStateM`.  The
judgement `Emits` says which events such a program adds to a log and how many,
both when it returns and when it panics.
-/

variable {ε σ τ α β : Type}

/-- The value or the panic a run ends with. -/
def outcome : EStateM.Result ε σ α -> Except ε α
  | .ok value _ => .ok value
  | .error panic _ => .error panic

/-- The state a run ends in. -/
def final : EStateM.Result ε σ α -> σ
  | .ok _ state => state
  | .error _ state => state

/-- A pure computation that may panic, run as a program. -/
def lift (computed : Except ε α) : EStateM ε σ α :=
  match computed with
  | .ok value => pure value
  | .error panic => throw panic

variable {prog : EStateM ε σ α} {onward : α -> EStateM ε σ β} {pre : σ}

theorem bind_ok {after : σ} {value : α} (ran : prog pre = .ok value after) :
    (prog >>= onward) pre = onward value after := by
  show EStateM.bind prog onward pre = _
  simp [EStateM.bind, ran]

theorem bind_error {after : σ} {panic : ε} (ran : prog pre = .error panic after) :
    (prog >>= onward) pre = .error panic after := by
  show EStateM.bind prog onward pre = _
  simp [EStateM.bind, ran]

theorem get_bind (onward : σ -> EStateM ε σ α) (state : σ) :
    (get >>= onward) state = onward state state := rfl

/-- Which part of the state is the log, and which condition on the rest of the
state every program keeps. -/
structure Recording (σ τ : Type) where
  log : σ -> List τ
  steady : σ -> Prop

/-- From every steady state the program adds only events of the given kind to
the log, and the outcome and the number of events satisfy the condition. -/
def Emits (recording : Recording σ τ) (event : τ -> Prop) (prog : EStateM ε σ α)
    (cond : Except ε α -> Nat -> Prop) : Prop :=
  ∀ pre, recording.steady pre ->
    recording.steady (final (prog pre)) ∧
      ∃ added, recording.log (final (prog pre)) = recording.log pre ++ added ∧
        (∀ entry, entry ∈ added -> event entry) ∧
        cond (outcome (prog pre)) added.length

namespace Emits

variable {recording : Recording σ τ} {event : τ -> Prop}

variable {cond : Except ε α -> Nat -> Prop}

theorem mono {weaker : Except ε α -> Nat -> Prop} (emits : Emits recording event prog cond)
    (implied : ∀ result count, cond result count -> weaker result count) :
    Emits recording event prog weaker := by
  intro pre steady
  obtain ⟨kept, added, extended, kinds, holds⟩ := emits pre steady
  exact ⟨kept, added, extended, kinds, implied _ _ holds⟩

theorem pure {value : α} (holds : cond (.ok value) 0) :
    Emits recording event (Pure.pure value : EStateM ε σ α) cond := by
  intro pre steady
  exact ⟨steady, [], (append_nil _).symm, by simp, holds⟩

theorem throw {panic : ε} (holds : cond (.error panic) 0) :
    Emits recording event (MonadExcept.throw panic : EStateM ε σ α) cond := by
  intro pre steady
  exact ⟨steady, [], (append_nil _).symm, by simp, holds⟩

/-- A pure computation decides how to go on and adds nothing itself. -/
theorem lifting {computed : Except ε α} {cond : Except ε β -> Nat -> Prop}
    (returns : ∀ value, computed = .ok value -> Emits recording event (onward value)
      cond) (panics : ∀ panic, computed = .error panic -> cond (.error panic) 0) :
    Emits recording event (lift computed >>= onward) cond := by
  cases computed with
  | ok value => exact returns value rfl
  | error panic => exact Emits.throw (panics panic rfl)

/-- A step that keeps the log and the condition on the rest of the state. -/
theorem modifying {change : σ -> σ} {cond : Except ε Unit -> Nat -> Prop}
    (keepsLog : ∀ state, recording.log (change state) = recording.log state)
    (keeps : ∀ state, recording.steady state -> recording.steady (change state))
    (holds : cond (.ok ()) 0) :
    Emits recording event (modify change : EStateM ε σ Unit) cond := by
  intro pre steady
  refine ⟨keeps pre steady, [], ?_, by simp, holds⟩
  exact (keepsLog pre).trans (append_nil _).symm

/-- Reading the state adds nothing. -/
theorem reading {onward : σ -> EStateM ε σ α}
    (emits : ∀ state, Emits recording event (onward state) cond) :
    Emits recording event (get >>= onward) cond := by
  intro pre steady
  exact emits pre pre steady

/-- A program that runs where another one has stopped goes on counting. -/
theorem resumed {reached : σ} {added : List τ}
    (extended : recording.log reached = recording.log pre ++ added)
    (kinds : ∀ entry, entry ∈ added -> event entry) (steady : recording.steady reached)
    (emits : Emits recording event prog fun result more => cond result (added.length +
      more)) :
    recording.steady (final (prog reached)) ∧
      ∃ total, recording.log (final (prog reached)) = recording.log pre ++ total ∧
        (∀ entry, entry ∈ total -> event entry) ∧
        cond (outcome (prog reached)) total.length := by
  obtain ⟨kept, more, extendedAgain, kindsAgain, holds⟩ := emits reached steady
  refine ⟨kept, added ++ more, ?_, ?_, ?_⟩
  · rw [extendedAgain, extended, append_assoc]
  · intro entry mem
    rcases mem_append.mp mem with mem | mem
    · exact kinds entry mem
    · exact kindsAgain entry mem
  · rwa [length_append]

variable {middle : Except ε α -> Nat -> Prop}

variable (first : Emits recording event prog middle)
include first

/-- Sequencing: the second program goes on counting, and a panic of the first
one skips it. -/
theorem bind {cond : Except ε β -> Nat -> Prop}
    (second : ∀ value count, middle (.ok value) count ->
      Emits recording event (onward value) fun result more => cond result (count + more))
    (panics : ∀ panic count, middle (.error panic) count -> cond (.error panic) count) :
    Emits recording event (prog >>= onward) cond := by
  intro pre steady
  obtain ⟨kept, added, extended, kinds, holds⟩ := first pre steady
  cases ran : prog pre with
  | error panic state =>
    rw [ran] at kept extended holds
    rw [bind_error ran]
    exact ⟨kept, added, extended, kinds, panics panic _ holds⟩
  | ok value state =>
    rw [ran] at kept extended holds
    rw [bind_ok ran]
    exact resumed extended kinds kept (second value _ holds)

/-- Recovery: the handler goes on counting where the panic left the log. -/
theorem tryCatch {handler : ε -> EStateM ε σ α}
    (returns : ∀ value count, middle (.ok value) count -> cond (.ok value) count)
    (second : ∀ panic count, middle (.error panic) count ->
      Emits recording event (handler panic) fun result more => cond result (count + more)) :
    Emits recording event (MonadExcept.tryCatch prog handler) cond := by
  intro pre steady
  obtain ⟨kept, added, extended, kinds, holds⟩ := first pre steady
  cases ran : prog pre with
  | ok value state =>
    have whole : (MonadExcept.tryCatch prog handler : EStateM ε σ α) pre =
        .ok value state := by
      show EStateM.tryCatch prog handler pre = _
      simp [EStateM.tryCatch, ran]
    rw [ran] at kept extended holds
    rw [whole]
    exact ⟨kept, added, extended, kinds, returns value _ holds⟩
  | error panic state =>
    have whole : (MonadExcept.tryCatch prog handler : EStateM ε σ α) pre =
        handler panic state := by
      show EStateM.tryCatch prog handler pre = _
      simp [EStateM.tryCatch, ran]
      rfl
    rw [ran] at kept extended holds
    rw [whole]
    exact resumed extended kinds kept (second panic _ holds)

end Emits

end Sequential
end OcppGo
