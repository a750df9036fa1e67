import OcppGo.Interleaving.Program

namespace OcppGo
namespace Interleaving

open List Option

/-!
# Interleaved runs

A system is a family of programs over one shared state.  Its runs are all
interleavings: at every moment any goroutine may perform its next operation,
a new goroutine may enter the component, or an event of the environment may
occur.  The step function is executable, so one definition serves to replay a
concrete schedule and to reason about every schedule.

An assumption about the environment is a `Guard`: a condition on the state in
which a call is issued or an operation is performed.  The system itself never
refers to a guard, so the code is modelled without it.  Where an assumption
relates an operation to what the other goroutines are doing, runs are
restricted by a condition on the whole configuration instead.
-/

/-- A goroutine: the call it is executing and the rest of its program.  A
finished program returns the call whose body follows, as a loop does with its
next pass, or nothing when the goroutine ends. -/
structure Thread (Op : Type) (Res : Op -> Type) (Call : Type) where
  call : Call
  prog : Program Op Res (Option Call)

/-- The code of a component together with the meaning of its operations.  An
operation that cannot proceed in the present state answers `none`: it blocks.
The `Choice` resolves what the source leaves to the scheduler or the network. -/
structure System (Op : Type) (Res : Op -> Type) (Shared Choice Call Event : Type) where
  body : Call -> Program Op Res (Option Call)
  execute : Nat -> (op : Op) -> Choice -> Shared -> Option (Res op × Shared)
  enter : Call -> Shared -> Option Shared
  occur : Event -> Shared -> Option Shared

/-- The shared state and the goroutines.  A finished goroutine leaves its
place empty, and places are never reused. -/
structure Config (Op : Type) (Res : Op -> Type) (Shared Call : Type) where
  shared : Shared
  threads : List (Option (Thread Op Res Call))

/-- One step of the interleaving. -/
inductive Action (Choice Call Event : Type) where
  | call (call : Call)
  | step (tid : Nat) (choice : Choice)
  | occur (event : Event)

/-- A condition on the calls that are issued and on the states in which the
operations are performed. -/
structure Guard (Op : Type) (Res : Op -> Type) (Shared Call : Type) where
  call : Config Op Res Shared Call -> Call -> Prop
  op : Shared -> Nat -> Op -> Prop

variable {Op : Type} {Res : Op -> Type} {Shared Choice Call Event : Type}

namespace Config

/-- The goroutine at a place, if there is one. -/
def thread? (config : Config Op Res Shared Call) (tid : Nat) : Option (Thread Op Res Call) :=
  config.threads[tid]?.join

/-- Replace the goroutine at a place, or empty the place. -/
def put (config : Config Op Res Shared Call) (tid : Nat)
    (content : Option (Thread Op Res Call)) : Config Op Res Shared Call :=
  { config with threads := config.threads.set tid content }

/-- A new goroutine takes the first place that was never used. -/
def spawn (config : Config Op Res Shared Call) (content : Thread Op Res Call) :
    Config Op Res Shared Call :=
  { config with threads := config.threads ++ [some content] }

@[simp] theorem put_shared (config : Config Op Res Shared Call) (tid : Nat)
    (content : Option (Thread Op Res Call)) : (config.put tid content).shared = config.shared := rfl

@[simp] theorem spawn_shared (config : Config Op Res Shared Call)
    (content : Thread Op Res Call) : (config.spawn content).shared = config.shared := rfl

variable {config : Config Op Res Shared Call} {tid : Nat} {content : Thread Op Res Call}

section

variable (found : config.thread? tid = some content)
include found

theorem thread?_lt : tid < config.threads.length := by
  rcases Nat.lt_or_ge tid config.threads.length with inside | outside
  · exact inside
  · rw [thread?, getElem?_eq_none outside] at found
    cases found

theorem mem_of_thread? : some content ∈ config.threads := by
  rw [thread?, join_eq_some_iff] at found
  exact mem_of_getElem? found

theorem thread?_put_self (replacement : Option (Thread Op Res Call)) :
    (config.put tid replacement).thread? tid = replacement := by
  simp [thread?, put, thread?_lt found]

end

theorem thread?_put_of_ne (config : Config Op Res Shared Call) {other : Nat}
    (apart : other ≠ tid) (replacement : Option (Thread Op Res Call)) :
    (config.put tid replacement).thread? other = config.thread? other := by
  simp [thread?, put, apart.symm]

theorem thread?_spawn_self (config : Config Op Res Shared Call) (content : Thread Op Res Call) :
    (config.spawn content).thread? config.threads.length = some content := by
  simp [thread?, spawn]

theorem thread?_spawn_of_ne (config : Config Op Res Shared Call) {other : Nat}
    (apart : other ≠ config.threads.length) (content : Thread Op Res Call) :
    (config.spawn content).thread? other = config.thread? other := by
  rcases Nat.lt_or_gt_of_ne apart with pre | beyond
  · simp [thread?, spawn, getElem?_append_left pre]
  · have outside : (config.threads ++ [some content])[other]? = none :=
      getElem?_eq_none (by simpa using Nat.succ_le_of_lt beyond)
    have missing : config.threads[other]? = none := getElem?_eq_none (Nat.le_of_lt beyond)
    simp [thread?, spawn, outside, missing]

theorem thread?_length (config : Config Op Res Shared Call) :
    config.thread? config.threads.length = none := by
  simp [thread?]

end Config

namespace System

variable (system : System Op Res Shared Choice Call Event)

/-- Advance one goroutine by its next operation.  A goroutine whose program is
done goes on with the following call or leaves. -/
def advance (config : Config Op Res Shared Call) (tid : Nat) (choice : Choice)
    (content : Thread Op Res Call) : Option (Config Op Res Shared Call) :=
  match content.prog with
  | .done none => some (config.put tid none)
  | .done (some onward) => some (config.put tid (some ⟨onward, system.body onward⟩))
  | .act op resume =>
    (system.execute tid op choice config.shared).map fun (ans, shared) =>
      { config.put tid (some ⟨content.call, resume ans⟩) with shared := shared }

/-- The state after one step, if the step is possible. -/
def step (config : Config Op Res Shared Call) :
    Action Choice Call Event -> Option (Config Op Res Shared Call)
  | .call call => (system.enter call config.shared).map fun shared =>
    { config.spawn ⟨call, system.body call⟩ with shared := shared }
  | .step tid choice => (config.thread? tid).bind (system.advance config tid choice)
  | .occur event => (system.occur event config.shared).map fun shared =>
    { config with shared := shared }

/-- The goroutine cannot perform its next operation, whatever is chosen. -/
def Blocked (config : Config Op Res Shared Call) (tid : Nat) (op : Op) : Prop :=
  (∃ content, config.thread? tid = some content ∧ content.prog.next? = some op) ∧
    ∀ choice, system.execute tid op choice config.shared = none

end System

/-- The initial configuration: no goroutine has entered the component. -/
def Config.start (shared : Shared) : Config Op Res Shared Call := ⟨shared, []⟩

namespace Guard

/-- Whether the guard admits a step. -/
def Admits (guard : Guard Op Res Shared Call) (config : Config Op Res Shared Call) :
    Action Choice Call Event -> Prop
  | .call call => guard.call config call
  | .step tid _ =>
    match (config.thread? tid).bind (fun content => content.prog.next?) with
    | some op => guard.op config.shared tid op
    | none => True
  | .occur _ => True

/-- The guard that admits every step. -/
@[reducible] def all : Guard Op Res Shared Call := ⟨fun _ _ => True, fun _ _ _ => True⟩

instance admitsDecidable (guard : Guard Op Res Shared Call)
    [∀ config call, Decidable (guard.call config call)]
    [∀ shared tid op, Decidable (guard.op shared tid op)]
    (config : Config Op Res Shared Call) (action : Action Choice Call Event) :
    Decidable (guard.Admits config action) :=
  match action with
  | .call call => inferInstanceAs (Decidable (guard.call config call))
  | .step tid _ =>
    match found : (config.thread? tid).bind (fun content => content.prog.next?) with
    | some op =>
      decidable_of_iff (guard.op config.shared tid op) (by simp [Admits, found])
    | none => .isTrue (by simp [Admits, found])
  | .occur _ => .isTrue trivial

end Guard

namespace System

variable (system : System Op Res Shared Choice Call Event)

/-- The configurations reached by the steps the guard admits. -/
inductive Reachable (guard : Guard Op Res Shared Call) (initial : Shared) :
    Config Op Res Shared Call -> Prop where
  | start : Reachable guard initial (Config.start initial)
  | step {pre after : Config Op Res Shared Call} (action : Action Choice Call Event) :
      Reachable guard initial pre -> guard.Admits pre action ->
      system.step pre action = some after -> Reachable guard initial after

variable {system}

variable {guard : Guard Op Res Shared Call} {initial : Shared}

/-- The configurations reached by steps that meet a condition on the whole configuration.  It
is needed where an assumption is about where the other goroutines are. -/
inductive ReachableUnder (system : System Op Res Shared Choice Call Event)
    (cond : Config Op Res Shared Call -> Action Choice Call Event -> Prop) (initial : Shared) :
    Config Op Res Shared Call -> Prop where
  | start : ReachableUnder system cond initial (Config.start initial)
  | step {pre after : Config Op Res Shared Call} (action : Action Choice Call Event) :
      ReachableUnder system cond initial pre -> cond pre action ->
      system.step pre action = some after -> ReachableUnder system cond initial after

variable {config : Config Op Res Shared Call}

/-- A guard is a special case of such a condition. -/
theorem Reachable.under (reached : system.Reachable guard initial config) :
    system.ReachableUnder guard.Admits initial config := by
  induction reached with
  | start => exact .start
  | step action _ admitted stepped ih =>
    exact .step action ih admitted stepped

theorem ReachableUnder.reachable (reached : system.ReachableUnder guard.Admits initial config) :
    system.Reachable guard initial config := by
  induction reached with
  | start => exact .start
  | step action _ admitted stepped ih =>
    exact .step action ih admitted stepped

variable {cond : Config Op Res Shared Call -> Action Choice Call Event -> Prop}

/-- Replay a schedule, checking the condition before every step. -/
def replayUnder (system : System Op Res Shared Choice Call Event)
    (cond : Config Op Res Shared Call -> Action Choice Call Event -> Prop)
    [∀ config action, Decidable (cond config action)] :
    List (Action Choice Call Event) -> Config Op Res Shared Call ->
    Option (Config Op Res Shared Call)
  | [], config => some config
  | action :: rest, config =>
    if cond config action then
      (system.step config action).bind (replayUnder system cond rest)
    else none

theorem ReachableUnder.replay [∀ config action, Decidable (cond config action)]
    {schedule : List (Action Choice Call Event)} {pre after : Config Op Res Shared Call}
    (reached : system.ReachableUnder cond initial pre)
    (replayed : system.replayUnder cond schedule pre = some after) :
    system.ReachableUnder cond initial after := by
  induction schedule generalizing pre with
  | nil =>
    simp only [System.replayUnder, Option.some.injEq] at replayed
    exact replayed ▸ reached
  | cons action rest ih =>
    simp only [System.replayUnder] at replayed
    split at replayed
    · rename_i met
      rcases bind_eq_some_iff.mp replayed with ⟨middle, stepped, left⟩
      exact ih (.step action reached met stepped) left
    · cases replayed

/-- A schedule that can be replayed from the start and ends in a state with the
property is a run of the system. -/
theorem exists_reachableUnder_of_replay [∀ config action, Decidable (cond config action)]
    (property : Config Op Res Shared Call -> Prop) [DecidablePred property]
    (schedule : List (Action Choice Call Event))
    (found : (system.replayUnder cond schedule (.start initial)).any (fun config => property
      config) = true) :
    ∃ config, system.ReachableUnder cond initial config ∧ property config := by
  cases replayed : system.replayUnder cond schedule (.start initial) with
  | none => rw [replayed] at found; cases found
  | some config =>
    rw [replayed] at found
    exact ⟨config, ReachableUnder.start.replay replayed, of_decide_eq_true found⟩

/-- A run meets every guard that follows, in the states it reaches, from its own. -/
theorem Reachable.refine {refined : Guard Op Res Shared Call}
    (calls : ∀ config call, system.Reachable guard initial config -> guard.call config call ->
      refined.call config call)
    (operations : ∀ config tid content op, system.Reachable guard initial config ->
      config.thread? tid = some content -> content.prog.next? = some op ->
      guard.op config.shared tid op -> refined.op config.shared tid
      op) (reached : system.Reachable guard initial config) :
    system.Reachable refined initial config := by
  induction reached with
  | start => exact .start
  | step action pre admitted stepped ih =>
    refine .step action ih ?_ stepped
    cases action with
    | call call => exact calls _ _ pre admitted
    | step tid choice =>
      rcases bind_eq_some_iff.mp stepped with ⟨content, found, _⟩
      simp only [Guard.Admits, found, bind_some] at admitted ⊢
      cases next : content.prog.next? with
      | none => trivial
      | some op =>
        rw [next] at admitted
        exact operations _ tid content op pre found next admitted
    | occur event => trivial

/-- A stricter guard has fewer runs. -/
theorem Reachable.mono {strict loose : Guard Op Res Shared Call}
    (calls : ∀ config call, strict.call config call -> loose.call config call)
    (operations : ∀ shared tid op, strict.op shared tid op ->
      loose.op shared tid op) (reached : system.Reachable strict initial config) :
    system.Reachable loose initial config :=
  reached.refine (fun config call _ => calls config call)
    (fun config tid _ op _ _ _ => operations config.shared tid op)

/-- The same for a schedule that is replayed under a guard. -/
theorem exists_reachable_of_replay
    [∀ config (action : Action Choice Call Event), Decidable (guard.Admits config action)]
    (property : Config Op Res Shared Call -> Prop) [DecidablePred property]
    (schedule : List (Action Choice Call Event))
    (found : (system.replayUnder guard.Admits schedule (.start initial)).any (fun config => property config) =
      true) : ∃ config, system.Reachable guard initial config ∧ property config := by
  rcases exists_reachableUnder_of_replay property schedule found with ⟨config, reached, shown⟩
  exact ⟨config, reached.reachable, shown⟩

/-- What holds in every reachable state with the property holds at the end of such a schedule. -/
theorem exists_reachable_with
    [∀ config (action : Action Choice Call Event), Decidable (guard.Admits config action)]
    {property conclusion : Config Op Res Shared Call -> Prop} [DecidablePred property]
    (schedule : List (Action Choice Call Event))
    (found : (system.replayUnder guard.Admits schedule (.start initial)).any (fun config => property config) =
      true)
    (holds : ∀ config, system.Reachable guard initial config -> property config ->
      conclusion config) :
    ∃ config, system.Reachable guard initial config ∧ property config ∧ conclusion config := by
  rcases exists_reachable_of_replay property schedule found with ⟨config, reached, shown⟩
  exact ⟨config, reached, shown, holds config reached shown⟩

end System

end Interleaving
end OcppGo
