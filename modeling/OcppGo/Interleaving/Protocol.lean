import Mathlib.Logic.Function.Basic
import OcppGo.Interleaving.System

namespace OcppGo
namespace Interleaving

open Function Option

/-!
# Protocols and the proof rule for interleaved runs

Whether a goroutine keeps to its part of an agreement can be read off its own
program: it is a sequential question.  Whether the agreement keeps a global
invariant is a question about single operations: it needs no program.  A
protocol is what connects the two.

Every goroutine is given an abstract state.  The protocol says which operations
are open to a goroutine in an abstract state and which abstract state follows
each answer; an answer with no following state cannot be given.  `Obeys`
checks a program against the protocol, branch by branch; `Verified` collects
what has to be shown about single operations.  Together they give
`Verified.reachable`: in every reachable configuration the goroutines can be
labelled with abstract states so that the invariant holds.

The labels exist only in the proof.  Neither the code nor its runs mention them.
-/

variable {Op : Type} {Res : Op -> Type} {Shared Choice Call Event : Type} {γ α β : Type}

/-- The abstract states `γ` of a goroutine.  `fits` ties an abstract state to
the call the goroutine executes, `allowed` says which operations are open to
it, and `next` relates the state before an answer to the state after it. -/
structure Protocol (Op : Type) (Res : Op -> Type) (Call γ : Type) where
  fits : Call -> γ -> Prop
  allowed : Op -> γ -> Prop
  next : (op : Op) -> γ -> Res op -> γ -> Prop

namespace Program

/-- The program keeps to the protocol from an abstract state on, and is done
only in abstract states that satisfy the postcondition. -/
def Obeys (protocol : Protocol Op Res Call γ) (call : Call) (post : α -> γ -> Prop) :
    Program Op Res α -> γ -> Prop
  | .done value, state => protocol.fits call state ∧ post value state
  | .act op resume, state =>
    protocol.fits call state ∧ protocol.allowed op state ∧
      ∀ ans onward, protocol.next op state ans onward ->
        (resume ans).Obeys protocol call post onward

variable {protocol : Protocol Op Res Call γ} {call : Call}

variable {post : α -> γ -> Prop} {state : γ}

@[simp] theorem obeys_done {value : α} :
    (Program.done value : Program Op Res α).Obeys protocol call post state <->
      protocol.fits call state ∧ post value state := Iff.rfl

variable {op : Op}

variable {resume : Res op -> Program Op Res α}

theorem obeys_act :
    (Program.act op resume).Obeys protocol call post state <->
      protocol.fits call state ∧ protocol.allowed op state ∧
        ∀ ans onward, protocol.next op state ans onward ->
          (resume ans).Obeys protocol call post onward := Iff.rfl

/-- An operation that is open to the goroutine and leaves its abstract state as
it is. -/
theorem obeys_act_of_still (fits : protocol.fits call state)
    (allowed : protocol.allowed op state)
    (still : ∀ ans onward,
      protocol.next op state ans onward <-> onward = state) :
    (Program.act op resume).Obeys protocol call post state <->
      ∀ ans, (resume ans).Obeys protocol call post state := by
  simp [obeys_act, fits, allowed, still]

variable {prog : Program Op Res α}

theorem Obeys.fits (obeys : prog.Obeys protocol call post state) :
    protocol.fits call state := by
  cases prog with
  | _ => exact obeys.1

/-- The next operation of a program is open to its goroutine. -/
theorem Obeys.allowed (obeys : prog.Obeys protocol call post state)
    (next : prog.next? = some op) : protocol.allowed op state := by
  cases prog with
  | done value => cases next
  | act first resume =>
    cases next
    exact obeys.2.1

variable {onward : α -> Program Op Res β}

/-- Sequencing: the first program establishes what the second one needs. -/
theorem obeys_bind {post : β -> γ -> Prop} :
    (prog >>= onward).Obeys protocol call post state <->
      prog.Obeys protocol call
        (fun value middle => (onward value).Obeys protocol call post middle) state := by
  induction prog generalizing state with
  | done value => exact ⟨fun obeys => ⟨obeys.fits, obeys⟩, fun obeys => obeys.2⟩
  | act op resume ih =>
    simp only [act_bind, obeys_act, ih]

section

variable (obeys : prog.Obeys protocol call post state)
include obeys

theorem Obeys.mono {weaker : α -> γ -> Prop}
    (implied : ∀ value final, post value final -> weaker value final) :
    prog.Obeys protocol call weaker state := by
  induction prog generalizing state with
  | done value => exact ⟨obeys.1, implied _ _ obeys.2⟩
  | act op resume ih =>
    exact ⟨obeys.1, obeys.2.1, fun ans final stepped =>
      ih ans (obeys.2.2 ans final stepped)⟩

/-- A program is done in an abstract state that fits its call. -/
theorem Obeys.fitting :
    prog.Obeys protocol call (fun value final => protocol.fits call final ∧ post value final)
      state := by
  induction prog generalizing state with
  | done value => exact ⟨obeys.1, obeys⟩
  | act op resume ih =>
    exact ⟨obeys.1, obeys.2.1, fun ans final stepped =>
      ih ans (obeys.2.2 ans final stepped)⟩

/-- What a program returns whatever happens, it returns in the end. -/
theorem Obeys.and_returns {cond : α -> Prop} (returns : prog.Returns cond) :
    prog.Obeys protocol call (fun value final => cond value ∧ post value final) state := by
  induction prog generalizing state with
  | done value => exact ⟨obeys.1, returns, obeys.2⟩
  | act op resume ih =>
    refine ⟨obeys.1, obeys.2.1, ?_⟩
    intro ans onward moved
    exact ih ans (obeys.2.2 ans onward moved) (returns ans)

/-- What the abstract states of a call keep from one operation to the next may be added to the
protocol. -/
theorem Obeys.refit {fits : Call -> γ -> Prop} (here : fits call state)
    (kept : ∀ op state ans onward, fits call state -> protocol.allowed op
      state -> protocol.next op state ans onward -> fits call onward) :
    prog.Obeys { protocol with fits := fits } call post state := by
  induction prog generalizing state with
  | done value => exact ⟨here, obeys.2⟩
  | act op resume ih =>
    refine ⟨here, obeys.2.1, ?_⟩
    intro ans onward moved
    exact ih ans (obeys.2.2 ans onward moved)
      (kept op state ans onward here obeys.2.1 moved)

end

/-- Sequencing through an intermediate condition. -/
theorem Obeys.bind {middle : α -> γ -> Prop} {post : β -> γ -> Prop}
    (first : prog.Obeys protocol call middle state)
    (second : ∀ value between, middle value between ->
      (onward value).Obeys protocol call post between) :
    (prog >>= onward).Obeys protocol call post state :=
  obeys_bind.mpr (first.mono second)

/-- A program whose result is dropped for a fixed value. -/
theorem Obeys.returning {post : β -> γ -> Prop} {value : β}
    (obeys : prog.Obeys protocol call (fun _ => post value) state) :
    (prog >>= fun _ => .done value).Obeys protocol call post state :=
  obeys_bind.mpr obeys.fitting

/-- The program keeps to the protocol, and a condition on the abstract state holds in the end if
it holds at the beginning. -/
def Keeps (protocol : Protocol Op Res Call γ) (call : Call) (cond : γ -> Prop)
    (prog : Program Op Res α) : Prop :=
  ∀ state, cond state -> prog.Obeys protocol call (fun _ => cond) state

variable {cond : γ -> Prop} (fits : ∀ state, cond state -> protocol.fits call state)
include fits

theorem composes_keeps :
    Composes fun α (prog : Program Op Res α) => prog.Keeps protocol call cond where
  done _ state holds := ⟨fits state holds, holds⟩
  bind first second state holds := (first state holds).bind second

/-- A program of operations that are open under the condition and keep it. -/
theorem keeps_of_uses {legal : Op -> Prop}
    (allowed : ∀ op state, legal op -> cond state ->
      protocol.allowed op state)
    (kept : ∀ op state ans onward, legal op -> cond state ->
      protocol.next op state ans onward -> cond onward)
    (uses : prog.Uses legal) : prog.Keeps protocol call cond := by
  induction prog with
  | done value => exact (composes_keeps fits).done value
  | act op resume ih =>
    intro state holds
    refine ⟨fits state holds, allowed op state uses.1 holds, ?_⟩
    intro ans onward moved
    exact ih ans (uses.2 ans) onward
      (kept op state ans onward uses.1 holds moved)

omit fits

/-- A program of operations that are open in one abstract state and leave it as it is. -/
theorem obeys_of_still {legal : Op -> Prop} (fits : protocol.fits call state)
    (allowed : ∀ op, legal op -> protocol.allowed op state)
    (still : ∀ op ans onward, legal op -> protocol.next op
      state ans onward -> onward = state) (uses : prog.Uses legal) :
    prog.Obeys protocol call (fun _ final => final = state) state := by
  refine (keeps_of_uses ?_ ?_ ?_ uses : prog.Keeps protocol call (· = state)) state rfl
  · rintro _ rfl
    exact fits
  · rintro op _ legal rfl
    exact allowed op legal
  · rintro op _ ans onward legal rfl moved
    exact still op ans onward legal moved

end Program

/-- What a finished program leaves behind: the abstract state in which the
following call may begin, or in which the goroutine may end. -/
def cont (entry : Call -> γ -> Prop) (leave : γ -> Prop) : Option Call -> γ -> Prop
  | none, state => leave state
  | some call, state => entry call state

/-- A goroutine that may begin and end in every abstract state. -/
theorem continuation_of_free {entry : Call -> γ -> Prop} (free : ∀ call state, entry call state)
    (onward : Option Call) (state : γ) : cont entry (fun _ => True) onward state := by
  cases onward with
  | none => trivial
  | some call => exact free call state

/-- A labelling of the goroutines with abstract states that their programs
follow.  Empty places carry no label. -/
structure Describes (protocol : Protocol Op Res Call γ) (entry : Call -> γ -> Prop)
    (leave : γ -> Prop) (config : Config Op Res Shared Call) (view : Nat -> Option γ) : Prop where
  tagged : ∀ tid content, config.thread? tid = some content ->
    ∃ state, view tid = some state ∧
      content.prog.Obeys protocol content.call (cont entry leave) state
  empty : ∀ tid, config.thread? tid = none -> view tid = none

variable {state : γ} {config : Config Op Res Shared Call} {view : Nat -> Option γ} {tid : Nat}

theorem Describes.occupied {protocol : Protocol Op Res Call γ} {entry : Call -> γ -> Prop}
    {leave : γ -> Prop} (describes : Describes protocol entry leave config view)
    (tagged : view tid = some state) :
    ∃ content, config.thread? tid = some content ∧
      content.prog.Obeys protocol content.call (cont entry leave) state := by
  cases found : config.thread? tid with
  | none =>
    rw [describes.empty tid found] at tagged
    cases tagged
  | some content =>
    rcases describes.tagged tid content found with ⟨label, known, obeys⟩
    rw [tagged] at known
    cases known
    exact ⟨content, rfl, obeys⟩

/-- After one label has changed, a label is the new one or one of the others. -/
theorem tagged_of_update {other : Nat} {content : Option γ}
    (tagged : update view tid content other = some state) :
    (other = tid ∧ content = some state) ∨ (other ≠ tid ∧ view other = some state) := by
  by_cases same : other = tid
  · subst same
    rw [update_self] at tagged
    exact .inl ⟨rfl, tagged⟩
  · rw [update_of_ne same] at tagged
    exact .inr ⟨same, tagged⟩

/-- What holds of some goroutine holds of one after a label has changed that keeps it. -/
theorem exists_of_update {holds : γ -> Prop} {content : Option γ}
    (somebody : ∃ other state, view other = some state ∧ holds state)
    (kept : ∀ state, view tid = some state -> holds state ->
      ∃ onward, content = some onward ∧ holds onward) :
    ∃ other state, update view tid content other = some state ∧ holds state := by
  rcases somebody with ⟨other, state, tagged, held⟩
  by_cases same : other = tid
  · subst same
    rcases kept state tagged held with ⟨onward, rfl, held'⟩
    exact ⟨other, onward, update_self .., held'⟩
  · exact ⟨other, state, by rwa [update_of_ne same], held⟩

/-- What has to be shown for an invariant `inv` of the shared state and the
abstract states of the goroutines. -/
structure Verified (system : System Op Res Shared Choice Call Event)
    (guard : Guard Op Res Shared Call) (initial : Shared) (protocol : Protocol Op Res Call γ)
    (entry : Call -> γ -> Prop) (leave : γ -> Prop)
    (inv : Shared -> (Nat -> Option γ) -> Prop) : Prop where
  body : ∀ call state, entry call state ->
    (system.body call).Obeys protocol call (cont entry leave) state
  initially : inv initial (fun _ => none)
  enter : ∀ (config : Config Op Res Shared Call) view call shared,
    Describes protocol entry leave config view -> guard.call config call ->
    inv config.shared view -> system.enter call config.shared = some shared ->
    view config.threads.length = none ->
    ∃ state, entry call state ∧
      inv shared (update view config.threads.length (some state))
  occur : ∀ pre view event after, inv pre view ->
    system.occur event pre = some after -> inv after view
  execute : ∀ pre view tid state op choice ans after,
    inv pre view -> view tid = some state -> protocol.allowed op state ->
    guard.op pre tid op ->
    system.execute tid op choice pre = some (ans, after) ->
    ∃ onward, protocol.next op state ans onward ∧
      inv after (update view tid (some onward))
  finish : ∀ shared view tid state, inv shared view -> view tid = some state ->
    leave state -> inv shared (update view tid none)

namespace Verified

variable {system : System Op Res Shared Choice Call Event} {guard : Guard Op Res Shared Call}
  {initial : Shared} {protocol : Protocol Op Res Call γ} {entry : Call -> γ -> Prop}
  {leave : γ -> Prop} {inv : Shared -> (Nat -> Option γ) -> Prop}

variable {content : Thread Op Res Call}

variable {after : Config Op Res Shared Call}

/-- Filling or emptying one place and relabelling it keeps the description. -/
theorem describes_relabel (filled : Option (Thread Op Res Call × γ))
    (describes : Describes protocol entry leave config view)
    (others : ∀ other, other ≠ tid -> after.thread? other = config.thread? other)
    (placed : after.thread? tid = filled.map Prod.fst)
    (obeys : ∀ content state, filled = some (content, state) ->
      content.prog.Obeys protocol content.call (cont entry leave) state) :
    Describes protocol entry leave after (update view tid (filled.map Prod.snd)) := by
  constructor
  · intro other occupant occupied
    by_cases same : other = tid
    · rw [same, placed] at occupied
      rcases map_eq_some_iff.mp occupied with ⟨⟨_, state⟩, rfl, rfl⟩
      exact ⟨state, by rw [same, update_self]; rfl, obeys _ _ rfl⟩
    · rw [update_of_ne same]
      exact describes.tagged other occupant (others other same ▸ occupied)
  · intro other vacant
    by_cases same : other = tid
    · rw [same, placed, map_eq_none_iff] at vacant
      rw [same, update_self, vacant, map_none]
    · rw [update_of_ne same]
      exact describes.empty other (others other same ▸ vacant)

theorem describes_put (describes : Describes protocol entry leave config view)
    (found : config.thread? tid = some content) (onward : Thread Op Res Call)
    (obeys : onward.prog.Obeys protocol onward.call (cont entry leave) state)
    (shared : Shared) :
    Describes protocol entry leave { config.put tid (some onward) with shared := shared }
      (update view tid (some state)) :=
  describes_relabel (some (onward, state)) describes
    (fun _ apart => Config.thread?_put_of_ne config apart _)
    (Config.thread?_put_self found _) (by rintro _ _ ⟨⟩; exact obeys)

/-- The obligations under a condition on the whole configuration.  An operation may then rely on
what the condition says about the goroutines, through their description. -/
structure Under (system : System Op Res Shared Choice Call Event)
    (cond : Config Op Res Shared Call -> Action Choice Call Event -> Prop) (initial : Shared)
    (protocol : Protocol Op Res Call γ) (entry : Call -> γ -> Prop) (leave : γ -> Prop)
    (inv : Shared -> (Nat -> Option γ) -> Prop) : Prop where
  body : ∀ call state, entry call state ->
    (system.body call).Obeys protocol call (cont entry leave) state
  initially : inv initial (fun _ => none)
  enter : ∀ (config : Config Op Res Shared Call) view call shared,
    Describes protocol entry leave config view -> cond config (.call call) ->
    inv config.shared view -> system.enter call config.shared = some shared ->
    view config.threads.length = none ->
    ∃ state, entry call state ∧
      inv shared (update view config.threads.length (some state))
  occur : ∀ (config : Config Op Res Shared Call) view event after,
    Describes protocol entry leave config view -> cond config (.occur event) ->
    inv config.shared view -> system.occur event config.shared = some after ->
    inv after view
  execute : ∀ (config : Config Op Res Shared Call) view tid content state op choice
      ans after,
    Describes protocol entry leave config view -> cond config (.step tid choice) ->
    config.thread? tid = some content -> content.prog.next? = some op ->
    inv config.shared view -> view tid = some state -> protocol.allowed op state ->
    system.execute tid op choice config.shared = some (ans, after) ->
    ∃ onward, protocol.next op state ans onward ∧
      inv after (update view tid (some onward))
  finish : ∀ shared view tid state, inv shared view -> view tid = some state ->
    leave state -> inv shared (update view tid none)

section

variable {cond : Config Op Res Shared Call -> Action Choice Call Event -> Prop}
  (verified : Under system cond initial protocol entry leave inv)
include verified

/-- One step of any goroutine, of a caller or of the environment keeps the
description and the invariant. -/
theorem Under.step {pre : Config Op Res Shared Call} {action : Action Choice Call Event}
    (describes : Describes protocol entry leave pre view) (holds : inv pre.shared view)
    (met : cond pre action) (stepped : system.step pre action = some after) :
    ∃ retagged, Describes protocol entry leave after retagged ∧
      inv after.shared retagged := by
  cases action with
  | call call =>
    rcases map_eq_some_iff.mp stepped with ⟨shared, legal, rfl⟩
    rcases verified.enter pre view call shared describes met holds legal
      (describes.empty _ pre.thread?_length) with ⟨state, entered, kept⟩
    exact ⟨_, describes_relabel (some (⟨call, system.body call⟩, state)) describes
      (fun _ apart => pre.thread?_spawn_of_ne apart _) (pre.thread?_spawn_self _)
      (by rintro _ _ ⟨⟩; exact verified.body call state entered), kept⟩
  | occur event =>
    rcases map_eq_some_iff.mp stepped with ⟨shared, arose, rfl⟩
    exact ⟨view, ⟨describes.tagged, describes.empty⟩,
      verified.occur pre view event shared describes met holds arose⟩
  | step tid choice =>
    rcases bind_eq_some_iff.mp stepped with ⟨content, found, advanced⟩
    rcases describes.tagged tid content found with ⟨state, tagged, obeys⟩
    cases shape : content.prog with
    | done value =>
      rw [shape] at obeys
      cases value with
      | none =>
        simp only [System.advance, shape, Option.some.injEq] at advanced
        subst advanced
        exact ⟨_, describes_relabel none describes
          (fun _ apart => Config.thread?_put_of_ne pre apart _)
          (Config.thread?_put_self found _) nofun, verified.finish _ _ _ _ holds tagged obeys.2⟩
      | some onward =>
        simp only [System.advance, shape, Option.some.injEq] at advanced
        subst advanced
        have retagged := describes_put describes found ⟨onward, system.body onward⟩
          (verified.body onward state obeys.2) pre.shared
        have unchanged : update view tid (some state) = view := by
          rw [← tagged]
          exact update_eq_self tid view
        exact ⟨_, retagged, by rwa [unchanged]⟩
    | act op resume =>
      rw [shape] at obeys
      simp only [System.advance, shape, map_eq_some_iff] at advanced
      rcases advanced with ⟨⟨ans, shared⟩, exec, rfl⟩
      have next : content.prog.next? = some op := by rw [shape]; rfl
      rcases verified.execute pre view tid content state op choice ans shared
        describes met found next holds tagged obeys.2.1 exec with ⟨onward, moved, kept⟩
      exact ⟨_, describes_put describes found _ (obeys.2.2 ans onward moved) shared, kept⟩

/-- The proof rule: every configuration reached under the condition can be labelled so that
each program follows the protocol and the invariant holds. -/
theorem Under.reachable (reached : system.ReachableUnder cond initial config) :
    ∃ view, Describes protocol entry leave config view ∧ inv config.shared view := by
  induction reached with
  | start =>
    refine ⟨fun _ => none, ⟨?_, fun _ _ => rfl⟩, verified.initially⟩
    intro tid content found
    simp [Config.start, Config.thread?] at found
  | step action _ met stepped ih =>
    rcases ih with ⟨view, describes, holds⟩
    exact verified.step describes holds met stepped

end

variable (verified : Verified system guard initial protocol entry leave inv)
include verified

/-- A guard is a condition that looks at the shared state only. -/
theorem under : Under system guard.Admits initial protocol entry leave inv where
  body := verified.body
  initially := verified.initially
  enter := verified.enter
  occur := fun config view event after _ _ => verified.occur config.shared view event after
  execute := by
    intro config view tid content state op choice ans after _ admitted found next holds
      tagged legal exec
    have guarded : guard.op config.shared tid op := by
      simpa [Guard.Admits, found, next] using admitted
    exact verified.execute _ view tid state op choice ans after holds tagged legal
      guarded exec
  finish := verified.finish

/-- The proof rule for runs under a guard. -/
theorem reachable (reached : system.Reachable guard initial config) :
    ∃ view, Describes protocol entry leave config view ∧ inv config.shared view :=
  verified.under.reachable reached.under

end Verified

end Interleaving
end OcppGo
