import OcppGo.ClientDispatcher.Pausing
import OcppGo.ClientLifecycle.Conformance

namespace OcppGo
namespace ClientLifecycle

open Interleaving Ocppj

/-!
# A connection that is lost early

The client is connected before its dispatcher is started, and the timer of the dispatcher is
created by the dispatcher's `Start`.  The notifications of the websocket client pause and resume
the dispatcher as soon as there is a connection, so they may find no timer.  They do not when
every loss of a connection, and every reconnection, comes after the first start of the
dispatcher.
-/

variable {P : Type}

/-- What `Pause` and `Resume` do with the pause flag and the timer. -/
def pausesOrResumes : ClientDispatcher.Op P -> Bool
  | .setPaused _ => true
  | .timerStop => true
  | .timerDrain => true
  | .timerReset _ => true
  | _ => false

/-- A connection is lost, and a reconnection begins, only once the dispatcher has created its
timer. -/
@[reducible] def lostOnceStarted : Condition P where
  call _ _ := True
  op s _ op :=
    match op with
    | .dropConnection _ => s.dispatcher.timer.isSome = true
    | .reconnectionBegins => s.dispatcher.timer.isSome = true
    | _ => True

instance (s : Shared P) (tid : Nat) (op : Op P) :
    Decidable (lostOnceStarted.op s tid op) := by
  rcases op <;> infer_instance

namespace EarlyDrop

/-- From the loss of a connection, or the beginning of a reconnection, to its end. -/
def Stage.late : Stage -> Bool
  | .dropped | .pausing | .delivering _ | .reported | .down => true
  | .retrying _ | .attempting _ | .aborting _ | .reviving | .revived => true
  | .dialed _ began => began.isSome
  | .published _ began => began.isSome
  | _ => false

/-- A goroutine that has to do with a loss has come after the timer. -/
def Timed (s : Shared P) (view : Nat -> Option Label) : Prop :=
  ∀ tid label, view tid = some label -> Stage.late label.stage = true ->
    s.dispatcher.timer.isSome = true

section

variable {pre after : Shared P} {view : Nat -> Option Label} {tid : Nat}

/-- One goroutine moves on, with a stage that is not new or comes after the timer. -/
theorem Timed.update (timed : Timed pre view) {onward : Label}
    (kept : pre.dispatcher.timer.isSome = true -> after.dispatcher.timer.isSome = true)
    (created : Stage.late onward.stage = true -> after.dispatcher.timer.isSome = true) :
    Timed after (Function.update view tid (some onward)) := by
  intro other label tagged late
  rcases tagged_of_update tagged with ⟨_, ⟨⟩⟩ | ⟨_, tagged⟩
  · exact created late
  · exact kept (timed other label tagged late)

theorem timer_of_execute {op : Op P} {choice : Choice} {ans : Res P op}
    (exec : execute tid op choice pre = some (ans, after))
    (created : pre.dispatcher.timer.isSome = true) : after.dispatcher.timer.isSome = true := by
  by_cases inside : ∃ inner, op = .dispatcher inner
  · rcases inside with ⟨inner, rfl⟩
    rcases execute_dispatcher exec with ⟨chosen, dispatcher, operated, rfl⟩
    exact ClientDispatcher.timer_of_execute operated created
  · have same := (execute_frame exec).dispatcher fun inner equal => inside ⟨inner, equal⟩
    rwa [same]

/-- The late stages are entered through the loss of a connection or the beginning of a
reconnection. -/
theorem late_of_shift {stage onward : Stage} {op : Op P} {ans : Res P op}
    (shift : Shift stage op ans onward) (late : Stage.late onward = true) :
    Stage.late stage = true ∨ op = .reconnectionBegins ∨
      ∃ sock, op = .dropConnection sock := by
  cases shift with
  | stays => exact .inl late
  | reconnects | retries => exact .inr (.inl rfl)
  | drops sock => exact .inr (.inr ⟨sock, rfl⟩)
  | publishes => exact .inl late
  | _ => first | exact .inl rfl | cases late

end

theorem keeps (capacity : Nat) : Keeps (P := P) lostOnceStarted (.initial capacity) Timed := by
  constructor
  case initially =>
    intro tid label tagged
    cases tagged
  case enter =>
    intro config view tid call after _ timed _ entered _
    apply timed.update
    · intro created
      rcases enter_cases entered with ⟨_, _, _, rfl⟩ | ⟨_, _, _, inside, _, _, _, _, rfl⟩ | ⟨_, _, _, rfl⟩
      · exact created
      · exact (ClientDispatcher.timer_of_enter inside).symm ▸ created
      · exact created
    · intro late
      cases call with
      | reconnecting began owner => cases entered
      | _ => cases late
  case occur =>
    intro pre view event after timed arose tid label tagged late
    rcases occur_dispatcher arose with ⟨dispatcher, happened, rfl⟩
    exact ClientDispatcher.timer_of_occur happened (timed tid label tagged late)
  case execute =>
    intro pre view tid label op choice ans after onward timed tagged move
      admitted exec
    apply timed.update (timer_of_execute exec)
    intro late
    apply timer_of_execute exec
    rcases late_of_shift move.shift late with pre | rfl | ⟨sock, rfl⟩
    · exact timed tid label tagged pre
    · exact admitted
    · exact admitted
  case finish =>
    intro pre view tid label timed _ _ other left tagged late
    rcases tagged_of_update tagged with ⟨_, ⟨⟩⟩ | ⟨_, tagged⟩
    exact timed other left tagged late

end EarlyDrop

/-- As long as connections are lost only once the dispatcher has created its timer, no goroutine
outside the dispatcher is about to use the pause flag or the timer without it. -/
theorem pauses_with_timer (opts : Settings) (capacity : Nat) {config : Configuration P}
    (reached : (system opts).Reachable lostOnceStarted (Shared.initial capacity) config)
    {tid : Nat} {content : Thread (Op P) (Res P) (Routine P)}
    (found : config.thread? tid = some content) (outside : agentOf content.call ≠ .dispatcher)
    {op : ClientDispatcher.Op P}
    (next : content.prog.next? = some (.dispatcher op))
    (touches : pausesOrResumes op = true) :
    config.shared.dispatcher.timer.isSome = true := by
  rcases (EarlyDrop.keeps capacity).reachable reached with ⟨view, describes, timed⟩
  rcases describes.tagged tid content found with ⟨label, tagged, obeys⟩
  have legal : label.operates op := obeys.allowed next
  have agent : label.agent ≠ .dispatcher := by
    rwa [show label.agent = agentOf content.call from obeys.fits]
  apply timed tid label tagged
  cases op with
  | setPaused paused =>
    cases paused with
    | true => rw [show label.stage = .pausing from legal]; rfl
    | false => rw [show label.stage = .reviving from legal]; rfl
  | timerStop | timerDrain | timerReset =>
    rcases legal.2 with same | same | same
    · exact absurd same agent
    · rw [same]; rfl
    · rw [same]; rfl
  | _ => cases touches

/-- A sequence of steps. -/
abbrev Schedule (P : Type) := List (Action Choice (Routine P) Event)

section Schedules

variable {P : Type}

/-- A goroutine goes on with its next operations. -/
def proceed (tid count : Nat) : Schedule P := List.replicate count (.step tid .proceed)

/-- A goroutine goes on inside the dispatcher. -/
def operating (tid count : Nat) : Schedule P :=
  List.replicate count (.step tid (.dispatcher .proceed))

/-- `Start` up to the start of the dispatcher. -/
def connecting (tid : Nat) : Schedule P :=
  [.call .start] ++ proceed tid 4 ++ [.step tid (.dial true)] ++ proceed tid 2

/-- The rest of `Start`. -/
def launching (tid : Nat) : Schedule P := operating tid 5 ++ proceed tid 2

/-- A connection is lost, up to the call of the handler. -/
def dropping (tid sock : Nat) (forced : Bool) : Schedule P :=
  [.call (.writePump sock), .step tid (.teardown forced)] ++ proceed tid 3

end Schedules

/-- Reconnections are automatic. -/
def sampleOpts : Settings := ⟨ClientDispatcher.sampleOpts, true⟩

/-- The operation of a goroutine that is next, inside the dispatcher. -/
def nextInside (config : Configuration P) (tid : Nat) : Option (ClientDispatcher.Op P) :=
  match (config.thread? tid).bind (fun content => content.prog.next?) with
  | some (.dispatcher inner) => some inner
  | _ => none

/-- The connection is lost before `Start` comes to the dispatcher.  The goroutine of the
connection calls `Pause` and is about to stop a timer that does not exist. -/
theorem pauses_without_timer :
    ∃ config, (system sampleOpts).Reachable .all (Shared.initial 10 : Shared Nat) config ∧
      (config.thread? 1).map (fun content => agentOf content.call) = some (.sock 0) ∧
      (nextInside config 1).any pausesOrResumes = true ∧
      config.shared.dispatcher.timer = none :=
  System.exists_reachable_of_replay _
    (connecting 0 ++ dropping 1 0 true ++ operating 1 2) (by decide +kernel)

/-- Once `Start` has returned, the loss of the connection finds the timer. -/
theorem pauses_with_timer_started :
    ∃ config tid content op,
      (system sampleOpts).Reachable lostOnceStarted (Shared.initial 10 : Shared Nat) config ∧
      config.thread? tid = some content ∧ agentOf content.call ≠ .dispatcher ∧
      content.prog.next? = some (.dispatcher op) ∧ pausesOrResumes op = true ∧
      config.shared.dispatcher.timer.isSome = true := by
  have run : ∃ config, (system sampleOpts).Reachable lostOnceStarted
      (Shared.initial 10 : Shared Nat) config ∧
      (config.thread? 1).map (fun content => agentOf content.call) = some (.sock 0) ∧
      (nextInside config 1).any pausesOrResumes = true :=
    System.exists_reachable_of_replay _
      (connecting 0 ++ launching 0 ++ dropping 1 0 true ++ operating 1 2) (by decide +kernel)
  rcases run with ⟨config, reached, calls, touches⟩
  rcases Option.map_eq_some_iff.mp calls with ⟨content, found, agent⟩
  have outside : agentOf content.call ≠ .dispatcher := by
    rw [agent]
    decide
  have inside : ∃ op, content.prog.next? = some (.dispatcher op) ∧
      pausesOrResumes op = true := by
    simp only [nextInside, found, Option.bind_some] at touches
    split at touches
    · rename_i op next
      exact ⟨op, next, touches⟩
    · cases touches
  rcases inside with ⟨op, next, pauses⟩
  exact ⟨config, 1, content, op, reached, found, outside, next, pauses,
    pauses_with_timer sampleOpts 10 reached found outside next pauses⟩

end ClientLifecycle
end OcppGo
