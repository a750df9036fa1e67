import OcppGo.ClientLifecycle.Lineage

namespace OcppGo
namespace ClientLifecycle

open Function Interleaving Ocppj List

/-!
# The pause flag and the connection

The loss of a connection pauses the dispatcher and a reconnection resumes it.  Neither `Stop` nor
a start clears the flag: a client that is stopped while it is disconnected and started again is
connected with a dispatcher that stays paused.  When every start begins with a clear flag and
after the earlier connections have ended, a connected client with no notification under way is
not paused.
-/

variable {P : Type}

/-- A client that has been started, is connected and has no notification to process is not
paused. -/
def FlagAgrees (s : Shared P) : Prop :=
  s.hist.started = true -> s.isConnected = true -> s.hist.notifying = [] ->
    s.dispatcher.paused = false
  deriving Decidable

/-- The websocket client is used through `ocppj.Client`, whose calls do not overlap, and a start
begins only when the dispatcher is not paused and every connection made so far has ended. -/
@[reducible] def startsUnpaused : Condition P where
  call := callsThroughClient
  op s _ op :=
    op.starts = true -> s.dispatcher.paused = false ∧ AllEnded s

namespace PauseFlag

/-- The goroutine will call `Resume`. -/
@[grind] def Stage.resumes : Stage -> Bool
  | .reviving => true
  | .published _ began => began.isSome
  | _ => false

/-- The handlers were set before. -/
@[grind] def Stage.equipped : Stage -> Bool
  | .begun => false
  | .reviving => true
  | stage => Lineage.Stage.active stage

/-- Somebody is about to resume the dispatcher. -/
def Reviving (view : Nat -> Option Label) : Prop :=
  ∃ tid label, view tid = some label ∧ label.stage = .reviving

/-- A connection is up that has been handed over. -/
def HandedOver (s : Shared P) (view : Nat -> Option Label) : Prop :=
  s.launched ≠ [] ∨ ∃ tid label, view tid = some label ∧ label.stage = .waiting

structure Resumes (s : Shared P) (view : Nat -> Option Label) : Prop where
  starting : s.dispatcher.paused = true -> ∀ tid label, view tid = some label ->
    Lineage.Stage.starting label.stage = false
  handed : s.dispatcher.paused = true -> HandedOver s view -> Reviving view
  notifying : ∀ tid label, view tid = some label -> Stage.resumes label.stage = true ->
    tid ∈ s.hist.notifying
  launched : s.launched ≠ [] -> s.onReconnected = true
  equipped : ∀ tid label, view tid = some label -> Stage.equipped label.stage = true ->
    s.onReconnected = true

section

variable {pre after : Shared P} {view : Nat -> Option Label} {tid : Nat} {choice : Choice}
  {op : Op P} {ans : Res P op} {label onward : Label}

section

variable (exec : execute tid op choice pre = some (ans, after))
include exec

theorem paused_of_execute (other : ∀ paused, op ≠ .dispatcher (.setPaused paused)) :
    after.dispatcher.paused = pre.dispatcher.paused := by
  by_cases inside : ∃ inner, op = .dispatcher inner
  · rcases inside with ⟨inner, rfl⟩
    rcases execute_dispatcher exec with ⟨chosen, dispatcher, operated, rfl⟩
    apply ClientDispatcher.Pausing.paused_of_execute operated
    rintro paused rfl
    exact other paused rfl
  · rw [(execute_frame exec).dispatcher fun inner same => inside ⟨inner, same⟩]

/-- A handler that is set stays set. -/
theorem onReconnected_of_execute :
    (pre.onReconnected = true -> after.onReconnected = true) ∧
      (op = .setReconnectedHandler -> after.onReconnected = true) := by
  by_cases sets : op = .setReconnectedHandler
  · subst sets
    cases exec
    exact ⟨fun _ => rfl, fun _ => rfl⟩
  · rw [(execute_frame exec).onReconnected sets]
    exact ⟨id, fun same => absurd same sets⟩

end

/-! ## What the moves change -/

variable {stage onward' : Stage}

theorem resumes_of_shift (shift : Shift stage op ans onward')
    (resumes : Stage.resumes onward' = true) :
    Stage.resumes stage = true ∨ ∃ sock, op = .publish sock true := by
  cases shift with
  | stays => exact .inl resumes
  | publishes sock began =>
    cases began with
    | none => cases resumes
    | some began => exact .inr ⟨sock, rfl⟩
  | _ => first | exact .inl rfl | cases resumes

/-- A notification does not end before `Resume`. -/
theorem resumes_ongoing (move : Move label op ans onward)
    (resumes : Stage.resumes onward.stage = true) : op ≠ .notificationEnds := by
  rintro rfl
  cases move with
  | concludes agent stage atEnd => rcases atEnd with rfl | rfl | rfl <;> cases resumes

section

variable (shift : Shift stage op ans onward')
include shift

theorem equipped_of_shift (equipped : Stage.equipped onward' = true) :
    Stage.equipped stage = true ∨ op = .setReconnectedHandler := by
  cases shift with
  | stays => exact .inl equipped
  | prepares => exact .inr rfl
  | _ => first | exact .inl rfl | cases equipped

theorem waiting_of_shift (waiting : onward' = .waiting) : stage = .waiting := by
  cases shift with
  | stays => exact waiting
  | _ => cases waiting

theorem reviving_of_shift (reviving : stage = .reviving) : onward' = .reviving ∨
      op = .dispatcher (.setPaused false) ∨
      (op = .readReconnectedHandler ∧ onward' = .revived) := by
  cases shift with
  | stays => exact .inl reviving
  | resumes => exact .inr (.inl rfl)
  | unheard => exact .inr (.inr ⟨rfl, rfl⟩)
  | _ => cases reviving

end

theorem Reviving.execute (reviving : Reviving view) (tagged : view tid = some label)
    (still : label.stage = .reviving -> onward.stage = .reviving) :
    Reviving (update view tid (some onward)) :=
  exists_of_update reviving fun _ known stage =>
    ⟨onward, rfl, still (Option.some.inj (tagged.symm.trans known) ▸ stage)⟩

/-- The connection that a goroutine has handed over was handed over before, or is now. -/
theorem HandedOver.of_execute (handed : HandedOver after (update view tid (some onward)))
    (tagged : view tid = some label)
    (shift : Shift label.stage op ans onward.stage)
    (exec : execute tid op choice pre = some (ans, after))
    (still : ∀ sock, op ≠ .run sock) : HandedOver pre view := by
  rcases handed with listed | ⟨other, label', retagged, waiting⟩
  · rw [(execute_frame exec).launched still] at listed
    exact .inl listed
  · rcases tagged_of_update retagged with ⟨rfl, ⟨⟩⟩ | ⟨_, known⟩
    · exact .inr ⟨other, label, tagged, waiting_of_shift shift waiting⟩
    · exact .inr ⟨other, label', known, waiting⟩

/-- Nothing has been handed over while a goroutine is in charge that is not waiting. -/
theorem not_handedOver (succession : Lineage.Succession pre view)
    (tagged : view tid = some label) (active : Lineage.Stage.active label.stage = true)
    (busy : label.stage ≠ .waiting) : ¬ HandedOver pre view := by
  rintro (listed | ⟨other, label', known, waiting⟩)
  · exact listed (succession.single.unlaunched tagged active)
  · have same := succession.single.charge tagged active known (by rw [waiting]; rfl)
    subst same
    rw [tagged] at known
    cases known
    exact busy waiting

/-- The flag is set by the goroutine of a lost connection, which is in charge. -/
theorem pausing_of_setPaused {value : Bool} {ans : Res P (.dispatcher (.setPaused value))}
    (move : Move label (.dispatcher (.setPaused value)) ans onward)
    (exec : execute tid (.dispatcher (.setPaused value)) choice pre = some (ans, after))
    (paused : after.dispatcher.paused = true) :
    label.stage = .pausing ∧ onward.stage = .pausing := by
  cases move with
  | operates label inner ans open' other => cases other
  | pauses => exact ⟨rfl, rfl⟩
  | resumes =>
    rcases execute_dispatcher exec with ⟨_, _, operated, rfl⟩
    cases operated
    cases paused

theorem Resumes.execute (resumes : Resumes pre view) (succession : Lineage.Succession pre view)
    (tagged : view tid = some label) (move : Move label op ans onward)
    (admitted : startsUnpaused.op pre tid op)
    (exec : execute tid op choice pre = some (ans, after)) :
    Resumes after (update view tid (some onward)) := by
  have shift := move.shift
  constructor
  case starting =>
    intro paused other label' retagged
    by_contra starting
    simp only [Bool.not_eq_false] at starting
    by_cases sets : ∃ value, op = .dispatcher (.setPaused value)
    · rcases sets with ⟨value, rfl⟩
      rcases pausing_of_setPaused move exec paused with ⟨pausing, still⟩
      rcases tagged_of_update retagged with ⟨rfl, ⟨⟩⟩ | ⟨apart, known⟩
      · rw [still] at starting
        cases starting
      · exact apart (succession.single.charge known (Lineage.active_of_starting starting) tagged
          (by rw [pausing]; rfl))
    · have unset := paused_of_execute exec (fun value same => sets ⟨value, same⟩)
      rw [unset] at paused
      rcases tagged_of_update retagged with ⟨rfl, ⟨⟩⟩ | ⟨_, known⟩
      · rcases Lineage.starting_of_shift shift starting with already | starts
        · rw [resumes.starting paused other label tagged] at already
          cases already
        · rw [(admitted starts).1] at paused
          cases paused
      · rw [resumes.starting paused other label' known] at starting
        cases starting
  case handed =>
    intro paused handed
    by_cases sets : ∃ value, op = .dispatcher (.setPaused value)
    · rcases sets with ⟨value, rfl⟩
      rcases pausing_of_setPaused move exec paused with ⟨pausing, _⟩
      have earlier := handed.of_execute tagged shift exec (by simp)
      exact absurd earlier (not_handedOver succession tagged (by rw [pausing]; rfl)
        (by rw [pausing]; simp))
    · have unset := paused_of_execute exec (fun value same => sets ⟨value, same⟩)
      rw [unset] at paused
      by_cases runs : ∃ sock, op = .run sock
      · -- a connection is handed over: by a start with a clear flag, or by a reconnection
        rcases runs with ⟨sock, rfl⟩
        cases move with
        | runs agent sock began =>
          cases began with
          | none =>
            have clear := resumes.starting paused tid _ tagged
            cases clear
          | some began => exact ⟨tid, _, update_self .., rfl⟩
      · have earlier := handed.of_execute tagged shift exec
          (fun sock same => runs ⟨sock, same⟩)
        apply (resumes.handed paused earlier).execute tagged
        intro reviving
        rcases reviving_of_shift shift reviving with still | rfl | ⟨rfl, revived⟩
        · exact still
        · exact absurd ⟨false, rfl⟩ sets
        · -- the handler is set, so it is called
          have set := resumes.equipped tid label tagged (by rw [reviving]; rfl)
          cases move with
          | readReconnectedHandler agent ans =>
            cases exec
            simp [set]
  case notifying =>
    intro other label' retagged resuming
    rcases tagged_of_update retagged with ⟨rfl, ⟨⟩⟩ | ⟨apart, known⟩
    · rcases resumes_of_shift shift resuming with already | ⟨sock, rfl⟩
      · exact (execute_frame exec).notifying other (resumes.notifying other label tagged already)
          (fun _ => resumes_ongoing move resuming)
      · cases exec
        simp
    · exact (execute_frame exec).notifying other (resumes.notifying other label' known resuming)
        (fun same => absurd same apart)
  case launched =>
    intro listed
    apply (onReconnected_of_execute exec).1
    by_cases runs : ∃ sock, op = .run sock
    · rcases runs with ⟨sock, rfl⟩
      apply resumes.equipped tid label tagged
      cases move with
      | runs agent sock began => rfl
    · rw [(execute_frame exec).launched fun sock same => runs ⟨sock, same⟩] at listed
      exact resumes.launched listed
  case equipped =>
    intro other label' retagged equipped
    rcases tagged_of_update retagged with ⟨rfl, ⟨⟩⟩ | ⟨_, known⟩
    · rcases equipped_of_shift shift equipped with already | setting
      · exact (onReconnected_of_execute exec).1 (resumes.equipped other label tagged already)
      · exact (onReconnected_of_execute exec).2 setting
    · exact (onReconnected_of_execute exec).1 (resumes.equipped other label' known equipped)

/-- A goroutine that neither starts nor resumes enters, or a goroutine ends. -/
theorem Resumes.relabel {content : Option Label} (resumes : Resumes pre view)
    (paused : after.dispatcher.paused = pre.dispatcher.paused)
    (handler : after.onReconnected = pre.onReconnected) (hist : after.hist = pre.hist)
    (launched : after.launched ≠ [] -> pre.launched ≠ [])
    (fresh : ∀ label, content = some label -> Lineage.Stage.starting label.stage = false ∧
      Stage.resumes label.stage = false ∧ (label.stage = .waiting ∧ pre.launched ≠ [] ∨
        label.stage ≠ .waiting ∧ Stage.equipped label.stage = false))
    (unreviving : ∀ label, view tid = some label -> label.stage ≠ .reviving) :
    Resumes after (update view tid content) := by
  constructor
  case starting =>
    intro isPaused other label tagged
    rcases tagged_of_update tagged with ⟨_, added⟩ | ⟨_, known⟩
    · exact (fresh label added).1
    · exact resumes.starting (paused ▸ isPaused) other label known
  case handed =>
    intro isPaused handed
    have earlier : HandedOver pre view := by
      rcases handed with listed | ⟨other, label, tagged, waiting⟩
      · exact .inl (launched listed)
      · rcases tagged_of_update tagged with ⟨_, added⟩ | ⟨_, known⟩
        · rcases (fresh label added).2.2 with ⟨_, listed⟩ | ⟨busy, _⟩
          · exact .inl listed
          · exact absurd waiting busy
        · exact .inr ⟨other, label, known, waiting⟩
    exact exists_of_update (resumes.handed (paused ▸ isPaused) earlier)
      fun label known reviving => absurd reviving (unreviving label known)
  case notifying =>
    intro other label tagged resuming
    rw [hist]
    rcases tagged_of_update tagged with ⟨_, added⟩ | ⟨_, known⟩
    · rw [(fresh label added).2.1] at resuming
      cases resuming
    · exact resumes.notifying other label known resuming
  case launched =>
    intro listed
    rw [handler]
    exact resumes.launched (launched listed)
  case equipped =>
    intro other label tagged equipped
    rw [handler]
    rcases tagged_of_update tagged with ⟨_, added⟩ | ⟨_, known⟩
    · rcases (fresh label added).2.2 with ⟨_, listed⟩ | ⟨_, unequipped⟩
      · exact resumes.launched listed
      · rw [unequipped] at equipped
        cases equipped
    · exact resumes.equipped other label known equipped

end

theorem descends (capacity : Nat) :
    Extends (P := P) startsUnpaused (.initial capacity) Lineage.Succession Resumes := by
  constructor
  case initially =>
    constructor <;> simp [Shared.initial, ClientDispatcher.Shared.initial]
  case enter =>
    intro config view tid call after _ _ resumes through entered new
    have paused : after.dispatcher.paused = config.shared.dispatcher.paused := by
      rcases enter_cases entered with ⟨_, _, _, rfl⟩ | ⟨_, _, _, inside, _, _, _, _, rfl⟩ | ⟨_, _, _, rfl⟩
      · rfl
      · exact ClientDispatcher.Pausing.enter_paused inside
      · rfl
    have rest : after.onReconnected = config.shared.onReconnected ∧
        after.hist = config.shared.hist ∧
        (after.launched ≠ [] -> config.shared.launched ≠ []) := by
      rcases enter_cases entered with ⟨_, _, listed, rfl⟩ | ⟨_, _, _, _, _, _, _, _, rfl⟩ | ⟨_, _, _, rfl⟩
      · exact ⟨rfl, rfl, fun _ => ne_nil_of_mem listed⟩
      · exact ⟨rfl, rfl, id⟩
      · exact ⟨rfl, rfl, id⟩
    refine resumes.relabel paused rest.1 rest.2.1 rest.2.2 ?_ (by simp [new])
    rintro _ ⟨⟩
    cases call with
    | writePump sock =>
      rcases enter_cases entered with ⟨_, _, listed, _⟩ | ⟨_, _, ⟨⟩, _⟩ | ⟨_, waits, _⟩
      · exact ⟨rfl, rfl, .inl ⟨rfl, ne_nil_of_mem listed⟩⟩
      · exact absurd rfl waits
    | reconnecting began owner => cases entered
    | wsStart | wsStartWithRetries => exact absurd rfl through.2
    | _ => exact ⟨rfl, rfl, .inr ⟨by simp [firstLabel, stageOf], rfl⟩⟩
  case occur =>
    intro pre view event after resumes arose
    rcases occur_dispatcher arose with ⟨dispatcher, happened, rfl⟩
    have same : dispatcher.paused = pre.dispatcher.paused :=
      ClientDispatcher.Pausing.occur_paused happened
    exact ⟨fun paused => resumes.starting (same ▸ paused), fun paused => resumes.handed (same ▸ paused),
      resumes.notifying, resumes.launched, resumes.equipped⟩
  case execute =>
    intro pre view tid label op choice ans after onward succession resumes tagged
      move admitted exec
    exact resumes.execute succession tagged move admitted exec
  case finish =>
    intro pre view tid label _ resumes tagged left
    refine resumes.relabel rfl rfl rfl id (by simp) ?_
    intro label' known reviving
    rw [tagged] at known
    cases known
    rcases left.2 with idle | ⟨_, preparing⟩
    · rw [idle] at reviving
      cases reviving
    · rw [preparing] at reviving
      cases reviving

end PauseFlag

/-- In every run in which starts begin with a clear flag and after the earlier connections have
ended, the pause flag agrees with the connection. -/
theorem pause_flag_agrees (opts : Settings) (capacity : Nat) {config : Configuration P}
    (reached : (system opts).Reachable startsUnpaused (Shared.initial capacity) config) :
    FlagAgrees config.shared := by
  rcases ((PauseFlag.descends capacity).keeps (Lineage.succession_keeps capacity (fun _ _ => id)
    fun _ _ _ admitted starts => (admitted starts).2)).reachable reached with ⟨view, _, succession, resumes⟩
  intro _ connected quiet
  by_contra flag
  have paused : config.shared.dispatcher.paused = true := by simpa using flag
  have silent (tid : Nat) label (tagged : view tid = some label) :
      PauseFlag.Stage.resumes label.stage = false := by
    cases resuming : PauseFlag.Stage.resumes label.stage with
    | false => rfl
    | true =>
      have mem := resumes.notifying tid label tagged resuming
      rw [quiet] at mem
      cases mem
  have unhanded : ¬ PauseFlag.HandedOver config.shared view := by
    intro handed
    rcases resumes.handed paused handed with ⟨tid, label, tagged, reviving⟩
    have waits := silent tid label tagged
    rw [reviving] at waits
    cases waits
  simp only [Shared.isConnected, Option.any_eq_true] at connected
  rcases connected with ⟨sock, known, up⟩
  rcases succession.connections.carried sock up with listed | ⟨tid, place, placed, carries⟩
  · exact unhanded (.inl (ne_nil_of_mem listed))
  · rcases Option.map_eq_some_iff.mp placed with ⟨label, tagged, rfl⟩
    have starting := resumes.starting paused tid label tagged
    have waits := silent tid label tagged
    have unpublished := succession.connections.unpublished tid label.place sock placed
    rcases label with ⟨agent, stage, signals⟩
    rcases carries with dialled | place
    · cases stage with
      | dialed other began =>
        cases dialled
        exact unpublished rfl known
      | published other began =>
        cases began with
        | none => cases starting
        | some began => cases waits
      | _ => cases dialled
    · cases stage with
      | waiting => exact unhanded (.inr ⟨tid, _, tagged, rfl⟩)
      | _ => cases place

/-- A client is disconnected, stopped and started again.  It is connected, and the dispatcher
stays paused. -/
theorem restarted_paused :
    ∃ config, (system sampleOpts).Reachable .all (Shared.initial 10 : Shared Nat) config ∧
      config.shared.hist.calls = [] ∧ config.shared.hist.runs = [] ∧
      ¬ FlagAgrees config.shared :=
  System.exists_reachable_of_replay _
    (connecting 0 ++ launching 0 ++ dropping 1 0 true ++ pausing 1 ++ proceed 1 3 ++
      inspecting 2 ++ proceed 2 5 ++ stoppingDispatcher 2 ++ draining 3 ++ operating 2 1 ++
      proceed 2 3 ++ aborting 1 ++ proceed 1 2 ++ connecting 4 ++ launching 4)
    (by decide +kernel)

/-- `Resume` of a dispatcher without a pending request, called after a reconnection. -/
def resuming (tid : Nat) : Schedule P := operating tid 3

/-- A connection is lost, and the client reconnects. -/
theorem pause_flag_agrees_reconnected :
    ∃ config, (system sampleOpts).Reachable startsUnpaused
        (Shared.initial 10 : Shared Nat) config ∧
      (config.shared.hist.started = true ∧ config.shared.isConnected = true ∧
        config.shared.hist.notifying = [] ∧ config.shared.made = 2) ∧
      config.shared.dispatcher.paused = false :=
  System.exists_reachable_with
    (connecting 0 ++ launching 0 ++ dropping 1 0 true ++ pausing 1 ++ proceed 1 3 ++
      [.step 1 (.retry false), .step 1 .proceed, .step 1 (.dial true)] ++ proceed 1 3 ++
      resuming 1 ++ proceed 1 1) (by decide +kernel)
    fun _ reached ⟨started, connected, quiet, reconnected⟩ =>
      pause_flag_agrees sampleOpts 10 reached started connected quiet

end ClientLifecycle
end OcppGo
