import OcppGo.ClientDispatcher.Usage
import OcppGo.ClientLifecycle.Stages

namespace OcppGo
namespace ClientLifecycle

open Function Interleaving Ocppj Program Option

/-!
# The code keeps to the description of its goroutines

Every function of the client, run from the description it is entered with, performs only
operations that are open to it, and leaves its goroutine where its caller expects it.
-/

variable {P : Type} {opts : Settings} {call : Routine P} {label : Label} {α : Type}

variable {op : Op P}

/-- One operation: what is open to the goroutine and where it goes on from. -/
theorem obeys_step {post : α -> Label -> Prop} {resume : Res P op -> Prog P α} :
    (Program.act op resume).Obeys accord call post label <->
      label.agent = agentOf call ∧ allowed op label ∧
        ∀ ans, (resume ans).Obeys accord call post
          (label.after op ans) := by
  simp only [obeys_act, accord, forall_eq]

@[simp] theorem accord_fits :
    accord.fits call label <-> label.agent = agentOf call := Iff.rfl

@[simp] theorem dispatcher_done (value : α) :
    dispatcher (.done value : ClientDispatcher.Prog P α) = .done value := rfl

theorem dispatcher_act (op : ClientDispatcher.Op P)
    (resume : ClientDispatcher.Res P op -> ClientDispatcher.Prog P α) :
    dispatcher (.act op resume) =
      .act (.dispatcher op) (fun ans => dispatcher (resume ans)) := rfl

/-- The operations of the dispatcher that are open to a goroutine and leave it where it is. -/
def stays (label : Label) (inner : ClientDispatcher.Op P) : Prop :=
  label.operates inner ∧ unrelated inner = true

variable {inner : ClientDispatcher.Op P}

theorem after_of_stays (staying : stays label inner) (ans : Res P (.dispatcher inner)) :
    label.after (.dispatcher inner) ans = label := by
  have unmoved : label.stage.operated inner = label.stage := by
    have other := staying.2
    cases inner with
    | setPaused paused => cases other
    | _ => rfl
  simp [Label.after, Stage.after, signalsAfter, unmoved]

section

variable (fits : label.agent = agentOf call)
include fits

theorem obeys_dispatcher_of_uses {prog : ClientDispatcher.Prog P α}
    (uses : prog.Uses (stays label)) :
    (dispatcher prog).Obeys accord call (fun _ final => final = label) label := by
  induction prog with
  | done value => exact ⟨fits, rfl⟩
  | act op resume ih =>
    rw [dispatcher_act, obeys_step]
    refine ⟨fits, uses.1.1, ?_⟩
    intro ans
    rw [after_of_stays uses.1]
    exact ih ans (uses.2 ans)

theorem obeys_dispatcherStart (inside : label.stage.inside = true) :
    (dispatcher (ClientDispatcher.start : ClientDispatcher.Prog P Unit)).Obeys accord call
      (fun _ final => final = label) label := by
  apply obeys_dispatcher_of_uses fits
  simp [ClientDispatcher.start, ClientDispatcher.lock, stays, Label.operates, unrelated, inside]

theorem obeys_dispatcherStop (inside : label.stage.inside = true) :
    (dispatcher (ClientDispatcher.stop : ClientDispatcher.Prog P Unit)).Obeys accord call
      (fun _ final => final = label) label := by
  apply obeys_dispatcher_of_uses fits
  simp [ClientDispatcher.stop, ClientDispatcher.lock, stays, Label.operates, unrelated, inside]

end

theorem obeys_onDisconnected (agent : Agent) (fits : agent = agentOf call) :
    (onDisconnected opts : Prog P Unit).Obeys accord call
      (fun _ final => final = ⟨agent, .pausing, false⟩) ⟨agent, .pausing, false⟩ := by
  simp [onDisconnected, ClientDispatcher.pause, ClientDispatcher.lock,
    ClientDispatcher.stopAndDrainTimer, dispatcher_act, obeys_step, fits, allowed,
    Label.operates, Stage.inside, Label.after, Stage.after, Stage.operated, signalsAfter]

theorem obeys_onReconnected (agent : Agent) (fits : agent = agentOf call) :
    (onReconnected opts : Prog P Unit).Obeys accord call
      (fun _ final => final = ⟨agent, .revived, false⟩) ⟨agent, .reviving, false⟩ := by
  simp [onReconnected, ClientDispatcher.resume, ClientDispatcher.stopAndDrainTimer,
    dispatcher_act, obeys_step, fits, allowed, Label.operates, Stage.inside, Label.after,
    Stage.after, Stage.operated, signalsAfter]

/-- The goroutines of the dispatcher leave the pause flag alone. -/
abbrev Aside (prog : ClientDispatcher.Prog P α) : Prop :=
  prog.Uses (stays ⟨.dispatcher, .idle, false⟩)

theorem aside_of_unrelated {op : ClientDispatcher.Op P} (other : unrelated op = true) :
    Aside (Program.act op .done) := by
  refine ⟨⟨?_, other⟩, fun _ => trivial⟩
  cases op with
  | setPaused paused => cases other
  | timerStop | timerDrain | timerReset _ => exact ⟨rfl, .inl rfl⟩
  | _ => rfl

theorem permits_aside :
    ClientDispatcher.Permits (stays ⟨.dispatcher, .idle, false⟩ : ClientDispatcher.Op P -> Prop) where
  neutral := by
    intro op neutral
    refine (aside_of_unrelated ?_).1
    cases op with
    | setPaused paused => cases neutral
    | _ => rfl
  reports := fun _ _ _ _ _ => (aside_of_unrelated rfl).1

theorem aside_cancelIfOwned (site : ClientDispatcher.Site) (requestID : String) (request : Option P)
    (err : Ocppj.OcppError) :
    Aside (ClientDispatcher.cancelIfOwned opts.dispatcher site requestID request (return err)) :=
  ClientDispatcher.uses_cancelIfOwned permits_aside _ _ _ fun _ =>
    ClientDispatcher.uses_fireRequestCancel (aside_of_unrelated rfl).1

section

variable (routine : ClientDispatcher.Routine P) (pause : routine ≠ .pause)
  (resume : routine ≠ .resume)
include pause resume

theorem aside_dispatcherBody : Aside (ClientDispatcher.body opts.dispatcher routine) := by
  by_cases pump : ∃ reqCh doneC rdy pending, routine = .pumpLoop reqCh doneC rdy pending
  · rcases pump with ⟨reqCh, doneC, rdy, pending, rfl⟩
    have serves : ClientDispatcher.Serves opts.dispatcher fun _ (prog : ClientDispatcher.Prog P _) =>
        Aside prog := permits_aside.serves composes_uses fun _ _ uses => uses
    have steps (op : ClientDispatcher.Op P) (stepping : op.stepping = true) :
        Aside (Program.act op .done) := by
      apply aside_of_unrelated
      cases op with
      | setPaused => cases stepping
      | _ => rfl
    refine ClientDispatcher.good_pumpLoop serves steps ?_ ?_ reqCh doneC rdy pending
    · exact ClientDispatcher.good_dispatchNextRequest serves steps (fun _ _ => aside_of_unrelated rfl)
        fun _ _ _ => aside_cancelIfOwned _ _ _ _
    · exact ClientDispatcher.good_timeoutArm serves fun _ _ => aside_cancelIfOwned _ _ _ _
  · apply ClientDispatcher.uses_caller permits_aside
    · intro reqCh doneC rdy pending same
      exact pump ⟨reqCh, doneC, rdy, pending, same⟩
    · rintro paused (same | same)
      · exact absurd same pause
      · exact absurd same resume

theorem obeys_dispatcherBody :
    (body opts (.dispatcher routine)).Obeys accord (.dispatcher routine)
      (cont entry leave) ⟨.dispatcher, .idle, false⟩ := by
  have fits : (⟨.dispatcher, .idle, false⟩ : Label).agent = agentOf (.dispatcher routine) := rfl
  have obeys := obeys_dispatcher_of_uses fits
    (aside_dispatcherBody routine pause resume : Aside (ClientDispatcher.body opts.dispatcher routine))
  have returns : (dispatcher (ClientDispatcher.body opts.dispatcher routine)).Returns _ :=
    (ClientDispatcher.returns_body routine).interpret
  apply (obeys.and_returns returns).bind
  rintro onward between ⟨ends | ⟨reqCh, doneC, rdy, pending, goesOn⟩, rfl⟩
  · subst ends
    exact ⟨rfl, rfl, .inl rfl⟩
  · subst goesOn
    exact ⟨rfl, rfl, rfl⟩

end

/-! ## The websocket client -/

/-- What a goroutine that starts a connection can be told after it: whether it succeeded. -/
def startedTo (agent : Agent) (began : Option Nat) (success : Bool) (label : Label) : Prop :=
  label.agent = agent ∧ label.signals = false ∧ label.stage =
    match success, began with
    | true, none => .idle
    | true, some _ => .reviving
    | false, none => .preparing
    | false, some began => .retrying began

section

variable (agent : Agent) (fits : agent = agentOf call)
include fits

theorem obeys_wsStart :
    (wsStart false : Prog P Bool).Obeys accord call (startedTo agent none)
      ⟨agent, .preparing, false⟩ := by
  refine obeys_step.mpr ⟨fits, .inl rfl, fun _ => obeys_step.mpr ⟨fits, .inl rfl, ?_⟩⟩
  intro dialled
  cases dialled with
  | none => exact ⟨fits, rfl, rfl, rfl⟩
  | some sock =>
    refine obeys_step.mpr ⟨fits, ⟨none, rfl, rfl⟩, fun _ => obeys_step.mpr ⟨fits, ?_, ?_⟩⟩
    · exact ⟨none, rfl⟩
    · intro _
      exact ⟨fits, rfl, rfl, rfl⟩

theorem obeys_wsStart_reconnecting (began : Nat) :
    (wsStart true : Prog P Bool).Obeys accord call (startedTo agent (some began))
      ⟨agent, .attempting began, false⟩ := by
  refine obeys_step.mpr ⟨fits, .inr ⟨began, rfl⟩,
    fun _ => obeys_step.mpr ⟨fits, .inr ⟨began, rfl⟩, ?_⟩⟩
  intro dialled
  cases dialled with
  | none => exact ⟨fits, rfl, rfl, rfl⟩
  | some sock =>
    refine obeys_step.mpr ⟨fits, ⟨some began, rfl, rfl⟩,
      fun _ => obeys_step.mpr ⟨fits, ?_, ?_⟩⟩
    · exact ⟨some began, rfl⟩
    · intro _
      exact ⟨fits, rfl, rfl, rfl⟩

theorem obeys_wsStop (stage : Stage) (settled : stage.settled = true) :
    (wsStop : Prog P Unit).Obeys accord call (fun _ final => final = ⟨agent, stage, false⟩)
      ⟨agent, stage, false⟩ := by
  have signals : signalReconnect.Obeys accord call
      (fun _ final => final = ⟨agent, stage, false⟩) ⟨agent, stage, true⟩ :=
    obeys_step.mpr ⟨fits, settled, fun _ => ⟨fits, rfl⟩⟩
  refine obeys_step.mpr ⟨fits, settled, fun _ => obeys_step.mpr ⟨fits, settled, ?_⟩⟩
  intro sock
  have stays : (⟨agent, stage, true⟩ : Label).after .readWebSocket sock =
      ⟨agent, stage, true⟩ := by
    simp [Label.after, Stage.after, signalsAfter, found_settled settled]
  change Obeys _ _ _ _ ((⟨agent, stage, true⟩ : Label).after .readWebSocket sock)
  rw [stays]
  cases sock with
  | none => exact signals
  | some sock =>
    refine obeys_step.mpr ⟨fits, settled, ?_⟩
    intro connected
    have stays : (⟨agent, stage, true⟩ : Label).after (.isConnected sock : Op P) connected =
        ⟨agent, stage, true⟩ := by
      simp [Label.after, Stage.after, signalsAfter, answered_settled settled]
    rw [stays]
    cases connected with
    | false => exact signals
    | true => exact obeys_step.mpr ⟨fits, settled, fun _ => signals⟩

theorem obeys_handleReconnection (stage : Stage) (owner : Owner)
    (lost : stage = .down ∨ stage = .preparing)
    (owned : ∀ began, agentOf (.reconnecting began owner : Routine P) = agent) :
    (handleReconnection owner : Prog P (Option (Routine P))).Obeys accord call
      (cont entry leave) ⟨agent, stage, false⟩ := by
  refine obeys_step.mpr ⟨fits, lost, ?_⟩
  intro began
  refine ⟨fits, rfl, ?_⟩
  rw [owned began]
  rfl

end

theorem obeys_afterReconnection (owner : Owner) (began : Nat) :
    (afterReconnection owner : Prog P (Option (Routine P))).Obeys accord
      (.reconnecting began owner) (cont entry leave)
      ⟨agentOf (.reconnecting began owner : Routine P), .idle, false⟩ := by
  cases owner with
  | handleDisconnect sock =>
    exact obeys_step.mpr ⟨rfl, ⟨rfl, .inr rfl⟩, fun _ => ⟨rfl, rfl, .inl rfl⟩⟩
  | startWithRetries =>
    apply (obeys_dispatcherStart rfl rfl).bind
    rintro _ between rfl
    exact obeys_step.mpr ⟨rfl, ⟨rfl, .inl rfl⟩, fun _ => ⟨rfl, rfl, .inl rfl⟩⟩
  | client => exact ⟨rfl, rfl, .inl rfl⟩

theorem obeys_reconnecting (began : Nat) (owner : Owner) :
    (reconnecting opts began owner : Prog P (Option (Routine P))).Obeys accord
      (.reconnecting began owner) (cont entry leave)
      ⟨agentOf (.reconnecting began owner : Routine P), .retrying began, false⟩ := by
  have atEnd := obeys_afterReconnection (P := P) owner began
  generalize agentSame : agentOf (.reconnecting began owner) = agent at atEnd ⊢
  refine obeys_step.mpr ⟨agentSame.symm, ⟨began, rfl⟩, ?_⟩
  intro aborted
  cases aborted with
  | true => exact obeys_step.mpr ⟨agentSame.symm, rfl, fun _ => atEnd⟩
  | false =>
    apply (obeys_wsStart_reconnecting agent agentSame.symm began).bind
    rintro success ⟨between, stage, signals⟩ ⟨rfl, rfl, rfl⟩
    cases success with
    | false => exact ⟨agentSame.symm, rfl, by rw [agentSame]; rfl⟩
    | true =>
      have concludes : ((do notificationEnds; afterReconnection owner) :
          Prog P (Option (Routine P))).Obeys accord (.reconnecting began owner)
          (cont entry leave) ⟨between, .revived, false⟩ :=
        obeys_step.mpr ⟨agentSame.symm, .inr (.inr rfl), fun _ => atEnd⟩
      refine obeys_step.mpr ⟨agentSame.symm, rfl, ?_⟩
      intro set
      cases set with
      | false => exact concludes
      | true =>
        apply (obeys_onReconnected between agentSame.symm).bind
        rintro _ final rfl
        exact concludes

theorem obeys_handleDisconnect (sock : Nat) (forced : Bool) :
    (handleDisconnect opts sock forced : Prog P (Option (Routine P))).Obeys accord
      (.writePump sock) (cont entry leave) ⟨.sock sock, .dropped, false⟩ := by
  have goesOn : ((if forced && opts.autoReconnect then
        handleReconnection (.handleDisconnect sock)
      else do ended sock; return none) : Prog P (Option (Routine P))).Obeys accord
      (.writePump sock) (cont entry leave) ⟨.sock sock, .down, false⟩ := by
    split
    · exact obeys_handleReconnection _ rfl _ _ (.inl rfl) fun _ => rfl
    · exact obeys_step.mpr ⟨rfl, ⟨rfl, .inl rfl⟩, fun _ => ⟨rfl, rfl, .inl rfl⟩⟩
  refine obeys_step.mpr ⟨rfl, ⟨rfl, rfl⟩, ?_⟩
  intro handler
  cases handler with
  | none => exact obeys_step.mpr ⟨rfl, .inr (.inl rfl), fun _ => goesOn⟩
  | some handler =>
    cases handler with
    | onDisconnected =>
      apply (obeys_onDisconnected (.sock sock) rfl).bind
      rintro _ final rfl
      exact obeys_step.mpr ⟨rfl, .inl rfl, fun _ => goesOn⟩
    | cleanup stop =>
      refine obeys_step.mpr ⟨rfl, rfl, fun _ => ?_⟩
      exact obeys_step.mpr ⟨rfl, .inr (.inl rfl), fun _ => goesOn⟩

theorem obeys_writePump (sock : Nat) :
    (writePump opts sock : Prog P (Option (Routine P))).Obeys accord
      (.writePump sock) (cont entry leave) ⟨.sock sock, .waiting, false⟩ := by
  refine obeys_step.mpr ⟨rfl, ⟨rfl, rfl⟩, ?_⟩
  intro forced
  refine obeys_step.mpr ⟨rfl, ⟨rfl, rfl⟩, fun _ => obeys_step.mpr ⟨rfl, ⟨rfl, rfl⟩, ?_⟩⟩
  intro _
  exact obeys_handleDisconnect sock forced

theorem obeys_wsStartWithRetries :
    (wsStartWithRetries : Prog P (Option (Routine P))).Obeys accord .wsStartWithRetries
      (cont entry leave) ⟨.client, .preparing, false⟩ := by
  apply (obeys_wsStart .client rfl).bind
  rintro success ⟨between, stage, signals⟩ ⟨rfl, rfl, rfl⟩
  cases success with
  | true => exact ⟨rfl, rfl, .inl rfl⟩
  | false => exact obeys_handleReconnection _ rfl _ _ (.inr rfl) fun _ => rfl

/-- Both starts begin alike. -/
theorem obeys_begins {prog : Prog P α} {post : α -> Label -> Prop} (kind : CallKind)
    (starts : kind.stage = .begun) (fits : Agent.caller = agentOf call)
    (obeys : prog.Obeys accord call post ⟨.caller, .preparing, false⟩) :
    (do begins kind; setDisconnectedHandler .onDisconnected; setReconnectedHandler; prog :
      Prog P α).Obeys accord call post ⟨.caller, .fresh, false⟩ := by
  refine obeys_step.mpr ⟨fits, ⟨rfl, rfl⟩, fun _ => obeys_step.mpr ⟨fits, ⟨rfl, starts⟩, ?_⟩⟩
  intro _
  exact obeys_step.mpr ⟨fits, ⟨rfl, starts⟩, fun _ => obeys⟩

theorem obeys_start :
    (start : Prog P Unit).Obeys accord .start (fun _ => leave) ⟨.caller, .fresh, false⟩ := by
  apply obeys_begins .start rfl rfl
  apply (obeys_wsStart .caller rfl).bind
  rintro success ⟨between, stage, signals⟩ ⟨rfl, rfl, rfl⟩
  cases success with
  | false => exact obeys_step.mpr ⟨rfl, ⟨rfl, .inr rfl⟩, fun _ => ⟨rfl, rfl, .inl rfl⟩⟩
  | true =>
    apply (obeys_dispatcherStart rfl rfl).bind
    rintro _ final rfl
    exact obeys_step.mpr ⟨rfl, ⟨rfl, .inl rfl⟩, fun _ => ⟨rfl, rfl, .inl rfl⟩⟩

theorem obeys_startWithRetries :
    (startWithRetries : Prog P (Option (Routine P))).Obeys accord .startWithRetries
      (cont entry leave) ⟨.caller, .fresh, false⟩ := by
  apply obeys_begins .startWithRetries rfl rfl
  apply (obeys_wsStart .caller rfl).bind
  rintro success ⟨between, stage, signals⟩ ⟨rfl, rfl, rfl⟩
  cases success with
  | false => exact obeys_handleReconnection _ rfl _ _ (.inr rfl) fun _ => rfl
  | true =>
    apply (obeys_dispatcherStart rfl rfl).bind
    rintro _ final rfl
    exact obeys_step.mpr ⟨rfl, ⟨rfl, .inl rfl⟩, fun _ => ⟨rfl, rfl, .inl rfl⟩⟩

/-- `Stop` once it has arranged what it will wait for. -/
theorem obeys_stopping (cleanupC : Nat) (stage : Stage)
    (arranged : stage = .installed cleanupC ∨ stage = .released cleanupC) :
    (do wsStop
        if ← isRunning then
          dispatcher ClientDispatcher.stop
        else
          pure ()
        awaitCleanup cleanupC
        returns .stop true : Prog P Unit).Obeys accord .stop (fun _ => leave)
      ⟨.caller, stage, false⟩ := by
  have settled : stage.settled = true := by
    rcases arranged with rfl | rfl
    · rfl
    · rfl
  have inside : stage.inside = true := by
    rcases arranged with rfl | rfl
    · rfl
    · rfl
  have awaits : (do awaitCleanup cleanupC; returns .stop true : Prog P Unit).Obeys accord .stop
      (fun _ => leave) ⟨.caller, stage, false⟩ :=
    obeys_step.mpr ⟨rfl, ⟨rfl, arranged⟩, fun _ =>
      obeys_step.mpr ⟨rfl, ⟨rfl, .inl rfl⟩, fun _ => ⟨rfl, rfl, .inl rfl⟩⟩⟩
  apply (obeys_wsStop .caller rfl stage settled).bind
  rintro _ between rfl
  refine obeys_step.mpr ⟨rfl, inside, fun _ => obeys_step.mpr ⟨rfl, inside, ?_⟩⟩
  intro requestChannel
  refine obeys_step.mpr ⟨rfl, inside, ?_⟩
  intro _
  cases requestChannel with
  | none => exact awaits
  | some channel =>
    apply (obeys_dispatcherStop rfl inside).bind
    rintro _ final rfl
    exact awaits

theorem obeys_stop :
    (stop : Prog P Unit).Obeys accord .stop (fun _ => leave) ⟨.caller, .fresh, false⟩ := by
  refine obeys_step.mpr ⟨rfl, ⟨rfl, rfl⟩, fun _ => obeys_step.mpr ⟨rfl, ⟨rfl, rfl⟩, ?_⟩⟩
  intro cleanupC
  refine obeys_step.mpr ⟨rfl, ⟨cleanupC, rfl⟩, ?_⟩
  intro webSocket
  cases webSocket with
  | none =>
    exact obeys_step.mpr ⟨rfl, ⟨rfl, rfl⟩, fun _ => obeys_stopping cleanupC _ (.inr rfl)⟩
  | some sock =>
    refine obeys_step.mpr ⟨rfl, ⟨cleanupC, rfl⟩, ?_⟩
    intro connected
    cases connected with
    | false =>
      exact obeys_step.mpr ⟨rfl, ⟨rfl, rfl⟩, fun _ => obeys_stopping cleanupC _ (.inr rfl)⟩
    | true =>
      exact obeys_step.mpr ⟨rfl, ⟨rfl, rfl⟩, fun _ => obeys_stopping cleanupC _ (.inl rfl)⟩

theorem obeys_body (routine : Routine P) (label : Label) (entered : entry routine label) :
    (body opts routine).Obeys accord routine (cont entry leave) label := by
  rcases entered with ⟨enters, rfl⟩
  cases routine with
  | start => exact obeys_start.returning
  | startWithRetries => exact obeys_startWithRetries
  | stop => exact obeys_stop.returning
  | wsStart =>
    apply (obeys_wsStart .client rfl).bind
    rintro success ⟨between, stage, signals⟩ ⟨rfl, rfl, rfl⟩
    cases success with
    | true => exact ⟨rfl, rfl, .inl rfl⟩
    | false => exact ⟨rfl, rfl, .inr ⟨rfl, rfl⟩⟩
  | wsStartWithRetries => exact obeys_wsStartWithRetries
  | wsStop =>
    apply (obeys_wsStop .client rfl .idle rfl).bind
    rintro _ final rfl
    exact ⟨rfl, rfl, .inl rfl⟩
  | writePump sock => exact obeys_writePump sock
  | reconnecting began owner => exact obeys_reconnecting began owner
  | dispatcher routine =>
    apply obeys_dispatcherBody
    · rintro rfl
      cases enters
    · rintro rfl
      cases enters

/-! ## Invariants of the client -/

section Invariants

variable {pre after : Shared P} {tid : Nat} {choice : Choice}

/-- An operation of the dispatcher changes nothing else. -/
theorem execute_dispatcher {ans : Res P (.dispatcher inner)}
    (exec : execute tid (.dispatcher inner) choice pre = some (ans, after)) :
    ∃ chosen dispatcher,
      ClientDispatcher.execute tid inner chosen pre.dispatcher = some (ans, dispatcher) ∧
      after = { pre with dispatcher := dispatcher } := by
  cases choice with
  | dispatcher chosen =>
    rcases map_eq_some_iff.mp exec with ⟨⟨given, dispatcher⟩, operated, same⟩
    cases same
    exact ⟨chosen, dispatcher, operated, rfl⟩
  | _ => cases exec

/-- A close command is sent to a connection that is still there, which it remains. -/
theorem execute_close {sock : Nat} {ans : Res P (.close sock)}
    (exec : execute tid (.close sock) choice pre = some (ans, after)) :
    after = pre ∨ ∃ closed : Socket,
      closed.connection = (pre.sockets sock).connection ∧
      after = { pre with sockets := update pre.sockets sock closed } := by
  simp only [execute] at exec
  split at exec
  · right
    rcases map_eq_some_iff.mp exec with ⟨closed, sent, same⟩
    cases same
    refine ⟨closed, ?_, rfl⟩
    unfold Socket.close at sent
    grind
  · left
    cases exec
    rfl

/-- The operations of the dispatcher and of one connection. -/
def aside : Op P -> Bool
  | .dispatcher _ | .close _ => true
  | _ => false

/-- Such an operation leaves the rest of the client as it is. -/
theorem execute_aside {ans : Res P op}
    (exec : execute tid op choice pre = some (ans, after))
    (apart : aside op = true) :
    ∃ dispatcher sockets, after = { pre with dispatcher := dispatcher, sockets := sockets } := by
  cases op with
  | dispatcher inner =>
    obtain ⟨_, dispatcher, _, rfl⟩ := execute_dispatcher exec
    exact ⟨dispatcher, pre.sockets, rfl⟩
  | close sock =>
    rcases execute_close exec with rfl | ⟨_, _, rfl⟩
    · exact ⟨_, _, rfl⟩
    · exact ⟨_, _, rfl⟩
  | _ => cases apart

theorem execute_sendCleanup {stop : Nat} {ans : Res P (.sendCleanup stop)}
    (exec : execute tid (.sendCleanup stop) choice pre = some (ans, after)) :
    after = { pre with
      cleanupC := update pre.cleanupC stop
        { pre.cleanupC stop with token := true } } := by
  simp only [execute] at exec
  split at exec
  · cases exec
  · cases exec
    rfl

theorem execute_awaitCleanup {stop : Nat} {ans : Res P (.awaitCleanup stop)}
    (exec : execute tid (.awaitCleanup stop) choice pre = some (ans, after)) :
    ((pre.cleanupC stop).token = true ∧ after = { pre with
      cleanupC := update pre.cleanupC stop
        { pre.cleanupC stop with token := false } }) ∨
    ((pre.cleanupC stop).closed = true ∧ after = pre) := by
  simp only [execute] at exec
  split at exec
  · rename_i token
    cases exec
    exact .inl ⟨token, rfl⟩
  · split at exec
    · rename_i closed
      cases exec
      exact .inr ⟨closed, rfl⟩
    · cases exec

/-- A dial opens a new connection, or it fails. -/
theorem execute_dial {dialed : Option Nat}
    (exec : execute tid .dial choice pre = some (dialed, after)) :
    (dialed = none ∧ after = pre) ∨ (dialed = some pre.made ∧ after = { pre with
      sockets := update pre.sockets pre.made ⟨true, false, false⟩, made := pre.made + 1 }) := by
  simp only [execute] at exec
  grind

/-- Which operations change which parts of the state.  A reconnection and a notification end with
their own goroutine. -/
structure Frame (tid : Nat) (op : Op P) (pre after : Shared P) : Prop where
  dispatcher : (∀ inner, op ≠ .dispatcher inner) -> after.dispatcher = pre.dispatcher
  onDisconnected : (∀ handler, op ≠ .setDisconnectedHandler handler) ->
    after.onDisconnected = pre.onDisconnected
  onReconnected : op ≠ .setReconnectedHandler -> after.onReconnected = pre.onReconnected
  webSocket : (∀ sock reconnecting, op ≠ .publish sock reconnecting) ->
    after.webSocket = pre.webSocket
  launched : (∀ sock, op ≠ .run sock) -> after.launched = pre.launched
  runs : ∀ other, other ∈ pre.hist.runs -> (other = tid ->
    (∀ sock, op ≠ .run sock) ∧ ∀ began, op ≠ .reconnectionAborted began) ->
    other ∈ after.hist.runs
  notifying : ∀ other, other ∈ pre.hist.notifying ->
    (other = tid -> op ≠ .notificationEnds) -> other ∈ after.hist.notifying
  ended : (∀ sock, op ≠ .ended sock) -> after.hist.ended = pre.hist.ended
  stopCalled : (∀ call, op ≠ .begins call) ->
    after.hist.stopCalled = pre.hist.stopCalled
  stopped : (∀ call, op ≠ .begins call) ->
    (∀ success, op ≠ .returns .stop success) ->
    after.hist.stopped = pre.hist.stopped

theorem execute_frame {ans : Res P op}
    (exec : execute tid op choice pre = some (ans, after)) :
    Frame tid op pre after := by
  cases op with
  | dispatcher =>
    obtain ⟨_, _, _, rfl⟩ := execute_dispatcher exec
    constructor <;> simp
  | close =>
    rcases execute_close exec with rfl | ⟨_, _, rfl⟩
    all_goals constructor <;> simp
  | begins call | returns call =>
    cases exec
    cases call <;> constructor <;> simp [History.begins, History.returns]
  | _ =>
    simp only [execute] at exec
    constructor <;> grind

/-- A new goroutine takes its connection over, or enters the dispatcher, or only calls. -/
theorem enter_cases (entered : enter call pre = some after) :
    (∃ sock, call = .writePump sock ∧ sock ∈ pre.launched ∧
      after = { pre with launched := pre.launched.erase sock }) ∨
    (∃ routine dispatcher, call = .dispatcher routine ∧
      ClientDispatcher.enter routine pre.dispatcher = some dispatcher ∧
      routine ≠ .start ∧ routine ≠ .stop ∧ routine ≠ .pause ∧ routine ≠ .resume ∧
      after = { pre with dispatcher := dispatcher }) ∨
    ((agentOf call = .caller ∨ agentOf call = .client) ∧ stageOf call ≠ .waiting ∧
      (∀ began owner, call ≠ .reconnecting began owner) ∧ after = pre) := by
  cases call with
  | writePump sock =>
    simp only [enter] at entered
    split at entered
    · rename_i launched
      cases entered
      exact .inl ⟨sock, rfl, launched, rfl⟩
    · cases entered
  | reconnecting began owner => cases entered
  | dispatcher routine =>
    cases routine with
    | start | stop | pause | resume => cases entered
    | _ =>
      simp only [enter, map_eq_some_iff] at entered
      rcases entered with ⟨dispatcher, inside, rfl⟩
      exact .inr (.inl ⟨_, dispatcher, rfl, inside, by simp, by simp, by simp, by simp, rfl⟩)
  | _ =>
    cases entered
    simp [agentOf, stageOf]

theorem occur_dispatcher {event : Event} (arose : occur event pre = some after) :
    ∃ dispatcher, ClientDispatcher.occur event pre.dispatcher = some dispatcher ∧
      after = { pre with dispatcher := dispatcher } := by
  rcases map_eq_some_iff.mp arose with ⟨dispatcher, happened, rfl⟩
  exact ⟨dispatcher, happened, rfl⟩

/-- The description a call is entered with. -/
def firstLabel (call : Routine P) : Label := ⟨agentOf call, stageOf call, false⟩

/-- What has to be shown of an invariant of the client. -/
structure Keeps (guard : Condition P) (initial : Shared P)
    (inv : Shared P -> (Nat -> Option Label) -> Prop) : Prop where
  initially : inv initial (fun _ => none)
  enter : ∀ (config : Configuration P) view tid call after,
    Describes accord entry leave config view -> inv config.shared view ->
    guard.call config call -> enter call config.shared = some after -> view tid = none ->
    inv after (update view tid (some (firstLabel call)))
  occur : ∀ pre view event after, inv pre view ->
    occur event pre = some after -> inv after view
  execute : ∀ pre view tid label op choice ans after onward,
    inv pre view -> view tid = some label -> Move label op ans onward ->
    guard.op pre tid op ->
    execute tid op choice pre = some (ans, after) ->
    inv after (update view tid (some onward))
  finish : ∀ pre view tid label, inv pre view -> view tid = some label ->
    leave label -> inv pre (update view tid none)

/-- What has to be shown for a further invariant, when one is known to be kept. -/
structure Extends (guard : Condition P) (initial : Shared P)
    (known extra : Shared P -> (Nat -> Option Label) -> Prop) : Prop where
  initially : extra initial (fun _ => none)
  enter : ∀ (config : Configuration P) view tid call after,
    Describes accord entry leave config view -> known config.shared view ->
    extra config.shared view -> guard.call config call -> enter call config.shared = some after ->
    view tid = none -> extra after (update view tid (some (firstLabel call)))
  occur : ∀ pre view event after, extra pre view ->
    occur event pre = some after -> extra after view
  execute : ∀ pre view tid label op choice ans after onward,
    known pre view -> extra pre view -> view tid = some label ->
    Move label op ans onward -> guard.op pre tid op ->
    execute tid op choice pre = some (ans, after) ->
    extra after (update view tid (some onward))
  finish : ∀ pre view tid label, known pre view -> extra pre view ->
    view tid = some label -> leave label -> extra pre (update view tid none)

theorem Extends.keeps {guard : Condition P} {initial : Shared P}
    {known extra : Shared P -> (Nat -> Option Label) -> Prop}
    (further : Extends guard initial known extra) (keeps : Keeps guard initial known) :
    Keeps guard initial (fun s view => known s view ∧ extra s view) where
  initially := ⟨keeps.initially, further.initially⟩
  enter := by
    rintro _ _ _ _ _ describes ⟨holds, more⟩ admitted entered new
    exact ⟨keeps.enter _ _ _ _ _ describes holds admitted entered new,
      further.enter _ _ _ _ _ describes holds more admitted entered new⟩
  occur := by
    rintro _ _ _ _ ⟨holds, more⟩ arose
    exact ⟨keeps.occur _ _ _ _ holds arose, further.occur _ _ _ _ more arose⟩
  execute := by
    rintro _ _ _ _ _ _ _ _ _ ⟨holds, more⟩ tagged move admitted exec
    exact ⟨keeps.execute _ _ _ _ _ _ _ _ _ holds tagged move admitted exec,
      further.execute _ _ _ _ _ _ _ _ _ holds more tagged move admitted exec⟩
  finish := by
    rintro _ _ _ _ ⟨holds, more⟩ tagged left
    exact ⟨keeps.finish _ _ _ _ holds tagged left, further.finish _ _ _ _ holds more tagged left⟩

theorem Keeps.reachable {guard : Condition P} {initial : Shared P}
    {inv : Shared P -> (Nat -> Option Label) -> Prop} (keeps : Keeps guard initial inv)
    {config : Configuration P} (reached : (system opts).Reachable guard initial config) :
    ∃ view, Describes accord entry leave config view ∧ inv config.shared view := by
  have verified : Verified (system opts) guard initial accord entry leave inv := by
    constructor
    case body => exact obeys_body
    case initially => exact keeps.initially
    case enter =>
      intro config view call shared describes admitted holds entered new
      have enters : call.enters = true := by
        rcases enter_cases entered with ⟨_, rfl, _⟩ | ⟨routine, _, rfl, _, _, _, pause, resume, _⟩ |
          ⟨agents, _⟩
        · rfl
        · cases routine with
          | pause => exact absurd rfl pause
          | resume => exact absurd rfl resume
          | _ => rfl
        · cases call with
          | dispatcher routine => simp [agentOf] at agents
          | _ => rfl
      exact ⟨firstLabel call, ⟨enters, rfl⟩,
        keeps.enter _ _ _ _ _ describes holds admitted entered new⟩
    case occur =>
      intro pre view event after holds arose
      exact keeps.occur _ _ _ _ holds arose
    case execute =>
      intro pre view tid label op choice ans after holds tagged legal admitted
        exec
      exact ⟨label.after op ans, rfl, keeps.execute _ _ _ _ _ _ _ _ _ holds tagged
        (move_of_allowed legal ans) admitted exec⟩
    case finish =>
      intro shared view tid label holds tagged left
      exact keeps.finish _ _ _ _ holds tagged left
  exact verified.reachable reached

end Invariants

end ClientLifecycle
end OcppGo
