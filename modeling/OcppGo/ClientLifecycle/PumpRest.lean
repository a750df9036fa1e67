import OcppGo.ClientLifecycle.PauseFlag

namespace OcppGo
namespace ClientLifecycle

open Function Interleaving Ocppj Option

/-!
# No pump after `Stop`

`Stop` stops the dispatcher and waits for its pump.  As long as calls do not overlap and a start
begins only when the dispatcher is stopped, no pump is running and none has been launched when
`Stop` has returned, until the next start.

The goroutines are described here by their part in the dispatcher, with the descriptions of
`ClientDispatcher.Phases`: a start of the client carries a `Start` of the dispatcher, a `Stop` of
the client a `Stop` of the dispatcher, and every other goroutine of the client is a bystander.
-/

variable {P : Type}

namespace PumpRest

open ClientDispatcher
open Phases (Life Station Lifecycle Asleep life stations)

/-- A goroutine by its part in the dispatcher, and whether it executes a call of `ocppj.Client`. -/
structure Part (P : Type) where
  caller : Bool
  label : Phases.Label P

/-- The operations of the dispatcher a goroutine of the client performs besides those of a start
or a stop. -/
def aside : ClientDispatcher.Op P -> Bool
  | .rlock | .runlock | .readRequestChannel | .lock | .awaitReaders | .unlock | .setPaused _
  | .hasPendingRequest _ | .signalReady _ | .timerStop | .timerDrain | .timerReset _ => true
  | _ => false

/-- The goroutine belongs to the client. -/
def ofClient : Phases.Role P -> Bool
  | .pauser | .starter _ | .stopper _ => true
  | _ => false

/-- `Stop` has found that there is no request channel. -/
def unseen (label : Phases.Label P) : Phases.Label P :=
  match label.role with
  | .stopper .asking => ⟨.stopper .leaving, label.debt⟩
  | _ => label.after .readRequestChannel none

def operated (label : Phases.Label P) :
    (inner : ClientDispatcher.Op P) -> ClientDispatcher.Res P inner ->
      Phases.Label P
  | .readRequestChannel, none => unseen label
  | inner, ans => label.after inner ans

def begun : CallKind -> Phases.Role P
  | .stop => .stopper .asking
  | _ => .starter .pre

def Part.after (part : Part P) : (op : Op P) -> Res P op -> Part P
  | .dispatcher inner, ans => { part with label := operated part.label inner ans }
  | .begins call, _ => { part with label := ⟨begun call, .none⟩ }
  | .returns _ _, _ => { part with label := ⟨.pauser, .none⟩ }
  | _, _ => part

def Part.operates (part : Part P) (inner : ClientDispatcher.Op P) : Prop :=
  Phases.allowed inner part.label ∨
    (aside inner = true ∧ ofClient part.label.role = true ∧ part.label.debt = .none)

def Part.returns (part : Part P) : CallKind -> Prop
  | .stop => part.label.role = .stopper .leaving
  | _ => ∃ stage, part.label.role = .starter stage

def allowed (op : Op P) (part : Part P) : Prop :=
  match op with
  | .dispatcher inner => part.operates inner
  | .begins _ => part.caller = true ∧ part.label = ⟨.pauser, .none⟩
  | .returns call _ => part.caller = true ∧ part.returns call
  | _ => ofClient part.label.role = true

def Informed : (op : Op P) -> Part P -> Res P op -> Prop
  | .dispatcher inner, part, ans => Phases.Informed inner part.label.role ans
  | _, _, _ => True

def ofKind : Routine P -> Phases.Role P -> Prop
  | .dispatcher routine, role => role.kind = Phases.kindOf routine
  | _, _ => True

def accord : Protocol (Op P) (Res P) (Routine P) (Part P) where
  fits call part := part.caller = decide (agentOf call = .caller) ∧ ofKind call part.label.role
  allowed := allowed
  next op part ans onward :=
    Informed op part ans ∧ onward = part.after op ans

/-- The part a run of `handleReconnection` is entered with. -/
def reconnectingRole : Owner -> Phases.Role P
  | .startWithRetries => .starter .pre
  | _ => .pauser

def enters : Routine P -> Phases.Label P -> Prop
  | .dispatcher routine, label => Phases.entry routine label
  | .reconnecting _ owner, label => label = ⟨reconnectingRole owner, .none⟩
  | _, label => label = ⟨.pauser, .none⟩

def entry (call : Routine P) (part : Part P) : Prop :=
  part.caller = decide (agentOf call = .caller) ∧ enters call part.label

def leave (part : Part P) : Prop := Phases.leave part.label

/-! ## The code keeps to the descriptions -/

section

open Program

variable {opts : Settings} {call : Routine P} {part : Part P} {α : Type}

variable {post : α -> Part P -> Prop} {op : Op P}

variable {resume : Res P op -> Prog P α}

theorem obeys_step :
    (Program.act op resume).Obeys accord call post part <->
      accord.fits call part ∧ allowed op part ∧
        ∀ ans, Informed op part ans ->
          (resume ans).Obeys accord call post (part.after op ans) := by
  simp [obeys_act, accord]

/-- The operations that leave every part as it is. -/
def quiet : Op P -> Bool
  | .dispatcher .readRequestChannel => false
  | .dispatcher inner => aside inner
  | .begins _ => false
  | .returns _ _ => false
  | _ => true

/-- A goroutine of the client that is not inside a function of the dispatcher. -/
structure Outside (call : Routine P) (part : Part P) : Prop where
  fits : accord.fits call part
  client : ofClient part.label.role = true
  debt : part.label.debt = .none

variable {label : Phases.Label P} {inner : ClientDispatcher.Op P}

theorem after_of_aside (beside : aside inner = true) (client : ofClient label.role = true)
    (debt : label.debt = .none) (ans : ClientDispatcher.Res P inner) :
    label.after inner ans = label := by
  rcases label with ⟨role, owed⟩
  obtain rfl := debt
  cases inner with
  | rlock | runlock | readRequestChannel | lock | awaitReaders | unlock | setPaused _
  | hasPendingRequest _ | signalReady _ | timerStop | timerDrain | timerReset _ =>
    cases role with
    | pauser | starter | stopper => rfl
    | _ => cases client
  | _ => cases beside

theorem aside_of_quiet (silent : quiet (.dispatcher inner) = true) : aside inner = true := by
  cases inner with
  | readRequestChannel => rfl
  | _ => exact silent

section

variable (silent : quiet op = true) (outside : Outside call part)
include silent outside

theorem allowed_of_quiet : allowed op part := by
  cases op with
  | dispatcher inner => exact .inr ⟨aside_of_quiet silent, outside.client, outside.debt⟩
  | begins | returns => cases silent
  | _ => exact outside.client

theorem after_of_quiet (ans : Res P op) : part.after op ans = part := by
  cases op with
  | dispatcher inner =>
    have beside := aside_of_quiet silent
    have unmoved : operated part.label inner ans = part.label := by
      cases inner with
      | readRequestChannel => cases silent
      | _ => exact after_of_aside beside outside.client outside.debt ans
    simp [Part.after, unmoved]
  | begins | returns => cases silent
  | _ => rfl

end

variable {prog : Prog P α}

def Quiet (prog : Prog P α) : Prop := prog.Uses fun op => quiet op = true

/-- A program of quiet operations leaves its goroutine where it is. -/
theorem obeys_of_quiet (outside : Outside call part) (uses : Quiet prog) :
    prog.Obeys accord call (fun _ final => final = part) part := by
  induction prog with
  | done value => exact ⟨outside.fits, rfl⟩
  | act op resume ih =>
    refine obeys_step.mpr ⟨outside.fits, allowed_of_quiet uses.1 outside, ?_⟩
    intro ans _
    rw [after_of_quiet uses.1 outside]
    exact ih ans (uses.2 ans)

theorem uses_wsStart (reconnecting : Bool) : Quiet (wsStart reconnecting : Prog P Bool) := by
  refine ⟨rfl, fun _ => ⟨rfl, ?_⟩⟩
  intro dialled
  cases dialled with
  | none => trivial
  | some sock => exact ⟨rfl, fun _ => ⟨rfl, fun _ => trivial⟩⟩

theorem uses_wsStop : Quiet (wsStop : Prog P Unit) := by
  refine ⟨rfl, fun _ => ⟨rfl, ?_⟩⟩
  intro found
  cases found with
  | none => exact ⟨rfl, fun _ => trivial⟩
  | some sock =>
    refine ⟨rfl, ?_⟩
    intro connected
    cases connected with
    | false => exact ⟨rfl, fun _ => trivial⟩
    | true => exact ⟨rfl, fun _ => ⟨rfl, fun _ => trivial⟩⟩

theorem uses_onReconnected : Quiet (onReconnected opts : Prog P Unit) := by
  simp [Quiet, onReconnected, ClientDispatcher.resume, ClientDispatcher.stopAndDrainTimer,
    dispatcher_act, quiet, aside]

theorem uses_onDisconnected : Quiet (onDisconnected opts : Prog P Unit) := by
  simp [Quiet, onDisconnected, ClientDispatcher.pause, ClientDispatcher.lock,
    ClientDispatcher.stopAndDrainTimer, dispatcher_act, quiet, aside]

/-- What the dispatcher's own agreement allows moves a part as it says. -/
theorem operated_of_allowed (legal : Phases.allowed inner label)
    (ans : ClientDispatcher.Res P inner) :
    operated label inner ans = label.after inner ans := by
  cases inner with
  | readRequestChannel =>
    cases ans with
    | some channel => rfl
    | none =>
      rcases label with ⟨role, debt⟩
      cases role with
      | stopper stage =>
        cases debt with
        | none => cases legal
        | popped front => rcases legal with ⟨_, never⟩; cases never
        | deleted => rcases legal with ⟨_, never⟩; cases never
      | _ => rfl
  | _ => rfl

theorem kind_of_after (op : ClientDispatcher.Op P) (label : Phases.Label P)
    (ans : ClientDispatcher.Res P op) :
    (label.after op ans).role.kind = label.role.kind := by
  rcases label with ⟨role, debt⟩
  cases debt with
  | none => exact Phases.kind_after op role ans
  | _ => rfl

/-- A function of the dispatcher follows its own agreement inside the client. -/
theorem obeys_dispatcher {routine : ClientDispatcher.Routine P}
    {post : α -> Phases.Label P -> Prop} {prog : ClientDispatcher.Prog P α} (caller : Bool)
    (fits : ∀ label : Phases.Label P, label.role.kind =
      Phases.kindOf routine -> accord.fits call ⟨caller, label⟩)
    (obeys : prog.Obeys Phases.accord routine post label) :
    (dispatcher prog).Obeys accord call
      (fun value final => post value final.label ∧ final.caller = caller) ⟨caller, label⟩ := by
  have interpreted : (dispatcher prog).Obeys accord call
      (fun value final => ∃ reached, post value reached ∧ final = ⟨caller, reached⟩)
      ⟨caller, label⟩ := by
    refine obeys.interpret ?_ ?_ rfl
    · rintro state _ suits rfl
      exact fits state suits
    · rintro op state _ suits legal rfl
      refine obeys_step.mpr ⟨fits state suits, .inl legal, ?_⟩
      intro ans informed
      have moved : (Part.mk caller state).after (.dispatcher op) ans =
          ⟨caller, state.after op ans⟩ := by
        simp [Part.after, operated_of_allowed legal]
      rw [moved]
      exact ⟨fits _ ((kind_of_after op state ans).trans suits), _, ⟨informed, rfl⟩, rfl⟩
  apply interpreted.mono
  rintro value final ⟨reached, holds, rfl⟩
  exact ⟨holds, rfl⟩

/-- The goroutines that are not the dispatcher's own. -/
def foreign : Routine P -> Bool
  | .dispatcher _ => false
  | _ => true

theorem foreign_of_caller (caller : agentOf call = .caller) : foreign call = true := by
  cases call with
  | dispatcher => cases caller
  | _ => rfl

section

variable (strange : foreign call = true)
include strange

/-- A goroutine of the client fits with every description. -/
theorem fits_of_foreign (label : Phases.Label P) :
    accord.fits call (⟨decide (agentOf call = .caller), label⟩ : Part P) := by
  refine ⟨rfl, ?_⟩
  cases call with
  | dispatcher => cases strange
  | _ => trivial

/-- `Start` of the dispatcher, called by a start of the client. -/
theorem obeys_dispatcherStart :
    (dispatcher (ClientDispatcher.start : ClientDispatcher.Prog P Unit)).Obeys accord call
      (fun _ final => ∃ stage,
        final = ⟨decide (agentOf call = .caller), ⟨.starter stage, .none⟩⟩)
      ⟨decide (agentOf call = .caller), ⟨.starter .pre, .none⟩⟩ := by
  apply (obeys_dispatcher _ (fun label _ => fits_of_foreign strange label)
    Phases.obeys_start.fitting).mono
  rintro _ ⟨caller, role, debt⟩ ⟨⟨kind, settled, _⟩, rfl⟩
  obtain rfl := settled
  cases role with
  | starter stage => exact ⟨stage, rfl⟩
  | _ => cases kind

/-- `Stop` of the dispatcher, called by a `Stop` of the client. -/
theorem obeys_dispatcherStop :
    (dispatcher (ClientDispatcher.stop : ClientDispatcher.Prog P Unit)).Obeys accord call
      (fun _ final => final = ⟨decide (agentOf call = .caller), ⟨.stopper .leaving, .none⟩⟩)
      ⟨decide (agentOf call = .caller), ⟨.stopper .asking, .none⟩⟩ := by
  apply (obeys_dispatcher _ (fun label _ => fits_of_foreign strange label)
    Phases.obeys_stop.fitting).mono
  rintro _ ⟨caller, role, debt⟩ ⟨⟨kind, settled, roles⟩, rfl⟩
  obtain rfl := settled
  cases role with
  | stopper stage =>
    have leaving : stage = .leaving := by simpa using roles
    rw [leaving]
  | _ => cases kind

end

theorem obeys_dispatcherBody (routine : ClientDispatcher.Routine P) (label : Phases.Label P)
    (entered : Phases.entry routine label) :
    (body opts (.dispatcher routine)).Obeys accord (.dispatcher routine)
      (cont entry leave) ⟨false, label⟩ := by
  have obeys : (ClientDispatcher.body opts.dispatcher routine).Obeys _ _ _ _ :=
    Phases.obeys_body routine label entered
  have fits (label : Phases.Label P)
      (kind : label.role.kind = Phases.kindOf routine) :
      accord.fits (.dispatcher routine) ⟨false, label⟩ := ⟨rfl, kind⟩
  apply (obeys_dispatcher false fits obeys.fitting).bind
  rintro onward ⟨caller, label⟩ ⟨⟨kind, goesOn⟩, rfl⟩
  cases onward with
  | none => exact ⟨⟨rfl, kind⟩, goesOn⟩
  | some onward => exact ⟨⟨rfl, kind⟩, rfl, goesOn⟩

/-- A goroutine of the client outside the functions of the dispatcher. -/
def stance (call : Routine P) (role : Phases.Role P) : Part P :=
  ⟨decide (agentOf call = .caller), ⟨role, .none⟩⟩

def away (call : Routine P) (role : Phases.Role P) : Bool := foreign call && ofClient role

theorem outside_stance {role : Phases.Role P} (away : away call role = true) :
    Outside call (stance call role) := by
  have both := Bool.and_eq_true_iff.mp away
  exact ⟨fits_of_foreign both.1 _, both.2, rfl⟩

section

variable {role : Phases.Role P} (away : away call role = true)
include away

/-- A quiet program, and what follows it. -/
theorem obeys_quiet_bind {β : Type} {post : β -> Part P -> Prop} {onward : α -> Prog P β}
    (uses : Quiet prog)
    (goesOn : ∀ value, (onward value).Obeys accord call post (stance call role)) :
    (prog >>= onward).Obeys accord call post (stance call role) := by
  apply (obeys_of_quiet (outside_stance away) uses).bind
  rintro value between rfl
  exact goesOn value

/-- A quiet operation, and what follows it. -/
theorem obeys_quiet_step (silent : quiet op = true)
    (goesOn : ∀ ans, (resume ans).Obeys accord call post (stance call role)) :
    (Program.act op resume).Obeys accord call post (stance call role) := by
  have outside := outside_stance away
  refine obeys_step.mpr ⟨outside.fits, allowed_of_quiet silent outside, ?_⟩
  intro ans _
  rw [after_of_quiet silent outside]
  exact goesOn ans

theorem obeys_handleReconnection (owner : Owner)
    (goesOn : ∀ began, entry (.reconnecting began owner) (stance call role)) :
    (handleReconnection owner : Prog P (Option (Routine P))).Obeys accord call
      (cont entry leave) (stance call role) := by
  apply obeys_quiet_step away rfl
  intro began
  exact ⟨(outside_stance away).fits, goesOn began⟩

end

/-- A start of the client ends by starting the dispatcher. -/
theorem obeys_starts (kind : CallKind) (starts : kind ≠ .stop) (success : Bool)
    (caller : agentOf call = .caller)
    (obeys : prog.Obeys accord call post (stance call .pauser)) :
    (do dispatcher ClientDispatcher.start; returns kind success; prog : Prog P α).Obeys
      accord call post (stance call (.starter .pre)) := by
  have strange := foreign_of_caller caller
  apply (obeys_dispatcherStart strange).bind
  rintro _ between ⟨stage, rfl⟩
  have returning : (stance call (.starter stage)).returns kind := by
    cases kind with
    | stop => exact absurd rfl starts
    | start | startWithRetries => exact ⟨stage, rfl⟩
  exact obeys_step.mpr ⟨fits_of_foreign strange _, ⟨decide_eq_true caller, returning⟩,
    fun _ _ => obeys⟩

/-- A goroutine that is back outside the functions of the dispatcher may end. -/
theorem ends (strange : foreign call = true) :
    accord.fits call (stance call .pauser) ∧ leave (stance call (.pauser : Phases.Role P)) :=
  ⟨fits_of_foreign strange _, by simp [leave, stance, Phases.leave]⟩

theorem obeys_afterReconnection (began : Nat) (owner : Owner) :
    (afterReconnection owner : Prog P (Option (Routine P))).Obeys accord
      (.reconnecting began owner) (cont entry leave)
      (stance (.reconnecting began owner) (reconnectingRole owner)) := by
  cases owner with
  | handleDisconnect sock => exact obeys_quiet_step rfl rfl fun _ => ends rfl
  | startWithRetries => exact obeys_starts .startWithRetries (by simp) true rfl (ends rfl)
  | client => exact ends rfl

theorem obeys_reconnecting (began : Nat) (owner : Owner) :
    (reconnecting opts began owner : Prog P (Option (Routine P))).Obeys accord
      (.reconnecting began owner) (cont entry leave)
      (stance (.reconnecting began owner) (reconnectingRole owner)) := by
  have atEnd := obeys_afterReconnection (P := P) began owner
  have away : away (.reconnecting began owner : Routine P) (reconnectingRole owner) = true := by
    cases owner <;> rfl
  apply obeys_quiet_step away rfl
  intro aborted
  cases aborted with
  | true => exact obeys_quiet_step away rfl fun _ => atEnd
  | false =>
    apply obeys_quiet_bind away (uses_wsStart true)
    intro success
    cases success with
    | false => exact ⟨(outside_stance away).fits, rfl, rfl⟩
    | true =>
      apply obeys_quiet_step away rfl
      intro set
      cases set with
      | false => exact obeys_quiet_step away rfl fun _ => atEnd
      | true =>
        apply obeys_quiet_bind away uses_onReconnected
        intro _
        exact obeys_quiet_step away rfl fun _ => atEnd

theorem obeys_writePump (sock : Nat) :
    (writePump opts sock : Prog P (Option (Routine P))).Obeys accord
      (.writePump sock) (cont entry leave) (stance (.writePump sock) .pauser) := by
  apply obeys_quiet_step rfl rfl
  intro forced
  apply obeys_quiet_step rfl rfl
  intro _
  apply obeys_quiet_step rfl rfl
  intro _
  have goesOn : ((if forced && opts.autoReconnect then
        handleReconnection (.handleDisconnect sock)
      else do ended sock; return none) : Prog P (Option (Routine P))).Obeys accord
      (.writePump sock) (cont entry leave) (stance (.writePump sock) .pauser) := by
    split
    · exact obeys_handleReconnection rfl _ fun _ => ⟨rfl, rfl⟩
    · exact obeys_quiet_step rfl rfl fun _ => ends rfl
  apply obeys_quiet_step rfl rfl
  intro handler
  cases handler with
  | none => exact obeys_quiet_step rfl rfl fun _ => goesOn
  | some handler =>
    cases handler with
    | onDisconnected =>
      apply obeys_quiet_bind rfl uses_onDisconnected
      intro _
      exact obeys_quiet_step rfl rfl fun _ => goesOn
    | cleanup stop =>
      exact obeys_quiet_step rfl rfl fun _ => obeys_quiet_step rfl rfl fun _ => goesOn

/-- Both starts begin alike. -/
theorem obeys_begins (kind : CallKind) (caller : agentOf call = .caller)
    (obeys : prog.Obeys accord call post (stance call (begun kind))) :
    (do begins kind; prog).Obeys accord call post (stance call .pauser) :=
  obeys_step.mpr ⟨fits_of_foreign (foreign_of_caller caller) _,
    ⟨decide_eq_true caller, rfl⟩, fun _ _ => obeys⟩

theorem obeys_start :
    (start : Prog P Unit).Obeys accord .start (fun _ => leave) (stance .start .pauser) := by
  apply obeys_begins .start rfl
  apply obeys_quiet_step rfl rfl
  intro _
  apply obeys_quiet_step rfl rfl
  intro _
  apply obeys_quiet_bind rfl (uses_wsStart false)
  intro success
  cases success with
  | true =>
    have ret : (.done () : Prog P Unit).Obeys accord .start (fun _ => leave) _ := ends rfl
    exact obeys_starts .start (by simp) true rfl ret
  | false =>
    exact obeys_step.mpr ⟨fits_of_foreign rfl _, ⟨rfl, _, rfl⟩, fun _ _ => ends rfl⟩

theorem obeys_startWithRetries :
    (startWithRetries : Prog P (Option (Routine P))).Obeys accord .startWithRetries
      (cont entry leave) (stance .startWithRetries .pauser) := by
  apply obeys_begins .startWithRetries rfl
  apply obeys_quiet_step rfl rfl
  intro _
  apply obeys_quiet_step rfl rfl
  intro _
  apply obeys_quiet_bind rfl (uses_wsStart false)
  intro success
  cases success with
  | true => exact obeys_starts .startWithRetries (by simp) true rfl (ends rfl)
  | false => exact obeys_handleReconnection rfl _ fun _ => ⟨rfl, rfl⟩

/-- The end of `Stop`. -/
theorem obeys_stops (cleanupC : Nat) :
    (do awaitCleanup cleanupC; returns .stop true : Prog P Unit).Obeys accord .stop
      (fun _ => leave) (stance .stop (.stopper .leaving)) := by
  apply obeys_quiet_step rfl rfl
  intro _
  exact obeys_step.mpr ⟨fits_of_foreign rfl _, ⟨rfl, rfl⟩, fun _ _ => ends rfl⟩

theorem obeys_stop :
    (stop : Prog P Unit).Obeys accord .stop (fun _ => leave) (stance .stop .pauser) := by
  have rest (cleanupC : Nat) : (do
      wsStop
      if ← isRunning then dispatcher ClientDispatcher.stop else pure ()
      awaitCleanup cleanupC
      returns .stop true : Prog P Unit).Obeys accord .stop (fun _ => leave)
      (stance .stop (.stopper .asking)) := by
    apply obeys_quiet_bind rfl uses_wsStop
    intro _
    apply obeys_quiet_step rfl rfl
    intro _
    refine obeys_step.mpr ⟨fits_of_foreign rfl _, .inr ⟨rfl, rfl, rfl⟩, ?_⟩
    intro requestChannel _
    cases requestChannel with
    | none => exact obeys_quiet_step rfl rfl fun _ => obeys_stops cleanupC
    | some channel =>
      apply obeys_quiet_step rfl rfl
      intro _
      apply (obeys_dispatcherStop rfl).bind
      rintro _ between rfl
      exact obeys_stops cleanupC
  apply obeys_begins .stop rfl
  apply obeys_quiet_step rfl rfl
  intro cleanupC
  apply obeys_quiet_step rfl rfl
  intro found
  cases found with
  | none => exact obeys_quiet_step rfl rfl fun _ => rest cleanupC
  | some sock =>
    apply obeys_quiet_step rfl rfl
    intro connected
    cases connected with
    | _ => exact obeys_quiet_step rfl rfl fun _ => rest cleanupC

theorem obeys_body (routine : Routine P) (part : Part P) (entered : entry routine part) :
    (body opts routine).Obeys accord routine (cont entry leave) part := by
  rcases part with ⟨caller, label⟩
  rcases entered with ⟨rfl, enters⟩
  cases routine with
  | start =>
    obtain rfl := enters
    exact obeys_start.returning
  | startWithRetries =>
    obtain rfl := enters
    exact obeys_startWithRetries
  | stop =>
    obtain rfl := enters
    exact obeys_stop.returning
  | wsStart =>
    obtain rfl := enters
    apply obeys_quiet_bind rfl (uses_wsStart false)
    intro _
    exact ends rfl
  | wsStartWithRetries =>
    obtain rfl := enters
    apply obeys_quiet_bind rfl (uses_wsStart false)
    intro success
    cases success with
    | true => exact ends rfl
    | false => exact obeys_handleReconnection rfl _ fun _ => ⟨rfl, rfl⟩
  | wsStop =>
    obtain rfl := enters
    apply obeys_quiet_bind rfl uses_wsStop
    intro _
    exact ends rfl
  | writePump sock =>
    obtain rfl := enters
    exact obeys_writePump sock
  | reconnecting began owner =>
    obtain rfl := enters
    exact obeys_reconnecting began owner
  | dispatcher inner => exact obeys_dispatcherBody inner label enters

end

/-! ## Nobody is the pump -/

/-- What a goroutine has to do with the start and the end of the pump. -/
inductive Duty where
  | nothing
  | start
  | stop
  /-- a `Stop` that has seen the end of the pump -/
  | left
  /-- a pump that has seen the end of its channel -/
  | closing
  deriving DecidableEq

structure Seat where
  caller : Bool
  duty : Duty
  deriving DecidableEq

def duty : Phases.Role P -> Duty
  | .starter _ => .start
  | .stopper .leaving => .left
  | .stopper _ => .stop
  | .pump _ .stopping | .pump _ .drained | .pump _ .cleared => .closing
  | _ => .nothing

def Part.seat (part : Part P) : Seat := ⟨part.caller, duty part.label.role⟩

/-- The part of the state that tells whether the dispatcher runs. -/
structure Now where
  life : Life
  /-- the channel of the present generation has been closed -/
  closed : Bool
  stopCalled : Bool
  stopped : Bool

def now (s : Shared P) : Now :=
  ⟨life s.dispatcher, (s.dispatcher.channels s.dispatcher.gen).closed, s.hist.stopCalled,
    s.hist.stopped⟩

def labels (view : Nat -> Option (Part P)) (tid : Nat) :
    Option (Phases.Label P) := (view tid).map Part.label

def seats (view : Nat -> Option (Part P)) (tid : Nat) : Seat :=
  match view tid with
  | some part => part.seat
  | none => ⟨false, .nothing⟩

@[grind cases] structure Rests (now : Now) (at' : Nat -> Station) (seats : Nat -> Seat) : Prop where
  closed : now.closed = true -> now.life.running = false
  closing : ∀ tid, (seats tid).duty = .closing ->
    now.life.running = false ∧ (at' tid).active = true
  channel : now.life.running = true -> now.life.requestChannel ≠ none
  callers : ∀ tid, (seats tid).duty = .start ∨ (seats tid).duty = .stop ∨
    (seats tid).duty = .left -> (seats tid).caller = true
  one : ∀ tid other, (seats tid).caller = true -> (seats other).caller = true ->
    tid = other
  starting : ∀ tid stage, at' tid = .starting stage -> (seats tid).duty = .start
  waiting : ∀ tid doneC, at' tid = .waiting doneC -> (seats tid).duty = .stop ∧
    doneC = now.life.gen ∧ now.life.running = false
  left : ∀ tid, (seats tid).duty = .left ->
    now.life.running = false ∧ Asleep now.life at'
  start : ∀ tid, (seats tid).duty = .start -> now.stopCalled = false ∧ now.stopped = false
  stop : ∀ tid, (seats tid).duty = .stop ∨ (seats tid).duty = .left ->
    now.stopCalled = true
  stopped : now.stopped = true -> now.stopCalled = true ∧ now.life.running = false ∧
    Asleep now.life at'

variable {gen : Nat} {caller : Bool}

namespace Rests

variable {now : Now} {at' : Nat -> Station} {seats : Nat -> Seat} {tid : Nat}

section

variable (rests : Rests now at' seats)
include rests

theorem stopBegins (seated : seats tid = ⟨true, .nothing⟩) :
    Rests { now with stopCalled := true } at' (update seats tid ⟨true, .stop⟩) := by
  constructor <;> grind -linarith

theorem startBegins (seated : seats tid = ⟨true, .nothing⟩) :
    Rests { now with stopCalled := false, stopped := false }
      (update at' tid (.starting .pre))
      (update seats tid ⟨true, .start⟩) := by
  constructor <;> grind -linarith

theorem stopReturns (seated : seats tid = ⟨true, .left⟩) :
    Rests { now with stopped := true } at' (update seats tid ⟨true, .nothing⟩) := by
  constructor <;> grind -linarith

theorem startReturns (seated : seats tid = ⟨true, .start⟩) :
    Rests now (update at' tid .beside)
      (update seats tid ⟨true, .nothing⟩) := by
  constructor <;> grind -linarith

theorem assignStarted (seated : (seats tid).duty = .start) (asleep : Asleep now.life at') :
    Rests { now with
      life := { now.life with
        gen := now.life.gen + 1
        requestChannel := some (now.life.gen + 1)
        doneC := now.life.gen + 1
        running := true }
      closed := false } (update at' tid (.starting .begun)) seats := by
  constructor <;> grind -linarith

theorem goMessagePump (seated : (seats tid).duty = .start) :
    Rests { now with life := { now.life with launched := now.life.launched + 1 } }
      (update at' tid (.starting .launched)) seats := by
  constructor <;> grind -linarith

/-- `Stop` has seen that the dispatcher is stopped. -/
theorem leaves (alive : Lifecycle now.life at') (seated : seats tid = ⟨true, .stop⟩)
    (here : at' tid = .beside) (stopped : now.life.running = false) :
    Rests now at' (update seats tid ⟨true, .left⟩) := by
  have asleep : Asleep now.life at' := by
    rcases alive.halted stopped with asleep | ⟨other, waiting⟩
    · exact asleep
    · have duty := (rests.waiting other _ waiting).1
      have same := rests.one other tid (rests.callers other (.inr (.inl duty))) (by rw [seated])
      rw [same, here] at waiting
      cases waiting
  constructor <;> grind -linarith

theorem assignStopped (seated : (seats tid).duty = .stop)
    (current : now.life.doneC = now.life.gen) :
    Rests { now with life := { now.life with running := false }, closed := true }
      (update at' tid (.waiting now.life.doneC)) seats := by
  constructor <;> grind -linarith

/-- `Stop` has seen the end of the pump. -/
theorem awaitDone (alive : Lifecycle now.life at') (seated : seats tid = ⟨true, .stop⟩)
    {doneC : Nat} (here : at' tid = .waiting doneC)
    (finished : now.life.doneClosed doneC = true) :
    Rests now (update at' tid .beside) (update seats tid ⟨true, .left⟩) := by
  have waiting := rests.waiting tid doneC here
  have asleep : Asleep now.life at' := alive.closed (waiting.2.1 ▸ finished)
  constructor <;> grind -linarith

theorem closes (seated : seats tid = ⟨caller, .nothing⟩) (active : (at' tid).active = true)
    (closed : now.closed = true) : Rests now at' (update seats tid ⟨caller, .closing⟩) := by
  constructor <;> grind -linarith

theorem drains {drained : Bool} (here : at' tid = .pumping gen drained) :
    Rests now (update at' tid (.pumping gen true)) seats := by
  constructor <;> grind -linarith

theorem forgetChannel (seated : (seats tid).duty = .closing) :
    Rests { now with life := { now.life with requestChannel := none } } at' seats := by
  constructor <;> grind -linarith

theorem closeDone (seated : seats tid = ⟨caller, .closing⟩) :
    Rests { now with life := { now.life with
        doneClosed := update now.life.doneClosed gen true } }
      (update at' tid .beside) (update seats tid ⟨caller, .nothing⟩) := by
  constructor <;> grind -linarith

theorem messagePump (launched : 0 < now.life.launched) :
    Rests { now with life := { now.life with launched := now.life.launched - 1 } }
      (update at' tid (.pumping now.life.gen false))
      (update seats tid ⟨false, .nothing⟩) := by
  constructor <;> grind -linarith

theorem calls (alone : ∀ other, (seats other).caller = false) :
    Rests now at' (update seats tid ⟨true, .nothing⟩) := by
  constructor <;> grind -linarith

/-- A goroutine without a part enters, or a goroutine ends. -/
theorem idles :
    Rests now (update at' tid .beside)
      (update seats tid ⟨false, .nothing⟩) := by
  constructor <;> grind -linarith

end

end Rests

/-! ## The operations of the code -/

section

variable {view : Nat -> Option (Part P)} {tid : Nat} {part onward : Part P}

theorem labels_some (tagged : view tid = some part) : labels view tid = some part.label := by
  simp [labels, tagged]

theorem labels_update (view : Nat -> Option (Part P)) (tid : Nat) (part : Part P) :
    labels (update view tid (some part)) = update (labels view) tid (some part.label) :=
  comp_update (Option.map Part.label) view tid (some part)

theorem labels_remove (view : Nat -> Option (Part P)) (tid : Nat) :
    labels (update view tid none) = update (labels view) tid none :=
  comp_update (Option.map Part.label) view tid none

theorem seats_some (tagged : view tid = some part) : seats view tid = part.seat := by
  simp [seats, tagged]

theorem seats_update (view : Nat -> Option (Part P)) (tid : Nat) (content : Option (Part P)) :
    seats (update view tid content) =
      update (seats view) tid (seats (fun _ => content) tid) :=
  comp_update (fun content => seats (fun _ => content) tid) view tid content

/-- A goroutine that moves on without a change to its station. -/
theorem station_update (role : Phases.Role P) (tagged : view tid = some part)
    (station : role.station = part.label.role.station) :
    update (stations (labels view)) tid role.station = stations (labels view) := by
  rw [station, ← Phases.stations_some (labels_some tagged), update_eq_self]

end

section

open Phases (vital)

variable {pre after : ClientDispatcher.Shared P} {tid : Nat}
  {choice : ClientDispatcher.Choice} {inner : ClientDispatcher.Op P}
  {ans : ClientDispatcher.Res P inner}

/-- A channel is closed by `Stop` only, and reopened by none. -/
theorem closed_of_execute
    (exec : ClientDispatcher.execute tid inner choice pre = some (ans, after))
    (idle : vital inner = false) :
    (after.channels after.gen).closed = (pre.channels pre.gen).closed := by
  cases inner with
  | assignStarted | assignStopped | forgetChannel | goMessagePump | closeDone | awaitDone
  | clearPendingRequests => cases idle
  | select reqCh pendingDone =>
    rcases ClientDispatcher.execute_select exec with ⟨channel, rest, _, received, rfl⟩ |
      ⟨_, _, _, _, _, rfl⟩ | ⟨_, _, rfl⟩ | ⟨_, _, _, _, _, rfl⟩
    · have kept : rest.closed = (pre.channels channel).closed := by
        rcases ClientDispatcher.RequestChannel.receive_cases received with ⟨_, _, rfl⟩ | ⟨_, _, _, rfl⟩
        · rfl
        · rfl
      grind -linarith
    · rfl
    · rfl
    · rfl
  | sendRequestChannel =>
    simp only [ClientDispatcher.execute, bind_eq_some_iff, bind] at exec
    rcases exec with ⟨channel, _, sent⟩
    split at sent
    · cases sent
    · cases sent
      grind -linarith
  | _ =>
    have same : after.channels = pre.channels ∧ after.gen = pre.gen := by
      simp only [ClientDispatcher.execute, map_eq_some_iff, bind_eq_some_iff, bind]
        at exec
      grind -linarith
    rw [same.1, same.2]

/-- The operations besides those of a start or a stop are not vital. -/
theorem idle_of_aside (beside : aside inner = true) : vital inner = false := by
  cases inner with
  | rlock | runlock | readRequestChannel | lock | awaitReaders | unlock | setPaused _
  | hasPendingRequest _ | signalReady _ | timerStop | timerDrain | timerReset _ => rfl
  | _ => cases beside

end

section

open Phases (vital)

variable {pre after : Shared P} {view : Nat -> Option (Part P)} {tid : Nat} {choice : Choice}
  {op : Op P} {ans : Res P op} {part : Part P}

/-- What holds of the pump and of the calls. -/
structure Quiescent (s : Shared P) (view : Nat -> Option (Part P)) : Prop where
  alive : Lifecycle (life s.dispatcher) (stations (labels view))
  rests : Rests (now s) (stations (labels view)) (seats view)
  /-- a pump that has finished has nothing left to do -/
  ended : ∀ tid part gen, view tid = some part ->
    part.label.role = .pump gen .finished -> part.label.debt = .none

section

variable {onward : Part P} (ended : ∀ gen,
  onward.label.role = .pump gen .finished -> onward.label.debt = .none)
include ended

/-- A goroutine moves on. -/
theorem Quiescent.moves (quiescent : Quiescent pre view)
    (alive : Lifecycle (life after.dispatcher)
      (update (stations (labels view)) tid onward.label.role.station))
    (rests : Rests (now after)
      (update (stations (labels view)) tid onward.label.role.station)
      (update (seats view) tid onward.seat)) :
    Quiescent after (update view tid (some onward)) := by
  refine ⟨?_, ?_, ?_⟩
  · rwa [labels_update, Phases.stations_update]
  · rw [labels_update, Phases.stations_update, seats_update]
    exact rests
  · intro other part' gen retagged finished
    rcases tagged_of_update retagged with ⟨_, ⟨⟩⟩ | ⟨_, known⟩
    · exact ended gen finished
    · exact quiescent.ended other part' gen known finished

/-- A goroutine moves on, and nothing changes. -/
theorem Quiescent.stays (quiescent : Quiescent pre view)
    (tagged : view tid = some part) (same : now after = now pre)
    (station : onward.label.role.station = part.label.role.station)
    (seat : onward.seat = part.seat) : Quiescent after (update view tid (some onward)) := by
  have lives : life after.dispatcher = life pre.dispatcher := congrArg Now.life same
  have placed := station_update onward.label.role tagged station
  refine quiescent.moves ended ?_ ?_
  · rw [placed, lives]
    exact quiescent.alive
  · rw [placed, seat, ← seats_some tagged, update_eq_self, same]
    exact quiescent.rests

end

variable {inner : ClientDispatcher.Op P} {given : ClientDispatcher.Res P inner}

/-- A finished pump stays so, and owes nothing. -/
theorem ended_of_move {label onward : Phases.Label P}
    (move : Phases.Move label inner given onward)
    (settled : ∀ gen, label.role = .pump gen .finished -> label.debt = .none)
    (finished : onward.role = .pump gen .finished) : onward.debt = .none := by
  have unpopped (popped : Phases.Debt.after inner given ≠ .none) :
      ∃ site requestId, inner = .popIf site requestId := by
    cases inner with
    | popIf site requestId => exact ⟨site, requestId, rfl⟩
    | _ => exact absurd rfl popped
  by_contra owes
  cases move with
  | caller step =>
    obtain ⟨site, requestId, rfl⟩ := unpopped owes
    cases step with
    | popInbound => cases finished
    | timer _ _ _ _ timing => cases timing
    | other _ _ _ unrelated => cases unrelated
  | pump step =>
    obtain ⟨site, requestId, rfl⟩ := unpopped owes
    cases step with
    | other _ _ _ unrelated => cases unrelated
    | _ => cases finished
  | _ => cases settled gen finished

/-- The steps of the pump that have nothing to do with its end. -/
theorem duty_of_pumpStep {phase onward : Phases.Phase P}
    (step : Phases.PumpStep gen phase inner given onward) (idle : vital inner = false) :
    duty (.pump gen onward) = duty (.pump gen phase) ∨
      ∃ rdy pendingDone, phase = .top rdy ∧ onward = .stopping ∧
        inner = .select (some gen) pendingDone ∧ HEq given ClientDispatcher.Selected.closed := by
  cases step with
  | select rdy pendingDone selected =>
    cases selected with
    | closed => exact .inr ⟨rdy, pendingDone, rfl, rfl, rfl, HEq.rfl⟩
    | _ => exact .inl rfl
  | peekAtDispatch front =>
    left
    cases front with
    | none => rfl
    | some front => simp only [Phases.Phase.read]; split <;> rfl
  | clearPendingRequests | forgetChannel | closeDone => cases idle
  | isPaused | isEmpty | pendingAtDispatch | timerStop => left; split <;> rfl
  | _ => exact .inl rfl

variable {dispatcher : ClientDispatcher.Shared P} {chosen : ClientDispatcher.Choice}

theorem now_of_idle
    (exec : ClientDispatcher.execute tid inner chosen pre.dispatcher = some (given,
      dispatcher)) (idle : vital inner = false) :
    now { pre with dispatcher := dispatcher } = now pre := by
  simp [now, Phases.life_of_execute exec idle, closed_of_execute exec idle]

section

variable (quiescent : Quiescent pre view)
include quiescent

/-- An operation of the dispatcher that its own agreement allows. -/
theorem Quiescent.operates (tagged : view tid = some part)
    (legal : Phases.allowed inner part.label)
    (exec : ClientDispatcher.execute tid inner chosen pre.dispatcher = some (given, dispatcher)) :
    Quiescent { pre with dispatcher := dispatcher }
      (update view tid (some ⟨part.caller, part.label.after inner given⟩)) := by
  rcases part with ⟨caller, label⟩
  have rests := quiescent.rests
  have alive := Phases.execute_lifecycle quiescent.alive (labels_some tagged)
    legal exec
  have placed := Phases.stations_some (labels_some tagged)
  have seated := seats_some tagged
  have called (serves : duty label.role = .start ∨ duty label.role = .stop ∨
      duty label.role = .left) : caller = true := by
    have calls := rests.callers tid (by rwa [seated])
    rw [seated] at calls
    exact calls
  have move := Phases.move_of_allowed legal given
  have ended (gen : Nat) :
      (label.after inner given).role = .pump gen .finished ->
        (label.after inner given).debt = .none :=
    ended_of_move move fun gen => quiescent.ended tid _ gen tagged
  change Quiescent _ (update view tid (some ⟨caller, label.after inner given⟩))
  generalize label.after inner given = onward at alive move ended ⊢
  have same (idle : vital inner = false) (seat : duty onward.role = duty label.role) :
      Quiescent { pre with dispatcher := dispatcher }
        (update view tid (some ⟨caller, onward⟩)) := by
    apply quiescent.stays ended tagged
    · exact now_of_idle exec idle
    · exact Phases.station_of_move move idle
    · simp [Part.seat, seat]
  have changes (rests : Rests (now { pre with dispatcher := dispatcher })
      (update (stations (labels view)) tid onward.role.station)
      (update (seats view) tid ⟨caller, duty onward.role⟩)) :
      Quiescent { pre with dispatcher := dispatcher }
        (update view tid (some ⟨caller, onward⟩)) := by
    rw [Phases.stations_update] at alive
    exact quiescent.moves ended alive rests
  have seatKept (seat : duty onward.role = duty label.role) :
      update (seats view) tid ⟨caller, duty onward.role⟩ = seats view := by
    have here : seats view tid = ⟨caller, duty label.role⟩ := seated
    rw [seat, ← here, update_eq_self]
  have stationKept := fun station => station_update (onward.role) tagged station
  cases move with
  | clears role site front => exact same rfl rfl
  | signals role site => exact same rfl rfl
  | caller step =>
    cases step with
    | assignStarted =>
      cases exec
      apply changes
      rw [seatKept rfl]
      have started := rests.assignStarted (by rw [seated]; rfl)
        (quiescent.alive.pre tid placed).2
      simpa [now, life, ClientDispatcher.RequestChannel.new, Phases.Role.station]
        using started
    | goMessagePump =>
      cases exec
      apply changes
      rw [seatKept rfl]
      exact rests.goMessagePump (by rw [seated]; rfl)
    | runningAtStop running =>
      cases running with
      | true => exact same rfl rfl
      | false =>
        obtain rfl := called (.inr (.inl rfl))
        have stopped : pre.dispatcher.running = false ∧ dispatcher = pre.dispatcher := by
          simp only [ClientDispatcher.execute] at exec
          grind -linarith
        rcases stopped with ⟨stopped, rfl⟩
        apply changes
        rw [stationKept rfl]
        exact rests.leaves quiescent.alive seated placed stopped
    | assignStopped doneC =>
      simp only [ClientDispatcher.execute, bind_eq_some_iff, bind] at exec
      rcases exec with ⟨channel, known, stopped⟩
      split at stopped
      · cases stopped
      · cases stopped
        have current : channel = pre.dispatcher.gen := by
          have channels := quiescent.alive.channel
          simp only [life, known] at channels
          simpa using channels
        apply changes
        rw [seatKept rfl]
        have halted := rests.assignStopped (by rw [seated]; rfl) quiescent.alive.doneC
        simpa [now, life, current, Phases.Role.station] using halted
    | awaitDone doneC =>
      simp only [ClientDispatcher.execute] at exec
      split at exec
      · rename_i finished
        cases exec
        obtain rfl := called (.inr (.inl rfl))
        apply changes
        exact rests.awaitDone quiescent.alive seated placed finished
      · cases exec
    | timer _ _ _ _ timing => cases inner <;> first | exact same rfl rfl | cases timing
    | other _ _ _ unrelated => cases inner <;> first | exact same rfl rfl | cases unrelated
    | _ => exact same rfl rfl
  | pump step =>
    cases idle : vital inner with
    | false =>
      rcases duty_of_pumpStep step idle with kept | ⟨rdy, pendingDone, rfl, rfl, rfl, closed⟩
      · exact same idle kept
      · cases closed
        have current := (quiescent.alive.pumping tid _ _ placed).1
        have atEnd : (now pre).closed = true := by
          rcases ClientDispatcher.execute_select exec with ⟨channel, rest, ⟨⟩, received, _⟩ |
            ⟨_, _, _, _, ⟨⟩, _⟩ | ⟨_, ⟨⟩, _⟩ | ⟨_, _, _, _, ⟨⟩, _⟩
          rcases ClientDispatcher.RequestChannel.receive_cases received with
            ⟨_, never, _⟩ | ⟨_, closed, _, _⟩
          · cases never
          · have same : _ = pre.dispatcher.gen := current
            rw [same] at closed
            exact closed
        apply changes
        rw [stationKept rfl, now_of_idle exec idle]
        exact rests.closes seated (by rw [placed]; rfl) atEnd
    | true =>
      cases step with
      | clearPendingRequests =>
        cases exec
        apply changes
        rw [seatKept rfl]
        exact rests.drains placed
      | forgetChannel =>
        cases exec
        apply changes
        rw [seatKept rfl, stationKept rfl]
        exact rests.forgetChannel (by rw [seated]; rfl)
      | closeDone =>
        simp only [ClientDispatcher.execute] at exec
        split at exec
        · cases exec
        · cases exec
          apply changes
          exact rests.closeDone seated
      | other _ _ _ unrelated =>
        cases inner <;> first | exact False.elim unrelated | cases idle
      | _ => cases idle

/-- `Stop` leaves when it finds no request channel. -/
theorem Quiescent.leaves (tagged : view tid = some ⟨caller, ⟨.stopper .asking, .none⟩⟩)
    (missing : pre.dispatcher.requestChannel = none) :
    Quiescent pre
      (update view tid (some ⟨caller, ⟨.stopper .leaving, .none⟩⟩)) := by
  have placed := Phases.stations_some (labels_some tagged)
  have seated := seats_some tagged
  have rests := quiescent.rests
  have called : caller = true := by
    have calls := rests.callers tid (by rw [seated]; exact .inr (.inl rfl))
    rw [seated] at calls
    exact calls
  subst called
  have halted : pre.dispatcher.running = false := by
    cases running : pre.dispatcher.running with
    | false => rfl
    | true => exact absurd missing (rests.channel running)
  have kept := station_update (.stopper .leaving) tagged rfl
  refine quiescent.moves (by simp) ?_ ?_
  · exact kept.symm ▸ quiescent.alive
  · exact kept.symm ▸ rests.leaves quiescent.alive seated placed halted

/-- An operation of the dispatcher besides those of a start or a stop. -/
theorem Quiescent.beside (tagged : view tid = some part) (besides : aside inner = true)
    (client : ofClient part.label.role = true) (debt : part.label.debt = .none)
    (exec : ClientDispatcher.execute tid inner chosen pre.dispatcher = some (given, dispatcher)) :
    Quiescent { pre with dispatcher := dispatcher }
      (update view tid (some ⟨part.caller, operated part.label inner given⟩)) := by
  have idle := idle_of_aside besides
  have lives := now_of_idle exec idle
  have still := after_of_aside besides client debt given
  have unended (gen : Nat) (finished : part.label.role = .pump gen .finished) :
      part.label.debt = .none := quiescent.ended tid part gen tagged finished
  by_cases kept : operated part.label inner given = part.label
  · rw [kept]
    exact quiescent.stays unended tagged lives rfl rfl
  · -- `Stop` finds that there is no request channel
    have unread : inner = .readRequestChannel := by
      cases inner with
      | readRequestChannel => rfl
      | _ => exact absurd still kept
    subst unread
    cases given with
    | some channel => exact absurd still kept
    | none =>
      rcases part with ⟨caller, role, owed⟩
      obtain rfl := debt
      have found : pre.dispatcher.requestChannel = none ∧ dispatcher = pre.dispatcher := by
        simp only [ClientDispatcher.execute, Option.some.injEq, Prod.mk.injEq] at exec
        exact ⟨exec.1, exec.2.symm⟩
      cases role with
      | stopper stage =>
        cases stage with
        | asking =>
          rcases found with ⟨missing, rfl⟩
          exact quiescent.leaves tagged missing
        | _ => exact absurd still kept
      | starter | pauser => exact absurd still kept
      | _ => cases client

end

/-- What an operation tells about its goroutine. -/
theorem informed_of_aside (besides : aside inner = true) {role : Phases.Role P}
    (client : ofClient role = true) (given : ClientDispatcher.Res P inner) :
    Phases.Informed inner role given := by
  cases inner with
  | readRequestChannel =>
    cases role with
    | pump gen phase => cases client
    | _ => trivial
  | popIf => cases besides
  | _ => trivial

section

variable (quiescent : Quiescent pre view)
include quiescent

/-- A call of `ocppj.Client` begins. -/
theorem Quiescent.begins (call : CallKind) (tagged : view tid = some ⟨true, ⟨.pauser, .none⟩⟩)
    (halted : call ≠ .stop -> pre.dispatcher.running = false) :
    Quiescent { pre with hist := pre.hist.begins tid call }
      (update view tid (some ⟨true, ⟨begun call, .none⟩⟩)) := by
  have placed := Phases.stations_some (labels_some tagged)
  have seated := seats_some tagged
  have rests := quiescent.rests
  have nobody (other : Nat) : (∀ stage, stations (labels view) other ≠ .starting stage) ∧
      ∀ doneC, stations (labels view) other ≠ .waiting doneC := by
    have mine (serves : (seats view other).duty = .start ∨ (seats view other).duty = .stop ∨
        (seats view other).duty = .left) : False := by
      have same := rests.one other tid (rests.callers other serves) (by rw [seated]; rfl)
      rw [same, seated] at serves
      simp [Part.seat, duty] at serves
    constructor
    · intro stage starting
      exact mine (.inl (rests.starting other stage starting))
    · intro doneC waiting
      exact mine (.inr (.inl (rests.waiting other doneC waiting).1))
  cases call with
  | stop =>
    have kept := station_update (.stopper .asking) tagged rfl
    refine quiescent.moves (by simp [begun]) ?_ ?_
    · exact kept.symm ▸ quiescent.alive
    · exact kept.symm ▸ rests.stopBegins seated
  | start | startWithRetries =>
    refine quiescent.moves (by simp [begun]) ?_ (rests.startBegins seated)
    exact quiescent.alive.starts (halted (by simp)) (fun other => (nobody other).1)
      (fun other => (nobody other).2)

/-- A call of `ocppj.Client` returns. -/
theorem Quiescent.returns (call : CallKind) (success : Bool) (tagged : view tid = some part)
    (caller : part.caller = true) (returning : part.returns call) :
    Quiescent { pre with hist := pre.hist.returns tid success call }
      (update view tid (some ⟨true, ⟨.pauser, .none⟩⟩)) := by
  rcases part with ⟨_, role, debt⟩
  obtain rfl := caller
  have placed := Phases.stations_some (labels_some tagged)
  have seated := seats_some tagged
  have rests := quiescent.rests
  have idle (done : Nat) (waiting : stations (labels view) tid = .waiting done) : False := by
    rw [placed] at waiting
    cases call with
    | stop =>
      obtain rfl := returning
      cases waiting
    | start | startWithRetries =>
      rcases returning with ⟨stage, stance⟩
      obtain rfl := stance
      cases waiting
  refine quiescent.moves (by simp) ?_ ?_
  · exact quiescent.alive.bystands fun done waiting => absurd waiting (idle done)
  · cases call with
    | stop =>
      obtain rfl := returning
      have kept := station_update (.pauser) tagged rfl
      exact kept.symm ▸ rests.stopReturns seated
    | start | startWithRetries =>
      rcases returning with ⟨stage, stance⟩
      obtain rfl := stance
      exact rests.startReturns seated

/-- One operation of a goroutine. -/
theorem Quiescent.execute (tagged : view tid = some part) (legal : allowed op part)
    (halted : ∀ call, op = .begins call -> call ≠ .stop -> pre.dispatcher.running = false)
    (exec : execute tid op choice pre = some (ans, after)) :
    Informed op part ans ∧
      Quiescent after (update view tid (some (part.after op ans))) := by
  cases op with
  | dispatcher inner =>
    rcases execute_dispatcher exec with ⟨chosen, dispatcher, inside, rfl⟩
    rcases legal with inner' | ⟨besides, client, debt⟩
    · refine ⟨Phases.informed_of_execute quiescent.alive (labels_some tagged) inner'
        inside, ?_⟩
      simp only [Part.after, operated_of_allowed inner']
      exact quiescent.operates tagged inner' inside
    · exact ⟨informed_of_aside besides client ans,
        quiescent.beside tagged besides client debt inside⟩
  | begins call =>
    cases exec
    rcases part with ⟨_, label⟩
    obtain ⟨rfl, rfl⟩ := legal
    exact ⟨trivial, quiescent.begins call tagged (halted call rfl)⟩
  | returns call success =>
    cases exec
    have kept := quiescent.returns call success tagged legal.1 legal.2
    rw [Part.after, legal.1]
    exact ⟨trivial, kept⟩
  | _ =>
    have same : now after = now pre := by
      have frame := execute_frame exec
      simp only [now, frame.dispatcher (by simp), frame.stopCalled (by simp),
        frame.stopped (by simp) (by simp)]
    exact ⟨trivial, quiescent.stays
      (fun gen => quiescent.ended tid part gen tagged) tagged same rfl rfl⟩

end

/-- A new goroutine, before it has done anything. -/
def firstPart (s : Shared P) : Routine P -> Part P
  | .dispatcher routine => ⟨false, Phases.firstLabel s.dispatcher routine⟩
  | call => ⟨decide (agentOf call = .caller), ⟨.pauser, .none⟩⟩

theorem entry_firstPart {call : Routine P} (entered : enter call pre = some after) :
    entry call (firstPart pre call) := by
  rcases enter_cases entered with ⟨sock, rfl, _⟩ | ⟨routine, dispatcher, rfl, inside, _⟩ |
    ⟨_, _, reconnects, _⟩
  · exact ⟨rfl, rfl⟩
  · exact ⟨rfl, Phases.entry_firstLabel inside⟩
  · cases call with
    | dispatcher routine => simp_all [agentOf]
    | reconnecting began owner => exact absurd rfl (reconnects began owner)
    | _ => exact ⟨rfl, rfl⟩

variable {config : Configuration P}

/-- While no call is in progress, nobody executes one. -/
theorem no_caller_of_quietCalls (describes : Describes accord entry leave config view)
    (silent : quietCalls config) (other : Nat) : (seats view other).caller = false := by
  cases tagged : view other with
  | none => simp [seats, tagged]
  | some part =>
    rcases describes.occupied tagged with ⟨content, found, obeys⟩
    have fits : part.caller = decide (agentOf content.call = .caller) := obeys.fits.1
    rw [seats_some tagged, Part.seat, fits]
    exact decide_eq_false (silent _ (Config.mem_of_thread? found) content rfl)

theorem Quiescent.enter {call : Routine P} (quiescent : Quiescent config.shared view)
    (describes : Describes accord entry leave config view) (alone : callsAlone config call)
    (entered : enter call config.shared = some after) (new : view tid = none) :
    Quiescent after (update view tid (some (firstPart config.shared call))) := by
  have rests := quiescent.rests
  have absent : stations (labels view) tid = .beside := by
    simp [stations, labels, new]
  have kept : update (stations (labels view)) tid .beside = stations (labels view) := by
    rw [← absent, update_eq_self]
  have idles : Rests (now config.shared) (update (stations (labels view)) tid .beside)
      (update (seats view) tid ⟨false, .nothing⟩) := rests.idles
  rcases enter_cases entered with ⟨sock, rfl, _, rfl⟩ | ⟨routine, dispatcher, rfl, inside, _, _, _, _, rfl⟩ |
    ⟨agents, _, reconnects, rfl⟩
  · exact quiescent.moves (by simp [firstPart]) (kept.symm ▸ quiescent.alive) idles
  · cases routine with
    | messagePump =>
      simp only [ClientDispatcher.enter] at inside
      split at inside
      · rename_i launched
        cases inside
        exact quiescent.moves (by simp [firstPart, Phases.firstLabel])
          (quiescent.alive.messagePump launched absent) (rests.messagePump launched)
      · cases inside
    | sendRequest num req =>
      simp only [ClientDispatcher.enter] at inside
      split at inside
      · cases inside
        exact quiescent.moves (by simp [firstPart, Phases.firstLabel])
          (kept.symm ▸ quiescent.alive) idles
      · cases inside
    | ocppMessageHandler frame =>
      cases inside
      exact quiescent.moves (by simp [firstPart, Phases.firstLabel])
        (kept.symm ▸ quiescent.alive) idles
    | pumpLoop => cases inside
    | _ => contradiction
  · have first : firstPart config.shared call = ⟨decide (agentOf call = .caller), ⟨.pauser, .none⟩⟩ := by
      cases call with
      | dispatcher routine => simp [agentOf] at agents
      | _ => rfl
    rw [first]
    refine quiescent.moves (by simp) (kept.symm ▸ quiescent.alive) ?_
    by_cases caller : agentOf call = .caller
    · have silent : quietCalls config := by
        cases call with
        | start | startWithRetries | stop => exact alone
        | reconnecting began owner => exact absurd rfl (reconnects began owner)
        | _ => cases caller
      have called : Rests _ _ (update (seats view) tid _) :=
        rests.calls (no_caller_of_quietCalls describes silent)
      rw [caller]
      exact kept.symm ▸ called
    · rwa [decide_eq_false caller]

theorem Quiescent.finish (quiescent : Quiescent pre view) (tagged : view tid = some part)
    (left : leave part) : Quiescent pre (update view tid none) := by
  refine ⟨?_, ?_, ?_⟩
  · rw [labels_remove]
    exact Phases.finish_lifecycle quiescent.alive (labels_some tagged) left
  · rw [labels_remove, Phases.stations_remove, seats_update]
    exact quiescent.rests.idles
  · intro other part' gen retagged
    rcases tagged_of_update retagged with ⟨_, ⟨⟩⟩ | ⟨_, known⟩
    exact quiescent.ended other part' gen known

theorem Quiescent.occur {event : Event} (quiescent : Quiescent pre view)
    (arose : occur event pre = some after) : Quiescent after view := by
  rcases occur_dispatcher arose with ⟨dispatcher, happened, rfl⟩
  have same : now { pre with dispatcher := dispatcher } = now pre := by
    cases event with
    | timerFires =>
      simp only [ClientDispatcher.occur, bind_eq_some_iff, bind] at happened
      rcases happened with ⟨timer, _, fired, _, done⟩
      cases done
      rfl
    | contextFires id err =>
      simp only [ClientDispatcher.occur] at happened
      split at happened
      · cases happened
      · cases happened
        rfl
  refine ⟨?_, ?_, quiescent.ended⟩
  · exact Phases.occur_lifecycle quiescent.alive happened
  · rw [same]
    exact quiescent.rests

/-- The discipline of the calls: they do not overlap, and a start begins only when the dispatcher is
stopped. -/
structure Disciplined (guard : Condition P) : Prop where
  calls : ∀ config call, guard.call config call -> callsAlone config call
  starts : ∀ s tid call, guard.op s tid (.begins call) -> call ≠ .stop ->
    s.dispatcher.running = false

theorem quiescent_of_reachable {opts : Settings} {guard : Condition P} {capacity : Nat}
    (disciplined : Disciplined guard)
    (reached : (system opts).Reachable guard (.initial capacity) config) :
    ∃ view, Describes accord entry leave config view ∧ Quiescent config.shared view := by
  have verified : Verified (system opts) guard (.initial capacity) accord entry leave
      (Quiescent (P := P)) := by
    constructor
    case body => exact obeys_body
    case initially =>
      refine ⟨Phases.lifecycle_initial capacity, ?_, ?_⟩
      · constructor <;> simp [now, life, Shared.initial, ClientDispatcher.Shared.initial,
          ClientDispatcher.RequestChannel.new, History.initial, seats, stations, labels]
      · simp
    case enter =>
      intro config view call shared describes admitted quiescent entered new
      exact ⟨firstPart config.shared call, entry_firstPart entered,
        quiescent.enter describes (disciplined.calls _ _ admitted) entered new⟩
    case occur =>
      intro pre view event after quiescent arose
      exact quiescent.occur arose
    case execute =>
      intro pre view tid part op choice ans after quiescent tagged legal
        admitted exec
      have halted : ∀ call, op = .begins call -> call ≠ .stop ->
          pre.dispatcher.running = false := by
        rintro call rfl
        exact disciplined.starts pre tid call admitted
      rcases quiescent.execute tagged legal halted exec with ⟨informed, kept⟩
      exact ⟨_, ⟨informed, rfl⟩, kept⟩
    case finish =>
      intro shared view tid part quiescent tagged left
      exact quiescent.finish tagged left
  exact verified.reachable reached

end

/-- A pump that has finished does nothing any more. -/
theorem finished_idle (gen : Nat) (op : Op P) (caller : Bool) :
    ¬ allowed op ⟨caller, ⟨.pump gen .finished, .none⟩⟩ := by
  intro legal
  cases op with
  | dispatcher inner =>
    rcases legal with open' | ⟨_, ⟨⟩, _⟩
    have working : ¬ (Phases.Phase.finished : Phases.Phase P).allows
        gen inner := by
      cases inner with
      | hasPendingRequest site | peek site | popIf site =>
        cases site <;> simp [Phases.Phase.allows]
      | _ => simp [Phases.Phase.allows]
    exact working open'
  | begins => cases legal.2
  | returns call success =>
    cases call with
    | stop => cases legal.2
    | start | startWithRetries =>
      rcases legal.2 with ⟨_, never⟩
      cases never
  | _ => cases legal

end PumpRest

/-- No pump is running: none has been launched, and the goroutines that were a pump have nothing
left to do. -/
def PumpStopped (config : Configuration P) : Prop :=
  config.shared.dispatcher.running = false ∧ config.shared.dispatcher.launched = 0 ∧
    ∀ tid content routine, config.thread? tid = some content ->
      content.call = .dispatcher routine -> ClientDispatcher.Phases.kindOf routine = .pump ->
      content.prog.next? = none

/-- After `Stop` has returned, `Stop` was called, and no pump is running. -/
theorem pumpStopped_of_stopped {opts : Settings} {guard : Condition P} {capacity : Nat}
    (disciplined : PumpRest.Disciplined guard) {config : Configuration P}
    (reached : (system opts).Reachable guard (.initial capacity) config)
    (stopped : config.shared.hist.stopped = true) :
    config.shared.hist.stopCalled = true ∧ PumpStopped config := by
  rcases PumpRest.quiescent_of_reachable disciplined reached with ⟨view, describes, quiescent⟩
  rcases quiescent.rests.stopped stopped with ⟨called, halted, unlaunched, nobody⟩
  refine ⟨called, halted, unlaunched, ?_⟩
  intro tid content routine found running pumps
  rcases describes.tagged tid content found with ⟨part, tagged, obeys⟩
  have kind : part.label.role.kind = .pump := by
    have fits := obeys.fits.2
    rw [running] at fits
    exact fits.trans pumps
  have inactive := nobody tid
  rw [ClientDispatcher.Phases.stations_some (PumpRest.labels_some tagged)] at inactive
  have ended := quiescent.ended tid part
  rcases part with ⟨caller, role, debt⟩
  cases role with
  | pump gen phase =>
    have finished : phase = .finished := by
      cases phase with
      | finished => rfl
      | _ => cases inactive
    subst finished
    have settled : debt = .none := ended gen tagged rfl
    subst settled
    cases next : content.prog.next? with
    | none => rfl
    | some op =>
      have legal : PumpRest.allowed op _ := obeys.allowed next
      exact absurd legal (PumpRest.finished_idle gen op caller)
  | _ => cases kind

end ClientLifecycle
end OcppGo
