import OcppGo.ClientDispatcher.Effects
import OcppGo.Interleaving.Protocol

namespace OcppGo
namespace ClientDispatcher
namespace Phases

open Interleaving Ocppj

/-!
# Where every goroutine is

This module follows each goroutine through its program.  The pump is described
by the step of its loop it has reached, a caller by how far its call has got, and
every goroutine by whether it has taken an entry out of the queue and not yet
cleared the pending slot and signalled for it.

Several invariants of the dispatcher are stated over these descriptions: that
there is one pump, that one request is in flight, what a tick means, and that no
wake-up is lost.  They share the agreement of this module, and the proof that the
code keeps to it.
-/

variable {P : Type}

/-- What the pump knows about the tick it has received in this pass. -/
inductive Alarm where
  | off
  | ticked
  /-- a request was pending after the tick -/
  | expired
  /-- no request was pending after the tick -/
  | spurious
  deriving DecidableEq

/-- The steps of the pump. -/
inductive Phase (P : Type) where
  | starting
  | doneKnown
  /-- from the beginning of a pass to its select statement -/
  | top (rdy : Bool)
  | awake (rdy : Bool) (alarm : Alarm)
  /-- ready and not paused -/
  | unpaused
  /-- and with a queue that was not empty -/
  | occupied
  /-- and without a pending request -/
  | clear
  | peeked (front : Entry P)
  /-- the context of the front has ended -/
  | dropping (front : Entry P)
  | added (front : Entry P)
  | written
  /-- the timer had already fired when it was stopped -/
  | stale
  | silenced
  | stopping
  | drained
  | cleared
  | finished

/-- A completion that is under way. -/
inductive Debt (P : Type) where
  | none
  | popped (entry : Entry P)
  | deleted

inductive StartStage where
  | pre
  | begun
  | launched
  deriving DecidableEq

inductive StopStage where
  | asking
  | seen
  | waiting (done : Nat)
  | leaving
  deriving DecidableEq

inductive ResumeStage where
  | pre
  | resumed
  | signalling
  | leaving
  deriving DecidableEq

/-- A goroutine and how far it has got.  A sender is described by whether it still
has to put a token into the request channel, a pump by its generation. -/
inductive Role (P : Type) where
  | starter (stage : StartStage)
  | stopper (stage : StopStage)
  | pauser
  | resumer (stage : ResumeStage)
  | sender (owing : Bool)
  | answerer
  | pump (gen : Nat) (phase : Phase P)

structure Label (P : Type) where
  role : Role P
  debt : Debt P

inductive Kind where
  | start
  | stop
  | pause
  | resume
  | send
  | ans
  | pump
  deriving DecidableEq

@[simp] def Role.kind : Role P -> Kind
  | .starter _ => .start
  | .stopper _ => .stop
  | .pauser => .pause
  | .resumer _ => .resume
  | .sender _ => .send
  | .answerer => .ans
  | .pump _ _ => .pump

def kindOf : Routine P -> Kind
  | .start => .start
  | .stop => .stop
  | .pause => .pause
  | .resume => .resume
  | .sendRequest _ _ => .send
  | .ocppMessageHandler _ => .ans
  | .messagePump => .pump
  | .pumpLoop _ _ _ _ => .pump

def StartStage.after (stage : StartStage) : Op P -> StartStage
  | .assignStarted => .begun
  | .goMessagePump => .launched
  | _ => stage

def StopStage.after (stage : StopStage) : (op : Op P) -> Res P op -> StopStage
  | .isRunning, running => if running then .seen else .leaving
  | .assignStopped, doneC => .waiting doneC
  | .awaitDone _, _ => .leaving
  | _, _ => stage

def ResumeStage.after (stage : ResumeStage) : (op : Op P) -> Res P op -> ResumeStage
  | .setPaused _, _ => .resumed
  | .hasPendingRequest _, pending => if pending then .leaving else .signalling
  | .signalReady _, _ => .leaving
  | _, _ => stage

/-- A sender owes a token from its push on, until it has sent it or has seen that
the dispatcher does not run. -/
def owingAfter (owing : Bool) : (op : Op P) -> Res P op -> Bool
  | .push _ _, accepted => accepted
  | .isRunning, running => owing && running
  | .sendRequestChannel, _ => false
  | _, _ => owing

/-- The pump's ready flag. -/
def Phase.rdy : Phase P -> Bool
  | .top rdy => rdy
  | .awake rdy _ => rdy
  | _ => true

def Phase.selected (phase : Phase P) : Selected -> Phase P
  | .request => .awake phase.rdy .off
  | .canceled => .awake phase.rdy .off
  | .ready => .awake true .off
  | .tick => .awake phase.rdy .ticked
  | .closed => .stopping

def Phase.read : Option (Entry P) -> Phase P
  | some front => if front.bundle.WellFormed then .peeked front else .top true
  | none => .top true

def Phase.dropped : Phase P -> Phase P
  | .dropping _ => .top true
  | phase => phase

def Phase.expired : Phase P -> Option ContextError -> Phase P
  | .peeked front, some _ => .dropping front
  | phase, _ => phase

def Phase.registered : Phase P -> Phase P
  | .peeked front => .added front
  | phase => phase

def Phase.rearmed : Phase P -> Phase P
  | .silenced => .top false
  | phase => .awake phase.rdy .off

@[simp] def Phase.after (phase : Phase P) : (op : Op P) -> Res P op -> Phase P
  | .readDoneC, _ => .doneKnown
  | .readRequestChannel, _ => .top true
  | .select _ _, selected => phase.selected selected
  | .hasPendingRequest .timeout, pending => .awake phase.rdy (if pending then .expired else .spurious)
  | .isPaused, paused => if !paused && phase.rdy then .unpaused else .top phase.rdy
  | .isEmpty, vacant => if vacant then .top true else .occupied
  | .hasPendingRequest .dispatch, pending => if pending then .top true else .clear
  | .peek .dispatch, front => .read front
  | .contextErr _, err => phase.expired err
  | .popIf .dispatch _, _ => phase.dropped
  | .addPendingRequest _ _, _ => phase.registered
  | .write _ _, _ => .written
  | .timerStop, active => if active then .silenced else .stale
  | .timerDrain, _ => .silenced
  | .timerReset _, _ => phase.rearmed
  | .drainAll, _ => .drained
  | .clearPendingRequests, _ => .cleared
  | .closeDone _, _ => .finished
  | _, _ => phase

def Role.after (op : Op P) (ans : Res P op) : Role P -> Role P
  | .starter stage => .starter (stage.after op)
  | .stopper stage => .stopper (stage.after op ans)
  | .pauser => .pauser
  | .resumer stage => .resumer (stage.after op ans)
  | .sender owing => .sender (owingAfter owing op ans)
  | .answerer => .answerer
  | .pump gen phase => .pump gen (phase.after op ans)

/-- An entry that was popped has to be completed. -/
def Debt.after : (op : Op P) -> Res P op -> Debt P
  | .popIf _ _, some front => .popped front
  | _, _ => .none

/-- While a completion is under way, only the completion moves on. -/
def Label.after (op : Op P) (label : Label P) (ans : Res P op) : Label P :=
  match label.debt with
  | .none => ⟨label.role.after op ans, Debt.after op ans⟩
  | .popped _ => ⟨label.role, .deleted⟩
  | .deleted => ⟨label.role, .none⟩

@[simp] theorem kind_after (op : Op P) (role : Role P) (ans : Res P op) :
    (role.after op ans).kind = role.kind := by
  cases role with
  | _ => rfl

/-! ## What is open to a goroutine -/

def StartStage.allows (stage : StartStage) : Op P -> Prop
  | .lock => stage = .pre
  | .awaitReaders => stage = .pre
  | .assignStarted => stage = .pre
  | .goMessagePump => stage = .begun
  | .unlock => stage = .launched
  | _ => False

def StopStage.allows (stage : StopStage) : Op P -> Prop
  | .lock => stage = .asking
  | .awaitReaders => stage = .asking
  | .isRunning => stage = .asking
  | .assignStopped => stage = .seen
  | .unlock => stage ≠ .asking ∧ stage ≠ .seen
  | .awaitDone doneC => stage = .waiting doneC
  | _ => False

def pauserAllows : Op P -> Prop
  | .lock => True
  | .awaitReaders => True
  | .timerStop => True
  | .timerDrain => True
  | .timerReset _ => True
  | .setPaused paused => paused = true
  | .unlock => True
  | _ => False

def ResumeStage.allows (stage : ResumeStage) : Op P -> Prop
  | .setPaused paused => paused = false ∧ stage = .pre
  | .hasPendingRequest site => site = .resume ∧ stage = .resumed
  | .signalReady _ => stage = .signalling
  | .timerStop => stage = .leaving
  | .timerDrain => stage = .leaving
  | .timerReset _ => stage = .leaving
  | _ => False

def senderAllows (owing : Bool) : Op P -> Prop
  | .push _ _ => owing = false
  | .rlock => owing = true
  | .isRunning => owing = true
  | .sendRequestChannel => owing = true
  | .runlock => owing = false
  | .ret _ _ => owing = false
  | .nilDereference => owing = false
  | _ => False

def answererAllows : Op P -> Prop
  | .getPendingRequest _ => True
  | .popIf site _ => site = .inbound
  | .completed _ _ => True
  | _ => False

/-- The operations of a pump, besides those of a completion that is under way. -/
@[simp] def Phase.allows (phase : Phase P) (gen : Nat) : Op P -> Prop
  | .readDoneC => phase = .starting
  | .readRequestChannel => phase = .doneKnown
  | .retain _ => phase = .top phase.rdy ∨ phase = .stopping
  | .getPendingRequest _ => phase = .top phase.rdy ∨ phase = .awake phase.rdy .off
  | .select reqCh _ => phase = .top phase.rdy ∧ reqCh = some gen
  | .hasPendingRequest .timeout => phase = .awake phase.rdy .ticked
  | .peek .timeout => phase = .awake phase.rdy .expired
  | .popIf .timeout _ => phase = .awake phase.rdy .expired
  | .popIf .cancel _ => phase = .awake phase.rdy .off
  | .timerReset _ => phase = .silenced ∨
      ∃ alarm, alarm ≠ .off ∧ phase = .awake phase.rdy alarm
  | .isPaused => phase = .awake phase.rdy .off
  | .isEmpty => phase = .unpaused
  | .hasPendingRequest .dispatch => phase = .occupied
  | .peek .dispatch => phase = .clear
  | .contextErr _ => (∃ front, phase = .peeked front) ∨ phase = .top phase.rdy ∨
      phase = .awake phase.rdy .off
  | .popIf .dispatch requestId => phase = .written ∨
      ∃ front, phase = .dropping front ∧ front.isRequest requestId = true
  | .addPendingRequest requestID _ =>
    ∃ front, phase = .peeked front ∧ front.uniqueId = requestID
  | .write front _ => phase = .added front
  | .timerStop => phase = .written
  | .timerDrain => phase = .stale
  | .onRequestCancel _ _ _ _ => phase ≠ .finished
  | .drainAll => phase = .stopping
  | .clearPendingRequests => phase = .drained
  | .init => phase = .cleared
  | .lock => phase = .cleared
  | .awaitReaders => phase = .cleared
  | .forgetChannel => phase = .cleared
  | .unlock => phase = .cleared
  | .closeDone doneC => phase = .cleared ∧ doneC = gen
  | _ => False

def Role.allows (op : Op P) : Role P -> Prop
  | .starter stage => stage.allows op
  | .stopper stage => stage.allows op
  | .pauser => pauserAllows op
  | .resumer stage => stage.allows op
  | .sender owing => senderAllows owing op
  | .answerer => answererAllows op
  | .pump gen phase => phase.allows gen op

/-- A goroutine with a completion under way carries it on. -/
def allowed (op : Op P) (label : Label P) : Prop :=
  match label.debt with
  | .none => label.role.allows op
  | .popped front => ∃ site, op = .deletePendingRequest site front.uniqueId
  | .deleted => ∃ site, op = .signalReady site

/-- The operations that leave the pump in its phase. -/
def lingers : Op P -> Prop
  | .retain _ | .getPendingRequest _ | .onRequestCancel _ _ _ _ | .lock | .awaitReaders
  | .unlock => True
  | _ => False

/-- Everything a pump does in one operation, besides a completion that is under way. -/
inductive PumpStep (gen : Nat) :
    Phase P -> (op : Op P) -> Res P op -> Phase P -> Prop where
  | readDoneC (doneC : Nat) : PumpStep gen .starting .readDoneC doneC .doneKnown
  | readRequestChannel (channel : Option Nat) :
      PumpStep gen .doneKnown .readRequestChannel channel (.top true)
  | select (rdy : Bool) (pendingDone : Option Nat) (selected : Selected) :
      PumpStep gen (.top rdy) (.select (some gen) pendingDone) selected
        (Phase.selected (.top rdy) selected)
  | pendingAtTick (rdy pending : Bool) :
      PumpStep gen (.awake rdy .ticked) (.hasPendingRequest .timeout) pending
        (.awake rdy (if pending then .expired else .spurious))
  | peekAtTick (rdy : Bool) (front : Option (Entry P)) :
      PumpStep gen (.awake rdy .expired) (.peek .timeout) front (.awake rdy .expired)
  | popAtTick (rdy : Bool) (requestId : String) (popped : Option (Entry P)) :
      PumpStep gen (.awake rdy .expired) (.popIf .timeout requestId) popped
        (.awake rdy .expired)
  | popAtCancel (rdy : Bool) (requestId : String) (popped : Option (Entry P)) :
      PumpStep gen (.awake rdy .off) (.popIf .cancel requestId) popped (.awake rdy .off)
  | resetAtTick (rdy : Bool) (alarm : Alarm) (duration : Int) (sounded : alarm ≠ .off) :
      PumpStep gen (.awake rdy alarm) (.timerReset duration) () (.awake rdy .off)
  | isPaused (rdy paused : Bool) :
      PumpStep gen (.awake rdy .off) .isPaused paused
        (if !paused && rdy then .unpaused else .top rdy)
  | isEmpty (vacant : Bool) :
      PumpStep gen .unpaused .isEmpty vacant (if vacant then .top true else .occupied)
  | pendingAtDispatch (pending : Bool) :
      PumpStep gen .occupied (.hasPendingRequest .dispatch) pending
        (if pending then .top true else .clear)
  | peekAtDispatch (front : Option (Entry P)) :
      PumpStep gen .clear (.peek .dispatch) front (.read front)
  | contextAlive (front : Entry P) (context : Option Context) :
      PumpStep gen (.peeked front) (.contextErr context) none (.peeked front)
  | contextEnded (front : Entry P) (context : Option Context) (err : ContextError) :
      PumpStep gen (.peeked front) (.contextErr context) (some err) (.dropping front)
  | contextLate (phase : Phase P) (rdy : Bool) (context : Option Context) (err : Option ContextError)
      (late : phase = .top rdy ∨ phase = .awake rdy .off) :
      PumpStep gen phase (.contextErr context) err phase
  | popAtDrop (front : Entry P) (requestId : String) (popped : Option (Entry P))
      (matched : front.isRequest requestId = true) :
      PumpStep gen (.dropping front) (.popIf .dispatch requestId) popped (.top true)
  | addPendingRequest (front : Entry P) (req : Option P) :
      PumpStep gen (.peeked front) (.addPendingRequest front.uniqueId req) () (.added front)
  | write (front : Entry P) (data : List UInt8) (failure : Option String) :
      PumpStep gen (.added front) (.write front data) failure .written
  | popAtFailure (requestId : String) (popped : Option (Entry P)) :
      PumpStep gen .written (.popIf .dispatch requestId) popped .written
  | timerStop (active : Bool) :
      PumpStep gen .written .timerStop active (if active then .silenced else .stale)
  | timerDrain : PumpStep gen .stale .timerDrain () .silenced
  | timerReset (duration : Int) : PumpStep gen .silenced (.timerReset duration) () (.top false)
  | drainAll (outstanding : List (Entry P)) :
      PumpStep gen .stopping .drainAll outstanding .drained
  | clearPendingRequests : PumpStep gen .drained .clearPendingRequests () .cleared
  | init : PumpStep gen .cleared .init () .cleared
  | forgetChannel : PumpStep gen .cleared .forgetChannel () .cleared
  | closeDone : PumpStep gen .cleared (.closeDone gen) () .finished
  | other (phase : Phase P) (op : Op P) (ans : Res P op)
      (unrelated : lingers op) : PumpStep gen phase op ans phase

variable {op : Op P}

theorem pumpStep_of_allows {gen : Nat} {phase : Phase P}
    (legal : phase.allows gen op) (ans : Res P op) :
    PumpStep gen phase op ans (phase.after op ans) := by
  cases op with
  | readDoneC => exact legal ▸ .readDoneC ans
  | readRequestChannel => exact legal ▸ .readRequestChannel ans
  | select reqCh pendingDone =>
    rcases legal with ⟨stance, rfl⟩
    rw [stance]
    exact .select phase.rdy pendingDone ans
  | hasPendingRequest site =>
    cases site with
    | timeout =>
      have stance : phase = .awake phase.rdy .ticked := legal
      rw [stance]
      exact .pendingAtTick phase.rdy ans
    | dispatch => exact legal ▸ .pendingAtDispatch ans
    | _ => cases legal
  | peek site =>
    cases site with
    | timeout =>
      have stance : phase = .awake phase.rdy .expired := legal
      rw [stance]
      exact .peekAtTick phase.rdy ans
    | dispatch => exact legal ▸ .peekAtDispatch ans
    | _ => cases legal
  | popIf site requestId =>
    cases site with
    | timeout =>
      have stance : phase = .awake phase.rdy .expired := legal
      rw [stance]
      exact .popAtTick phase.rdy requestId ans
    | cancel =>
      have stance : phase = .awake phase.rdy .off := legal
      rw [stance]
      exact .popAtCancel phase.rdy requestId ans
    | dispatch =>
      rcases legal with stance | ⟨front, stance, matched⟩
      · rw [stance]
        exact .popAtFailure requestId ans
      · rw [stance]
        exact .popAtDrop front requestId ans matched
    | _ => cases legal
  | timerReset duration =>
    rcases legal with stance | ⟨alarm, sounded, stance⟩
    · rw [stance]
      exact .timerReset duration
    · rw [stance]
      exact .resetAtTick phase.rdy alarm duration sounded
  | isPaused =>
    have stance : phase = .awake phase.rdy .off := legal
    rw [stance]
    exact .isPaused phase.rdy ans
  | isEmpty => exact legal ▸ .isEmpty ans
  | contextErr context =>
    rcases legal with ⟨front, stance⟩ | stance | stance
    · rw [stance]
      cases ans with
      | none => exact .contextAlive front context
      | some err => exact .contextEnded front context err
    · rw [stance]
      exact .contextLate _ phase.rdy context ans (.inl rfl)
    · rw [stance]
      exact .contextLate _ phase.rdy context ans (.inr rfl)
  | addPendingRequest requestID req =>
    rcases legal with ⟨front, stance, rfl⟩
    rw [stance]
    exact .addPendingRequest front req
  | write front data =>
    have stance : phase = .added front := legal
    rw [stance]
    exact .write front data ans
  | timerStop => exact legal ▸ .timerStop ans
  | timerDrain => exact legal ▸ .timerDrain
  | drainAll => exact legal ▸ .drainAll ans
  | clearPendingRequests => exact legal ▸ .clearPendingRequests
  | init => exact legal ▸ .init
  | forgetChannel => exact legal ▸ .forgetChannel
  | closeDone doneC =>
    rcases legal with ⟨stance, rfl⟩
    rw [stance]
    exact .closeDone
  | retain _ | getPendingRequest _ | onRequestCancel _ _ _ _ | lock | awaitReaders
  | unlock => exact .other phase _ ans trivial
  | _ => cases legal

/-- The operations of callers that say nothing about how far they have got. -/
def routine : Op P -> Prop
  | .lock | .awaitReaders | .unlock | .rlock | .runlock | .ret _ _ | .nilDereference
  | .getPendingRequest _ | .completed _ _ => True
  | _ => False

def usesTimer : Op P -> Prop
  | .timerStop | .timerDrain | .timerReset _ => True
  | _ => False

/-- Everything a goroutine other than the pump does in one operation, besides a
completion that is under way. -/
inductive CallerStep : Role P -> (op : Op P) -> Res P op -> Role P -> Prop where
  | assignStarted : CallerStep (.starter .pre) .assignStarted () (.starter .begun)
  | goMessagePump : CallerStep (.starter .begun) .goMessagePump () (.starter .launched)
  | runningAtStop (running : Bool) :
      CallerStep (.stopper .asking) .isRunning running (.stopper (if running then .seen else .leaving))
  | assignStopped (doneC : Nat) :
      CallerStep (.stopper .seen) .assignStopped doneC (.stopper (.waiting doneC))
  | awaitDone (doneC : Nat) :
      CallerStep (.stopper (.waiting doneC)) (.awaitDone doneC) () (.stopper .leaving)
  | pauses : CallerStep .pauser (.setPaused true) () .pauser
  | resumes : CallerStep (.resumer .pre) (.setPaused false) () (.resumer .resumed)
  | pendingAtResume (pending : Bool) :
      CallerStep (.resumer .resumed) (.hasPendingRequest .resume) pending
        (.resumer (if pending then .leaving else .signalling))
  | signals (site : Site) :
      CallerStep (.resumer .signalling) (.signalReady site) () (.resumer .leaving)
  | push (num : Nat) (bundle : RequestBundle P) (accepted : Bool) :
      CallerStep (.sender false) (.push num bundle) accepted (.sender accepted)
  | runningAtSend (running : Bool) : CallerStep (.sender true) .isRunning running (.sender running)
  | sendRequestChannel : CallerStep (.sender true) .sendRequestChannel () (.sender false)
  | popInbound (requestId : String) (popped : Option (Entry P)) :
      CallerStep .answerer (.popIf .inbound requestId) popped .answerer
  | timer (role : Role P) (op : Op P) (ans : Res P op)
      (pausing : role = .pauser ∨ role = .resumer .leaving) (timing : usesTimer op) :
      CallerStep role op ans role
  | other (role : Role P) (op : Op P) (ans : Res P op)
      (unrelated : routine op) : CallerStep role op ans role

theorem callerStep_of_allows {role : Role P} (caller : role.kind ≠ .pump)
    (legal : role.allows op) (ans : Res P op) :
    CallerStep role op ans (role.after op ans) := by
  cases role with
  | pump gen phase => exact absurd rfl caller
  | starter stage =>
    cases op with
    | assignStarted => exact legal ▸ .assignStarted
    | goMessagePump => exact legal ▸ .goMessagePump
    | lock | awaitReaders | unlock => exact .other _ _ _ trivial
    | _ => cases legal
  | stopper stage =>
    cases op with
    | isRunning => exact legal ▸ .runningAtStop ans
    | assignStopped => exact legal ▸ .assignStopped ans
    | awaitDone doneC => exact legal ▸ .awaitDone doneC
    | lock | awaitReaders | unlock => exact .other _ _ _ trivial
    | _ => cases legal
  | pauser =>
    cases op with
    | setPaused paused => exact legal ▸ .pauses
    | timerStop | timerDrain | timerReset _ => exact .timer _ _ _ (.inl rfl) trivial
    | lock | awaitReaders | unlock => exact .other _ _ _ trivial
    | _ => cases legal
  | resumer stage =>
    cases op with
    | setPaused paused =>
      rcases legal with ⟨rfl, rfl⟩
      exact .resumes
    | hasPendingRequest site =>
      rcases legal with ⟨rfl, rfl⟩
      exact .pendingAtResume ans
    | signalReady site => exact legal ▸ .signals site
    | timerStop | timerDrain | timerReset _ =>
      exact legal ▸ .timer _ _ ans (.inr rfl) trivial
    | _ => cases legal
  | sender owing =>
    cases op with
    | push num bundle => exact legal ▸ .push num bundle ans
    | isRunning =>
      have owes : owing = true := legal
      subst owes
      exact .runningAtSend ans
    | sendRequestChannel => exact legal ▸ .sendRequestChannel
    | rlock | runlock | ret _ _ | nilDereference => exact .other _ _ _ trivial
    | _ => cases legal
  | answerer =>
    cases op with
    | popIf site requestId => exact legal ▸ .popInbound requestId ans
    | getPendingRequest _ | completed _ _ => exact .other _ _ _ trivial
    | _ => cases legal

/-- Everything a goroutine does in one operation. -/
inductive Move : Label P -> (op : Op P) -> Res P op -> Label P -> Prop where
  | caller {role onward : Role P} {op : Op P} {ans : Res P op}
      (step : CallerStep role op ans onward) :
      Move ⟨role, .none⟩ op ans ⟨onward, Debt.after op ans⟩
  | pump {gen : Nat} {phase onward : Phase P} {op : Op P}
      {ans : Res P op} (step : PumpStep gen phase op ans onward) :
      Move ⟨.pump gen phase, .none⟩ op ans
        ⟨.pump gen onward, Debt.after op ans⟩
  | clears (role : Role P) (site : Site) (front : Entry P) :
      Move ⟨role, .popped front⟩ (.deletePendingRequest site front.uniqueId) () ⟨role, .deleted⟩
  | signals (role : Role P) (site : Site) :
      Move ⟨role, .deleted⟩ (.signalReady site) () ⟨role, .none⟩

theorem move_of_allowed {label : Label P} (legal : allowed op label)
    (ans : Res P op) : Move label op ans (label.after op ans) := by
  rcases label with ⟨role, debt⟩
  cases debt with
  | none =>
    by_cases pumps : role.kind = .pump
    · cases role with
      | pump gen phase => exact .pump (pumpStep_of_allows legal ans)
      | _ => cases pumps
    · exact .caller (callerStep_of_allows pumps legal ans)
  | popped front =>
    rcases legal with ⟨site, rfl⟩
    exact .clears role site front
  | deleted =>
    rcases legal with ⟨site, rfl⟩
    exact .signals role site

/-- A caller never turns into the pump. -/
theorem CallerStep.of_pump {role onward : Role P} {ans : Res P op}
    (step : CallerStep role op ans onward) {gen : Nat} {phase : Phase P}
    (pumps : onward = .pump gen phase) : role = .pump gen phase := by
  cases step with
  | timer role op ans pausing timing => exact pumps
  | other role op ans unrelated => exact pumps
  | _ => cases pumps

/-- What an answer tells about the goroutine: a pump reads the channels of its
generation, and an entry is popped under its identifier. -/
def Informed : (op : Op P) -> Role P -> Res P op -> Prop
  | .readDoneC, .pump gen _, done => done = gen
  | .readRequestChannel, .pump gen _, channel => channel = some gen
  | .popIf _ requestId, _, some popped => popped.isRequest requestId = true
  | _, _, _ => True

def accord : Protocol (Op P) (Res P) (Routine P) (Label P) where
  fits call label := label.role.kind = kindOf call
  allowed := allowed
  next op label ans onward :=
    Informed op label.role ans ∧ onward = label.after op ans

def entry : Routine P -> Label P -> Prop
  | .start, label => label = ⟨.starter .pre, .none⟩
  | .stop, label => label = ⟨.stopper .asking, .none⟩
  | .pause, label => label = ⟨.pauser, .none⟩
  | .resume, label => label = ⟨.resumer .pre, .none⟩
  | .sendRequest _ _, label => label = ⟨.sender false, .none⟩
  | .ocppMessageHandler _, label => label = ⟨.answerer, .none⟩
  | .messagePump, label => ∃ gen, label = ⟨.pump gen .starting, .none⟩
  | .pumpLoop reqCh doneC rdy _, label => ∃ gen,
      label = ⟨.pump gen (.top rdy), .none⟩ ∧ reqCh = some gen ∧ doneC = gen

/-- A goroutine ends when it has done what it started. -/
def leave (label : Label P) : Prop :=
  label.debt = .none ∧ (label.role = .starter .launched ∨ label.role = .stopper .leaving ∨
    label.role = .pauser ∨ label.role = .resumer .leaving ∨ label.role = .sender false ∨
    label.role = .answerer ∨ ∃ gen, label.role = .pump gen .finished)

end Phases
end ClientDispatcher
end OcppGo
