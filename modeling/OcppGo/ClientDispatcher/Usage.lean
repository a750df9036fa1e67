import OcppGo.ClientDispatcher.Code

namespace OcppGo
namespace ClientDispatcher

open Interleaving Ocppj Program

variable {P : Type} {opts : Settings} {legal : Op P -> Prop}

/-!
# Which operations the functions use

Some questions about a function are settled by the operations it can perform, on
whatever branch.  The operations that are told apart here are the writes and the
reports of cancelled requests; a report carries the reason of the cancellation.
-/

/-- Neither a write nor a report. -/
@[reducible] def Op.plain : Op P -> Bool
  | .write _ _ => false
  | .onRequestCancel _ _ _ _ => false
  | _ => true

/-- Besides, no assignment of the pause flag and none of the steps from the look at it to the
write. -/
@[reducible] def Op.neutral : Op P -> Bool
  | .setPaused _ | .isPaused | .isEmpty | .hasPendingRequest .dispatch | .peek .dispatch
  | .addPendingRequest _ _ | .select _ _ => false
  | op => op.plain

theorem stopped_ne_timeout : dispatcherStoppedMarker ≠ requestTimeoutMarker := by decide

theorem canceled_ne_timeout : requestCanceledMarker ≠ requestTimeoutMarker := by decide

theorem transport_ne_timeout : localTransportMarker ≠ requestTimeoutMarker := by decide

/-- What a set of operations has to contain for the functions around the dispatch. -/
structure Permits (legal : Op P -> Prop) : Prop where
  neutral : ∀ op, op.neutral = true -> legal op
  reports : ∀ owner requestID request err, err.marker ≠ requestTimeoutMarker ->
    legal (.onRequestCancel owner requestID request err)

theorem uses_completeRequest (permits : Permits legal) (site : Site) (requestId : String) :
    (completeRequest site requestId).Uses legal := by
  have neutral := permits.neutral
  simp only [completeRequest, popIf, act_bind, done_bind, uses_act]
  refine ⟨neutral _ rfl, ?_⟩
  intro popped
  cases popped with
  | none => simp
  | some popped => simp [neutral]

theorem uses_fireRequestCancel {owner : Entry P} {requestID : String} {request : Option P}
    {err : OcppError}
    (reports : legal (.onRequestCancel owner requestID request (markLocalTransportError err))) :
    (fireRequestCancel opts owner requestID request err).Uses legal := by
  unfold fireRequestCancel
  split
  · exact ⟨reports, fun _ => trivial⟩
  · trivial

section

variable (permits : Permits legal)
include permits

theorem uses_cancelIfOwned (site : Site) (requestID : String) (request : Option P)
    {err : Prog P OcppError} (reported : ∀ owner,
      (err >>= fun error => fireRequestCancel opts owner requestID request error).Uses
        legal) : (cancelIfOwned opts site requestID request err).Uses legal := by
  apply (uses_completeRequest permits site requestID).bind
  intro result
  cases result with
  | none => trivial
  | some owner => exact reported owner

theorem uses_fireStopped (outstanding : List (Entry P)) :
    (fireStopped opts outstanding).Uses legal := by
  induction outstanding with
  | nil => trivial
  | cons front others ih =>
    unfold fireStopped
    cases front.bundle.call with
    | none => exact ih
    | some content =>
      have reports : legal (.onRequestCancel front content.uniqueId content.payload
          (markLocalTransportError (newDispatcherStoppedError content.uniqueId))) :=
        permits.reports _ _ _ _ stopped_ne_timeout
      apply (uses_fireRequestCancel reports).bind
      intro _
      exact ih

theorem uses_stopDrain (doneC : Nat) : (stopDrain opts doneC).Uses legal := by
  have neutral := permits.neutral
  simp only [stopDrain, retain, drainAll, clearPendingRequests, act_bind, done_bind,
    uses_act]
  refine ⟨neutral _ rfl, fun _ => ⟨neutral _ rfl, fun outstanding => ⟨neutral _ rfl, fun _ => ?_⟩⟩⟩
  apply (uses_fireStopped permits outstanding).bind
  intro _
  simp [lock, neutral]

theorem uses_ocppMessageHandler (frame : Frame) : (ocppMessageHandler frame).Uses legal := by
  unfold ocppMessageHandler
  split
  · trivial
  · simp only [getPendingRequest, act_bind, done_bind, uses_act]
    refine ⟨permits.neutral _ rfl, ?_⟩
    intro known
    cases known with
    | none => trivial
    | some _ =>
      cases frame.valid with
      | false => trivial
      | true =>
        apply (uses_completeRequest permits .inbound frame.uniqueId).bind
        intro result
        cases result with
        | none => trivial
        | some owner => exact ⟨permits.neutral _ rfl, fun _ => trivial⟩

/-- The calls other than the pump. -/
theorem uses_caller (routine : Routine P)
    (caller : ∀ reqCh doneC rdy pending, routine ≠ .pumpLoop reqCh doneC rdy pending)
    (flags : ∀ paused, routine = .pause ∨ routine = .resume -> legal (.setPaused paused)) :
    (body opts routine).Uses legal := by
  have neutral := permits.neutral
  cases routine with
  | pumpLoop reqCh doneC rdy pending => exact absurd rfl (caller reqCh doneC rdy pending)
  | sendRequest num req =>
    simp only [body, sendRequest]
    cases opts.network with
    | false => simp [neutral]
    | true =>
      cases req.call with
      | _ => simp [neutral]
  | ocppMessageHandler frame =>
    apply (uses_ocppMessageHandler permits frame).bind
    intro _
    trivial
  | pause => simp [body, pause, lock, stopAndDrainTimer, neutral, flags]
  | resume => simp [body, resume, stopAndDrainTimer, neutral, flags]
  | _ => simp [body, start, stop, messagePump, lock, neutral]

end

/-! ## What sequencing keeps

The pump is put together from a few operations and cancellations.  A property of programs that
holds for these parts and is kept by sequencing holds for the pump.
-/

/-- The neutral operations that move no request. -/
@[reducible] def Op.aside : Op P -> Bool
  | .push _ _ | .popIf _ _ | .drainAll | .init | .completed _ _ | .ret _ _ => false
  | op => op.neutral

/-- The steps up to the write. -/
@[reducible] def Op.stepping : Op P -> Bool
  | .isPaused | .isEmpty | .hasPendingRequest .dispatch | .peek .dispatch | .addPendingRequest _ _
  | .select _ _ => true
  | _ => false

/-- The parts the functions around the dispatch are made of. -/
structure Serves (opts : Settings) (good : (α : Type) -> Prog P α -> Prop) : Prop
    extends Composes good where
  aside : ∀ op, op.aside = true -> good _ (.act op .done)
  cancels : ∀ site requestID request ctx,
    good _ (cancelIfOwned opts site requestID request do
      return newRequestCanceledError requestID (← contextErr ctx))
  drains : ∀ doneC, good _ (stopDrain opts doneC)

variable {good : (α : Type) -> Prog P α -> Prop}

theorem Permits.serves (permits : Permits legal) (composes : Composes good)
    (holds : ∀ α (prog : Prog P α), prog.Uses legal -> good α prog) :
    Serves opts good where
  toComposes := composes
  aside := by
    intro op aside
    refine holds _ _ ⟨permits.neutral op ?_, fun _ => trivial⟩
    cases op <;> first | exact aside | cases aside
  cancels := by
    intro site requestID request ctx
    apply holds
    apply uses_cancelIfOwned permits
    intro owner
    refine ⟨permits.neutral _ rfl, ?_⟩
    intro cause
    exact uses_fireRequestCancel (permits.reports _ _ _ _ canceled_ne_timeout)
  drains := fun doneC => holds _ _ (uses_stopDrain permits doneC)

section

variable (serves : Serves opts good)
include serves

theorem good_reconcile (pending : PumpPending P) : good _ (reconcile pending) := by
  unfold reconcile
  split
  · exact serves.done _
  · apply serves.bind (serves.aside _ rfl)
    intro known
    cases known with
    | _ => exact serves.done _

theorem good_cancelArm (pending : PumpPending P) : good _ (cancelArm opts pending) := by
  apply serves.bind (serves.aside _ rfl)
  intro known
  cases known with
  | none => exact serves.done _
  | some _ => exact serves.cancels .cancel pending.id pending.payload pending.ctx

theorem good_timeoutArm
    (timeouts : ∀ requestID request, good _ (cancelIfOwned opts .timeout requestID request
      (return newRequestTimeoutError requestID))) : good _ (timeoutArm opts) := by
  have reset : good _ (timerReset defaultTimeoutTick) := serves.aside (.timerReset _) rfl
  apply serves.bind (serves.aside _ rfl)
  intro pending
  cases pending with
  | false => exact reset
  | true =>
    apply serves.bind (serves.aside _ rfl)
    intro front
    cases front with
    | none => exact reset
    | some front =>
      cases found : front.bundle.call with
      | none => simpa only [found] using reset
      | some content =>
        simp only [found]
        exact serves.bind (timeouts _ _) fun _ => reset

variable (steps : ∀ op, op.stepping = true -> good _ (.act op .done))
include steps

theorem good_dispatchNextRequest (writes : ∀ entry data, good _ (write entry data))
    (fails : ∀ requestID request failure, good _ (cancelIfOwned opts .dispatch requestID
      request (return newLocalTransportError internalError failure requestID))) :
    good _ (dispatchNextRequest opts) := by
  apply serves.bind (steps _ rfl)
  intro front
  cases front with
  | none => exact serves.done _
  | some front =>
    cases found : front.bundle.call with
    | none =>
      simp only [found]
      exact serves.done _
    | some content =>
      cases data : front.bundle.data with
      | none =>
        simp only [found, data]
        exact serves.done _
      | some jsonMessage =>
        simp only [found, data]
        apply serves.bind (serves.aside _ rfl)
        intro fired
        cases fired with
        | some reason => exact serves.bind (serves.cancels _ _ _ _) fun _ => serves.done _
        | none =>
          apply serves.bind (steps (.addPendingRequest _ _) rfl)
          refine fun _ => serves.bind (writes _ _) ?_
          intro failure
          cases failure with
          | none => exact serves.done _
          | some failure => exact serves.bind (fails _ _ _) fun _ => serves.done _

variable (dispatches : good _ (dispatchNextRequest opts))
include dispatches

theorem good_dispatchStep (rdy : Bool) (pending : PumpPending P) :
    good _ (dispatchStep opts rdy pending) := by
  apply serves.bind (steps _ rfl)
  intro paused
  cases paused with
  | true => exact serves.done _
  | false =>
    cases rdy with
    | false => exact serves.done _
    | true =>
      apply serves.bind (steps _ rfl)
      intro vacant
      cases vacant with
      | true => exact serves.done _
      | false =>
        apply serves.bind (steps _ rfl)
        intro busy
        cases busy with
        | true => exact serves.done _
        | false =>
          apply serves.bind dispatches
          rintro ⟨token, dispatched⟩
          cases dispatched with
          | false => exact serves.done _
          | true =>
            apply serves.bind (serves.bind (serves.aside .timerStop rfl) ?_)
            · exact fun _ => serves.bind (serves.aside (.timerReset _) rfl) fun _ => serves.done _
            · intro stopped
              cases stopped with
              | true => exact serves.done ()
              | false => exact serves.aside .timerDrain rfl

/-- A whole pass of the pump. -/
theorem good_pumpLoop (times : good _ (timeoutArm opts)) (reqCh : Option Nat) (doneC : Nat)
    (rdy : Bool) (pending : PumpPending P) :
    good _ (pumpLoop opts reqCh doneC rdy pending) := by
  have goesOn rdy pending : good _ (dispatchPass opts reqCh doneC rdy pending) :=
    serves.bind (good_dispatchStep serves steps dispatches rdy pending) fun _ => serves.done _
  apply serves.bind (good_reconcile serves pending)
  intro current
  apply serves.bind (serves.aside (.retain _) rfl)
  refine fun _ => serves.bind (steps (.select _ _) rfl) ?_
  intro selected
  cases selected with
  | request => exact goesOn _ _
  | ready => exact goesOn _ _
  | closed => exact serves.bind (serves.drains doneC) fun _ => serves.done _
  | tick => exact serves.bind times fun _ => goesOn _ _
  | canceled => exact serves.bind (good_cancelArm serves current) fun _ => goesOn _ _

end

/-- After a call a goroutine ends; only the pump goes on, with its next pass. -/
theorem returns_body (routine : Routine P) :
    (body opts routine).Returns (fun onward => onward = none ∨
      ∃ reqCh doneC rdy pending, onward = some (.pumpLoop reqCh doneC rdy pending)) := by
  cases routine with
  | messagePump =>
    intro doneC reqCh
    exact .inr ⟨reqCh, doneC, true, .zero, rfl⟩
  | pumpLoop reqCh doneC rdy pending =>
    have goesOn rdy (pending : PumpPending P) : (dispatchPass opts reqCh doneC rdy pending).Returns
        (fun onward => onward = none ∨ ∃ reqCh doneC rdy pending,
          onward = some (.pumpLoop reqCh doneC rdy pending)) := by
      apply returns_bind
      intro carried
      exact .inr ⟨reqCh, doneC, carried.1, carried.2, rfl⟩
    apply returns_bind
    intro current _ selected
    cases selected with
    | request => exact goesOn _ _
    | ready => exact goesOn _ _
    | closed =>
      apply returns_bind (stopDrain opts doneC)
      intro _
      exact .inl rfl
    | tick =>
      apply returns_bind (timeoutArm opts)
      intro _
      exact goesOn _ _
    | canceled =>
      apply returns_bind (cancelArm opts current)
      intro _
      exact goesOn _ _
  | _ =>
    apply returns_bind
    intro _
    exact .inl rfl

end ClientDispatcher
end OcppGo
