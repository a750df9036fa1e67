import OcppGo.ClientDispatcher.Phases

namespace OcppGo
namespace ClientDispatcher
namespace Phases

open Interleaving Ocppj Program

/-!
# The code keeps to the description of its goroutines

Every function of the source, run from the description it is entered with, performs
only operations that are open to it, and leaves its goroutine where its caller
expects it.
-/

variable {P : Type} {opts : Settings} {call : Routine P} {label : Label P} {α : Type}

/-- One operation: what is open to the goroutine and where it goes on from. -/
theorem obeys_step {post : α -> Label P -> Prop} {op : Op P}
    {resume : Res P op -> Prog P α} :
    (Program.act op resume).Obeys accord call post label <->
      label.role.kind = kindOf call ∧ allowed op label ∧
        ∀ ans, Informed op label.role ans ->
          (resume ans).Obeys accord call post (label.after op ans) := by
  simp [obeys_act, accord]

@[simp] theorem accord_fits :
    accord.fits call label <-> label.role.kind = kindOf call := Iff.rfl

theorem obeys_start :
    (start : Prog P Unit).Obeys accord .start (fun _ => leave) ⟨.starter .pre, .none⟩ := by
  simp [start, lock, obeys_step, kindOf, Role.kind, allowed, Role.allows, StartStage.allows,
    Label.after, Role.after, StartStage.after, Debt.after, Informed, leave]

theorem obeys_stop :
    (stop : Prog P Unit).Obeys accord .stop (fun _ => leave) ⟨.stopper .asking, .none⟩ := by
  simp [stop, lock, obeys_step, kindOf, Role.kind, allowed, Role.allows, StopStage.allows,
    Label.after, Role.after, StopStage.after, Debt.after, Informed, leave]

theorem obeys_pause :
    (pause opts : Prog P Unit).Obeys accord .pause (fun _ => leave) ⟨.pauser, .none⟩ := by
  simp [pause, lock, stopAndDrainTimer, obeys_step, kindOf, Role.kind, allowed, Role.allows,
    pauserAllows, Label.after, Role.after, Debt.after, Informed, leave]

theorem obeys_resume :
    (resume opts : Prog P Unit).Obeys accord .resume (fun _ => leave)
      ⟨.resumer .pre, .none⟩ := by
  simp [resume, stopAndDrainTimer, obeys_step, kindOf, Role.kind, allowed, Role.allows,
    ResumeStage.allows, Label.after, Role.after, ResumeStage.after, Debt.after, Informed, leave]

theorem obeys_sendRequest (num : Nat) (req : RequestBundle P) :
    (sendRequest opts num req).Obeys accord (.sendRequest num req) (fun _ => leave)
      ⟨.sender false, .none⟩ := by
  unfold sendRequest
  split
  · cases req.call with
    | none =>
      simp [obeys_step, kindOf, Role.kind, allowed, Role.allows, senderAllows, Label.after,
        Role.after, owingAfter, Debt.after, Informed, leave]
    | some content =>
      simp [obeys_step, kindOf, Role.kind, allowed, Role.allows, senderAllows, Label.after,
        Role.after, owingAfter, Debt.after, Informed, leave]
  · simp [obeys_step, kindOf, Role.kind, allowed, Role.allows, senderAllows, Label.after,
      Role.after, owingAfter, Debt.after, Informed, leave]

/-- `CompleteRequest` carries on what it has begun before it returns. -/
theorem obeys_completeRequest {site : Site} {requestId : String} (role between : Role P)
    (fits : role.kind = kindOf call) (legal : role.allows (.popIf site requestId))
    (moved : ∀ front, role.after (.popIf site requestId) front = between) :
    (completeRequest site requestId).Obeys accord call
      (fun _ final => final = ⟨between, .none⟩) ⟨role, .none⟩ := by
  have kept : between.kind = kindOf call := by
    rwa [← moved none, kind_after]
  unfold completeRequest
  refine obeys_step.mpr ⟨fits, legal, ?_⟩
  intro ans _
  simp only [Label.after, moved]
  cases ans with
  | none => exact ⟨kept, rfl⟩
  | some front =>
    refine obeys_step.mpr ⟨kept, ⟨site, rfl⟩, ?_⟩
    intro _ _
    refine obeys_step.mpr ⟨kept, ⟨site, rfl⟩, ?_⟩
    intro _ _
    exact ⟨kept, rfl⟩

theorem obeys_ocppMessageHandler (frame : Frame) :
    (ocppMessageHandler frame : Prog P Unit).Obeys accord (.ocppMessageHandler frame)
      (fun _ => leave) ⟨.answerer, .none⟩ := by
  unfold ocppMessageHandler
  split
  · simp [Role.kind, kindOf, leave]
  · refine obeys_step.mpr ⟨rfl, trivial, ?_⟩
    intro ans _
    cases ans with
    | none => simp [Label.after, Role.after, Debt.after, Role.kind, kindOf, leave]
    | some pending =>
      split
      · apply (obeys_completeRequest .answerer .answerer rfl rfl fun _ => rfl).bind
        rintro result between rfl
        cases result with
        | none => simp [Role.kind, kindOf, leave]
        | some owner =>
          simp [obeys_step, kindOf, Role.kind, allowed, Role.allows, answererAllows,
            Label.after, Role.after, Debt.after, Informed, leave]
      · simp [Label.after, Role.after, Debt.after, Role.kind, kindOf, leave]

/-! ## The pump -/

section

variable {gen : Nat} {phase : Phase P} (pumping : kindOf call = .pump)

include pumping

theorem obeys_fireRequestCancel (working : phase ≠ .finished) (owner : Entry P)
    (requestID : String) (request : Option P) (err : OcppError) :
    (fireRequestCancel opts owner requestID request err).Obeys accord call
      (fun _ final => final = ⟨.pump gen phase, .none⟩) ⟨.pump gen phase, .none⟩ := by
  unfold fireRequestCancel
  split
  · refine obeys_step.mpr ⟨pumping.symm, working, ?_⟩
    intro _ _
    exact ⟨pumping.symm, rfl⟩
  · exact ⟨pumping.symm, rfl⟩

theorem obeys_fireStopped (working : phase ≠ .finished) (outstanding : List (Entry P)) :
    (fireStopped opts outstanding).Obeys accord call
      (fun _ final => final = ⟨.pump gen phase, .none⟩) ⟨.pump gen phase, .none⟩ := by
  induction outstanding with
  | nil => exact ⟨pumping.symm, rfl⟩
  | cons front others ih =>
    unfold fireStopped
    cases front.bundle.call with
    | none => exact ih
    | some content =>
      apply (obeys_fireRequestCancel pumping working _ _ _ _).bind
      rintro _ between rfl
      exact ih

theorem obeys_cancelIfOwned (site : Site) (requestID : String) {request : Option P}
    {err : Prog P OcppError} (phase between : Phase P)
    (legal : phase.allows gen (.popIf site requestID))
    (moved : ∀ front, phase.after (.popIf site requestID) front = between)
    (working : between ≠ .finished) (harmless : err.Obeys accord call
      (fun _ final => final = ⟨.pump gen between, .none⟩) ⟨.pump gen between, .none⟩) :
    (cancelIfOwned opts site requestID request err).Obeys accord call
      (fun _ final => final = ⟨.pump gen between, .none⟩) ⟨.pump gen phase, .none⟩ := by
  apply (obeys_completeRequest (.pump gen phase) (.pump gen between) pumping.symm
    legal fun front => by rw [Role.after, moved]).bind
  rintro result _ rfl
  cases result with
  | none => exact ⟨pumping.symm, rfl⟩
  | some owner =>
    apply harmless.bind
    rintro error _ rfl
    exact obeys_fireRequestCancel pumping working _ _ _ _

theorem obeys_stopDrain :
    (stopDrain opts gen).Obeys accord call
      (fun _ => leave) ⟨.pump gen .stopping, .none⟩ := by
  unfold stopDrain
  refine obeys_step.mpr ⟨pumping.symm, .inr rfl, ?_⟩
  intro _ _
  refine obeys_step.mpr ⟨pumping.symm, rfl, ?_⟩
  intro outstanding _
  refine obeys_step.mpr ⟨pumping.symm, rfl, ?_⟩
  intro _ _
  apply (obeys_fireStopped pumping (by simp) outstanding).bind
  rintro _ _ rfl
  simp [lock, obeys_step, pumping, Role.kind, allowed, Role.allows, Label.after,
    Role.after, Debt.after, Informed, leave]

/-- The timer arm ends with the timer set again. -/
theorem obeys_timeoutArm (rdy : Bool) :
    (timeoutArm opts).Obeys accord call
      (fun _ final => final = ⟨.pump gen (.awake rdy .off), .none⟩)
      ⟨.pump gen (.awake rdy .ticked), .none⟩ := by
  have reset (alarm : Alarm) (sounded : alarm ≠ .off) : (timerReset defaultTimeoutTick).Obeys accord call
      (fun _ final => final = ⟨.pump gen (.awake rdy .off), .none⟩)
      ⟨.pump gen (.awake rdy alarm), .none⟩ :=
    obeys_step.mpr ⟨pumping.symm, .inr ⟨alarm, sounded, rfl⟩, fun _ _ => ⟨pumping.symm, rfl⟩⟩
  unfold timeoutArm
  refine obeys_step.mpr ⟨pumping.symm, rfl, ?_⟩
  intro pending _
  cases pending with
  | false => exact reset .spurious (by decide)
  | true =>
    refine obeys_step.mpr ⟨pumping.symm, rfl, ?_⟩
    intro front _
    cases front with
    | none => exact reset .expired (by decide)
    | some front =>
      cases content : front.bundle.call with
      | none =>
        simp only [content, bind_done]
        exact reset .expired (by decide)
      | some request =>
        simp only [content, bind_done]
        apply (obeys_cancelIfOwned pumping .timeout request.uniqueId (.awake rdy .expired)
          (.awake rdy .expired) rfl (fun _ => rfl) (by simp)
          (obeys_done.mpr ⟨pumping.symm, rfl⟩)).bind
        rintro _ _ rfl
        exact reset .expired (by decide)

theorem obeys_cancelArm (pending : PumpPending P) (rdy : Bool) :
    (cancelArm opts pending).Obeys accord call
      (fun _ final => final = ⟨.pump gen (.awake rdy .off), .none⟩)
      ⟨.pump gen (.awake rdy .off), .none⟩ := by
  unfold cancelArm
  refine obeys_step.mpr ⟨pumping.symm, .inr rfl, ?_⟩
  intro found _
  cases found with
  | none => exact ⟨pumping.symm, rfl⟩
  | some request =>
    refine obeys_cancelIfOwned pumping .cancel pending.id (.awake rdy .off) (.awake rdy .off) rfl
      (fun _ => rfl) (by simp) ?_
    refine obeys_step.mpr ⟨pumping.symm, .inr (.inr rfl), ?_⟩
    intro _ _
    exact ⟨pumping.symm, rfl⟩

/-- Where a dispatch leaves the pump: behind the write, or at the top of its loop
with the ready flag set. -/
theorem obeys_dispatchNextRequest :
    (dispatchNextRequest opts).Obeys accord call
      (fun result final => final =
        ⟨.pump gen (if result.2 then .written else .top true), .none⟩)
      ⟨.pump gen .clear, .none⟩ := by
  unfold dispatchNextRequest
  refine obeys_step.mpr ⟨pumping.symm, rfl, ?_⟩
  intro ans _
  cases ans with
  | none => exact ⟨pumping.symm, rfl⟩
  | some front =>
    cases content : front.bundle.call with
    | none =>
      have bad : ¬ front.bundle.WellFormed := by simp [RequestBundle.WellFormed, content]
      simp [content, Label.after, Role.after, Phase.read, Debt.after, bad,
        pumping, Role.kind]
    | some request =>
      cases text : front.bundle.data with
      | none =>
        have bad : ¬ front.bundle.WellFormed := by simp [RequestBundle.WellFormed, text]
        simp [content, text, Label.after, Role.after, Phase.read, Debt.after, bad,
          pumping, Role.kind]
      | some jsonMessage =>
        have good : front.bundle.WellFormed := by
          simp [RequestBundle.WellFormed, content, text]
        have named : front.uniqueId = request.uniqueId := by
          simp [Entry.uniqueId, RequestBundle.uniqueId, content]
        have matched : front.isRequest request.uniqueId = true := by
          simp [Entry.isRequest, RequestBundle.isRequest, content]
        simp only [content, text, Label.after, Role.after, Phase.after, Phase.read, Debt.after,
          if_pos good, bind_done]
        refine obeys_step.mpr ⟨pumping.symm, .inl ⟨front, rfl⟩, ?_⟩
        intro err _
        cases err with
        | some err =>
          apply (obeys_cancelIfOwned pumping .dispatch request.uniqueId (.dropping front)
            (.top true) (.inr ⟨front, rfl, matched⟩) (fun _ => rfl) (by simp) ?_).bind
          · rintro _ _ rfl
            exact ⟨pumping.symm, rfl⟩
          · refine obeys_step.mpr ⟨pumping.symm, .inr (.inl rfl), ?_⟩
            intro _ _
            exact ⟨pumping.symm, rfl⟩
        | none =>
          refine obeys_step.mpr ⟨pumping.symm, ⟨front, rfl, named⟩, ?_⟩
          intro _ _
          refine obeys_step.mpr ⟨pumping.symm, rfl, ?_⟩
          intro failure _
          cases failure with
          | some failure =>
            apply (obeys_cancelIfOwned pumping .dispatch request.uniqueId .written .written
              (.inl rfl) (fun _ => rfl) (by simp) (obeys_done.mpr ⟨pumping.symm, rfl⟩)).bind
            rintro _ _ rfl
            exact ⟨pumping.symm, rfl⟩
          | none => exact ⟨pumping.symm, rfl⟩

theorem obeys_dispatchStep (rdy : Bool) (pending : PumpPending P) :
    (dispatchStep opts rdy pending).Obeys accord call
      (fun result final => final = ⟨.pump gen (.top result.1), .none⟩)
      ⟨.pump gen (.awake rdy .off), .none⟩ := by
  unfold dispatchStep
  refine obeys_step.mpr ⟨pumping.symm, rfl, ?_⟩
  intro paused _
  cases paused with
  | true => exact ⟨pumping.symm, rfl⟩
  | false =>
    cases rdy with
    | false => exact ⟨pumping.symm, rfl⟩
    | true =>
      refine obeys_step.mpr ⟨pumping.symm, rfl, ?_⟩
      intro vacant _
      cases vacant with
      | true => exact ⟨pumping.symm, rfl⟩
      | false =>
        refine obeys_step.mpr ⟨pumping.symm, rfl, ?_⟩
        intro occupied _
        cases occupied with
        | true => exact ⟨pumping.symm, rfl⟩
        | false =>
          apply (obeys_dispatchNextRequest pumping).bind
          rintro ⟨token, dispatched⟩ _ rfl
          cases dispatched with
          | false => exact ⟨pumping.symm, rfl⟩
          | true =>
            simp [stopAndDrainTimer, obeys_step, pumping, Role.kind, allowed,
              Role.allows, Label.after, Role.after, Phase.rearmed, Debt.after, Informed]

theorem obeys_reconcile (rdy : Bool) (pending : PumpPending P) :
    (reconcile pending).Obeys accord call
      (fun _ final => final = ⟨.pump gen (.top rdy), .none⟩)
      ⟨.pump gen (.top rdy), .none⟩ := by
  unfold reconcile
  split
  · exact ⟨pumping.symm, rfl⟩
  · refine obeys_step.mpr ⟨pumping.symm, .inl rfl, ?_⟩
    intro found _
    cases found with
    | _ => exact ⟨pumping.symm, rfl⟩

end

theorem obeys_pumpLoop (gen : Nat) (rdy : Bool) (pending : PumpPending P) :
    (pumpLoop opts (some gen) gen rdy pending).Obeys accord
      (.pumpLoop (some gen) gen rdy pending) (cont entry leave)
      ⟨.pump gen (.top rdy), .none⟩ := by
  -- what every arm does once it has dealt with what it received
  have goesOn (rdy' : Bool) (pending' : PumpPending P) :
      (dispatchPass opts (some gen) gen rdy' pending').Obeys accord
        (.pumpLoop (some gen) gen rdy pending) (cont entry leave)
        ⟨.pump gen (.awake rdy' .off), .none⟩ := by
    apply (obeys_dispatchStep rfl rdy' pending').bind
    rintro ⟨ready, token⟩ _ rfl
    exact ⟨rfl, gen, rfl, rfl, rfl⟩
  unfold pumpLoop
  apply (obeys_reconcile rfl rdy pending).bind
  rintro current _ rfl
  refine obeys_step.mpr ⟨rfl, .inl rfl, ?_⟩
  intro _ _
  refine obeys_step.mpr ⟨rfl, ⟨rfl, rfl⟩, ?_⟩
  intro selected _
  cases selected with
  | request => exact goesOn rdy current
  | ready => exact goesOn true current
  | tick =>
    apply (obeys_timeoutArm rfl rdy).bind
    rintro _ _ rfl
    exact goesOn rdy .zero
  | canceled =>
    apply (obeys_cancelArm rfl current rdy).bind
    rintro _ _ rfl
    exact goesOn rdy .zero
  | closed =>
    exact (obeys_stopDrain rfl).returning

theorem obeys_messagePump (gen : Nat) :
    (messagePump : Prog P (Option (Routine P))).Obeys accord .messagePump
      (cont entry leave) ⟨.pump gen .starting, .none⟩ := by
  unfold messagePump
  refine obeys_step.mpr ⟨rfl, rfl, ?_⟩
  intro doneC known
  refine obeys_step.mpr ⟨rfl, rfl, ?_⟩
  intro reqCh opened
  exact ⟨rfl, gen, rfl, opened, known⟩

theorem obeys_body (routine : Routine P) (label : Label P) (entered : entry routine label) :
    (body opts routine).Obeys accord routine (cont entry leave) label := by
  cases routine with
  | start => exact entered ▸ obeys_start.returning
  | stop => exact entered ▸ obeys_stop.returning
  | pause => exact entered ▸ obeys_pause.returning
  | resume => exact entered ▸ obeys_resume.returning
  | sendRequest num req => exact entered ▸ (obeys_sendRequest num req).returning
  | ocppMessageHandler frame => exact entered ▸ (obeys_ocppMessageHandler frame).returning
  | messagePump =>
    rcases entered with ⟨gen, rfl⟩
    exact obeys_messagePump gen
  | pumpLoop reqCh doneC rdy pending =>
    rcases entered with ⟨gen, rfl, rfl, rfl⟩
    exact obeys_pumpLoop doneC rdy pending

end Phases
end ClientDispatcher
end OcppGo
