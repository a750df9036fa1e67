import OcppGo.ClientDispatcher.Effects
import OcppGo.Interleaving.Protocol

namespace OcppGo
namespace ClientDispatcher
namespace Reading

open Function Interleaving Ocppj Program List

/-!
# What the pump reads and what it reports

Outside the stop drain, the pump reports a cancelled request with the payload of
the bundle it has read before, not of the entry it has taken out of the queue.
The two are the same as long as no new entry comes into the queue under the
identifier of a bundle the pump still holds.
-/

variable {P : Type}

/-- A cancelled request is reported with its own payload, and only what has been
read is kept. -/
def allowed : Op P -> List (Entry P) -> Prop
  | .onRequestCancel owner _ request _, _ => request = owner.payload
  | .retain kept, holds => ∀ read, kept = some read -> read ∈ holds
  | _, _ => True

/-- The bundles a goroutine has read.  What it takes out of the queue under the
identifier of one of them is that bundle. -/
def next : (op : Op P) -> List (Entry P) -> Res P op -> List (Entry P) -> Prop
  | .peek _, holds, some front, onward => onward = front :: holds
  | .retain kept, _, _, onward => onward = kept.toList
  | .popIf _ requestId, holds, some popped, onward =>
    (∀ read, read ∈ holds -> read.isRequest requestId = true -> popped = read) ∧
      onward = holds
  | .select _ pendingDone, holds, .canceled, onward =>
    pendingDone.isSome = true ∧ onward = holds
  | _, holds, _, onward => onward = holds

def accord : Protocol (Op P) (Res P) (Routine P) (List (Entry P)) where
  fits _ _ := True
  allowed := allowed
  next := next

/-- The pump's note of the request in flight was made from a bundle it has read. -/
structure Backed (pending : PumpPending P) (holds : List (Entry P)) : Prop where
  read : ∀ read, pending.entry = some read -> read ∈ holds
  named : pending.id ≠ "" -> ∃ read, pending.entry = some read ∧
    read.isRequest pending.id = true ∧ read.payload = pending.payload

def entry : Routine P -> List (Entry P) -> Prop
  | .pumpLoop _ _ _ pending, holds => Backed pending holds
  | _, _ => True

theorem backed_zero (holds : List (Entry P)) : Backed .zero holds :=
  ⟨fun _ never => (by cases never), fun named => absurd rfl named⟩

variable {pending : PumpPending P}

theorem Backed.mono {holds larger : List (Entry P)} (backed : Backed pending holds)
    (grows : ∀ read, read ∈ holds -> read ∈ larger) : Backed pending larger :=
  ⟨fun read known => grows read (backed.read read known), backed.named⟩

/-! ## Every function keeps to the agreement -/

/-- The operations that neither read a bundle nor report one. -/
@[reducible] def neutral : Op P -> Bool
  | .peek _ | .retain _ | .popIf _ _ | .select _ _ | .onRequestCancel _ _ _ _ => false
  | _ => true

variable {opts : Settings} {call : Routine P} {holds : List (Entry P)} {α : Type}

@[simp] theorem accord_fits : accord.fits call holds := trivial

theorem obeys_neutral {post : α -> List (Entry P) -> Prop} {op : Op P}
    {resume : Res P op -> Prog P α} (unrelated : neutral op = true) :
    (Program.act op resume).Obeys accord call post holds <->
      ∀ ans, (resume ans).Obeys accord call post holds := by
  apply obeys_act_of_still trivial
  · cases op with
    | peek | retain | popIf | select | onRequestCancel => cases unrelated
    | _ => trivial
  · intro ans onward
    cases op with
    | peek | retain | popIf | select | onRequestCancel => cases unrelated
    | _ => exact Iff.rfl

/-- Whoever completes a request it has read gets the bundle it has read. -/
theorem obeys_completeRequest (site : Site) (requestId : String) :
    (completeRequest site requestId).Obeys accord call
      (fun result final => final = holds ∧ ∀ popped, result = some popped ->
        ∀ read, read ∈ holds -> read.isRequest requestId = true -> popped = read) holds := by
  unfold completeRequest
  refine ⟨trivial, trivial, ?_⟩
  intro ans onward moved
  cases ans with
  | none =>
    have same : onward = holds := moved
    subst same
    exact ⟨trivial, rfl, fun _ never => (by cases never)⟩
  | some popped =>
    rcases moved with ⟨identical, rfl⟩
    simp only [bind_done, deletePendingRequest, signalReady, act_bind, done_bind,
      obeys_neutral, neutral]
    intro _ _
    refine ⟨trivial, rfl, ?_⟩
    rintro _ same
    cases same
    exact identical

theorem obeys_cancelIfOwned (site : Site) {requestID : String} {request : Option P}
    {err : Prog P OcppError} {read : Entry P} (mem : read ∈ holds)
    (named : read.isRequest requestID = true) (carried : request = read.payload)
    (harmless : err.Obeys accord call (fun _ final => final = holds) holds) :
    (cancelIfOwned opts site requestID request err).Obeys accord call
      (fun _ final => final = holds) holds := by
  apply (obeys_completeRequest site requestID).bind
  rintro result between ⟨rfl, identical⟩
  cases result with
  | none => exact ⟨trivial, rfl⟩
  | some owner =>
    have same : owner = read := identical owner rfl read mem named
    apply harmless.bind
    rintro error between rfl
    unfold fireRequestCancel
    split
    · refine ⟨trivial, ?_, fun _ _ moved => ⟨trivial, moved⟩⟩
      rwa [same]
    · exact ⟨trivial, rfl⟩

theorem obeys_fireStopped (outstanding : List (Entry P)) :
    (fireStopped opts outstanding).Obeys accord call (fun _ _ => True) holds := by
  induction outstanding generalizing holds with
  | nil => exact ⟨trivial, trivial⟩
  | cons front others ih =>
    unfold fireStopped
    cases content : front.bundle.call with
    | none => exact ih
    | some call =>
      simp only [fireRequestCancel]
      split
      · refine ⟨trivial, ?_, fun _ onward _ => ih⟩
        simp [allowed, accord, Entry.payload, content]
      · exact ih

theorem obeys_stopDrain (doneC : Nat) :
    (stopDrain opts doneC : Prog P Unit).Obeys accord call (fun _ _ => True) holds := by
  refine ⟨trivial, fun _ never => (by cases never), ?_⟩
  intro _ onward _
  simp only [bind_done, drainAll, clearPendingRequests, act_bind, done_bind, obeys_neutral, neutral]
  intro outstanding _
  apply (obeys_fireStopped outstanding).bind
  intro _ between _
  simp [lock, obeys_neutral, neutral]

/-- A bundle with a call is the request its call names. -/
theorem isRequest_of_call {front : Entry P} {content : Ocppj.Call P}
    (found : front.bundle.call = some content) :
    front.isRequest content.uniqueId = true ∧ content.payload = front.payload := by
  simp [Entry.isRequest, RequestBundle.isRequest, Entry.payload, found]

theorem obeys_timeoutArm :
    (timeoutArm opts : Prog P Unit).Obeys accord call (fun _ _ => True) holds := by
  simp only [timeoutArm, hasPendingRequest, act_bind, done_bind, obeys_neutral, neutral]
  intro pending
  cases pending with
  | false => simp [obeys_neutral, neutral]
  | true =>
    refine ⟨trivial, trivial, ?_⟩
    intro front onward moved
    cases front with
    | none => simp [obeys_neutral, neutral]
    | some front =>
      have extended : onward = front :: holds := moved
      subst extended
      cases found : front.bundle.call with
      | none => simp [found, obeys_neutral, neutral]
      | some content =>
        rcases isRequest_of_call found with ⟨named, carried⟩
        simp only [bind_done, found]
        apply Obeys.bind (obeys_cancelIfOwned .timeout mem_cons_self named carried
          (obeys_done.mpr ⟨trivial, rfl⟩))
        intro _ between _
        simp [obeys_neutral, neutral]

theorem obeys_cancelArm {read : Entry P} (mem : read ∈ holds)
    (named : read.isRequest pending.id = true) (carried : pending.payload = read.payload) :
    (cancelArm opts pending).Obeys accord call (fun _ final => final = holds) holds := by
  simp only [cancelArm, getPendingRequest, act_bind, done_bind, obeys_neutral, neutral]
  intro known
  cases known with
  | none => exact ⟨trivial, rfl⟩
  | some _ =>
    apply obeys_cancelIfOwned .cancel mem named carried
    simp [obeys_neutral, neutral]

theorem obeys_dispatchNextRequest :
    (dispatchNextRequest opts : Prog P _).Obeys accord call
      (fun result final => Backed result.1 final ∧ ∀ read, read ∈ holds -> read ∈ final)
      holds := by
  refine ⟨trivial, trivial, ?_⟩
  intro front onward moved
  cases front with
  | none =>
    have same : onward = holds := moved
    subst same
    exact ⟨trivial, backed_zero _, fun _ mem => mem⟩
  | some front =>
    have extended : onward = front :: holds := moved
    subst extended
    have grows : ∀ read, read ∈ holds -> read ∈ front :: holds :=
      fun _ mem => mem_cons_of_mem _ mem
    cases found : front.bundle.call with
    | none =>
      simp only [bind_done, found]
      exact ⟨trivial, backed_zero _, grows⟩
    | some content =>
      rcases isRequest_of_call found with ⟨named, carried⟩
      cases data : front.bundle.data with
      | none =>
        simp only [bind_done, found, data]
        exact ⟨trivial, backed_zero _, grows⟩
      | some jsonMessage =>
        simp only [bind_done, found, data, contextErr, addPendingRequest, write, act_bind,
          done_bind, obeys_neutral, neutral]
        intro fired
        cases fired with
        | some reason =>
          apply Obeys.bind (obeys_cancelIfOwned .dispatch mem_cons_self named carried
            (by simp [obeys_neutral, neutral]))
          rintro _ between rfl
          exact ⟨trivial, backed_zero _, grows⟩
        | none =>
          simp only [Option.isSome_none, Bool.false_eq_true, if_false, obeys_neutral, neutral]
          intro _ failure
          cases failure with
          | none =>
            refine ⟨trivial, ⟨?_, fun _ => ⟨front, rfl, named, carried.symm⟩⟩, grows⟩
            intro read known
            cases known
            exact mem_cons_self
          | some failure =>
            apply Obeys.bind (obeys_cancelIfOwned .dispatch mem_cons_self named
              carried (obeys_done.mpr ⟨trivial, rfl⟩))
            rintro _ between rfl
            exact ⟨trivial, backed_zero _, grows⟩

theorem obeys_dispatchStep (rdy : Bool) (backed : Backed pending holds) :
    (dispatchStep opts rdy pending).Obeys accord call
      (fun result final => Backed result.2 final) holds := by
  simp only [dispatchStep, isPaused, act_bind, done_bind, obeys_neutral, neutral]
  intro paused
  cases paused with
  | true => exact ⟨trivial, backed⟩
  | false =>
    cases rdy with
    | false => exact ⟨trivial, backed⟩
    | true =>
      simp only [Bool.false_eq_true, if_false, if_true, isEmpty, hasPendingRequest, act_bind,
        done_bind, obeys_neutral, neutral]
      intro vacant
      cases vacant with
      | true => exact ⟨trivial, backed⟩
      | false =>
        simp only [Bool.false_eq_true, if_false, obeys_neutral, neutral]
        intro busy
        cases busy with
        | true => exact ⟨trivial, backed⟩
        | false =>
          apply obeys_dispatchNextRequest.bind
          rintro ⟨token, dispatched⟩ between ⟨taken, grows⟩
          cases dispatched with
          | false => exact ⟨trivial, backed.mono grows⟩
          | true => simpa [stopAndDrainTimer, obeys_neutral, neutral] using taken

theorem obeys_pumpLoop (reqCh : Option Nat) (doneC : Nat) (rdy : Bool)
    (backed : Backed pending holds) :
    (pumpLoop opts reqCh doneC rdy pending).Obeys accord call
      (cont entry (fun _ => True)) holds := by
  have reconciled : (reconcile pending).Obeys accord call
      (fun result final => Backed result final) holds := by
    unfold reconcile
    split
    · exact ⟨trivial, backed⟩
    · simp only [getPendingRequest, act_bind, done_bind, obeys_neutral, neutral]
      intro known
      cases known with
      | none => exact ⟨trivial, backed_zero _⟩
      | some _ => exact ⟨trivial, backed⟩
  have dispatched rdy pending (holding : List (Entry P)) (backed : Backed pending holding) :
      (dispatchPass opts reqCh doneC rdy pending).Obeys accord call
        (cont entry fun _ => True) holding := by
    apply (obeys_dispatchStep rdy backed).bind
    intro _ between done
    exact ⟨trivial, done⟩
  apply reconciled.bind
  intro pending between backed
  refine ⟨trivial, backed.read, ?_⟩
  rintro _ onward rfl
  have kept : Backed pending pending.entry.toList := ⟨by simp, backed.named⟩
  refine ⟨trivial, trivial, ?_⟩
  intro selected onward moved
  cases selected with
  | closed =>
    apply (obeys_stopDrain doneC).bind
    intro _ between _
    exact ⟨trivial, trivial⟩
  | request =>
    have same : onward = pending.entry.toList := moved
    exact dispatched _ _ _ (same ▸ kept)
  | ready =>
    have same : onward = pending.entry.toList := moved
    exact dispatched _ _ _ (same ▸ kept)
  | tick =>
    apply obeys_timeoutArm.bind
    intro _ between _
    exact dispatched _ _ _ (backed_zero _)
  | canceled =>
    rcases moved with ⟨awaited, rfl⟩
    have named : pending.id ≠ "" := by
      intro free
      simp [PumpPending.pendingDone, free] at awaited
    rcases backed.named named with ⟨read, known, matched, carried⟩
    apply (obeys_cancelArm (kept.read read known) matched carried.symm).bind
    intro _ between _
    exact dispatched _ _ _ (backed_zero _)

theorem obeys_ocppMessageHandler (frame : Frame) :
    (ocppMessageHandler frame : Prog P Unit).Obeys accord call (fun _ _ => True) holds := by
  unfold ocppMessageHandler
  split
  · exact ⟨trivial, trivial⟩
  · simp only [getPendingRequest, act_bind, done_bind, obeys_neutral, neutral]
    intro known
    cases known with
    | none => exact ⟨trivial, trivial⟩
    | some _ =>
      cases frame.valid with
      | false => exact ⟨trivial, trivial⟩
      | true =>
        apply (obeys_completeRequest .inbound frame.uniqueId).bind
        intro result between _
        cases result with
        | none => exact ⟨trivial, trivial⟩
        | some owner => simp [obeys_neutral, neutral]

theorem obeys_body (routine : Routine P) (state : List (Entry P)) (entered : entry routine state) :
    (body opts routine).Obeys accord routine (cont entry (fun _ => True)) state := by
  cases routine with
  | start => simp [body, start, lock, obeys_neutral, neutral, cont]
  | stop => simp [body, stop, lock, obeys_neutral, neutral, cont]
  | pause => simp [body, pause, lock, stopAndDrainTimer, obeys_neutral, neutral, cont]
  | resume => simp [body, resume, stopAndDrainTimer, obeys_neutral, neutral, cont]
  | sendRequest num req =>
    simp only [body, sendRequest]
    cases opts.network with
    | false => simp [obeys_neutral, neutral, cont]
    | true =>
      cases req.call with
      | _ => simp [obeys_neutral, neutral, cont]
  | ocppMessageHandler frame =>
    apply (obeys_ocppMessageHandler frame).bind
    intro _ between _
    exact ⟨trivial, trivial⟩
  | messagePump => simp [body, messagePump, obeys_neutral, neutral, cont, entry, backed_zero]
  | pumpLoop reqCh doneC rdy pending => exact obeys_pumpLoop reqCh doneC rdy entered

/-! ## The invariant -/

/-- A push is admitted when its identifier is neither empty nor that of a queued
entry or of a bundle that a goroutine still holds. -/
@[reducible] def freshIdentifiers : Condition P where
  call _ _ := True
  op s _ op :=
    match op with
    | .push _ bundle => bundle.uniqueId ≠ "" ∧
        (∀ queued, queued ∈ s.requestQueue.elements -> queued.uniqueId ≠ bundle.uniqueId) ∧
        (∀ read, read ∈ s.hist.held -> read.2.uniqueId ≠ bundle.uniqueId)
    | _ => True

instance (s : Shared P) (tid : Nat) (op : Op P) :
    Decidable (freshIdentifiers.op s tid op) := by
  rcases op <;> infer_instance

structure Invariant (s : Shared P) (view : Nat -> Option (List (Entry P))) : Prop where
  read : ∀ tid holds, view tid = some holds ->
    ∀ bundle, bundle ∈ holds -> (tid, bundle) ∈ s.hist.held
  distinct : s.requestQueue.elements.Pairwise (fun front later => front.uniqueId ≠ later.uniqueId)
  identical : ∀ tid bundle queued, (tid, bundle) ∈ s.hist.held ->
    queued ∈ s.requestQueue.elements -> queued.uniqueId = bundle.uniqueId -> queued = bundle
  carried : ∀ notification, notification ∈ s.hist.notifications ->
    ∀ err, notification.outcome = .canceled err ->
      notification.payload = notification.owner.payload

variable {s after : Shared P} {view : Nat -> Option (List (Entry P))} {tid : Nat}
  {onward : List (Entry P)}

namespace Invariant

/-- The queue may lose entries; nothing else that the invariant reads changes. -/
theorem shrink (inv : Invariant s view)
    (sublist : after.requestQueue.elements.Sublist s.requestQueue.elements)
    (held : after.hist.held = s.hist.held)
    (notifications : after.hist.notifications = s.hist.notifications) :
    Invariant after view := by
  refine ⟨?_, inv.distinct.sublist sublist, ?_, ?_⟩
  · rw [held]
    exact inv.read
  · rw [held]
    intro tid bundle queued reading mem
    exact inv.identical tid bundle queued reading (sublist.subset mem)
  · rw [notifications]
    exact inv.carried

theorem relabel (inv : Invariant s view) (tagged : view tid = some holds) :
    Invariant s (update view tid (some holds)) := by
  have same : update view tid (some holds) = view := by
    rw [← tagged]
    exact update_eq_self tid view
  rwa [same]

end Invariant

/-- What a goroutine has read is noted in the history, also after one label changes. -/
theorem read_update {hist : History P}
    (others : ∀ other label, other ≠ tid -> view other = some label ->
      ∀ bundle, bundle ∈ label -> (other, bundle) ∈ hist.held)
    (own : ∀ bundle, bundle ∈ onward -> (tid, bundle) ∈ hist.held)
    (other : Nat) (label : List (Entry P))
    (tagged : update view tid (some onward) other = some label) :
    ∀ bundle, bundle ∈ label -> (other, bundle) ∈ hist.held := by
  by_cases same : other = tid
  · subst same
    rw [update_self] at tagged
    cases tagged
    exact own
  · rw [update_of_ne same] at tagged
    exact others other label same tagged

section

variable (inv : Invariant s view)
include inv

theorem push_invariant {num : Nat} {bundle : RequestBundle P} {queue : FIFOClientQueue (Entry P)}
    (unused : ∀ queued, queued ∈ s.requestQueue.elements -> queued.uniqueId ≠ bundle.uniqueId)
    (unread : ∀ read, read ∈ s.hist.held -> read.2.uniqueId ≠ bundle.uniqueId)
    (pushed : s.requestQueue.push ⟨num, s.gen, bundle⟩ = some queue) :
    Invariant { s with
      requestQueue := queue
      hist := { s.hist with
        pushed := s.hist.pushed ++ [⟨num, s.gen, bundle⟩] } } view := by
  have elements := (FIFOClientQueue.push_eq_some pushed).1
  refine ⟨inv.read, ?_, ?_, inv.carried⟩
  · rw [elements]
    refine pairwise_append.mpr ⟨inv.distinct, pairwise_singleton _ _, ?_⟩
    intro queued mem new single
    rw [mem_singleton.mp single]
    exact unused queued mem
  · intro other read queued reading mem
    rw [elements] at mem
    rcases mem_append.mp mem with pre | new
    · exact inv.identical other read queued reading pre
    · rw [mem_singleton.mp new]
      intro same
      exact absurd same.symm (unread (other, read) reading)

variable {writing : List (Nat × Entry P)}

theorem peek_invariant {front : Entry P} (tagged : view tid = some holds)
    (found : s.requestQueue.peek = some front) :
    Invariant { s with
        hist := { s.hist with
          held := (tid, front) :: s.hist.held
          writing := writing } }
      (update view tid (some (front :: holds))) := by
  refine ⟨?_, inv.distinct, ?_, inv.carried⟩
  · apply read_update
    · intro other label _ known bundle mem
      exact mem_cons_of_mem _ (inv.read other label known bundle mem)
    · exact forall_mem_cons.mpr ⟨mem_cons_self, fun bundle pre =>
        mem_cons_of_mem _ (inv.read tid holds tagged bundle pre)⟩
  · intro other read queued reading mem same
    rcases mem_cons.mp reading with new | pre
    · cases new
      -- the front is the only queued entry with its identifier
      have distinct := inv.distinct
      cases shape : s.requestQueue.elements with
      | nil => rw [shape] at mem; cases mem
      | cons first rest =>
        rw [FIFOClientQueue.peek, shape, head?_cons] at found
        cases found
        rw [shape] at mem distinct
        rcases mem_cons.mp mem with rfl | later
        · rfl
        · exact absurd same.symm ((pairwise_cons.mp distinct).1 queued later)
    · exact inv.identical other read queued pre mem same

theorem retain_invariant {kept : Option (Entry P)} (tagged : view tid = some holds)
    (known : ∀ read, kept = some read -> read ∈ holds) :
    Invariant { s with
        hist := { s.hist with
          held := kept.toList.map (tid, ·) ++ without tid s.hist.held
          writing := writing } }
      (update view tid (some kept.toList)) := by
  refine ⟨?_, inv.distinct, ?_, inv.carried⟩
  · apply read_update
    · intro other label apart labelledOther bundle mem
      apply mem_append_right
      exact mem_without.mpr ⟨inv.read other label labelledOther bundle mem, apart⟩
    · intro bundle mem
      apply mem_append_left
      exact mem_map.mpr ⟨bundle, mem, rfl⟩
  · intro other read queued reading
    rcases mem_append.mp reading with own | others
    · rcases mem_map.mp own with ⟨bundle, mem, same⟩
      cases same
      have pre := inv.read tid holds tagged read
        (known read (Option.mem_toList.mp mem))
      exact inv.identical tid read queued pre
    · exact inv.identical other read queued (mem_without.mp others).1

/-- A report keeps the invariant if it carries the payload of its owner. -/
theorem report_invariant (notification : Notification P)
    (carried : ∀ err, notification.outcome = .canceled err ->
      notification.payload = notification.owner.payload) :
    Invariant { s with
      hist := { s.hist with
        notifications := s.hist.notifications ++ [notification] } } view := by
  exact ⟨inv.read, inv.distinct, inv.identical,
    forall_mem_append.mpr ⟨inv.carried, forall_mem_singleton.mpr carried⟩⟩

theorem execute_invariant {op : Op P} {choice : Choice} {ans : Res P op} (tagged : view tid = some holds)
    (legal : accord.allowed op holds)
    (admitted : freshIdentifiers.op s tid op)
    (exec : execute tid op choice s = some (ans, after)) :
    ∃ onward, accord.next op holds ans onward ∧
      Invariant after (update view tid (some onward)) := by
  have stands := inv.relabel tagged
  cases op with
  | push num bundle =>
    simp only [execute] at exec
    split at exec
    · rename_i queue pushed
      cases exec
      exact ⟨holds, rfl, push_invariant stands admitted.2.1 admitted.2.2 pushed⟩
    · cases exec
      exact ⟨holds, rfl, stands⟩
  | popIf site requestId =>
    simp only [execute] at exec
    split at exec
    · rename_i front queue popped
      cases exec
      rcases FIFOClientQueue.popIf_eq_some popped with ⟨elements, matched⟩
      refine ⟨holds, ⟨?_, rfl⟩, stands.shrink ?_ rfl rfl⟩
      · intro read mem named
        apply inv.identical tid read front (inv.read tid holds tagged read mem)
        · rw [elements]
          exact mem_cons_self
        · rw [Entry.uniqueId_of_isRequest matched, Entry.uniqueId_of_isRequest named]
      · rw [elements]
        exact sublist_cons_self _ _
    · cases exec
      exact ⟨holds, rfl, stands.shrink (Sublist.refl _) rfl rfl⟩
  | peek site =>
    simp only [execute] at exec
    split at exec
    · rename_i front found
      cases exec
      exact ⟨_, rfl, peek_invariant inv tagged found⟩
    · cases exec
      exact ⟨holds, rfl, stands⟩
  | retain kept =>
    cases exec
    exact ⟨_, rfl, retain_invariant inv tagged legal⟩
  | drainAll =>
    cases exec
    exact ⟨holds, rfl, stands.shrink (nil_sublist _) rfl rfl⟩
  | init =>
    cases exec
    exact ⟨holds, rfl, stands.shrink (nil_sublist _) rfl rfl⟩
  | onRequestCancel owner requestID request err =>
    cases exec
    exact ⟨holds, rfl, report_invariant stands _ fun _ _ => legal⟩
  | completed owner requestID =>
    cases exec
    exact ⟨holds, rfl, report_invariant stands _ fun _ never => (by cases never)⟩
  | ret num failure =>
    cases exec
    cases failure with
    | _ => exact ⟨holds, rfl, stands.shrink (Sublist.refl _) rfl rfl⟩
  | assignStarted =>
    cases exec
    exact ⟨holds, rfl, stands.shrink (Sublist.refl _) rfl rfl⟩
  | write written data =>
    simp only [execute] at exec
    split at exec
    · cases exec
      exact ⟨holds, rfl, stands.shrink (Sublist.refl _) rfl rfl⟩
    · cases exec
  | select reqCh pendingDone =>
    have kept : Invariant after (update view tid (some holds)) := by
      obtain ⟨_, _, _, _, rfl⟩ := execute_select_frame exec
      exact stands.shrink (Sublist.refl _) rfl rfl
    cases ans with
    | canceled => exact ⟨holds, ⟨execute_select_canceled exec, rfl⟩, kept⟩
    | _ => exact ⟨holds, rfl, kept⟩
  | _ =>
    rcases execute_quiet exec rfl with ⟨queue, hist⟩
    refine ⟨holds, rfl, ?_⟩
    apply stands.shrink
    · rw [queue]
    · rw [hist]
    · rw [hist]

theorem enter_invariant {routine : Routine P} (entered : enter routine s = some after) :
    ∃ state, entry routine state ∧
      Invariant after (update view tid (some state)) := by
  have unread : Invariant s (update view tid (some [])) := by
    refine ⟨?_, inv.distinct, inv.identical, inv.carried⟩
    apply read_update
    · intro other label _ known
      exact inv.read other label known
    · intro bundle never
      cases never
  have started : entry routine [] := by
    cases routine with
    | pumpLoop => cases entered
    | _ => trivial
  rcases enter_cases entered with ⟨_, _, _, _, rfl⟩ | ⟨_, _, rfl⟩ | ⟨_, rfl⟩
  all_goals exact ⟨[], started, unread.shrink (Sublist.refl _) rfl rfl⟩

end

theorem verified (opts : Settings) (capacity : Nat) :
    Verified (system opts) freshIdentifiers (Shared.initial capacity : Shared P) accord entry
      (fun _ => True) Invariant where
  body := obeys_body
  initially := by
    refine ⟨?_, Pairwise.nil, ?_, ?_⟩
    · intro tid holds never
      cases never
    · intro tid bundle queued never
      cases never
    · intro notification never
      cases never
  enter _ _ _ _ _ _ inv entered _ := enter_invariant inv entered
  occur _ _ _ _ inv arose := by
    rcases occur_frame arose with ⟨queue, hist⟩
    apply inv.shrink
    · rw [queue]
    · rw [hist]
    · rw [hist]
  execute _ _ _ _ _ _ _ _ inv tagged legal admitted exec :=
    execute_invariant inv tagged legal admitted exec
  finish _ view tid _ inv _ _ := by
    refine ⟨?_, inv.distinct, inv.identical, inv.carried⟩
    intro other label known
    by_cases same : other = tid
    · subst same
      rw [update_self] at known
      cases known
    · rw [update_of_ne same] at known
      exact inv.read other label known

end Reading
end ClientDispatcher
end OcppGo
