import OcppGo.ClientDispatcher.InFlight

namespace OcppGo
namespace ClientDispatcher

open Function Interleaving Ocppj List Option

variable {P : Type}

/-!
# No lost wake-up

The pump sleeps in its select statement although the queue is not empty.  Then
either a request is pending, or a token lies in one of its two channels, or a
goroutine is on its way to put one there.  The ready channel has room for one token
and a second one is dropped; a token may also be swallowed while the dispatcher is
paused.  The invariant says who makes up for that.
-/

/-- The generation started with an empty queue, and only well-formed bundles whose
identifiers are not empty were pushed in it. -/
def CleanGeneration (s : Shared P) : Prop :=
  s.hist.queueAtStart = [] ∧ ∀ entry, entry ∈ s.hist.pushed ->
    entry.gen = s.gen -> entry.bundle.WellFormed ∧ entry.uniqueId ≠ ""
  deriving Decidable

namespace Phases

/-- The goroutine is about to put a token into a channel of the pump. -/
def Label.promising (label : Label P) : Prop :=
  label.debt ≠ .none ∨ label.role = .sender true ∨ label.role = .resumer .resumed ∨
    label.role = .resumer .signalling

/-- The pump with its ready flag set, on its way to the select statement or in it; or what
will become that pump. -/
def Role.waits : Role P -> Prop
  | .starter .begun => True
  | .pump _ .starting => True
  | .pump _ .doneKnown => True
  | .pump _ (.top true) => True
  | _ => False

/-- The ready channel holds a token, or a completion is under way that will signal. -/
def Signalled (s : Shared P) (view : Nat -> Option (Label P)) : Prop :=
  s.readyForDispatch = true ∨ ∃ tid label, view tid = some label ∧ label.debt ≠ .none

/-- A token is in a channel or on its way. -/
def Tokened (s : Shared P) (view : Nat -> Option (Label P)) : Prop :=
  (s.channels s.gen).token = true ∨ s.readyForDispatch = true ∨
    ∃ tid label, view tid = some label ∧ label.promising

/-- The pump has nothing to do, or a token is on its way. -/
def Answered (s : Shared P) (view : Nat -> Option (Label P)) : Prop :=
  s.running = false ∨ s.paused = true ∨ s.requestQueue.elements = [] ∨
    s.pendingRequestState.requestID ≠ "" ∨ Tokened s view

/-- Somebody is the pump with its ready flag set, or will be. -/
def Waiting (s : Shared P) (view : Nat -> Option (Label P)) : Prop :=
  s.launched = 1 ∨ ∃ tid label, view tid = some label ∧ label.role.waits

/-- What the pump relies on in a phase.  Without its ready flag it relies on the pending
request, whose completion will signal; with the front in its hands, on finding it there
again. -/
def RelyAt (s : Shared P) (view : Nat -> Option (Label P)) : Phase P -> Prop
  | .peeked front => front.uniqueId ≠ "" ∧
      (s.requestQueue.elements.head? = some front ∨ Signalled s view)
  | .dropping front => s.requestQueue.elements.head? = some front ∨ Signalled s view
  | .added _ | .written | .stale | .silenced | .top false | .awake false _ =>
    s.pendingRequestState.requestID ≠ "" ∨ Signalled s view
  | _ => True

structure WakeUp (s : Shared P) (view : Nat -> Option (Label P)) : Prop where
  past : ∀ entry, entry ∈ s.hist.pushed -> entry.gen ≤ s.gen
  present : s.hist.queueAtStart = [] -> ∀ entry, entry ∈ s.requestQueue.elements ->
    entry ∈ s.hist.pushed ∧ entry.gen = s.gen
  waits : CleanGeneration s -> Waiting s view -> Answered s view
  stages : CleanGeneration s -> ∀ tid label gen phase, view tid = some label ->
    label.role = .pump gen phase -> RelyAt s view phase

/-! ## What a step keeps -/

variable {pre after : Shared P} {view view' : Nat -> Option (Label P)} {tid : Nat}
  {label onward : Label P} {choice : Choice} {op : Op P} {ans : Res P op}

theorem eq_of_labelled {label' : Label P} (tagged : view tid = some label)
    (known : view tid = some label') : label' = label := by
  rw [tagged] at known
  exact (Option.some.inj known).symm

/-- What the pump relies on is still there, or a signal is on its way instead. -/
structure Keeps (pre : Shared P) (view : Nat -> Option (Label P)) (after : Shared P)
    (view' : Nat -> Option (Label P)) : Prop where
  signal : Signalled pre view -> Signalled after view'
  pending : pre.pendingRequestState.requestID ≠ "" ->
    after.pendingRequestState.requestID ≠ "" ∨ Signalled after view'
  front : ∀ front, pre.requestQueue.elements.head? = some front ->
    after.requestQueue.elements.head? = some front ∨ Signalled after view'

theorem Keeps.of_signalled (signalled : Signalled after view') : Keeps pre view after view' :=
  ⟨fun _ => signalled, fun _ => .inr signalled, fun _ _ => .inr signalled⟩

variable {phase : Phase P}

theorem Keeps.rely (keeps : Keeps pre view after view') (rely : RelyAt pre view phase) :
    RelyAt after view' phase := by
  have covered (held : pre.pendingRequestState.requestID ≠ "" ∨ Signalled pre view) :
      after.pendingRequestState.requestID ≠ "" ∨ Signalled after view' :=
    held.elim keeps.pending fun signalled => .inr (keeps.signal signalled)
  have facing {front : Entry P}
      (held : pre.requestQueue.elements.head? = some front ∨ Signalled pre view) :
      after.requestQueue.elements.head? = some front ∨ Signalled after view' :=
    held.elim (keeps.front front) fun signalled => .inr (keeps.signal signalled)
  cases phase with
  | peeked front => exact ⟨rely.1, facing rely.2⟩
  | dropping front => exact facing rely
  | added | written | stale | silenced => exact covered rely
  | top rdy =>
    cases rdy with
    | true => trivial
    | false => exact covered rely
  | awake rdy alarm =>
    cases rdy with
    | true => trivial
    | false => exact covered rely
  | _ => trivial

variable {content : Option (Label P)}

section

variable (ready : pre.readyForDispatch = true -> after.readyForDispatch = true)
include ready

/-- Relabelling a goroutine does not take back a signal. -/
theorem Signalled.update (signalled : Signalled pre view)
    (debt : ∀ label, view tid = some label -> label.debt ≠ .none ->
      ∃ onward, content = some onward ∧ onward.debt ≠ .none) :
    Signalled after (update view tid content) :=
  signalled.imp ready fun indebted => exists_of_update indebted debt

/-- A goroutine without a completion under way has no part in the signal. -/
theorem Signalled.paid (signalled : Signalled pre view) (tagged : view tid = some label)
    (paid : label.debt = .none) : Signalled after (Function.update view tid content) :=
  signalled.update ready fun _ known indebted =>
    absurd (eq_of_labelled tagged known ▸ paid) indebted

theorem Tokened.update (tokened : Tokened pre view)
    (token : (pre.channels pre.gen).token = true ->
      (after.channels after.gen).token = true)
    (promise : ∀ label, view tid = some label -> label.promising ->
      ∃ onward, content = some onward ∧ onward.promising) :
    Tokened after (update view tid content) :=
  tokened.imp token (Or.imp ready fun promising => exists_of_update promising promise)

end

theorem Signalled.tokened (signalled : Signalled pre view) : Tokened pre view := by
  rcases signalled with ready | ⟨other, label', tagged, indebted⟩
  · exact .inr (.inl ready)
  · exact .inr (.inr ⟨other, label', tagged, .inl indebted⟩)

theorem tokened_of_promising (promising : onward.promising) :
    Tokened after (update view tid (some onward)) :=
  .inr (.inr ⟨tid, onward, update_self .., promising⟩)

theorem Tokened.answered (tokened : Tokened pre view) : Answered pre view :=
  .inr (.inr (.inr (.inr tokened)))

/-- The entries of the queue are still those that were pushed in the generation. -/
structure KeepsOn (pre after : Shared P) : Prop where
  past : ∀ entry, entry ∈ after.hist.pushed -> entry.gen ≤ after.gen
  present : after.hist.queueAtStart = [] -> ∀ entry, entry ∈ after.requestQueue.elements ->
    entry ∈ after.hist.pushed ∧ entry.gen = after.gen
  clean : CleanGeneration after -> CleanGeneration pre

/-- A step after which the tokens and the descriptions are known. -/
theorem WakeUp.change (wake : WakeUp pre view) (continues : KeepsOn pre after)
    (keeps : Keeps pre view after (update view tid content))
    (waits : CleanGeneration after -> Waiting after (update view tid content) ->
      Answered after (update view tid content))
    (own : CleanGeneration after -> ∀ onward gen phase, content = some onward ->
      onward.role = .pump gen phase -> RelyAt after (update view tid content) phase) :
    WakeUp after (update view tid content) where
  past := continues.past
  present := continues.present
  waits := waits
  stages := by
    intro cleanly other label' gen phase tagged pumps
    rcases tagged_of_update tagged with ⟨_, known⟩ | ⟨_, known⟩
    · exact own cleanly label' gen phase known pumps
    · exact keeps.rely
        (wake.stages (continues.clean cleanly) other label' gen phase known pumps)

variable {role : Role P}

theorem active_of_waits (waits : role.waits) : role.station.active = true := by
  cases role with
  | starter stage =>
    cases stage with
    | begun => rfl
    | _ => cases waits
  | pump gen phase =>
    cases phase with
    | starting | doneKnown | top _ => rfl
    | _ => cases waits
  | _ => cases waits

/-- Whoever waits afterwards waited before, or is the goroutine that moved. -/
theorem waiting_of_update (launched : after.launched = pre.launched)
    (waiting : Waiting after (update view tid content)) :
    Waiting pre view ∨ ∃ onward, content = some onward ∧ onward.role.waits := by
  rcases waiting with soon | ⟨other, label', tagged, waits⟩
  · exact .inl (.inl (launched ▸ soon))
  · rcases tagged_of_update tagged with ⟨_, known⟩ | ⟨_, known⟩
    · exact .inr ⟨label', known, waits⟩
    · exact .inl (.inr ⟨other, label', known, waits⟩)

variable {gen : Nat}

/-- While the pump is at work, nobody else waits. -/
theorem not_waiting_of_pump (alive : Lifecycle (life pre) (stations view))
    (tagged : view tid = some label) (pumps : label.role = .pump gen phase)
    (working : phase ≠ .finished) (launched : after.launched = pre.launched)
    (awake : ∀ onward, content = some onward -> ¬ onward.role.waits) :
    ¬ Waiting after (update view tid content) := by
  have active : (stations view tid).active = true := by
    rw [stations_some tagged, pumps]
    cases phase <;> simp_all [Role.station, Station.active]
  rintro (soon | ⟨other, label', tagged', waits⟩)
  · have inactive := alive.exclusive (show pre.launched = 1 from launched ▸ soon) tid
    rw [active] at inactive
    cases inactive
  · rcases tagged_of_update tagged' with ⟨_, known⟩ | ⟨apart, known⟩
    · exact awake label' known waits
    · have active' : (stations view other).active = true := by
        rw [stations_some known]
        exact active_of_waits waits
      exact apart (alive.unique other tid active' active)

/-! ## Steps that leave tokens and queue alone -/

/-- Nothing that decides whether the pump has to be woken has changed. -/
structure SameScene (pre after : Shared P) : Prop where
  queue : after.requestQueue.elements = pre.requestQueue.elements
  pending : after.pendingRequestState.requestID = pre.pendingRequestState.requestID
  ready : after.readyForDispatch = pre.readyForDispatch
  running : after.running = pre.running
  paused : after.paused = pre.paused
  channels : after.channels = pre.channels
  gen : after.gen = pre.gen
  pushed : after.hist.pushed = pre.hist.pushed
  queueAtStart : after.hist.queueAtStart = pre.hist.queueAtStart

theorem SameScene.clean (same : SameScene pre after) :
    CleanGeneration after <-> CleanGeneration pre := by
  unfold CleanGeneration
  rw [same.queueAtStart, same.pushed, same.gen]

theorem SameScene.continues (same : SameScene pre after) (wake : WakeUp pre view) :
    KeepsOn pre after := by
  refine ⟨?_, ?_, same.clean.mp⟩
  · rw [same.pushed, same.gen]
    exact wake.past
  · rw [same.queueAtStart, same.queue, same.pushed, same.gen]
    exact wake.present

section

variable (wake : WakeUp pre view) (same : SameScene pre after)
  (launched : after.launched = pre.launched ∨ Waiting pre view)
include wake same launched

/-- A goroutine without a completion under way moves. -/
theorem WakeUp.still (paid : ∀ label, view tid = some label -> label.debt = .none)
    (promise : ∀ label, view tid = some label -> label.promising ->
      (∃ onward, content = some onward ∧ onward.promising) ∨ pre.running = false ∨
      pre.pendingRequestState.requestID ≠ "")
    (waits : CleanGeneration pre -> ∀ onward, content = some onward ->
      onward.role.waits -> Waiting pre view ∨ Answered pre (update view tid content))
    (own : CleanGeneration pre -> ∀ onward gen phase, content = some onward ->
      onward.role = .pump gen phase -> RelyAt pre view phase) :
    WakeUp after (update view tid content) := by
  have answer_same : Answered pre (update view tid content) ->
      Answered after (update view tid content) := by
    unfold Answered Tokened
    rw [same.running, same.paused, same.queue, same.pending, same.channels, same.gen,
      same.ready]
    exact id
  have keeps : Keeps pre view after (update view tid content) := by
    constructor
    · intro signalled
      apply signalled.update (by rw [same.ready]; exact id)
      intro label tagged indebted
      exact absurd (paid label tagged) indebted
    · rw [same.pending]
      exact .inl
    · rw [same.queue]
      exact fun _ head => .inl head
  have answered : Answered pre view ->
      Answered pre (update view tid content) := by
    rintro (stopped | paused | vacant | pending | tokened)
    · exact .inl stopped
    · exact .inr (.inl paused)
    · exact .inr (.inr (.inl vacant))
    · exact .inr (.inr (.inr (.inl pending)))
    · by_cases promised : ∃ label, view tid = some label ∧ label.promising
      · rcases promised with ⟨label, tagged, promising⟩
        rcases promise label tagged promising with ⟨onward, known, kept⟩ | stopped | pending
        · rw [known]
          exact (tokened_of_promising kept).answered
        · exact .inl stopped
        · exact .inr (.inr (.inr (.inl pending)))
      · refine (tokened.update id id ?_).answered
        intro label tagged promising
        exact absurd ⟨label, tagged, promising⟩ promised
  apply wake.change (same.continues wake) keeps
  · intro cleanly waiting
    apply answer_same
    rcases launched with launched | waited
    · rcases waiting_of_update launched waiting with waiting | ⟨onward, known, newly⟩
      · exact answered (wake.waits (same.clean.mp cleanly) waiting)
      · rcases waits (same.clean.mp cleanly) onward known newly with waiting | ans
        · exact answered (wake.waits (same.clean.mp cleanly) waiting)
        · exact ans
    · exact answered (wake.waits (same.clean.mp cleanly) waited)
  · intro cleanly onward gen phase known pumps
    exact keeps.rely (own (same.clean.mp cleanly) onward gen phase known pumps)

/-- A goroutine that promises nothing moves. -/
theorem WakeUp.silent (tagged : view tid = some label) (paid : label.debt = .none)
    (silent : ¬ label.promising)
    (waits : CleanGeneration pre -> onward.role.waits -> Waiting pre view ∨
      Answered pre (update view tid (some onward)))
    (own : CleanGeneration pre -> ∀ gen phase,
      onward.role = .pump gen phase -> RelyAt pre view phase) :
    WakeUp after (update view tid (some onward)) := by
  apply wake.still same launched
  · intro _ known
    exact eq_of_labelled tagged known ▸ paid
  · intro _ known promising
    exact absurd (eq_of_labelled tagged known ▸ promising) silent
  · rintro cleanly _ ⟨rfl⟩
    exact waits cleanly
  · rintro cleanly _ gen phase ⟨rfl⟩
    exact own cleanly gen phase

end

/-- The operations that touch neither tokens nor queue. -/
def idle : Op P -> Bool
  | .push _ _ | .popIf _ _ | .drainAll | .init | .addPendingRequest _ _
  | .deletePendingRequest _ _ | .clearPendingRequests | .assignStarted | .assignStopped
  | .goMessagePump | .sendRequestChannel | .signalReady _ | .select _ _ | .setPaused _ => false
  | _ => true

theorem scene_of_execute (exec : execute tid op choice pre = some (ans, after))
    (idles : idle op = true) :
    SameScene pre after ∧ after.launched = pre.launched := by
  cases op with
  | push | popIf | drainAll | init | addPendingRequest | deletePendingRequest
  | clearPendingRequests | assignStarted | assignStopped | goMessagePump | sendRequestChannel
  | signalReady | select | setPaused => cases idles
  | _ =>
    simp only [execute, map_eq_some_iff, bind_eq_some_iff, bind] at exec
    refine ⟨?_, ?_⟩
    · constructor <;> grind
    · grind

theorem debt_of_idle (idles : idle op = true) : Debt.after op ans = .none := by
  cases op with
  | popIf => cases idles
  | _ => rfl

section

variable (wake : WakeUp pre view)
include wake

/-- A caller that touches neither tokens nor queue. -/
theorem WakeUp.callerIdles {onward : Role P} (tagged : view tid = some ⟨role, .none⟩)
    (step : CallerStep role op ans onward)
    (exec : execute tid op choice pre = some (ans, after))
    (idles : idle op = true) :
    WakeUp after (update view tid (some ⟨onward, .none⟩)) := by
  rcases scene_of_execute exec idles with ⟨same, launched⟩
  apply wake.still same (.inl launched)
  · intro label known
    rw [eq_of_labelled tagged known]
  · intro label known promising
    rw [eq_of_labelled tagged known] at promising
    rcases promising with owing | sending | resumed | signalling
    · exact absurd rfl owing
    · subst sending
      cases step with
      | runningAtSend running =>
        cases exec
        cases running : pre.running with
        | true => exact .inl ⟨_, rfl, .inr (.inl rfl)⟩
        | false => exact .inr (.inl rfl)
      | sendRequestChannel => cases idles
      | timer _ _ _ pausing => rcases pausing with never | never <;> cases never
      | other => exact .inl ⟨_, rfl, .inr (.inl rfl)⟩
    · subst resumed
      cases step with
      | pendingAtResume pending =>
        cases exec
        cases pending : pre.pendingRequestState.hasPendingRequest with
        | true => exact .inr (.inr (of_decide_eq_true pending))
        | false => exact .inl ⟨_, rfl, .inr (.inr (.inr rfl))⟩
      | timer _ _ _ pausing => rcases pausing with never | never <;> cases never
      | other => exact .inl ⟨_, rfl, .inr (.inr (.inl rfl))⟩
    · subst signalling
      cases step with
      | signals => cases idles
      | timer _ _ _ pausing => rcases pausing with never | never <;> cases never
      | other => exact .inl ⟨_, rfl, .inr (.inr (.inr rfl))⟩
  · rintro _ _ ⟨rfl⟩ waits
    left
    cases step with
    | assignStarted | goMessagePump => cases idles
    | timer | other => exact .inr ⟨tid, _, tagged, waits⟩
    | _ => cases waits
  · rintro cleanly _ gen phase ⟨rfl⟩ pumps
    exact wake.stages cleanly tid _ gen phase tagged (step.of_pump pumps)

/-- In a clean generation, the front of the queue can be dispatched. -/
theorem WakeUp.front (cleanly : CleanGeneration pre) {front : Entry P}
    (head : pre.requestQueue.elements.head? = some front) :
    front.bundle.WellFormed ∧ front.uniqueId ≠ "" := by
  rcases wake.present cleanly.1 front (mem_of_mem_head? head) with ⟨pushed, current⟩
  exact cleanly.2 front pushed current

/-- The pump touches neither tokens nor queue. -/
theorem WakeUp.pumpIdles {onward : Phase P}
    (tagged : view tid = some ⟨.pump gen phase, .none⟩)
    (step : PumpStep gen phase op ans onward)
    (exec : execute tid op choice pre = some (ans, after))
    (idles : idle op = true) :
    WakeUp after (update view tid (some ⟨.pump gen onward, .none⟩)) := by
  rcases scene_of_execute exec idles with ⟨same, launched⟩
  have waited (waits : (Role.pump gen phase : Role P).waits) : Waiting pre view :=
    .inr ⟨tid, _, tagged, waits⟩
  apply wake.silent same (.inl launched) tagged rfl (by simp [Label.promising])
  · intro cleanly waits
    cases step with
    | select | popAtTick | popAtCancel | popAtDrop | popAtFailure => cases idles
    | readDoneC => exact .inl (waited trivial)
    | readRequestChannel => exact .inl (waited trivial)
    | isPaused rdy paused =>
      cases exec
      right
      cases paused : pre.paused with
      | true => exact .inr (.inl paused)
      | false => cases rdy <;> simp [paused, Role.waits] at waits
    | isEmpty vacant =>
      cases exec
      right
      cases vacant : pre.requestQueue.isEmpty with
      | true => exact .inr (.inr (.inl (isEmpty_iff.mp vacant)))
      | false => simp [vacant, Role.waits] at waits
    | pendingAtDispatch pending =>
      cases exec
      right
      cases pending : pre.pendingRequestState.hasPendingRequest with
      | true => exact .inr (.inr (.inr (.inl (of_decide_eq_true pending))))
      | false => simp [pending, Role.waits] at waits
    | peekAtDispatch front =>
      right
      simp only [execute, FIFOClientQueue.peek] at exec
      split at exec
      · rename_i first head
        cases exec
        simp [Phase.read, (wake.front cleanly head).1, Role.waits] at waits
      · rename_i vacant
        cases exec
        exact .inr (.inr (.inl (head?_eq_none_iff.mp vacant)))
    | timerStop active => cases active <;> cases waits
    | contextLate phase rdy context err late => exact .inl (waited waits)
    | other phase op ans unrelated => exact .inl (waited waits)
    | _ => cases waits
  · rintro cleanly _ _ ⟨rfl⟩
    have rely := wake.stages cleanly tid _ gen phase tagged rfl
    cases step with
    | select | popAtTick | popAtCancel | popAtDrop | popAtFailure | addPendingRequest | drainAll
    | clearPendingRequests | init => cases idles
    | pendingAtTick rdy pending => cases rdy <;> exact rely
    | peekAtTick rdy front => exact rely
    | resetAtTick rdy alarm duration sounded => cases rdy <;> exact rely
    | isPaused rdy paused => cases rdy <;> cases paused <;> exact rely
    | isEmpty vacant => cases vacant <;> trivial
    | pendingAtDispatch pending => cases pending <;> trivial
    | peekAtDispatch front =>
      simp only [execute, FIFOClientQueue.peek] at exec
      split at exec
      · rename_i first head
        cases exec
        simp only [Phase.read, (wake.front cleanly head).1, if_true]
        exact ⟨(wake.front cleanly head).2, .inl head⟩
      · cases exec
        trivial
    | contextAlive front context => exact rely
    | contextEnded front context err => exact rely.2
    | contextLate phase rdy context err late => exact rely
    | write front data failure => exact rely
    | timerStop active => cases active <;> exact rely
    | timerDrain => exact rely
    | timerReset duration => exact rely
    | other phase op ans unrelated => exact rely
    | _ => trivial

end

theorem rely_of_signalled (signalled : Signalled after view)
    (named : ∀ front, phase = .peeked front -> front.uniqueId ≠ "") :
    RelyAt after view phase := by
  cases phase with
  | peeked front => exact ⟨named front rfl, .inr signalled⟩
  | dropping front => exact .inr signalled
  | added | written | stale | silenced => exact .inr signalled
  | top rdy => cases rdy <;> first | trivial | exact .inr signalled
  | awake rdy alarm => cases rdy <;> first | trivial | exact .inr signalled
  | _ => trivial

/-- The goroutine itself has a completion under way. -/
theorem signalled_of_debt (indebted : onward.debt ≠ .none) :
    Signalled after (update view tid (some onward)) :=
  .inr ⟨tid, onward, update_self .., indebted⟩

variable {requestId : String} {queue : FIFOClientQueue (Entry P)}

section

variable (wake : WakeUp pre view)
include wake

theorem WakeUp.signalled (continues : KeepsOn pre after)
    (signalled : Signalled after (update view tid content))
    (named : CleanGeneration pre ->
      ∀ onward gen front, content = some onward ->
      onward.role = .pump gen (.peeked front) -> front.uniqueId ≠ "") :
    WakeUp after (update view tid content) := by
  apply wake.change continues (.of_signalled signalled)
  · intro _ _
    exact signalled.tokened.answered
  · intro cleanly onward gen phase known pumps
    apply rely_of_signalled signalled
    rintro front rfl
    exact named (continues.clean cleanly) onward gen front known pumps

theorem WakeUp.clears {front : Entry P} (tagged : view tid = some ⟨role, .popped front⟩) :
    WakeUp { pre with pendingRequestState :=
        pre.pendingRequestState.deletePendingRequest front.uniqueId }
      (update view tid (some ⟨role, .deleted⟩)) := by
  refine wake.signalled ⟨wake.past, wake.present, id⟩ (signalled_of_debt (by simp)) ?_
  rintro cleanly _ gen first ⟨rfl⟩ pumps
  exact (wake.stages cleanly tid _ gen _ tagged pumps).1

/-- A token is put into the ready channel, or one is there already. -/
theorem WakeUp.signals (tagged : view tid = some label)
    (stays : ∀ gen front, onward.role = .pump gen (.peeked front) ->
      label.role = .pump gen (.peeked front)) :
    WakeUp { pre with readyForDispatch := true }
      (update view tid (some onward)) := by
  refine wake.signalled ⟨wake.past, wake.present, id⟩ (.inl rfl) ?_
  rintro cleanly _ gen front ⟨rfl⟩ pumps
  exact (wake.stages cleanly tid _ gen _ tagged (stays gen front pumps)).1

/-- `PopIf` that finds its request. -/
theorem WakeUp.pops {front : Entry P} {hist : History P}
    (found : pre.requestQueue.elements = front :: queue.elements)
    (pushed : hist.pushed = pre.hist.pushed)
    (queueAtStart : hist.queueAtStart = pre.hist.queueAtStart)
    (elsewhere : ∀ gen first, role ≠ .pump gen (.peeked first)) :
    WakeUp { pre with requestQueue := queue, hist := hist }
      (update view tid (some ⟨role, .popped front⟩)) := by
  refine wake.signalled ⟨?_, ?_, ?_⟩ (signalled_of_debt (by simp)) ?_
  · show ∀ entry, entry ∈ hist.pushed -> _
    rw [pushed]
    exact wake.past
  · show hist.queueAtStart = [] -> ∀ entry, entry ∈ queue.elements ->
      entry ∈ hist.pushed ∧ _
    rw [pushed, queueAtStart]
    intro cleanly entry mem
    exact wake.present cleanly entry (by rw [found]; exact mem_cons_of_mem _ mem)
  · rintro ⟨started, wellFormed⟩
    exact ⟨queueAtStart ▸ started, fun entry mem => wellFormed entry (pushed.symm ▸ mem)⟩
  · rintro _ _ gen first ⟨rfl⟩ pumps
    exact absurd pumps (elsewhere gen first)

theorem WakeUp.pushes {num : Nat} {bundle : RequestBundle P} {accepted : Bool}
    (tagged : view tid = some ⟨.sender false, .none⟩)
    (exec : execute tid (.push num bundle) choice pre = some (accepted, after)) :
    WakeUp after (update view tid (some ⟨.sender accepted, .none⟩)) := by
  simp only [execute] at exec
  split at exec
  · rename_i queue pushed
    cases exec
    have grown := (FIFOClientQueue.push_eq_some pushed).1
    refine wake.change ⟨?_, ?_, ?_⟩ ?_ ?_ ?_
    · intro entry mem
      rcases mem_append.mp mem with old | new
      · exact wake.past entry old
      · obtain rfl := mem_singleton.mp new
        exact Nat.le_refl _
    · intro started entry mem
      have member' : entry ∈ queue.elements := mem
      rw [grown] at member'
      rcases mem_append.mp member' with old | new
      · exact ⟨mem_append_left _ (wake.present started entry old).1,
          (wake.present started entry old).2⟩
      · rw [mem_singleton.mp new]
        exact ⟨mem_append_right _ (mem_singleton_self _), rfl⟩
    · rintro ⟨started, wellFormed⟩
      exact ⟨started, fun entry mem => wellFormed entry (mem_append_left _ mem)⟩
    · refine ⟨fun signalled => signalled.paid id tagged rfl, .inl, fun front head => ?_⟩
      left
      show queue.elements.head? = some front
      rw [grown, head?_append, head]
      rfl
    · intro _ _
      exact (tokened_of_promising (.inr (.inl rfl))).answered
    · rintro _ _ gen phase ⟨rfl⟩ never
      cases never
  · cases exec
    exact wake.silent ⟨rfl, rfl, rfl, rfl, rfl, rfl, rfl, rfl, rfl⟩ (.inl rfl) tagged rfl
      (by simp [Label.promising]) (fun _ waits => waits.elim) (by simp)

/-- The token of a sender goes into the channel of the generation. -/
theorem WakeUp.sends (alive : Lifecycle (life pre) (stations view))
    (tagged : view tid = some ⟨.sender true, .none⟩)
    (exec : execute tid .sendRequestChannel choice pre = some ((), after)) :
    WakeUp after (update view tid (some ⟨.sender false, .none⟩)) := by
  simp only [execute, bind_eq_some_iff, bind] at exec
  rcases exec with ⟨channel, known, sent⟩
  split at sent
  · cases sent
  · cases sent
    have current : channel = pre.gen := by
      rcases alive.channel with forgotten | current
      · have never : pre.requestChannel = none := forgotten
        rw [known] at never
        cases never
      · have named : pre.requestChannel = some pre.gen := current
        rw [known] at named
        exact Option.some.inj named
    subst current
    refine wake.change ⟨wake.past, wake.present, id⟩ ⟨fun signalled =>
      signalled.paid id tagged rfl, .inl, fun _ head => .inl head⟩ ?_ ?_
    · intro _ _
      exact Tokened.answered (.inl (by simp))
    · rintro _ _ gen phase ⟨rfl⟩ never
      cases never

/-- A goroutine that owes nothing moves while the dispatcher is stopped or paused, or
promises a token itself. -/
theorem WakeUp.answers (tagged : view tid = some label) (paid : label.debt = .none)
    (queue : after.requestQueue = pre.requestQueue)
    (pending : after.pendingRequestState = pre.pendingRequestState)
    (ready : after.readyForDispatch = pre.readyForDispatch)
    (gen : after.gen = pre.gen) (hist : after.hist = pre.hist)
    (caller : ∀ gen phase, onward.role ≠ .pump gen phase)
    (answered : after.running = false ∨ after.paused = true ∨ onward.promising) :
    WakeUp after (update view tid (some onward)) := by
  refine wake.change ⟨?_, ?_, ?_⟩ ?_ ?_ ?_
  · rw [hist, gen]
    exact wake.past
  · rw [hist, queue, gen]
    exact wake.present
  · unfold CleanGeneration
    rw [hist, gen]
    exact id
  · exact ⟨fun signalled => signalled.paid (by rw [ready]; exact id) tagged paid,
      by rw [pending]; exact .inl, by rw [queue]; exact fun _ => .inl⟩
  · intro _ _
    rcases answered with stopped | paused | promising
    · exact .inl stopped
    · exact .inr (.inl paused)
    · exact (tokened_of_promising promising).answered
  · rintro _ _ gen phase ⟨rfl⟩ pumps
    exact absurd pumps (caller gen phase)

/-- A new generation waits for the first push. -/
theorem WakeUp.starts (alive : Lifecycle (life pre) (stations view))
    (tagged : view tid = some ⟨.starter .pre, .none⟩)
    (exec : execute tid .assignStarted choice pre = some ((), after)) :
    WakeUp after (update view tid (some ⟨.starter .begun, .none⟩)) := by
  have asleep := (alive.pre tid (stations_some tagged)).2
  cases exec
  refine ⟨?_, ?_, ?_, ?_⟩
  · intro entry mem
    exact Nat.le_succ_of_le (wake.past entry mem)
  · intro started entry mem
    have vacant : pre.requestQueue.elements = [] := started
    have inside : entry ∈ pre.requestQueue.elements := mem
    rw [vacant] at inside
    cases inside
  · rintro ⟨started, _⟩ _
    exact .inr (.inr (.inl started))
  · intro _ other label' gen phase tagged' pumps
    have finished : phase = .finished := by
      rcases tagged_of_update tagged' with ⟨_, ⟨⟩⟩ | ⟨_, known⟩
      · cases pumps
      · have inactive := asleep.2 other
        rw [stations_some known, pumps] at inactive
        cases phase <;> simp_all [Role.station, Station.active]
    rw [finished]
    trivial

theorem WakeUp.launches (tagged : view tid = some ⟨.starter .begun, .none⟩)
    (exec : execute tid .goMessagePump choice pre = some ((), after)) :
    WakeUp after (update view tid (some ⟨.starter .launched, .none⟩)) := by
  have waiting : Waiting pre view := .inr ⟨tid, _, tagged, trivial⟩
  cases exec
  exact wake.silent ⟨rfl, rfl, rfl, rfl, rfl, rfl, rfl, rfl, rfl⟩ (.inr waiting) tagged rfl
    (by simp [Label.promising]) (fun _ waits => waits.elim) nofun

/-! ## The pump -/

/-- The pump moves to a phase in which it does not wait. -/
theorem WakeUp.works (alive : Lifecycle (life pre) (stations view)) {onward : Phase P}
    (tagged : view tid = some ⟨.pump gen phase, .none⟩) (working : phase ≠ .finished)
    (awake : ¬ (Role.pump gen onward : Role P).waits)
    (launched : after.launched = pre.launched) (continues : KeepsOn pre after)
    (own : CleanGeneration pre -> RelyAt pre view phase ->
      RelyAt after (update view tid (some ⟨.pump gen onward, .none⟩)) onward) :
    WakeUp after (update view tid (some ⟨.pump gen onward, .none⟩)) := by
  refine ⟨continues.past, continues.present, ?_, ?_⟩
  · intro _ waiting
    refine absurd waiting (not_waiting_of_pump alive tagged rfl working launched ?_)
    rintro _ ⟨rfl⟩
    exact awake
  · intro cleanly other label' generation' phase' tagged' pumps'
    rcases tagged_of_update tagged' with ⟨_, ⟨⟩⟩ | ⟨apart, known⟩
    · cases pumps'
      have cleanly := continues.clean cleanly
      exact own cleanly (wake.stages cleanly tid _ _ _ tagged rfl)
    · rw [finished_of_other_pump alive tagged rfl working known pumps' apart]
      trivial

theorem WakeUp.select (alive : Lifecycle (life pre) (stations view)) {rdy : Bool}
    {pendingDone : Option Nat} {selected : Selected}
    (tagged : view tid = some ⟨.pump gen (.top rdy), .none⟩)
    (exec : execute tid (.select (some gen) pendingDone) choice pre =
      some (selected, after)) :
    WakeUp after (update view tid
      (some ⟨.pump gen (Phase.selected (.top rdy) selected), .none⟩)) := by
  have awake : ¬ (Role.pump gen (Phase.selected (.top rdy) selected) : Role P).waits := by
    cases selected <;> exact id
  -- without the ready flag, the pump goes on relying on the pending request
  have own (notReady : selected ≠ .ready)
      (ready : after.readyForDispatch = pre.readyForDispatch)
      (pending : after.pendingRequestState = pre.pendingRequestState)
      (rely : RelyAt pre view (.top rdy)) :
      RelyAt after (update view tid
        (some ⟨.pump gen (Phase.selected (.top rdy) selected), .none⟩))
        (Phase.selected (.top rdy) selected) := by
    have covered (held : pre.pendingRequestState.requestID ≠ "" ∨ Signalled pre view) :
        after.pendingRequestState.requestID ≠ "" ∨ Signalled after (update view tid
          (some ⟨.pump gen (Phase.selected (.top rdy) selected), .none⟩)) := by
      rw [pending]
      exact held.imp id fun signalled => signalled.paid (by rw [ready]; exact id) tagged rfl
    cases rdy with
    | true => cases selected <;> trivial
    | false =>
      cases selected with
      | ready => exact absurd rfl notReady
      | closed => trivial
      | _ => exact covered rely
  rcases execute_select exec with ⟨_, _, _, received, rfl⟩ | ⟨_, _, _, _, rfl, rfl⟩ |
    ⟨_, rfl, rfl⟩ | ⟨_, _, _, _, rfl, rfl⟩
  · have notReady : selected ≠ .ready := by
      rcases RequestChannel.receive_cases received with ⟨_, rfl, _⟩ | ⟨_, _, rfl, _⟩
      · decide
      · decide
    exact wake.works alive tagged (by simp) awake rfl ⟨wake.past, wake.present, id⟩
      (fun _ => own notReady rfl rfl)
  · exact wake.works alive tagged (by simp) awake rfl ⟨wake.past, wake.present, id⟩
      (fun _ => own (by decide) rfl rfl)
  · exact wake.works alive tagged (by simp) awake rfl ⟨wake.past, wake.present, id⟩
      (fun _ _ => trivial)
  · exact wake.works alive tagged (by simp) awake rfl ⟨wake.past, wake.present, id⟩
      (fun _ => own (by decide) rfl rfl)

variable {site : Site} {popped : Option (Entry P)}
  (exec : execute tid (.popIf site requestId) choice pre = some (popped, after))
include exec

/-- `PopIf`, by the pump or by the goroutine of the connection. -/
theorem WakeUp.popIf {onward : Role P} (tagged : view tid = some ⟨role, .none⟩)
    (caller : role ≠ .sender true ∧ ∀ stage, role ≠ .resumer stage)
    (elsewhere : ∀ gen first, onward ≠ .pump gen (.peeked first))
    (missed : CleanGeneration pre ->
      pre.requestQueue.popIf (Entry.isRequest requestId) = none ->
      (onward.waits -> Waiting pre view ∨ Signalled pre view) ∧
      ∀ gen phase, onward = .pump gen phase -> RelyAt pre view phase) :
    WakeUp after (update view tid
      (some ⟨onward, Debt.after (.popIf site requestId) popped⟩)) := by
  simp only [execute] at exec
  split at exec
  · rename_i front rest found
    cases exec
    exact wake.pops (FIFOClientQueue.popIf_eq_some found).1 rfl rfl elsewhere
  · rename_i notFound
    cases exec
    refine wake.silent ⟨rfl, rfl, rfl, rfl, rfl, rfl, rfl, rfl, rfl⟩ (.inl rfl) tagged rfl ?_ ?_ ?_
    · rintro (owing | sending | resumed | signalling)
      · exact absurd rfl owing
      · exact absurd sending caller.1
      · exact absurd resumed (caller.2 _)
      · exact absurd signalling (caller.2 _)
    · intro cleanly waits
      refine ((missed cleanly notFound).1 waits).imp id fun signalled => ?_
      exact (signalled.paid id tagged rfl).tokened.answered
    · intro cleanly gen phase pumps
      exact (missed cleanly notFound).2 gen phase pumps

/-- `PopIf` by the pump, which does not leave its phase. -/
theorem WakeUp.popIf_same (tagged : view tid = some ⟨.pump gen phase, .none⟩)
    (elsewhere : ∀ first, phase ≠ .peeked first)
    (awake : ¬ (Role.pump gen phase : Role P).waits) :
    WakeUp after (update view tid
      (some ⟨.pump gen phase, Debt.after (.popIf site requestId) popped⟩)) := by
  apply wake.popIf exec tagged
  · exact ⟨by simp, by simp⟩
  · rintro _ first ⟨rfl⟩
    exact elsewhere first rfl
  · intro cleanly _
    refine ⟨fun waits => absurd waits awake, ?_⟩
    rintro _ _ ⟨rfl⟩
    exact wake.stages cleanly tid _ _ _ tagged rfl

end

theorem not_front {front : Entry P} (missed : queue.popIf (Entry.isRequest requestId) = none)
    (matched : front.isRequest requestId = true) : ¬ queue.elements.head? = some front := by
  intro head
  have unmatched := FIFOClientQueue.popIf_eq_none missed front head
  rw [matched] at unmatched
  cases unmatched

section

variable (alive : Lifecycle (life pre) (stations view)) (wake : WakeUp pre view)
include alive wake

/-- One operation of a goroutine. -/
theorem execute_wakeUp (tagged : view tid = some label)
    (move : Move label op ans onward)
    (exec : execute tid op choice pre = some (ans, after)) :
    WakeUp after (update view tid (some onward)) := by
  cases move with
  | clears role site front =>
    cases exec
    exact wake.clears tagged
  | signals role site =>
    cases exec
    exact wake.signals tagged fun _ _ pumps => pumps
  | caller step =>
    by_cases idles : idle op = true
    · rw [debt_of_idle idles]
      exact wake.callerIdles tagged step exec idles
    · cases step with
      | assignStarted => exact wake.starts alive tagged exec
      | goMessagePump => exact wake.launches tagged exec
      | assignStopped doneC =>
        simp only [execute, bind_eq_some_iff, bind] at exec
        rcases exec with ⟨channel, _, closes⟩
        split at closes
        · cases closes
        · cases closes
          refine wake.answers tagged rfl rfl rfl rfl rfl rfl ?_ ?_
          · simp
          · exact .inl rfl
      | pauses =>
        cases exec
        refine wake.answers tagged rfl rfl rfl rfl rfl rfl ?_ ?_
        · simp
        · exact .inr (.inl rfl)
      | resumes =>
        cases exec
        refine wake.answers tagged rfl rfl rfl rfl rfl rfl ?_ ?_
        · simp
        · exact .inr (.inr (.inr (.inr (.inl rfl))))
      | signals site =>
        cases exec
        exact wake.signals tagged (by simp)
      | push num bundle accepted => exact wake.pushes tagged exec
      | sendRequestChannel => exact wake.sends alive tagged exec
      | popInbound requestId popped =>
        apply wake.popIf exec tagged
        · exact ⟨by simp, by simp⟩
        · simp
        · intro _ _
          exact ⟨fun waits => waits.elim, by simp⟩
      | timer role op ans pausing timing =>
        cases op <;> first | exact absurd rfl idles | cases timing
      | other role op ans unrelated =>
        cases op <;> first | exact absurd rfl idles | cases unrelated
      | _ => exact absurd rfl idles
  | pump step =>
    by_cases idles : idle op = true
    · rw [debt_of_idle idles]
      exact wake.pumpIdles tagged step exec idles
    · cases step with
      | select rdy pendingDone selected => exact wake.select alive tagged exec
      | popAtTick rdy requestId popped => exact wake.popIf_same exec tagged (by simp) id
      | popAtCancel rdy requestId popped => exact wake.popIf_same exec tagged (by simp) id
      | popAtFailure requestId popped => exact wake.popIf_same exec tagged (by simp) id
      | popAtDrop front requestId popped matched =>
        apply wake.popIf exec tagged
        · exact ⟨by simp, by simp⟩
        · simp
        · intro cleanly missed
          refine ⟨fun _ => .inr ?_, ?_⟩
          · exact (wake.stages cleanly tid _ _ _ tagged rfl).resolve_left
              (not_front missed matched)
          · rintro _ _ ⟨rfl⟩
            trivial
      | addPendingRequest front req =>
        cases exec
        refine wake.works alive tagged (by simp) id rfl ⟨wake.past, wake.present, id⟩ ?_
        intro _ rely
        left
        show (pre.pendingRequestState.addPendingRequest front.uniqueId req).requestID ≠ ""
        rw [ClientState.addPendingRequest_requestID]
        split
        · exact rely.1
        · assumption
      | drainAll | init =>
        cases exec
        refine wake.works alive tagged (by simp) id rfl ⟨wake.past, ?_, id⟩ fun _ _ => trivial
        intro _ entry mem
        cases mem
      | clearPendingRequests =>
        cases exec
        exact wake.works alive tagged (by simp) id rfl ⟨wake.past, wake.present, id⟩
          (fun _ _ => trivial)
      | other phase op ans unrelated =>
        cases op <;> first | exact absurd rfl idles | cases unrelated
      | _ => exact absurd rfl idles

theorem enter_wakeUp {call : Routine P} (entered : enter call pre = some after)
    (new : view tid = none) :
    WakeUp after (update view tid (some (firstLabel pre call))) := by
  have same : SameScene pre after := by
    cases call <;> simp only [enter] at entered <;> grind [SameScene]
  -- the only new goroutine that waits is a pump, and `Start` has waited in its place
  have pumps : (firstLabel pre call).role.waits -> Waiting pre view := by
    intro waits
    rcases enter_cases entered with ⟨_, _, rfl, _, _⟩ | ⟨rfl, launched, _⟩ | ⟨other, _⟩
    · cases waits
    · have atMostOne : pre.launched ≤ 1 := alive.launched
      exact .inl (by omega)
    · cases call with
      | messagePump => exact absurd rfl other
      | pumpLoop => cases entered
      | _ => cases waits
  have launched : after.launched = pre.launched ∨ Waiting pre view := by
    rcases enter_cases entered with ⟨_, _, _, _, rfl⟩ | ⟨rfl, _, _⟩ | ⟨_, rfl⟩
    · exact .inl rfl
    · exact .inr (pumps trivial)
    · exact .inl rfl
  apply wake.still same launched
  · intro label known
    rw [new] at known
    cases known
  · intro label known
    rw [new] at known
    cases known
  · rintro _ _ ⟨rfl⟩ waits
    exact .inl (pumps waits)
  · rintro _ _ gen phase ⟨rfl⟩ isPump
    cases call with
    | messagePump =>
      cases isPump
      trivial
    | pumpLoop => cases entered
    | _ => cases isPump

end

/-- An event of the environment. -/
theorem WakeUp.unlabelled (wake : WakeUp pre view) (same : SameScene pre after)
    (launched : after.launched = pre.launched) : WakeUp after view := by
  have keeps : Keeps pre view after view := by
    refine ⟨?_, by rw [same.pending]; exact .inl, by rw [same.queue]; exact fun _ => .inl⟩
    unfold Signalled
    rw [same.ready]
    exact id
  refine ⟨(same.continues wake).past, (same.continues wake).present, ?_, ?_⟩
  · rw [same.clean]
    unfold Waiting Answered Tokened
    rw [launched, same.running, same.paused, same.queue, same.pending, same.channels,
      same.gen, same.ready]
    exact wake.waits
  · rw [same.clean]
    intro cleanly other label' gen phase tagged pumps
    exact keeps.rely (wake.stages cleanly other label' gen phase tagged pumps)

theorem finish_wakeUp (wake : WakeUp pre view) (tagged : view tid = some label)
    (left : leave label) : WakeUp pre (update view tid none) := by
  apply wake.still ⟨rfl, rfl, rfl, rfl, rfl, rfl, rfl, rfl, rfl⟩ (.inl rfl)
  · intro label' known
    rw [eq_of_labelled tagged known]
    exact left.1
  · intro label' known promising
    rw [eq_of_labelled tagged known] at promising
    rcases left with ⟨paid, role⟩
    rcases promising with owing | promising
    · exact absurd paid owing
    · rcases promising with sends | resumed | signalling <;> simp_all
  · intro _ onward never
    cases never
  · intro _ onward _ _ never
    cases never

end Phases

/-- `Start` is called only when the dispatcher is stopped and not next to `Stop` or
another `Start`. -/
@[reducible] def startDiscipline : Condition P where
  call := startsWhenStopped
  op _ _ _ := True

namespace Phases

theorem extends_wakeUp (capacity : Nat) :
    Extends startDiscipline (Shared.initial capacity) (WakeUp : Shared P -> _ -> Prop) where
  initially := by
    refine ⟨?_, ?_, ?_, ?_⟩
    · intro entry mem
      cases mem
    · intro _ entry mem
      cases mem
    · intro _ _
      exact .inl rfl
    · intro _ tid label gen phase tagged
      cases tagged
  enter := by
    intro config view tid call after alive wake _ entered new
    exact enter_wakeUp alive wake entered new
  occur := by
    intro pre view event after _ wake arose
    have same : SameScene pre after ∧ after.launched = pre.launched := by
      cases event <;> simp only [occur, bind_eq_some_iff, bind] at arose <;>
        grind [SameScene]
    exact wake.unlabelled same.1 same.2
  execute := by
    intro pre view tid label op choice ans after onward alive wake tagged move
      _ exec
    exact execute_wakeUp alive wake tagged move exec
  finish := by
    intro pre view tid label _ wake tagged left
    exact finish_wakeUp wake tagged left

end Phases

/-! ## The result -/

def Routine.sends : Routine P -> Bool
  | .sendRequest _ _ => true
  | _ => false

def Routine.pausing : Routine P -> Bool
  | .pause => true
  | .resume => true
  | _ => false

/-- No `Pause` or `Resume` is in progress. -/
def quietPausing (config : Configuration P) : Prop :=
  ∀ place, place ∈ config.threads -> ∀ content, content ∈ place ->
    content.call.pausing = false
  deriving Decidable

/-- The request channel at which a goroutine is parked in its select statement. -/
def parkedAt (config : Configuration P) (tid : Nat) : Option (Option Nat) :=
  match (config.thread? tid).bind (fun content => content.prog.next?) with
  | some (.select reqCh _) => some reqCh
  | _ => none

/-- The pump is parked although it could dispatch: the dispatcher is running and not
paused, a request is queued and none is pending. -/
@[mk_iff]
structure ParkedWithWork (config : Configuration P) (tid : Nat) (reqCh : Option Nat) : Prop where
  parked : parkedAt config tid = some reqCh
  running : config.shared.running = true
  unpaused : config.shared.paused = false
  quiet : quietPausing config
  queued : config.shared.requestQueue.elements ≠ []
  idle : config.shared.pendingRequestState.requestID = ""

/-- A sender that has pushed, or a goroutine that has popped, on its way to the token: what
comes next is the token itself or one of the statements before it, which are the lock and
the running check of `SendRequest` and the deletion of the pending request. -/
def bringsToken (content : Thread (Op P) (Res P) (Routine P)) : Bool :=
  match content.prog.next? with
  | some .rlock => content.call.sends
  | some .isRunning => content.call.sends
  | some .sendRequestChannel => true
  | some (.deletePendingRequest _ _) => true
  | some (.signalReady _) => true
  | _ => false

/-- A token lies in a channel of the pump, or is brought there. -/
def WokenUp (config : Configuration P) (reqCh : Option Nat) : Prop :=
  (∃ channel, channel ∈ reqCh ∧ (config.shared.channels channel).token = true) ∨
    config.shared.readyForDispatch = true ∨
    ∃ place, place ∈ config.threads ∧ ∃ content, content ∈ place ∧
      bringsToken content = true
  deriving Decidable

namespace Phases

variable {config : Configuration P}

theorem not_promising_of_continuation {onward : Option (Routine P)}
    (ended : cont entry leave onward label) : ¬ label.promising := by
  cases onward with
  | none =>
    rcases ended with ⟨paid, role⟩
    simp only [Label.promising]
    rcases role with role | role | role | role | role | role | ⟨gen, role⟩ <;>
      simp [paid, role]
  | some call =>
    cases call with
    | messagePump | pumpLoop =>
      have pumps : ∃ gen phase, label = ⟨.pump gen phase, .none⟩ := by
        simp only [cont, entry] at ended
        grind
      rcases pumps with ⟨gen, phase, rfl⟩
      simp [Label.promising]
    | _ =>
      have first : label = _ := ended
      simp [Label.promising, first]

theorem brings_of_allowed {op : Op P} {content : Thread (Op P) (Res P) (Routine P)}
    (next : content.prog.next? = some op) (legal : allowed op label)
    (fits : label.role.kind = kindOf content.call) (unrelated : content.call.pausing = false)
    (promising : label.promising) : bringsToken content = true := by
  rcases label with ⟨role, debt⟩
  cases debt with
  | popped front =>
    rcases legal with ⟨site, rfl⟩
    simp [bringsToken, next]
  | deleted =>
    rcases legal with ⟨site, rfl⟩
    simp [bringsToken, next]
  | none =>
    rcases promising with owing | sends | resumes
    · exact absurd rfl owing
    · have role' : role = .sender true := sends
      subst role'
      have sending : content.call.sends = true := by
        revert fits
        cases content.call <;> simp [Role.kind, kindOf, Routine.sends]
      have open' : senderAllows true op := legal
      cases op <;> simp_all [senderAllows, bringsToken]
    · have resuming : ∃ stage, role = .resumer stage := resumes.elim
        (fun role' => ⟨_, role'⟩) fun role' => ⟨_, role'⟩
      rcases resuming with ⟨stage, rfl⟩
      revert fits unrelated
      cases content.call <;> simp [Role.kind, kindOf, Routine.pausing]

section

variable {view : Nat -> Option (Label P)}
  (describes : Describes accord entry leave config view)
include describes

/-- A goroutine that owes a token is at one of the operations that bring it. -/
theorem brings_of_promising (quiet : quietPausing config) (tagged : view tid = some label)
    (promising : label.promising) :
    ∃ place, place ∈ config.threads ∧ ∃ content, content ∈ place ∧
      bringsToken content = true := by
  rcases describes.occupied tagged with ⟨content, found, obeys⟩
  refine ⟨some content, Config.mem_of_thread? found, content, rfl, ?_⟩
  have unrelated : content.call.pausing = false :=
    quiet _ (Config.mem_of_thread? found) content rfl
  cases shape : content.prog with
  | done value =>
    rw [shape] at obeys
    exact absurd promising (not_promising_of_continuation obeys.2)
  | act op resume =>
    have next : content.prog.next? = some op := by
      rw [shape]
      rfl
    exact brings_of_allowed next (obeys.allowed next) obeys.fits unrelated promising

theorem wokenUp_of_tokened (quiet : quietPausing config) (tokened : Tokened config.shared view) :
    WokenUp config (some config.shared.gen) := by
  rcases tokened with inChannel | ready | ⟨tid, label, tagged, promising⟩
  · exact .inl ⟨_, rfl, inChannel⟩
  · exact .inr (.inl ready)
  · exact .inr (.inr (brings_of_promising describes quiet tagged promising))

/-- Who is parked in the select statement is the pump of the present generation. -/
theorem pump_of_parkedAt
    (alive : Lifecycle (life config.shared) (stations view)) {reqCh : Option Nat}
    (parked : parkedAt config tid = some reqCh) :
    reqCh = some config.shared.gen ∧
      ∃ rdy, view tid = some ⟨.pump config.shared.gen (.top rdy), .none⟩ := by
  unfold parkedAt at parked
  split at parked
  · rename_i channel pendingDone next
    cases parked
    rcases bind_eq_some_iff.mp next with ⟨content, found, selects⟩
    rcases describes.tagged tid content found with ⟨⟨role, debt⟩, tagged, obeys⟩
    have legal : allowed (.select reqCh pendingDone) ⟨role, debt⟩ := obeys.allowed selects
    cases debt with
    | popped front =>
      rcases legal with ⟨_, never⟩
      cases never
    | deleted =>
      rcases legal with ⟨_, never⟩
      cases never
    | none =>
      cases role with
      | pump gen phase =>
        have stance : phase = .top phase.rdy ∧ reqCh = some gen := legal
        have place : stations view tid = .pumping gen false := by
          rw [stations_some tagged, stance.1]
          rfl
        have present : gen = config.shared.gen :=
          (alive.pumping tid gen false place).1
        subst present
        exact ⟨stance.2, phase.rdy, stance.1 ▸ tagged⟩
      | _ => cases legal
  · cases parked

end

end Phases

/-- No wake-up is lost: when the pump sleeps although it could dispatch, a token is in one of
its channels or on its way there. -/
theorem no_lost_wake_up (opts : Settings) (capacity : Nat) {config : Configuration P}
    (reached : (system opts).Reachable startDiscipline (Shared.initial capacity) config)
    (clean : CleanGeneration config.shared) {tid : Nat} {reqCh : Option Nat}
    (asleep : ParkedWithWork config tid reqCh) : WokenUp config reqCh := by
  rcases (Phases.extends_wakeUp capacity).reachable (fun _ _ admitted => admitted) reached with
    ⟨view, describes, alive, wake⟩
  rcases Phases.pump_of_parkedAt describes alive asleep.parked with ⟨rfl, rdy, tagged⟩
  apply Phases.wokenUp_of_tokened describes asleep.quiet
  cases rdy with
  | true =>
    -- with its flag set, the pump is owed a token for what is queued
    have answered := wake.waits clean (.inr ⟨tid, _, tagged, trivial⟩)
    rcases answered with stopped | paused | vacant | pending | tokened
    · rw [asleep.running] at stopped
      cases stopped
    · rw [asleep.unpaused] at paused
      cases paused
    · exact absurd vacant asleep.queued
    · exact absurd asleep.idle pending
    · exact tokened
  | false =>
    -- without it, the request it wrote has been completed
    rcases wake.stages clean tid _ _ _ tagged rfl with pending | signalled
    · exact absurd asleep.idle pending
    · exact signalled.tokened

instance (config : Configuration P) (tid : Nat) (reqCh : Option Nat) :
    Decidable (ParkedWithWork config tid reqCh) :=
  decidable_of_iff' _ (parkedWithWork_iff config tid reqCh)

/-- A request without an identifier is written and does not become the pending one.  Nothing
wakes the pump up again, although the request is still queued. -/
theorem sleeps_on_empty_identifier :
    ∃ config, (system sampleOpts).Reachable startDiscipline
      (Shared.initial 10 : Shared Nat) config ∧
      config.shared.hist.queueAtStart = [] ∧
      (∀ entry, entry ∈ config.shared.hist.pushed -> entry.bundle.WellFormed) ∧
      ParkedWithWork config 1 (some 1) ∧ (config.shared.channels 1).closed = false ∧
      ¬ WokenUp config (some 1) :=
  System.exists_reachable_of_replay _
    (starting 0 ++ sending 2 0 (sample "" 1) ++ preparing 1 ++ [.step 1 (.network none)] ++
      proceed 1 4) (by decide +kernel)

/-- A sender has pushed and is about to take the read lock when the pump is parked. -/
theorem no_lost_wake_up_push :
    ∃ config, (system sampleOpts).Reachable startDiscipline
      (Shared.initial 10 : Shared Nat) config ∧
      (CleanGeneration config.shared ∧ ParkedWithWork config 1 (some 1)) ∧
      WokenUp config (some 1) :=
  System.exists_reachable_with
    (starting 0 ++ [.call (.sendRequest 0 (sample "1" 1))] ++ proceed 2 1) (by decide +kernel)
    fun _ reached ⟨clean, asleep⟩ => no_lost_wake_up sampleOpts 10 reached clean asleep

end ClientDispatcher
end OcppGo
