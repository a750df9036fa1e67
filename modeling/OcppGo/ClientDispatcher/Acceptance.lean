import OcppGo.ClientDispatcher.Lifecycle
import OcppGo.ClientDispatcher.SingleWinner
import OcppGo.ClientDispatcher.Usage

namespace OcppGo
namespace ClientDispatcher

open Function Interleaving Ocppj Program List Option

variable {P : Type}

/-!
# What a returned `SendRequest` promises

A call that returned nil has handed its bundle over for good: the bundle is in
the queue, or it has been reported, or the goroutine that took it out is about to
report it.  A call that returned an error has its bundle for itself: nobody will
write it.  The code keeps both promises only if the push of a call does not meet
a stop drain at the wrong moment.
-/

/-! ## Accepted requests -/

/-- The operation reports the entry of the call. -/
def reports (num : Nat) : Op P -> Prop
  | .onRequestCancel owner _ _ _ => owner.num = num
  | .completed owner _ => owner.num = num
  | _ => False

/-- Where the bundle of a call is. -/
inductive Kept (config : Configuration P) (num : Nat) : Prop where
  | queued (entry : Entry P) (mem : entry ∈ config.shared.requestQueue.elements)
      (named : entry.num = num)
  | reported (once : (config.shared.hist.notifications.filter
      (fun notification => notification.owner.num == num)).length = 1)
  | reporting (tid : Nat) (content : Thread (Op P) (Res P) (Routine P))
      (running : config.thread? tid = some content)
      (inevitable : content.prog.Inevitable (reports num))

namespace Ownership

/-- While a goroutine owns an entry it does nothing that could keep it from
reporting the entry. -/
theorem inevitable_of_owned {call : Routine P} {prog : Prog P (Option (Routine P))}
    {hand : Hand P} {owned : Entry P} (obeys : prog.Obeys (accord True) call
      (cont (entry True) (Settled True)) hand)
    (mem : owned ∈ hand.owned) : prog.Inevitable (reports owned.num) := by
  induction prog generalizing hand with
  | done value =>
    have nothing : hand.owned = [] := by
      cases value with
      | none => exact obeys.2 trivial
      | some routine =>
        cases routine with
        | sendRequest num req => exact obeys.2.2
        | _ => exact obeys.2 trivial
    rw [nothing] at mem
    cases mem
  | act op resume ih =>
    rcases obeys with ⟨_, ⟨restricted, legal⟩, onward⟩
    have finishes : finishing op = true := by
      rcases restricted trivial with nothing | finishes
      · rw [nothing] at mem
        cases mem
      · exact finishes
    -- the head of the hand is reported first, the others wait for their turn
    have report : ∀ (owner : Entry P), hand.owned.head? = some owner ->
        owner.num = owned.num ∨ owned ∈ hand.owned.tail := by
      intro owner first
      cases shape : hand.owned with
      | nil => rw [shape] at mem; cases mem
      | cons front rest =>
        rw [shape] at first mem
        cases first
        rcases mem_cons.mp mem with rfl | later
        · exact .inl rfl
        · exact .inr later
    cases op with
    | onRequestCancel owner requestID request err =>
      rcases report owner legal.1 with own | later
      · exact .inl own
      · exact .inr fun ans => ih ans (onward ans _ rfl) later
    | completed owner requestID =>
      rcases report owner legal.1 with own | later
      · exact .inl own
      · exact .inr fun ans => ih ans (onward ans _ rfl) later
    | deletePendingRequest | clearPendingRequests | signalReady | contextErr =>
      exact .inr fun ans => ih ans (onward ans hand rfl) mem
    | _ => cases finishes

end Ownership

/-- Every bundle that is pushed has a call, and no push falls between `DrainAll` and
`Init` of a stop drain. -/
@[reducible] def pushesOutsideDrains : Condition P where
  call _ _ := True
  op s _ op :=
    match op with
    | .push _ bundle => bundle.call.isSome = true ∧ s.hist.draining = []
    | _ => True

instance (s : Shared P) (tid : Nat) (op : Op P) :
    Decidable (pushesOutsideDrains.op s tid op) := by
  rcases op <;> infer_instance

/-- With a cancel callback, and in every run whose pushes stay out of the stop
drains, an accepted bundle is in the queue, has been reported exactly once, or is
about to be reported. -/
theorem accepted_never_lost (opts : Settings) (callback : opts.onRequestCancel = true)
    (capacity : Nat) (config : Configuration P)
    (reached : (system opts).Reachable pushesOutsideDrains (Shared.initial capacity) config)
    (num : Nat) (accepted : num ∈ config.shared.hist.accepted) : Kept config num := by
  have undisturbed : (system opts).Reachable (Ownership.undisturbed True False)
      (Shared.initial capacity) config := by
    apply reached.mono
    · intro _ _ _
      trivial
    · intro s tid op admitted
      cases op with
      | push num bundle => exact fun _ => admitted
      | ret num failure =>
        cases failure with
        | none => trivial
        | some error => exact False.elim
      | _ => trivial
  rcases (Ownership.verified (fun _ => callback) capacity).reachable undisturbed with
    ⟨view, describes, inv⟩
  rcases inv.accepted num accepted with ⟨pushed, mem, rfl⟩
  rcases inv.accounts with ⟨lost, sound, kept⟩
  rcases (sound.listed pushed.num).mp (inv.known pushed mem) with ⟨place, listed⟩
  cases place with
  | queue =>
    rcases mem_map.mp listed with ⟨queued, waiting, named⟩
    exact .queued queued waiting named
  | spent =>
    have atMost := inv.singleWinner.once pushed mem
    have atLeast : 0 < (config.shared.hist.notifications.filter
        (fun notification => notification.owner.num == pushed.num)).length := by
      rcases mem_map.mp listed with ⟨notification, present, named⟩
      apply length_pos_of_mem
      exact mem_filter.mpr ⟨present, by simpa using named⟩
    exact .reported (by omega)
  | lost => exact absurd listed (kept trivial pushed mem)
  | hand tid =>
    cases tagged : view tid with
    | none =>
      simp [Ownership.ledger, Ownership.inHand, tagged] at listed
    | some hand =>
      rcases describes.occupied tagged with ⟨content, running, obeys⟩
      have grounded := inv.hands tid hand tagged
      simp only [Ownership.ledger, Ownership.Invariant.inHand_eq tagged,
        Ownership.Hand.numbers, mem_append, mem_toList] at listed
      rcases listed with calling | owned
      · exact absurd rfl ((grounded.calling pushed.num calling).1 pushed mem)
      · rcases mem_map.mp owned with ⟨entry, holding, named⟩
        have inevitable := Ownership.inevitable_of_owned obeys holding
        rw [named] at inevitable
        exact .reporting tid content running inevitable

/-- `Start` is called only when the dispatcher is stopped, and `Start` and `Stop`
calls never overlap. -/
@[reducible] def serialLifecycle : Condition P where
  call config routine :=
    match routine with
    | .start => config.shared.running = false ∧ quietLifecycle config
    | .stop => quietLifecycle config
    | _ => True
  op _ _ _ := True

instance (config : Configuration P) (routine : Routine P) :
    Decidable (serialLifecycle.call config routine) := by
  rcases routine <;> infer_instance

/-- `Stop` as goroutine 2 while the pump drains: a push arrives after `DrainAll` and
before `Init`.  Its call goes on after the next `Start`. -/
def pushIntoDrain : Schedule Nat :=
  starting 0 ++ [.call .stop] ++ proceed 2 5 ++ receive 1 .request ++ proceed 1 3 ++
    [.call (.sendRequest 0 (sample "1" 1))] ++ proceed 3 1 ++ proceed 1 7 ++ proceed 2 2 ++
    [.call .start] ++ proceed 4 6 ++ proceed 3 6

/-- The accepted bundle is gone: the queue is empty, nothing has been reported, and
no goroutine is left. -/
theorem accepted_lost_in_drain :
    ∃ config, (system sampleOpts).Reachable serialLifecycle
        (Shared.initial 10 : Shared Nat) config ∧
      0 ∈ config.shared.hist.accepted ∧ ¬ Kept config 0 := by
  have run : ∃ config, (system sampleOpts).Reachable serialLifecycle
      (Shared.initial 10 : Shared Nat) config ∧ (0 ∈ config.shared.hist.accepted ∧
        config.shared.requestQueue.elements = [] ∧ config.shared.hist.notifications = [] ∧
        ∀ place, place ∈ config.threads -> place.isNone = true) :=
    System.exists_reachable_of_replay _
      pushIntoDrain (by decide +kernel)
  rcases run with ⟨config, reached, accepted, vacant, silent, idle⟩
  refine ⟨config, reached, accepted, ?_⟩
  intro kept
  cases kept with
  | queued entry mem named =>
    rw [vacant] at mem
    cases mem
  | reported once =>
    rw [silent] at once
    cases once
  | reporting tid content running inevitable =>
    have never := idle (some content) (Config.mem_of_thread? running)
    cases never

/-- A request is accepted and answered, and `Stop` cancels another one. -/
theorem accepted_never_lost_stop :
    ∃ config, (system sampleOpts).Reachable pushesOutsideDrains
        (Shared.initial 10 : Shared Nat) config ∧
      (0 ∈ config.shared.hist.accepted ∧ 1 ∈ config.shared.hist.accepted ∧
        config.shared.running = false) ∧ Kept config 0 ∧ Kept config 1 :=
  System.exists_reachable_with
    (starting 0 ++ sending 2 0 (sample "1" 1) ++ dispatching 1 ++ answering 3 "1" ++
      sending 4 1 (sample "2" 2) ++ [.call .stop] ++ proceed 5 5 ++ receive 1 .request ++
      proceed 1 4 ++ receive 1 .request ++ proceed 1 11) (by decide +kernel)
    fun config reached both => ⟨accepted_never_lost sampleOpts rfl 10 config reached 0 both.1,
      accepted_never_lost sampleOpts rfl 10 config reached 1 both.2.1⟩

/-! ## Refused requests -/

namespace Writing

/-- A goroutine writes the bundle it has read for that purpose, and nothing else.
The abstract state is that bundle. -/
def allowed : Op P -> Option (Entry P) -> Prop
  | .write written _, prepared => prepared = some written
  | _, _ => True

def next : (op : Op P) -> Option (Entry P) -> Res P op -> Option (Entry P) -> Prop
  | .peek .dispatch, _, some front, onward => onward = some front
  | .popIf _ _, _, _, onward => onward = none
  | .retain _, _, _, onward => onward = none
  | .write _ _, _, _, onward => onward = none
  | _, prepared, _, onward => onward = prepared

def accord : Protocol (Op P) (Res P) (Routine P) (Option (Entry P)) where
  fits _ _ := True
  allowed := allowed
  next := next

def entry : Routine P -> Option (Entry P) -> Prop := fun _ _ => True

/-- Everything but a write. -/
@[simp] def harmless : Op P -> Prop
  | .write _ _ => False
  | _ => True

variable {opts : Settings} {call : Routine P}

theorem keeps_of_harmless {α : Type} {prog : Prog P α} (uses : prog.Uses harmless) :
    prog.Keeps accord call fun _ => True := by
  refine keeps_of_uses (fun _ _ => trivial) ?_ (fun _ _ _ _ _ _ _ => trivial) uses
  intro op state unwritten _
  cases op with
  | write written data => exact unwritten.elim
  | _ => trivial

theorem permits_harmless : Permits (harmless : Op P -> Prop) where
  neutral := by
    intro op neutral
    cases op with
    | write => cases neutral
    | _ => trivial
  reports := fun _ _ _ _ _ => trivial

/-- The write comes right after the front was read and its context checked. -/
theorem keeps_dispatchNextRequest :
    (dispatchNextRequest opts : Prog P _).Keeps accord call fun _ => True := by
  refine fun prepared _ => ⟨trivial, trivial, ?_⟩
  intro front onward moved
  cases front with
  | none => exact ⟨trivial, trivial⟩
  | some front =>
    have read : onward = some front := moved
    subst read
    cases found : front.bundle.call with
    | none =>
      simp only [bind_done, found]
      exact ⟨trivial, trivial⟩
    | some content =>
      cases data : front.bundle.data with
      | none =>
        simp only [bind_done, found, data]
        exact ⟨trivial, trivial⟩
      | some jsonMessage =>
        simp only [bind_done, found, data]
        refine ⟨trivial, trivial, ?_⟩
        rintro fired onward rfl
        cases fired with
        | some reason =>
          refine keeps_of_harmless (Uses.bind (uses_cancelIfOwned permits_harmless .dispatch
            content.uniqueId content.payload ?_) ?_) _ trivial
          · intro owner
            exact ⟨trivial, fun _ => uses_fireRequestCancel trivial⟩
          · intro _
            trivial
        | none =>
          refine ⟨trivial, trivial, ?_⟩
          rintro _ onward rfl
          refine ⟨trivial, rfl, ?_⟩
          intro failure onward _
          cases failure with
          | none => exact ⟨trivial, trivial⟩
          | some failure =>
            refine keeps_of_harmless (Uses.bind (uses_cancelIfOwned permits_harmless .dispatch
              content.uniqueId content.payload fun _ => uses_fireRequestCancel trivial) ?_) _ trivial
            intro _
            trivial

theorem keeps_pumpLoop (reqCh : Option Nat) (doneC : Nat) (rdy : Bool) (pending : PumpPending P) :
    (pumpLoop opts reqCh doneC rdy pending).Keeps accord call fun _ => True := by
  have serves : Serves opts fun _ (prog : Prog P _) => prog.Keeps accord call fun _ => True :=
    permits_harmless.serves (composes_keeps fun _ _ => trivial) fun _ _ => keeps_of_harmless
  refine good_pumpLoop serves ?_ keeps_dispatchNextRequest (good_timeoutArm serves ?_) reqCh doneC
    rdy pending
  · intro op stepping
    refine keeps_of_harmless ⟨?_, fun _ => trivial⟩
    cases op with
    | write => cases stepping
    | _ => trivial
  · intro requestID request
    apply keeps_of_harmless
    exact uses_cancelIfOwned permits_harmless _ _ _ fun _ => uses_fireRequestCancel trivial

theorem obeys_body (routine : Routine P) (state : Option (Entry P)) :
    (body opts routine).Obeys accord routine (cont entry (fun _ => True)) state := by
  have kept : (body opts routine).Keeps accord routine fun _ => True := by
    cases routine with
    | pumpLoop reqCh doneC rdy pending => exact keeps_pumpLoop reqCh doneC rdy pending
    | _ => exact keeps_of_harmless (uses_caller permits_harmless _ nofun fun _ _ => trivial)
  exact (kept state trivial).mono fun _ _ _ => continuation_of_free (fun _ _ => trivial) _ _

/-- What a goroutine is about to write is noted in the history. -/
def Noted (s : Shared P) (view : Nat -> Option (Option (Entry P))) : Prop :=
  ∀ tid written, view tid = some (some written) -> (tid, written) ∈ s.hist.writing

variable {s after : Shared P} {view : Nat -> Option (Option (Entry P))} {tid : Nat}

section

variable (noted : Noted s view)
include noted

/-- The history keeps the notes of the other goroutines. -/
theorem noted_update {label : Option (Option (Entry P))}
    (others : ∀ other bundle, other ≠ tid -> (other, bundle) ∈ s.hist.writing ->
      (other, bundle) ∈ after.hist.writing)
    (own : ∀ bundle, label = some (some bundle) -> (tid, bundle) ∈ after.hist.writing) :
    Noted after (update view tid label) := by
  intro other written tagged
  rcases tagged_of_update tagged with ⟨rfl, known⟩ | ⟨apart, known⟩
  · exact own written known
  · exact others other written apart (noted other written known)

/-- The notes do not change, and neither does the label. -/
theorem noted_same (tagged : view tid = some prepared)
    (same : after.hist.writing = s.hist.writing) :
    Noted after (update view tid (some prepared)) := by
  apply noted_update noted
  · intro other bundle _ present
    rwa [same]
  · intro bundle known
    rw [same]
    exact noted tid bundle (tagged.trans known)

/-- The goroutine has nothing to write any more. -/
theorem noted_none (same : after.hist.writing = without tid s.hist.writing) :
    Noted after (update view tid (some none)) := by
  apply noted_update noted
  · intro other bundle apart present
    rw [same]
    exact mem_without.mpr ⟨present, apart⟩
  · intro bundle never
    cases never

theorem execute_noted {op : Op P} {choice : Choice} {ans : Res P op}
    (tagged : view tid = some prepared)
    (exec : execute tid op choice s = some (ans, after)) :
    ∃ onward, accord.next op prepared ans onward ∧
      Noted after (update view tid (some onward)) := by
  cases op with
  | peek site =>
    simp only [execute] at exec
    split at exec
    · rename_i front found
      cases exec
      cases site with
      | dispatch =>
        refine ⟨some front, rfl, noted_update noted ?_ ?_⟩
        · intro other bundle _ present
          exact mem_cons_of_mem _ present
        · intro bundle known
          cases known
          exact mem_cons_self
      | _ => exact ⟨prepared, rfl, noted_same noted tagged rfl⟩
    · cases exec
      refine ⟨prepared, ?_, noted_same noted tagged rfl⟩
      cases site <;> rfl
  | popIf site requestId =>
    simp only [execute] at exec
    split at exec
    · cases exec
      exact ⟨none, rfl, noted_none noted rfl⟩
    · cases exec
      exact ⟨none, rfl, noted_none noted rfl⟩
  | retain kept =>
    cases exec
    exact ⟨none, rfl, noted_none noted rfl⟩
  | write written data =>
    simp only [execute] at exec
    split at exec
    · cases exec
      exact ⟨none, rfl, noted_none noted rfl⟩
    · cases exec
  | push num bundle =>
    simp only [execute] at exec
    split at exec
    · cases exec
      exact ⟨prepared, rfl, noted_same noted tagged rfl⟩
    · cases exec
      exact ⟨prepared, rfl, noted_same noted tagged rfl⟩
  | ret num failure =>
    cases exec
    cases failure with
    | _ => exact ⟨prepared, rfl, noted_same noted tagged rfl⟩
  | select reqCh pendingDone =>
    obtain ⟨_, _, _, _, rfl⟩ := execute_select_frame exec
    exact ⟨prepared, rfl, noted_same noted tagged rfl⟩
  | drainAll | init | assignStarted | onRequestCancel | completed =>
    cases exec
    exact ⟨prepared, rfl, noted_same noted tagged rfl⟩
  | _ =>
    rcases execute_quiet exec rfl with ⟨_, hist⟩
    exact ⟨prepared, rfl, noted_same noted tagged (by rw [hist])⟩

end

theorem verified (opts : Settings) (guard : Condition P) (capacity : Nat) :
    Verified (system opts) guard (Shared.initial capacity : Shared P) accord entry
      (fun _ => True) Noted where
  body routine state _ := obeys_body routine state
  initially := by
    intro tid written never
    cases never
  enter config view routine shared _ _ noted entered vacant := by
    rcases enter_frame entered with ⟨_, calls, hist⟩
    refine ⟨none, trivial, noted_update noted ?_ ?_⟩
    · intro other bundle _ present
      rwa [hist]
    · intro bundle never
      cases never
  occur _ _ _ _ noted arose := by
    rcases occur_frame arose with ⟨_, hist⟩
    intro tid written tagged
    rw [hist]
    exact noted tid written tagged
  execute _ _ _ _ _ _ _ _ noted tagged _ _ exec := execute_noted noted tagged exec
  finish _ _ _ _ noted _ _ := by
    apply noted_update noted
    · intro other bundle _ present
      exact present
    · intro bundle never
      cases never

end Writing

/-- A call returns an error only when its entry is neither in the queue nor read by
a goroutine that is about to write it. -/
@[reducible] def errorsAfterWithdrawal : Condition P where
  call _ _ := True
  op s _ op :=
    match op with
    | .ret num (some _) =>
      (∀ entry, entry ∈ s.requestQueue.elements -> entry.num ≠ num) ∧
      (∀ bundle, bundle ∈ s.hist.writing -> bundle.2.num ≠ num)
    | _ => True

instance (s : Shared P) (tid : Nat) (op : Op P) :
    Decidable (errorsAfterWithdrawal.op s tid op) := by
  induction op using Op.casesOn with
  | ret num failure => rcases failure <;> infer_instance
  | _ => infer_instance

/-- The entry whose bundle an operation hands to the network. -/
def Op.written? : Op P -> Option (Entry P)
  | .write written _ => some written
  | _ => none

/-- The entry whose bundle a goroutine is about to hand to the network. -/
def aboutToWrite (config : Configuration P) (tid : Nat) : Option (Entry P) :=
  ((config.thread? tid).bind (fun content => content.prog.next?)).bind Op.written?

/-- No goroutine is about to hand the bundle of a refused call to the network. -/
def RefusedUnsent (config : Configuration P) : Prop :=
  ∀ tid written, aboutToWrite config tid = some written ->
    written.num ∉ config.shared.hist.refused

/-- In every run whose errors are returned only for withdrawn entries, a bundle whose
call has returned an error is never handed to the network afterwards. -/
theorem refused_never_sent (opts : Settings) (capacity : Nat) (config : Configuration P)
    (reached : (system opts).Reachable errorsAfterWithdrawal (Shared.initial capacity) config) :
    RefusedUnsent config := by
  have undisturbed : (system opts).Reachable (Ownership.undisturbed False True)
      (Shared.initial capacity) config := by
    apply reached.mono
    · intro _ _ _
      trivial
    · intro s tid op admitted
      cases op with
      | push num bundle => exact False.elim
      | ret num failure =>
        cases failure with
        | none => trivial
        | some error => exact fun _ => admitted
      | _ => trivial
  rcases (Ownership.verified (fun never : False => never.elim) capacity).reachable
    undisturbed with ⟨_, _, inv⟩
  rcases (Writing.verified opts errorsAfterWithdrawal capacity).reachable reached with
    ⟨view, describes, noted⟩
  intro tid written upcoming
  rcases bind_eq_some_iff.mp upcoming with ⟨op, onward, isWrite⟩
  rcases bind_eq_some_iff.mp onward with ⟨content, running, first⟩
  rcases describes.tagged tid content running with ⟨prepared, tagged, obeys⟩
  have known : prepared = some written := by
    cases shape : content.prog with
    | done value =>
      rw [shape] at first
      cases first
    | act performed resume =>
      rw [shape] at first obeys
      cases first
      cases op with
      | write entry data =>
        cases isWrite
        exact obeys.2.1
      | _ => cases isWrite
  rw [known] at tagged
  intro refused
  exact (inv.withdrawn trivial written.num refused).2 _ (noted tid written tagged) rfl

/-- A request is sent to a stopped dispatcher and refused, the dispatcher is started,
and another request wakes the pump. -/
def sendBeforeStart : Schedule Nat :=
  [.call (.sendRequest 0 (sample "1" 1))] ++ proceed 0 6 ++ starting 1 ++
    sending 3 1 (sample "2" 2) ++ preparing 2

/-- The pump is about to write the bundle of the refused call. -/
theorem refused_sent_after_start :
    ∃ config, (system sampleOpts).Reachable serialLifecycle
      (Shared.initial 10 : Shared Nat) config ∧ ¬ RefusedUnsent config := by
  have run : ∃ config, (system sampleOpts).Reachable serialLifecycle
      (Shared.initial 10 : Shared Nat) config ∧
      ((aboutToWrite config 2).map Entry.num = some 0 ∧ 0 ∈ config.shared.hist.refused) :=
    System.exists_reachable_of_replay _
      sendBeforeStart (by decide +kernel)
  rcases run with ⟨config, reached, upcoming, refused⟩
  rcases map_eq_some_iff.mp upcoming with ⟨written, writing, named⟩
  refine ⟨config, reached, fun unsent => ?_⟩
  rw [← named] at refused
  exact unsent 2 written writing refused

/-- A request is refused because the queue is full, while the pump is about to write
the accepted one. -/
theorem refused_never_sent_full :
    ∃ config, (system sampleOpts).Reachable errorsAfterWithdrawal
        (Shared.initial 1 : Shared Nat) config ∧
      (config.shared.hist.refused = [1] ∧ (aboutToWrite config 1).isSome = true) ∧
      RefusedUnsent config :=
  System.exists_reachable_with
    (starting 0 ++ sending 2 0 (sample "1" 1) ++ [.call (.sendRequest 1 (sample "2" 2))] ++
      proceed 3 3 ++ preparing 1) (by decide +kernel)
    fun config reached _ => refused_never_sent sampleOpts 1 config reached

end ClientDispatcher
end OcppGo
