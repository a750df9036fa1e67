import OcppGo.ClientDispatcher.Effects
import OcppGo.ClientDispatcher.Usage
import OcppGo.Interleaving.Custody
import OcppGo.Interleaving.Protocol

namespace OcppGo
namespace ClientDispatcher
namespace Ownership

open Interleaving Ocppj Program

/-!
# Who owns a request

A queue entry changes hands a few times in its life: the caller pushes it, a
goroutine takes it out of the queue, and that goroutine alone reports how it
ended.  The agreement below says so in terms of single operations; every
function of the dispatcher keeps to it, and with it the ledger of all entries
stays sound in every run.

The same agreement serves two purposes.  Without further assumptions entries may
be dropped silently: by a stop drain that finds a bundle without a call, by a
missing cancel callback, or by `Init`.  Under the `lossless` regime none of this
happens, and an entry that is out of the queue is about to be reported.
-/

variable {P : Type} (lossless : Prop)

/-- What a goroutine has in hand. -/
structure Hand (P : Type) where
  /-- the call that has not pushed its bundle yet -/
  calling : Option Nat
  /-- the call that has pushed its bundle -/
  sent : Option Nat
  /-- entries taken out of the queue and not reported yet, next one first -/
  owned : List (Entry P)
  /-- between `DrainAll` and `Init` -/
  draining : Bool

/-- The operations with which a goroutine finishes a request it owns. -/
def finishing : Op P -> Bool
  | .deletePendingRequest _ _ | .clearPendingRequests | .signalReady _ | .contextErr _
  | .onRequestCancel _ _ _ _ | .completed _ _ => true
  | _ => false

/-- A bundle is pushed by the call that brought it, and an entry is reported by
the goroutine that owns it, under the entry's identifier. -/
@[simp] def allowed : Op P -> Hand P -> Prop
  | .push num _, hand => hand.calling = some num ∧ hand.owned = []
  | .init, hand => hand.draining = true
  | .onRequestCancel owner requestID _ _, hand =>
    hand.owned.head? = some owner ∧ owner.uniqueId = requestID
  | .completed owner requestID, hand => hand.owned.head? = some owner ∧ owner.uniqueId = requestID
  | .ret num none, hand => hand.sent = some num
  | .ret num (some _), hand => hand.calling = some num ∨ hand.sent = some num
  | _, _ => True

@[simp] def next : (op : Op P) -> Hand P -> Res P op -> Hand P -> Prop
  | .push _ _, hand, false, onward => onward = hand
  | .push num _, hand, true, onward =>
    onward = { hand with calling := none, sent := some num }
  | .ret _ _, hand, _, onward => onward = { hand with calling := none }
  | .popIf _ _, hand, none, onward => onward = hand
  | .popIf _ requestId, hand, some entry, onward =>
    entry.isRequest requestId = true ∧ onward = { hand with owned := entry :: hand.owned }
  | .drainAll, hand, outstanding, onward =>
    (lossless -> ∀ entry, entry ∈ outstanding -> entry.bundle.call.isSome = true) ∧
    onward = { hand with
      owned := outstanding.filter (fun entry => entry.bundle.call.isSome) ++ hand.owned
      draining := true }
  | .init, hand, _, onward => onward = { hand with draining := false }
  | .onRequestCancel _ _ _ _, hand, _, onward => onward = { hand with owned := hand.owned.tail }
  | .completed _ _, hand, _, onward => onward = { hand with owned := hand.owned.tail }
  | _, hand, _, onward => onward = hand

/-- Nothing is left to be reported. -/
def Settled (hand : Hand P) : Prop := lossless -> hand.owned = []

def accord : Protocol (Op P) (Res P) (Routine P) (Hand P) where
  fits _ _ := True
  allowed op hand := (lossless -> hand.owned = [] ∨ finishing op = true) ∧
    allowed op hand
  next := next lossless

def entry : Routine P -> Hand P -> Prop
  | .sendRequest num _, hand => hand.calling = some num ∧ hand.owned = []
  | _, hand => Settled lossless hand

/-! ## Every function keeps to the agreement -/

variable {lossless} {opts : Settings} {call : Routine P} {hand : Hand P}


@[simp] theorem accord_fits : (accord lossless).fits call hand := trivial

variable {op : Op P}

@[simp] theorem accord_allowed :
    (accord lossless).allowed op hand <->
      (lossless -> hand.owned = [] ∨ finishing op = true) ∧ allowed op hand := Iff.rfl

@[simp] theorem accord_next {ans : Res P op} {onward : Hand P} :
    (accord lossless).next op hand ans onward <->
      next lossless op hand ans onward := Iff.rfl

/-- The operations that do not concern the ownership of any entry. -/
@[reducible] def neutral : Op P -> Bool
  | .push _ _ | .popIf _ _ | .drainAll | .init | .onRequestCancel _ _ _ _ | .completed _ _
  | .ret _ _ => false
  | _ => true

/-- A goroutine with nothing to report may perform any operation that does not
concern ownership, and has nothing to report afterwards. -/
theorem obeys_neutral {α : Type} {post : α -> Hand P -> Prop}
    {resume : Res P op -> Prog P α} (settled : Settled lossless hand)
    (unrelated : neutral op = true) :
    (Program.act op resume).Obeys (accord lossless) call post hand <->
      ∀ ans, (resume ans).Obeys (accord lossless) call post hand := by
  apply obeys_act_of_still trivial
  · refine ⟨fun strict => .inl (settled strict), ?_⟩
    cases op with
    | push | popIf | drainAll | init | onRequestCancel | completed | ret => cases unrelated
    | _ => trivial
  · intro ans onward
    cases op with
    | push | popIf | drainAll | init | onRequestCancel | completed | ret => cases unrelated
    | _ => exact Iff.rfl

/-- The program keeps to the agreement, and in the end nothing is left to be reported. -/
abbrev Settles {α : Type} (lossless : Prop) (call : Routine P) (hand : Hand P) (prog : Prog P α) :
    Prop :=
  prog.Obeys (accord lossless) call (fun _ final => Settled lossless final) hand

theorem obeys_sendRequest {num : Nat} {req : RequestBundle P}
    (calling : hand.calling = some num) (clean : hand.owned = []) :
    Settles lossless call hand (sendRequest opts num req) := by
  unfold sendRequest
  cases opts.network with
  | false => simp [obeys_act, clean, calling, Settled]
  | true =>
    cases req.call with
    | _ => simp [obeys_act, clean, calling, Settled]

/-- A completed request is in the hand of the goroutine that completed it. -/
theorem obeys_completeRequest (site : Site) (requestId : String)
    (settled : Settled lossless hand) :
    (completeRequest site requestId).Obeys (accord lossless) call
      (fun result final => match result with
        | some popped => popped.uniqueId = requestId ∧
            final = { hand with owned := popped :: hand.owned }
        | none => final = hand) hand := by
  unfold completeRequest
  refine ⟨trivial, ⟨fun strict => .inl (settled strict), trivial⟩, ?_⟩
  intro ans onward moved
  cases ans with
  | none =>
    have same : onward = hand := moved
    subst same
    exact ⟨trivial, rfl⟩
  | some popped =>
    rcases moved with ⟨matched, rfl⟩
    simp [obeys_act, finishing, Entry.uniqueId_of_isRequest matched]

theorem obeys_ocppMessageHandler (frame : Frame) (settled : Settled lossless hand) :
    Settles lossless call hand (ocppMessageHandler frame : Prog P Unit) := by
  unfold ocppMessageHandler
  split
  · exact ⟨trivial, settled⟩
  · simp only [getPendingRequest, act_bind, done_bind, obeys_neutral settled, neutral]
    intro known
    cases known with
    | none => exact ⟨trivial, settled⟩
    | some _ =>
      cases frame.valid with
      | false => exact ⟨trivial, settled⟩
      | true =>
        apply (obeys_completeRequest .inbound frame.uniqueId settled).bind
        intro result between reached
        cases result with
        | none =>
          subst reached
          exact ⟨trivial, settled⟩
        | some owner =>
          rcases reached with ⟨named, rfl⟩
          simpa [obeys_act, finishing, named] using settled

/-- With a callback, reporting an owned entry hands it over; without one it stays
in hand for good. -/
theorem obeys_fireRequestCancel {owner : Entry P} {owned : List (Entry P)} {requestID : String}
    (request : Option P) (err : OcppError) (first : hand.owned = owner :: owned)
    (named : owner.uniqueId = requestID) (rest : lossless -> owned = [])
    (callback : lossless -> opts.onRequestCancel = true) :
    Settles lossless call hand (fireRequestCancel opts owner requestID request err) := by
  unfold fireRequestCancel
  split
  · simpa [obeys_act, finishing, first, named, Settled] using rest
  · rename_i missing
    exact ⟨trivial, fun strict => absurd (callback strict) missing⟩

theorem obeys_cancelIfOwned (site : Site) (requestID : String) (request : Option P)
    {err : Prog P OcppError} (settled : Settled lossless hand)
    (callback : lossless -> opts.onRequestCancel = true)
    (harmless : ∀ holding, err.Obeys (accord lossless) call
      (fun _ final => final = holding) holding) :
    Settles lossless call hand (cancelIfOwned opts site requestID request err) := by
  apply (obeys_completeRequest site requestID settled).bind
  intro result between reached
  cases result with
  | none =>
    subst reached
    exact ⟨trivial, settled⟩
  | some owner =>
    rcases reached with ⟨named, rfl⟩
    apply (harmless _).bind
    rintro error between rfl
    exact obeys_fireRequestCancel request error rfl named settled callback

/-- Without a callback the stop drain reports nothing. -/
theorem fireStopped_of_missing (missing : ¬ opts.onRequestCancel = true)
    (outstanding : List (Entry P)) : fireStopped opts outstanding = .done () := by
  induction outstanding with
  | nil => rfl
  | cons front others ih =>
    unfold fireStopped
    rw [ih]
    cases front.bundle.call with
    | none => rfl
    | some call => simp [fireRequestCancel, missing]

/-- The entries of the drain that have a call are reported in their order. -/
theorem obeys_fireStopped (present : opts.onRequestCancel = true)
    (outstanding : List (Entry P)) {kept : List (Entry P)}
    (drained : hand.owned = outstanding.filter (fun entry => entry.bundle.call.isSome) ++ kept) :
    (fireStopped opts outstanding).Obeys (accord lossless) call
      (fun _ final => final = { hand with owned := kept }) hand := by
  induction outstanding generalizing hand with
  | nil =>
    refine ⟨trivial, ?_⟩
    rw [List.filter_nil, List.nil_append] at drained
    rw [← drained]
  | cons front others ih =>
    unfold fireStopped
    cases content : front.bundle.call with
    | none =>
      apply ih
      simpa [content] using drained
    | some call =>
      have named : front.uniqueId = call.uniqueId := by
        simp [Entry.uniqueId, RequestBundle.uniqueId, content]
      have first : hand.owned =
          front :: (others.filter (fun entry => entry.bundle.call.isSome) ++ kept) := by
        simpa [content] using drained
      simp only [fireRequestCancel, present, if_true, onRequestCancel, act_bind, done_bind]
      refine ⟨trivial, ⟨fun _ => .inr rfl, by rw [first]; rfl, named⟩, ?_⟩
      rintro _ onward rfl
      have left : hand.owned.tail =
          others.filter (fun entry => entry.bundle.call.isSome) ++ kept := by
        rw [first, List.tail_cons]
      exact (ih left).mono fun _ _ reached => reached

theorem obeys_stopDrain (doneC : Nat) (settled : Settled lossless hand)
    (callback : lossless -> opts.onRequestCancel = true) :
    Settles lossless call hand (stopDrain opts doneC : Prog P Unit) := by
  -- what remains to be done once the callbacks have been fired
  have ending : ∀ holding : Hand P, Settled lossless holding -> holding.draining = true ->
      Settles lossless call holding (do init; lock; forgetChannel; unlock; closeDone doneC) := by
    intro holding nothing draining
    have emptied : Settled lossless { holding with draining := false } := nothing
    refine ⟨trivial, ⟨fun strict => .inl (nothing strict), draining⟩, ?_⟩
    rintro _ onward rfl
    simp [lock, obeys_neutral emptied, neutral, emptied]
  simp only [stopDrain, retain, act_bind, done_bind, obeys_neutral settled, neutral]
  intro _
  refine ⟨trivial, ⟨fun strict => .inl (settled strict), trivial⟩, ?_⟩
  rintro outstanding onward ⟨calls, rfl⟩
  refine ⟨trivial, ⟨fun _ => .inr rfl, trivial⟩, ?_⟩
  rintro _ onward rfl
  by_cases present : opts.onRequestCancel = true
  · apply (obeys_fireStopped present outstanding rfl).bind
    rintro _ between rfl
    exact ending _ settled rfl
  · rw [fireStopped_of_missing present]
    apply ending
    · intro strict
      exact absurd (callback strict) present
    · rfl

/-- Reading the error of a context is open to every goroutine. -/
theorem obeys_contextErr (context : Option Context) (make : Option ContextError -> OcppError) :
    (do return make (← contextErr context) : Prog P OcppError).Obeys (accord lossless) call
      (fun _ final => final = hand) hand := by
  simp [obeys_act, finishing]

theorem keeps_neutral (unrelated : neutral op = true) :
    (Program.act op .done).Keeps (accord lossless) call (Settled lossless) :=
  fun _ settled => (obeys_neutral settled unrelated).mpr fun _ => ⟨trivial, settled⟩

variable (callback : lossless -> opts.onRequestCancel = true)
include callback

theorem keeps_pumpLoop (reqCh : Option Nat) (doneC : Nat) (rdy : Bool) (pending : PumpPending P) :
    (pumpLoop opts reqCh doneC rdy pending).Keeps (accord lossless) call
      (Settled lossless) := by
  have cancels site requestID request (err : Prog P OcppError) (harmless : ∀ holding,
      err.Obeys (accord lossless) call (fun _ final => final = holding) holding) :
      (cancelIfOwned opts site requestID request err).Keeps (accord lossless) call
        (Settled lossless) :=
    fun _ settled => obeys_cancelIfOwned site requestID request settled callback harmless
  have serves : Serves opts fun _ (prog : Prog P _) =>
      prog.Keeps (accord lossless) call (Settled lossless) := by
    refine ⟨composes_keeps fun _ _ => trivial, ?_, ?_, ?_⟩
    · intro op aside
      apply keeps_neutral
      cases op <;> first | rfl | cases aside
    · exact fun _ _ _ _ => cancels _ _ _ _ fun _ => obeys_contextErr _ _
    · exact fun doneC _ settled => obeys_stopDrain doneC settled callback
  have steps (op : Op P) (stepping : op.stepping = true) :
      (Program.act op .done).Keeps (accord lossless) call (Settled lossless) := by
    apply keeps_neutral
    cases op <;> first | rfl | cases stepping
  refine good_pumpLoop serves steps ?_ ?_ reqCh doneC rdy pending
  · apply good_dispatchNextRequest serves steps
    · exact fun _ _ => keeps_neutral rfl
    · exact fun _ _ _ => cancels _ _ _ _ fun _ => ⟨trivial, rfl⟩
  · exact good_timeoutArm serves fun _ _ => cancels _ _ _ _ fun _ => ⟨trivial, rfl⟩

/-- Every goroutine keeps to the agreement. -/
theorem obeys_body (routine : Routine P) (state : Hand P) (entered : entry lossless routine state) :
    (body opts routine).Obeys (accord lossless) routine
      (cont (entry lossless) (Settled lossless)) state := by
  cases routine with
  | sendRequest num req => exact (obeys_sendRequest entered.1 entered.2).returning
  | ocppMessageHandler frame => exact (obeys_ocppMessageHandler frame entered).returning
  | pumpLoop reqCh doneC rdy pending =>
    apply ((keeps_pumpLoop callback reqCh doneC rdy pending state entered).and_returns
      (returns_body (.pumpLoop reqCh doneC rdy pending))).mono
    rintro _ final ⟨rfl | ⟨_, _, _, _, rfl⟩, settled⟩
    · exact settled
    · exact settled
  | _ =>
    have settled : Settled lossless state := entered
    simp [body, start, stop, pause, resume, messagePump, lock, stopAndDrainTimer,
      obeys_neutral settled, neutral, cont, entry, settled]

end Ownership
end ClientDispatcher
end OcppGo
