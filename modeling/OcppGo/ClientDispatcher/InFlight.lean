import OcppGo.ClientDispatcher.Lifecycle
import OcppGo.ClientDispatcher.SingleWinner

namespace OcppGo
namespace ClientDispatcher

open Function Interleaving Ocppj List

variable {P : Type}

/-!
# One request in flight

The pending slot, the front of the queue and the phase of the pump agree on which
request is in flight, although a reply removes the front and clears the slot in two
separate steps on another goroutine.  What has been written is a sublist of what
was pushed, and at most the front of the queue has been written.
-/

/-- Requests on their way: what was pushed, what was written, what is in the queue and
what is pending. -/
structure Lane (P : Type) where
  pushed : List (Entry P)
  writes : List (Entry P)
  queue : List (Entry P)
  pending : String

def Shared.lane (s : Shared P) : Lane P :=
  ⟨s.hist.pushed, s.hist.writes, s.requestQueue.elements, s.pendingRequestState.requestID⟩

namespace Lane

/-- Nothing in the queue has been written. -/
def Fresh (lane : Lane P) : Prop := (lane.writes ++ lane.queue).Sublist lane.pushed

/-- The front of the queue has been written and is pending; nothing behind it has been
written. -/
def Underway (lane : Lane P) : Prop :=
  ∃ front rest, lane.queue = front :: rest ∧ front ∈ lane.writes ∧
    lane.pending = front.uniqueId ∧ (lane.writes ++ rest).Sublist lane.pushed

/-- Identifiers are not empty and distinct. -/
structure Identified (lane : Lane P) : Prop where
  distinct : (lane.pushed.map Entry.uniqueId).Nodup
  named : ∀ entry, entry ∈ lane.pushed -> entry.uniqueId ≠ ""

/-- The entry has left the queue and may still be written. -/
def Ahead (lane : Lane P) (entry : Entry P) : Prop :=
  (lane.writes ++ entry :: lane.queue).Sublist lane.pushed

/-- The entry is the front of a queue of which nothing has been written. -/
def Facing (lane : Lane P) (entry : Entry P) : Prop :=
  lane.queue.head? = some entry ∧ lane.Fresh

/-- What the pump knows in a phase. -/
def At (lane : Lane P) : Phases.Phase P -> Prop
  | .clear => lane.pending = ""
  | .peeked front => lane.pending = "" ∧ (lane.Ahead front ∨ lane.Facing front)
  | .dropping front => lane.pending = "" ∧ (lane.Ahead front ∨ lane.Facing front)
  | .added front => lane.Ahead front ∨ (lane.Facing front ∧ lane.pending = front.uniqueId)
  | .drained => lane.Fresh
  | _ => True

/-- What is owed for an entry that was popped: it is out of the queue for good. -/
def Owed (lane : Lane P) : Phases.Debt P -> Prop
  | .popped entry => entry ∈ lane.pushed ∧ entry ∉ lane.queue
  | _ => True

structure Ordered (lane : Lane P) : Prop where
  identified : lane.Identified
  line : lane.Fresh ∨ lane.Underway

variable {lane : Lane P} {entry : Entry P}

namespace Ordered

variable (ordered : lane.Ordered)
include ordered

theorem same {left right : Entry P} (first : left ∈ lane.pushed) (second : right ∈ lane.pushed)
    (named : left.uniqueId = right.uniqueId) : left = right :=
  inj_on_of_nodup_map ordered.identified.distinct first second named

theorem pushed_nodup : lane.pushed.Nodup :=
  Nodup.of_map _ ordered.identified.distinct

theorem mem_pushed_of_writes (mem : entry ∈ lane.writes) : entry ∈ lane.pushed := by
  rcases ordered.line with fresh | ⟨front, rest, _, _, _, line⟩
  · exact fresh.subset (mem_append_left _ mem)
  · exact line.subset (mem_append_left _ mem)

theorem mem_pushed_of_queue (mem : entry ∈ lane.queue) : entry ∈ lane.pushed := by
  rcases ordered.line with fresh | ⟨front, rest, shape, written, _, line⟩
  · exact fresh.subset (mem_append_right _ mem)
  · rw [shape] at mem
    rcases mem_cons.mp mem with rfl | mem
    · exact line.subset (mem_append_left _ written)
    · exact line.subset (mem_append_right _ mem)

theorem queue_nodup : lane.queue.Nodup := by
  rcases ordered.line with fresh | ⟨front, rest, shape, written, _, line⟩
  · exact (fresh.nodup ordered.pushed_nodup).of_append_right
  · have nodup := line.nodup ordered.pushed_nodup
    rw [shape]
    refine nodup_cons.mpr ⟨?_, nodup.of_append_right⟩
    exact fun behind => (nodup_append.mp nodup).2.2 front written front behind rfl

end Ordered

/-! ## How the lane changes -/

theorem Fresh.push (fresh : lane.Fresh) (entry : Entry P) :
    Fresh { lane with pushed := lane.pushed ++ [entry], queue := lane.queue ++ [entry] } := by
  unfold Fresh
  rw [← append_assoc]
  exact fresh.append (Sublist.refl _)

variable {rest : List (Entry P)}

theorem Fresh.pop (fresh : lane.Fresh) (shape : lane.queue = entry :: rest) :
    Fresh { lane with queue := rest } := by
  unfold Fresh at fresh ⊢
  rw [shape] at fresh
  exact (Sublist.append_left (sublist_cons_self entry rest) _).trans fresh

section

variable (ordered : lane.Ordered)
include ordered

/-- A successful push. -/
theorem Ordered.push (named : entry.uniqueId ≠ "")
    (new : ∀ other, other ∈ lane.pushed -> other.uniqueId ≠ entry.uniqueId) :
    Ordered { lane with pushed := lane.pushed ++ [entry], queue := lane.queue ++ [entry] } where
  identified := by
    constructor
    · simp only [map_append, map_cons, map_nil]
      refine nodup_append.mpr ⟨ordered.identified.distinct, nodup_singleton _, ?_⟩
      intro left pre right after
      rcases mem_map.mp pre with ⟨other, mem, rfl⟩
      rw [mem_singleton.mp after]
      exact new other mem
    · intro other mem
      rcases mem_append.mp mem with pre | after
      · exact ordered.identified.named other pre
      · rwa [mem_singleton.mp after]
  line := by
    rcases ordered.line with fresh | ⟨front, rest, shape, written, pending, line⟩
    · exact .inl (fresh.push entry)
    · refine .inr ⟨front, rest ++ [entry], by simp [shape], written, pending, ?_⟩
      rw [← append_assoc]
      exact line.append (Sublist.refl _)

/-- A successful pop. -/
theorem Ordered.pop (shape : lane.queue = entry :: rest) : Ordered { lane with queue := rest } where
  identified := ⟨ordered.identified.distinct, ordered.identified.named⟩
  line := by
    rcases ordered.line with fresh | ⟨front, others, shape', _, _, line⟩
    · exact .inl (fresh.pop shape)
    · rw [shape] at shape'
      cases shape'
      exact .inl line

/-- The queue is emptied. -/
theorem Ordered.fresh_wipe : Fresh { lane with queue := [] } := by
  unfold Fresh
  rcases ordered.line with fresh | ⟨front, rest, _, _, _, line⟩
  · exact (Sublist.append_left (nil_sublist _) _).trans fresh
  · exact (Sublist.append_left (nil_sublist _) _).trans line

theorem Ordered.wipe : Ordered { lane with queue := [] } where
  identified := ⟨ordered.identified.distinct, ordered.identified.named⟩
  line := .inl ordered.fresh_wipe

/-- The pending slot is cleared for an entry that has been popped. -/
theorem Ordered.settle (owed : lane.Owed (.popped entry)) :
    Ordered { lane with pending := if lane.pending = entry.uniqueId then "" else lane.pending } where
  identified := ⟨ordered.identified.distinct, ordered.identified.named⟩
  line := by
    rcases ordered.line with fresh | ⟨front, rest, shape, written, pending, line⟩
    · exact .inl fresh
    · right
      refine ⟨front, rest, shape, written, ?_, line⟩
      have mem : front ∈ lane.queue := by rw [shape]; exact mem_cons_self
      have other : lane.pending ≠ entry.uniqueId := by
        intro same
        rw [pending] at same
        exact owed.2 (ordered.same (ordered.mem_pushed_of_queue mem) owed.1 same ▸ mem)
      rwa [if_neg other]

end

variable {phase : Phases.Phase P}

theorem At.push (stance : lane.At phase) (entry : Entry P) :
    At { lane with pushed := lane.pushed ++ [entry], queue := lane.queue ++ [entry] } phase := by
  have ahead {front : Entry P} (pre : lane.Ahead front) :
      Ahead { lane with pushed := lane.pushed ++ [entry], queue := lane.queue ++ [entry] } front := by
    unfold Ahead
    rw [← cons_append, ← append_assoc]
    exact Sublist.append pre (Sublist.refl _)
  have facing {front : Entry P} (pre : lane.Facing front) :
      Facing { lane with pushed := lane.pushed ++ [entry], queue := lane.queue ++ [entry] } front := by
    refine ⟨?_, pre.2.push entry⟩
    have head := pre.1
    cases shape : lane.queue with
    | nil => rw [shape] at head; cases head
    | cons first rest => rw [shape] at head; exact head
  cases phase with
  | clear => exact stance
  | peeked front => exact ⟨stance.1, stance.2.imp ahead facing⟩
  | dropping front => exact ⟨stance.1, stance.2.imp ahead facing⟩
  | added front => exact stance.imp ahead fun pre => ⟨facing pre.1, pre.2⟩
  | drained => exact Fresh.push stance entry
  | _ => trivial

theorem At.pop (stance : lane.At phase) (shape : lane.queue = entry :: rest) :
    At { lane with queue := rest } phase := by
  have ahead {front : Entry P} (pre : lane.Ahead front) :
      Ahead { lane with queue := rest } front := by
    unfold Ahead at pre ⊢
    rw [shape] at pre
    exact (Sublist.append_left ((sublist_cons_self entry rest).cons_cons front) _).trans pre
  have facing {front : Entry P} (pre : lane.Facing front) :
      Ahead { lane with queue := rest } front := by
    have head := pre.1
    rw [shape] at head
    cases head
    have fresh := pre.2
    unfold Fresh at fresh
    rw [shape] at fresh
    exact fresh
  cases phase with
  | clear => exact stance
  | peeked front => exact ⟨stance.1, .inl (stance.2.elim ahead facing)⟩
  | dropping front => exact ⟨stance.1, .inl (stance.2.elim ahead facing)⟩
  | added front => exact .inl (stance.elim ahead fun pre => facing pre.1)
  | drained => exact Fresh.pop stance shape
  | _ => trivial

theorem At.settle (ordered : lane.Ordered) (stance : lane.At phase)
    (owed : lane.Owed (.popped entry)) :
    At { lane with pending := if lane.pending = entry.uniqueId then "" else lane.pending } phase := by
  have free (pre : lane.pending = "") :
      (if lane.pending = entry.uniqueId then "" else lane.pending) = "" := by
    rw [pre, ite_self]
  cases phase with
  | clear => exact free stance
  | peeked front => exact ⟨free stance.1, stance.2⟩
  | dropping front => exact ⟨free stance.1, stance.2⟩
  | added front =>
    refine stance.imp id ?_
    rintro ⟨facing, pending⟩
    refine ⟨facing, ?_⟩
    have mem : front ∈ lane.queue := mem_of_mem_head? facing.1
    have other : lane.pending ≠ entry.uniqueId := by
      intro same
      rw [pending] at same
      exact owed.2 (ordered.same (ordered.mem_pushed_of_queue mem) owed.1 same ▸ mem)
    rwa [if_neg other]
  | drained => exact stance
  | _ => trivial

/-- The pending slot was free when the pump registered the entry it has read. -/
theorem At.register (stance : lane.At (.peeked entry)) :
    At { lane with pending := entry.uniqueId } (.added entry) :=
  stance.2.imp id fun facing => ⟨facing, rfl⟩

variable (ordered : lane.Ordered)
include ordered

/-- While nothing is pending, nothing in the queue has been written. -/
theorem Ordered.fresh_of_free (free : lane.pending = "") : lane.Fresh := by
  rcases ordered.line with fresh | ⟨front, rest, shape, written, named, line⟩
  · exact fresh
  · rw [free] at named
    exact absurd named.symm (ordered.identified.named front (ordered.mem_pushed_of_writes written))

theorem Ordered.pend (fresh : lane.Fresh) (pending : String) :
    Ordered { lane with pending := pending } where
  identified := ⟨ordered.identified.distinct, ordered.identified.named⟩
  line := .inl fresh

/-- The entry the pump has registered is handed to the network. -/
theorem Ordered.write (stance : lane.At (.added entry)) :
    Ordered { lane with writes := lane.writes ++ [entry] } where
  identified := ⟨ordered.identified.distinct, ordered.identified.named⟩
  line := by
    rcases stance with ahead | ⟨⟨head, fresh⟩, pending⟩
    · left
      unfold Fresh
      rwa [append_assoc]
    · right
      cases shape : lane.queue with
      | nil => rw [shape] at head; cases head
      | cons first rest =>
        rw [shape] at head
        cases head
        refine ⟨entry, rest, rfl, by simp, pending, ?_⟩
        unfold Fresh at fresh
        rw [shape] at fresh
        rwa [append_assoc]

end Lane

/-! ## The invariant -/

namespace Phases

structure InFlight (s : Shared P) (view : Nat -> Option (Label P)) : Prop where
  ordered : s.lane.Ordered
  stages : ∀ tid label gen phase, view tid = some label ->
    label.role = .pump gen phase -> s.lane.At phase
  debts : ∀ tid label, view tid = some label -> s.lane.Owed label.debt

variable {pre after : Shared P} {view : Nat -> Option (Label P)} {tid : Nat}
  {label onward : Label P} {choice : Choice} {op : Op P} {ans : Res P op}

section

variable (flight : InFlight pre view)
include flight

/-- A step that keeps what the others know. -/
theorem InFlight.change (ordered : after.lane.Ordered)
    (others : ∀ other label' gen phase, other ≠ tid -> view other = some label' ->
      label'.role = .pump gen phase -> pre.lane.At phase -> after.lane.At phase)
    (owed : ∀ debt, pre.lane.Owed debt -> after.lane.Owed debt)
    (own : ∀ gen phase, onward.role = .pump gen phase -> after.lane.At phase)
    (ownDebt : after.lane.Owed onward.debt) :
    InFlight after (update view tid (some onward)) where
  ordered := ordered
  stages := by
    intro other label' gen phase tagged pumps
    rcases tagged_of_update tagged with ⟨_, ⟨⟩⟩ | ⟨apart, known⟩
    · exact own gen phase pumps
    · exact others other label' gen phase apart known pumps
        (flight.stages other label' gen phase known pumps)
  debts := by
    intro other label' tagged
    rcases tagged_of_update tagged with ⟨_, ⟨⟩⟩ | ⟨_, known⟩
    · exact ownDebt
    · exact owed _ (flight.debts other label' known)

/-- A step that leaves the lane as it is. -/
theorem InFlight.still (same : after.lane = pre.lane)
    (own : ∀ gen phase, onward.role = .pump gen phase ->
      pre.lane.At phase) (ownDebt : pre.lane.Owed onward.debt) :
    InFlight after (update view tid (some onward)) := by
  apply flight.change
  · exact same ▸ flight.ordered
  · intro _ _ _ _ _ _ _ stance
    exact same ▸ stance
  · intro _ owed
    exact same ▸ owed
  · exact same ▸ own
  · exact same ▸ ownDebt

theorem InFlight.push {entry : Entry P}
    (new : ∀ other, other ∈ pre.hist.pushed -> other.uniqueId ≠ entry.uniqueId)
    (named : entry.uniqueId ≠ "") (pushed : after.lane = { pre.lane with
      pushed := pre.lane.pushed ++ [entry], queue := pre.lane.queue ++ [entry] })
    (own : ∀ gen phase, onward.role ≠ .pump gen phase)
    (ownDebt : onward.debt = .none) :
    InFlight after (update view tid (some onward)) := by
  apply flight.change
  · exact pushed ▸ flight.ordered.push named new
  · intro _ _ _ _ _ _ _ stance
    exact pushed ▸ stance.push entry
  · intro debt owed
    rw [pushed]
    cases debt with
    | popped popped =>
      refine ⟨mem_append_left _ owed.1, ?_⟩
      intro mem
      rcases mem_append.mp mem with before' | after'
      · exact owed.2 before'
      · rw [mem_singleton.mp after'] at owed
        exact new _ owed.1 rfl
    | _ => trivial
  · exact fun gen phase pumps => absurd pumps (own gen phase)
  · rw [ownDebt]
    trivial

theorem InFlight.pop {entry : Entry P} {rest : List (Entry P)}
    (shape : pre.lane.queue = entry :: rest)
    (popped : after.lane = { pre.lane with queue := rest })
    (own : ∀ (lane : Lane P) gen phase, onward.role = .pump gen phase ->
      lane.At phase)
    (ownDebt : onward.debt = .popped entry) :
    InFlight after (update view tid (some onward)) := by
  have gone : entry ∉ rest := by
    have nodup := flight.ordered.queue_nodup
    rw [shape] at nodup
    exact (nodup_cons.mp nodup).1
  have mem : entry ∈ pre.lane.queue := by
    rw [shape]
    exact mem_cons_self
  apply flight.change
  · exact popped ▸ flight.ordered.pop shape
  · intro _ _ _ _ _ _ _ stance
    exact popped ▸ stance.pop shape
  · intro debt owed
    rw [popped]
    cases debt with
    | popped other =>
      refine ⟨owed.1, fun inside => owed.2 ?_⟩
      rw [shape]
      exact mem_cons_of_mem _ inside
    | _ => trivial
  · exact own _
  · rw [ownDebt, popped]
    exact ⟨flight.ordered.mem_pushed_of_queue mem, gone⟩

/-- `PopIf`, by the pump or by the goroutine of the connection. -/
theorem InFlight.popIf {site : Site} {requestId : String}
    {popped : Option (Entry P)} {role : Role P}
    (exec : execute tid (.popIf site requestId) choice pre = some (popped, after))
    (own : ∀ (lane : Lane P) gen phase, role = .pump gen phase -> lane.At phase) :
    InFlight after (update view tid
      (some ⟨role, Debt.after (.popIf site requestId) popped⟩)) := by
  simp only [execute] at exec
  split at exec
  · rename_i front rest found
    cases exec
    exact flight.pop (FIFOClientQueue.popIf_eq_some found).1 rfl own rfl
  · cases exec
    exact flight.still rfl (own _) trivial

/-- The pump changes the lane; no other pump is left that could mind. -/
theorem InFlight.pumps
    (alive : Lifecycle (life pre) (stations view)) {gen : Nat} {phase onward : Phase P}
    {debt : Debt P} (tagged : view tid = some ⟨.pump gen phase, debt⟩)
    (working : phase ≠ .finished) (ordered : after.lane.Ordered)
    (shrinks : ∀ entry, entry ∈ after.lane.queue -> entry ∈ pre.lane.queue)
    (pushed : after.lane.pushed = pre.lane.pushed) (own : after.lane.At onward) :
    InFlight after (update view tid (some ⟨.pump gen onward, .none⟩)) := by
  apply flight.change ordered
  · intro other label' generation' phase' apart tagged' pumps' _
    rw [finished_of_other_pump alive tagged rfl working tagged' pumps' apart]
    trivial
  · intro debt owed
    cases debt with
    | popped entry => exact ⟨pushed ▸ owed.1, fun inside => owed.2 (shrinks entry inside)⟩
    | _ => trivial
  · intro generation' phase' pumps'
    cases pumps'
    exact own
  · trivial

end

/-- The operations that move no request. -/
def resting : Op P -> Bool
  | .push _ _ | .popIf _ _ | .drainAll | .init | .addPendingRequest _ _
  | .deletePendingRequest _ _ | .clearPendingRequests | .write _ _ => false
  | _ => true

theorem lane_of_execute (exec : execute tid op choice pre = some (ans, after))
    (rests : resting op = true) : after.lane = pre.lane := by
  cases op with
  | push | popIf | drainAll | init | addPendingRequest | deletePendingRequest
  | clearPendingRequests | write => cases rests
  | select reqCh pendingDone =>
    obtain ⟨_, _, _, _, rfl⟩ := execute_select_frame exec
    rfl
  | _ =>
    simp only [execute, Option.map_eq_some_iff, Option.bind_eq_some_iff, bind] at exec
    grind [Shared.lane]

theorem debt_of_resting (rests : resting op = true) : Debt.after op ans = .none := by
  cases op with
  | popIf site requestId => cases rests
  | _ => rfl

section

variable (flight : InFlight pre view) (rests : resting op = true)
  (exec : execute tid op choice pre = some (ans, after))
include flight rests exec

/-- What the pump learns by an operation that moves no request. -/
theorem at_of_pumpStep {gen : Nat} {phase onward : Phase P}
    (tagged : view tid = some ⟨.pump gen phase, .none⟩)
    (step : PumpStep gen phase op ans onward) : pre.lane.At onward := by
  have stance := flight.stages tid _ gen phase tagged rfl
  cases step with
  | select rdy pendingDone selected => cases selected <;> trivial
  | isPaused rdy paused => split <;> trivial
  | isEmpty vacant => cases vacant <;> trivial
  | pendingAtDispatch pending =>
    cases exec
    split
    · trivial
    · rename_i free
      show pre.pendingRequestState.requestID = ""
      simpa [ClientState.hasPendingRequest] using free
  | peekAtDispatch front =>
    cases front with
    | none => trivial
    | some front =>
      simp only [Phase.read]
      split
      · simp only [execute, FIFOClientQueue.peek] at exec
        split at exec
        · rename_i head
          cases exec
          exact ⟨stance, .inr ⟨head, flight.ordered.fresh_of_free stance⟩⟩
        · cases exec
      · trivial
  | contextAlive front context => exact stance
  | contextEnded front context err => exact stance
  | contextLate phase rdy context err late => exact stance
  | timerStop active => cases active <;> trivial
  | popAtTick | popAtCancel | popAtDrop | popAtFailure | addPendingRequest | write | drainAll | init
  | clearPendingRequests => cases rests
  | other phase op ans unrelated => exact stance
  | _ => trivial

/-- An operation that moves no request. -/
theorem InFlight.rest (tagged : view tid = some label)
    (move : Move label op ans onward) :
    InFlight after (update view tid (some onward)) := by
  have same : after.lane = pre.lane := lane_of_execute exec rests
  cases move with
  | clears role site front => cases rests
  | signals role site =>
    exact flight.still same (fun gen phase pumps =>
      flight.stages tid _ gen phase tagged pumps) trivial
  | caller step =>
    rw [debt_of_resting rests]
    exact flight.still same (fun gen phase pumps =>
      flight.stages tid _ gen phase tagged (step.of_pump pumps)) trivial
  | pump step =>
    rw [debt_of_resting rests]
    refine flight.still same ?_ trivial
    rintro gen phase pumps
    cases pumps
    exact at_of_pumpStep flight rests exec tagged step

end

/-- `SendRequest` is called with well-formed bundles whose identifiers are not empty
and have not been used before. -/
def distinctIdentifiers (s : Shared P) : Op P -> Prop
  | .push _ bundle => bundle.WellFormed ∧ bundle.uniqueId ≠ "" ∧
      ∀ other, other ∈ s.hist.pushed -> other.uniqueId ≠ bundle.uniqueId
  | _ => True

/-- The first half of a completion has popped the entry, the second one clears the slot. -/
theorem InFlight.settle (flight : InFlight pre view) {role : Role P} {front : Entry P}
    (tagged : view tid = some ⟨role, .popped front⟩) :
    InFlight { pre with pendingRequestState :=
        pre.pendingRequestState.deletePendingRequest front.uniqueId }
      (update view tid (some ⟨role, .deleted⟩)) := by
  have owed := flight.debts tid _ tagged
  have settled : ({ pre with pendingRequestState :=
      pre.pendingRequestState.deletePendingRequest front.uniqueId } : Shared P).lane =
      { pre.lane with pending :=
        if pre.lane.pending = front.uniqueId then "" else pre.lane.pending } := by
    simp only [Shared.lane, ClientState.deletePendingRequest_requestID]
    rfl
  apply flight.change
  · rw [settled]
    exact flight.ordered.settle owed
  · intro other label' gen phase _ _ _ stance
    rw [settled]
    exact stance.settle flight.ordered owed
  · intro debt owed
    cases debt <;> exact owed
  · intro gen phase pumps
    rw [settled]
    exact (flight.stages tid _ gen phase tagged pumps).settle flight.ordered owed
  · trivial

theorem InFlight.pushes (flight : InFlight pre view) {num : Nat} {bundle : RequestBundle P}
    {accepted : Bool} (admitted : distinctIdentifiers pre (.push num bundle))
    (exec : execute tid (.push num bundle) choice pre = some (accepted, after)) :
    InFlight after (update view tid (some ⟨.sender accepted, .none⟩)) := by
  simp only [execute] at exec
  split at exec
  · rename_i queue pushed
    cases exec
    have new : ∀ other, other ∈ pre.hist.pushed ->
        other.uniqueId ≠ (⟨num, pre.gen, bundle⟩ : Entry P).uniqueId := admitted.2.2
    refine flight.push new admitted.2.1 ?_ (by simp) rfl
    simp only [Shared.lane, (FIFOClientQueue.push_eq_some pushed).1]
  · cases exec
    exact flight.still rfl (by simp) trivial

/-- One operation of a goroutine. -/
theorem execute_inFlight (alive : Lifecycle (life pre) (stations view))
    (flight : InFlight pre view) (tagged : view tid = some label)
    (move : Move label op ans onward) (admitted : distinctIdentifiers pre op)
    (exec : execute tid op choice pre = some (ans, after)) :
    InFlight after (update view tid (some onward)) := by
  by_cases rests : resting op = true
  · exact flight.rest rests exec tagged move
  · cases move with
    | clears role site front =>
      cases exec
      exact flight.settle tagged
    | signals role site => exact absurd rfl rests
    | caller step =>
      cases step with
      | push num bundle accepted => exact flight.pushes admitted exec
      | popInbound requestId popped =>
        exact flight.popIf exec nofun
      | timer role op ans pausing timing =>
        cases op <;> first | exact absurd rfl rests | cases timing
      | other role op ans unrelated =>
        cases op <;> first | exact absurd rfl rests | cases unrelated
      | _ => exact absurd rfl rests
    | pump step =>
      cases step with
      | popAtTick | popAtCancel | popAtDrop | popAtFailure =>
        apply flight.popIf exec
        rintro _ _ _ ⟨rfl, rfl⟩
        trivial
      | addPendingRequest front req =>
        have stance := flight.stages tid _ _ _ tagged rfl
        cases exec
        have registered : ({ pre with pendingRequestState :=
            pre.pendingRequestState.addPendingRequest front.uniqueId req } : Shared P).lane =
            { pre.lane with pending := front.uniqueId } := by
          have free : pre.pendingRequestState.requestID = "" := stance.1
          simp [Shared.lane, ClientState.addPendingRequest_requestID, free]
        refine flight.pumps alive tagged (by simp) ?_ (fun _ inside => inside) rfl ?_
        · rw [registered]
          exact flight.ordered.pend (flight.ordered.fresh_of_free stance.1) _
        · rw [registered]
          exact stance.register
      | write front data failure =>
        have stance := flight.stages tid _ _ _ tagged rfl
        cases choice with
        | network failure' =>
          cases exec
          exact flight.pumps alive tagged (by simp) (flight.ordered.write stance)
            (fun _ inside => inside) rfl trivial
        | _ => cases exec
      | drainAll outstanding =>
        cases exec
        exact flight.pumps alive tagged (by simp) flight.ordered.wipe
          nofun rfl flight.ordered.fresh_wipe
      | init =>
        cases exec
        exact flight.pumps alive tagged (by simp) flight.ordered.wipe
          nofun rfl trivial
      | clearPendingRequests =>
        have stance := flight.stages tid _ _ _ tagged rfl
        cases exec
        exact flight.pumps alive tagged (by simp) (flight.ordered.pend stance "")
          (fun _ inside => inside) rfl trivial
      | other phase op ans unrelated =>
        cases op <;> first | exact absurd rfl rests | cases unrelated
      | _ => exact absurd rfl rests

/-- A new goroutine has not read or popped anything. -/
theorem firstLabel_facts (s : Shared P) (call : Routine P) (lane : Lane P) :
    (∀ gen phase, (firstLabel s call).role = .pump gen phase -> lane.At phase) ∧
      lane.Owed (firstLabel s call).debt := by
  cases call with
  | messagePump | pumpLoop _ _ _ _ =>
    refine ⟨?_, trivial⟩
    rintro _ _ ⟨rfl, rfl⟩
    trivial
  | _ => exact ⟨fun _ _ never => (by cases never), trivial⟩

end Phases

/-- `Start` is called only when the dispatcher is stopped and not next to `Stop` or
another `Start`; bundles are well formed, with distinct identifiers that are not empty. -/
@[reducible] def orderly : Condition P where
  call := startsWhenStopped
  op s _ op := Phases.distinctIdentifiers s op

namespace Phases

theorem extends_inFlight (capacity : Nat) :
    Extends orderly (Shared.initial capacity) (InFlight : Shared P -> _ -> Prop) where
  initially := by
    refine ⟨⟨⟨nodup_nil, ?_⟩, .inl (Sublist.refl [])⟩, ?_, ?_⟩
    · intro entry mem
      cases mem
    · intro tid label gen phase tagged
      cases tagged
    · intro tid label tagged
      cases tagged
  enter := by
    intro config view tid call after _ flight _ entered _
    have same : after.lane = config.shared.lane := by
      cases call <;> simp only [enter] at entered <;> grind [Shared.lane]
    have facts := firstLabel_facts config.shared call config.shared.lane
    exact flight.still same facts.1 facts.2
  occur := by
    intro pre view event after _ flight arose
    have same : after.lane = pre.lane := by
      cases event <;> simp only [occur, Option.bind_eq_some_iff, bind] at arose <;>
        grind [Shared.lane]
    exact ⟨same ▸ flight.ordered, same ▸ flight.stages, same ▸ flight.debts⟩
  execute := by
    intro pre view tid label op choice ans after onward alive flight tagged move
      admitted exec
    exact execute_inFlight alive flight tagged move admitted exec
  finish := by
    intro pre view tid label _ flight _ _
    refine ⟨flight.ordered, ?_, ?_⟩
    · intro other label' gen phase tagged pumps
      rcases tagged_of_update tagged with ⟨_, ⟨⟩⟩ | ⟨_, known⟩
      exact flight.stages other label' gen phase known pumps
    · intro other label' tagged
      rcases tagged_of_update tagged with ⟨_, ⟨⟩⟩ | ⟨_, known⟩
      exact flight.debts other label' known

end Phases

/-- At most one entry that has been written is still in the queue. -/
structure OneInFlight [DecidableEq P] (s : Shared P) : Prop where
  single : (s.requestQueue.elements.filter (fun entry => entry ∈ s.hist.writes)).length ≤ 1
  once : s.hist.writes.Nodup
  inOrder : s.hist.writes.Sublist s.hist.pushed

theorem Lane.Ordered.writes_sublist {lane : Lane P} (ordered : lane.Ordered) :
    lane.writes.Sublist lane.pushed := by
  rcases ordered.line with fresh | ⟨_, _, _, _, _, line⟩
  · exact (sublist_append_left _ _).trans fresh
  · exact (sublist_append_left _ _).trans line

theorem Lane.Ordered.single [DecidableEq P] {lane : Lane P} (ordered : lane.Ordered) :
    (lane.queue.filter (fun entry => entry ∈ lane.writes)).length ≤ 1 := by
  have unwritten {rest : List (Entry P)} (line : (lane.writes ++ rest).Sublist lane.pushed) :
      rest.filter (fun entry => entry ∈ lane.writes) = [] := by
    rw [filter_eq_nil_iff]
    intro entry behind written
    have nodup := nodup_append.mp (line.nodup ordered.pushed_nodup)
    exact nodup.2.2 entry (of_decide_eq_true written) entry behind rfl
  rcases ordered.line with fresh | ⟨front, rest, shape, written, _, line⟩
  · rw [unwritten fresh]
    exact Nat.zero_le 1
  · rw [shape, filter_cons, if_pos (decide_eq_true written), unwritten line]
    exact Nat.le_refl 1

/-- At every moment at most one request has been written and not yet removed from the
queue, no entry is handed to the network twice, and entries are written in the order in
which they were pushed. -/
theorem one_request_in_flight [DecidableEq P] (opts : Settings) (capacity : Nat)
    {config : Configuration P}
    (reached : (system opts).Reachable orderly (Shared.initial capacity) config) :
    OneInFlight config.shared := by
  rcases (Phases.extends_inFlight capacity).reachable (fun _ _ admitted => admitted) reached with
    ⟨view, _, _, flight⟩
  exact ⟨flight.ordered.single, flight.ordered.writes_sublist.nodup flight.ordered.pushed_nodup,
    flight.ordered.writes_sublist⟩

instance (s : Shared P) (op : Op P) : Decidable (Phases.distinctIdentifiers s op) := by
  delta Phases.distinctIdentifiers
  rcases op <;> infer_instance

/-- Two requests are sent and the first is answered; the second is in flight then. -/
theorem one_request_in_flight_second :
    ∃ config, (system sampleOpts).Reachable orderly (Shared.initial 10 : Shared Nat) config ∧
      (config.shared.hist.writes.length = 2 ∧ config.shared.requestQueue.elements.length = 1) ∧
      OneInFlight config.shared :=
  System.exists_reachable_with
    (starting 0 ++ sending 2 0 (sample "1" 1) ++ dispatching 1 ++ sending 3 1 (sample "2" 2) ++
      answering 4 "1" ++ receive 1 .ready ++ proceed 1 6 ++ [.step 1 (.network none)]) (by decide +kernel)
    fun _ reached _ => one_request_in_flight sampleOpts 10 reached

/-- A request that has been written and is still queued is the front of the queue and holds the
pending slot: nothing is sent before it is completed, and its answer is recognised. -/
theorem in_flight_is_pending (opts : Settings) (capacity : Nat) {config : Configuration P}
    (reached : (system opts).Reachable orderly (Shared.initial capacity) config)
    {entry : Entry P} (queued : entry ∈ config.shared.requestQueue.elements)
    (written : entry ∈ config.shared.hist.writes) :
    config.shared.requestQueue.peek = some entry ∧
      config.shared.pendingRequestState.requestID = entry.uniqueId := by
  rcases (Phases.extends_inFlight capacity).reachable (fun _ _ admitted => admitted) reached with
    ⟨view, _, _, flight⟩
  have unwritten {rest : List (Entry P)} (line : (config.shared.hist.writes ++ rest).Sublist
      config.shared.hist.pushed) : entry ∉ rest := fun behind =>
    (nodup_append.mp (line.nodup flight.ordered.pushed_nodup)).2.2 entry written entry behind rfl
  rcases flight.ordered.line with fresh | ⟨front, rest, shape, _, pending, line⟩
  · exact absurd queued (unwritten fresh)
  · change config.shared.requestQueue.elements = front :: rest at shape
    rw [shape] at queued
    rcases mem_cons.mp queued with rfl | behind
    · exact ⟨by rw [FIFOClientQueue.peek, shape]; rfl, pending⟩
    · exact absurd behind (unwritten line)

/-- The first of two requests has been written. -/
theorem in_flight_is_pending_first :
    ∃ config, (system sampleOpts).Reachable orderly (Shared.initial 10 : Shared Nat) config ∧
      (⟨0, 1, sample "1" 1⟩ ∈ config.shared.requestQueue.elements ∧
        ⟨0, 1, sample "1" 1⟩ ∈ config.shared.hist.writes) ∧
      config.shared.requestQueue.peek = some ⟨0, 1, sample "1" 1⟩ ∧
      config.shared.pendingRequestState.requestID = "1" :=
  System.exists_reachable_with
    (starting 0 ++ sending 2 0 (sample "1" 1) ++ dispatching 1 ++ sending 3 1 (sample "2" 2))
    (by decide +kernel)
    fun _ reached found => in_flight_is_pending sampleOpts 10 reached found.1 found.2

end ClientDispatcher
end OcppGo
