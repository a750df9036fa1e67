import OcppGo.Ocppj.Errors

namespace OcppGo
namespace Ocppj

/-!
# Request bundles and the FIFO queue

`P` stands for the request payloads, `ocpp.Request` in the source.  A nil
pointer or a nil interface of the source is `none`.
-/

/-- A context as the dispatchers see it: either one that never finishes, like
`context.Background()`, or one that may, identified by a number. -/
inductive Context where
  | background
  | cancelable (id : Nat)
  deriving DecidableEq

/-- `Done()` of a context; nil for one that never finishes. -/
def Context.done : Context -> Option Nat
  | .background => none
  | .cancelable id => some id

/-- The parts of an OCPP-J Call the dispatchers read. -/
structure Call (P : Type) where
  uniqueId : String
  action : String
  payload : Option P
  deriving DecidableEq

/-- `RequestBundle`: a call, its JSON text and an optional context. -/
structure RequestBundle (P : Type) where
  call : Option (Call P)
  data : Option (List UInt8)
  ctx : Option Context
  deriving DecidableEq

namespace RequestBundle

variable {P : Type}

/-- `bundleCtx`: a bundle without a context gets one that never finishes. -/
def bundleCtx (bundle : RequestBundle P) : Context :=
  bundle.ctx.getD .background

/-- `bundle.Call.UniqueId`.  The source reads it behind a nil check of `Call`;
without a call there is no identifier, and the empty string stands for that. -/
def uniqueId (bundle : RequestBundle P) : String :=
  match bundle.call with
  | some call => call.uniqueId
  | none => ""

/-- The predicate `CompleteRequest` hands to `PopIf`. -/
def isRequest (requestId : String) (bundle : RequestBundle P) : Bool :=
  match bundle.call with
  | some call => call.uniqueId == requestId
  | none => false

/-- A bundle that `dispatchNextRequest` does not give up on. -/
def WellFormed (bundle : RequestBundle P) : Prop :=
  bundle.call.isSome = true ∧ bundle.data.isSome = true
  deriving Decidable

theorem isRequest_iff {requestId : String} {bundle : RequestBundle P} :
    bundle.isRequest requestId = true <-> bundle.call.isSome = true ∧ bundle.uniqueId = requestId := by
  unfold isRequest uniqueId
  cases bundle.call with
  | _ => simp

end RequestBundle

/-- A bundle in a queue, together with the number of the `SendRequest` call that
pushed it and the generation in which it was pushed.  The two numbers are not
part of the source; they tell entries with equal contents apart. -/
structure Entry (P : Type) where
  num : Nat
  gen : Nat
  bundle : RequestBundle P
  deriving DecidableEq

namespace Entry

variable {P : Type}

def uniqueId (entry : Entry P) : String := entry.bundle.uniqueId

/-- `bundle.Call.Payload`. -/
def payload (entry : Entry P) : Option P := entry.bundle.call.bind Call.payload

def isRequest (requestId : String) (entry : Entry P) : Bool := entry.bundle.isRequest requestId

theorem uniqueId_of_isRequest {requestId : String} {entry : Entry P}
    (matched : entry.isRequest requestId = true) : entry.uniqueId = requestId :=
  (RequestBundle.isRequest_iff.mp matched).2

end Entry

/-- `FIFOClientQueue`.  A capacity of zero means that the queue is unbounded;
otherwise the number of elements never exceeds the capacity. -/
structure FIFOClientQueue (α : Type) where
  elements : List α
  capacity : Nat
  bounded : capacity = 0 ∨ elements.length ≤ capacity

namespace FIFOClientQueue

variable {α : Type}

def new (capacity : Nat) : FIFOClientQueue α := ⟨[], capacity, Or.inr (Nat.zero_le _)⟩

def init (queue : FIFOClientQueue α) : FIFOClientQueue α := new queue.capacity

/-- The detached elements and the emptied queue. -/
def drainAll (queue : FIFOClientQueue α) : List α × FIFOClientQueue α :=
  (queue.elements, new queue.capacity)

def isFull (queue : FIFOClientQueue α) : Bool :=
  decide (queue.capacity ≤ queue.elements.length) && decide (0 < queue.capacity)

/-- `Push`; nothing on "request queue is full, cannot push new element". -/
def push (queue : FIFOClientQueue α) (element : α) : Option (FIFOClientQueue α) :=
  if room : queue.isFull = false then
    some ⟨queue.elements ++ [element], queue.capacity, by
      rcases queue.bounded with unbounded | within
      · exact .inl unbounded
      · simp only [isFull, Bool.and_eq_false_iff, decide_eq_false_iff_not] at room
        rw [List.length_append, List.length_singleton]
        omega⟩
  else none

def peek (queue : FIFOClientQueue α) : Option α := queue.elements.head?

def isEmpty (queue : FIFOClientQueue α) : Bool := queue.elements.isEmpty

/-- Drop the front element, the common part of `Pop` and `PopIf`. -/
def dropFront (queue : FIFOClientQueue α) : FIFOClientQueue α :=
  ⟨queue.elements.tail, queue.capacity, by
    rcases queue.bounded with unbounded | within
    · exact .inl unbounded
    · rw [List.length_tail]
      omega⟩

/-- `PopIf`: compare and pop in one locked operation. -/
def popIf (queue : FIFOClientQueue α) (predicate : α -> Bool) : Option (α × FIFOClientQueue α) :=
  match queue.elements.head? with
  | some front => if predicate front then some (front, queue.dropFront) else none
  | none => none

variable {queue : FIFOClientQueue α}

theorem push_eq_some {pushed : FIFOClientQueue α} {element : α}
    (succeeded : queue.push element = some pushed) :
    pushed.elements = queue.elements ++ [element] ∧ pushed.capacity = queue.capacity := by
  unfold push at succeeded
  split at succeeded
  · cases succeeded
    exact ⟨rfl, rfl⟩
  · cases succeeded

theorem popIf_eq_some {rest : FIFOClientQueue α} {predicate : α -> Bool} {front : α}
    (popped : queue.popIf predicate = some (front, rest)) :
    queue.elements = front :: rest.elements ∧ predicate front = true := by
  unfold popIf at popped
  cases shape : queue.elements with
  | nil => rw [shape] at popped; cases popped
  | cons head tail =>
    simp only [shape, List.head?_cons] at popped
    split at popped
    · rename_i accepted
      simp only [Option.some.injEq, Prod.mk.injEq] at popped
      rcases popped with ⟨rfl, rfl⟩
      exact ⟨by simp [dropFront, shape], accepted⟩
    · cases popped

/-- A failed `PopIf` found the queue empty or refused its front. -/
theorem popIf_eq_none {predicate : α -> Bool} (missed : queue.popIf predicate = none) :
    ∀ front, queue.elements.head? = some front -> predicate front = false := by
  intro front found
  simp only [popIf, found] at missed
  split at missed
  · cases missed
  · rename_i refused
    simpa using refused

@[simp] theorem new_elements (capacity : Nat) : (new capacity : FIFOClientQueue α).elements = [] := rfl

@[simp] theorem init_elements (queue : FIFOClientQueue α) : queue.init.elements = [] := rfl

end FIFOClientQueue

end Ocppj
end OcppGo
