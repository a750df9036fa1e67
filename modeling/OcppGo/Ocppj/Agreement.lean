import OcppGo.Interleaving.Protocol
import OcppGo.Ocppj.Reply

namespace OcppGo
namespace Ocppj
namespace Agreement

open Function Interleaving List

/-!
# A client and a server talking to each other

Both endpoints read frames with `ocppMessageHandler`, send requests through a
dispatcher and answer the requests of the other one.  The two are connected by
channels that lose nothing and keep the order.  Each endpoint chooses the
identifiers of its own requests, so the same identifier may be in use on both
sides.

The dispatchers are reduced to what they do with the queue and the pending
state.  The pump may dispatch the front of the queue at any moment, more often
than the real pumps do, and it may give the front up at any moment, which is
what a timeout, a cancellation and a failed write come to.
-/

inductive Side where
  | client
  | server
  deriving DecidableEq

def Side.peer : Side -> Side
  | .client => .server
  | .server => .client

@[simp] theorem Side.peer_peer (side : Side) : side.peer.peer = side := by
  cases side with
  | _ => rfl

/-- Why a frame was written.  An answer records the CALL it answers. -/
inductive Purpose where
  | call
  | ans (call : Elements)
  /-- the error for a frame that was rejected and is not a CALL -/
  | complaint

/-- A frame on its way.  The purpose is not part of the frame. -/
structure Letter where
  frame : Elements
  purpose : Purpose

/-- A request in the queue: the call and its frame. -/
structure Bundle (Q : Type) where
  call : Call Q
  data : Elements

/-- The two endpoints and the channels between them.  The requests pushed so
far, the letters written so far and the completed requests with the letters that
completed them are kept as a record; the code does not read them. -/
structure State (Q : Type) where
  queue : Side -> List (Bundle Q)
  pending : Side -> ClientState Q
  /-- the letters on their way to an endpoint -/
  inbox : Side -> List Letter
  /-- the CALLs of the peer that have reached the request handler -/
  received : Side -> List Elements
  pushed : Side -> List (Bundle Q)
  sent : Side -> List Letter
  completed : Side -> List (Bundle Q × Letter)

def initial {Q : Type} : State Q where
  queue _ := []
  pending _ := .new
  inbox _ := []
  received _ := []
  pushed _ := []
  sent _ := []
  completed _ := []

/-- How an invalid-message hook ends.  It is handed a pointer to the error, so
it may change the error besides returning one. -/
inductive HookOutcome where
  | panicked
  | ret (changed : OcppError) (result : Option OcppError)

/-- The two endpoints, and what their processes are given. -/
structure Settings (Q R : Type) where
  endpoint : Side -> Endpoint Q R
  validationEnabled : Side -> Bool
  sprint : Json -> String
  invalidMessageHook : Side -> Option (OcppError -> Elements -> HookOutcome)

variable {Q R : Type}

/-- The error that is sent after the hook has run.  A panic of the hook
restores the error; a returned error keeps the message identifier. -/
def Settings.afterHook (opts : Settings Q R) (side : Side) (err : OcppError) (frame : Elements)
    : OcppError :=
  match opts.invalidMessageHook side with
  | none => err
  | some hook =>
    match hook err frame with
    | .panicked => err
    | .ret changed none => changed
    | .ret _ (some result) => { result with messageId := err.messageId }

/-- The hooks leave the message identifier alone. -/
def Settings.HooksKeepIdentifier (opts : Settings Q R) : Prop :=
  ∀ side err frame, (opts.afterHook side err frame).messageId = err.messageId

/-- The atomic operations.  Each is a critical section of the source or one
use of the network. -/
inductive Op (Q : Type) where
  | push (side : Side) (bundle : Bundle Q)
  | peek (side : Side)
  | addPending (side : Side) (requestID : String) (request : Option Q)
  | write (side : Side) (letter : Letter)
  /-- `PopIf`, with the letter on whose account the request is completed -/
  | popIf (side : Side) (requestID : String) (cause : Option Letter)
  | deletePending (side : Side) (requestID : String)
  | receive (side : Side)
  /-- `ParseMessage` against the pending state of the moment -/
  | parse (side : Side) (letter : Letter)
  /-- the request handler is called with a CALL -/
  | accept (side : Side) (call : Elements)
  /-- the application turns to one of the CALLs it was given -/
  | lookBack (side : Side) (index : Nat)

abbrev Op.Res (Q R : Type) : Op Q -> Type
  | .push .. => Unit
  | .peek _ => Option (Bundle Q)
  | .addPending .. => Unit
  | .write .. => Unit
  | .popIf .. => Option (Bundle Q)
  | .deletePending .. => Unit
  | .receive _ => Letter
  | .parse .. => Except Panic (Parsed Q R)
  | .accept .. => Unit
  | .lookBack .. => Option Elements

/-- One more entry on one side. -/
def append {α : Type} (lists : Side -> List α) (side : Side) (entry : α) : Side -> List α :=
  update lists side (lists side ++ [entry])

variable {side : Side}

theorem mem_append {α : Type} {lists : Side -> List α} {other : Side} {entry new : α} :
    entry ∈ append lists side new other <-> entry ∈ lists other ∨ (other = side ∧ entry = new) := by
  unfold append
  by_cases same : other = side
  · subst same
    simp
  · simp [same]

def execute [Payload Q] [Payload R] (opts : Settings Q R) :
    (op : Op Q) -> State Q -> Option (Op.Res Q R op × State Q)
  | .push side bundle, state => some ((), { state with
      queue := append state.queue side bundle
      pushed := append state.pushed side bundle })
  | .peek side, state => some ((state.queue side).head?, state)
  | .addPending side requestID request, state => some ((), { state with
      pending := update state.pending side
        ((state.pending side).addPendingRequest requestID request) })
  | .write side letter, state => some ((), { state with
      sent := append state.sent side letter
      inbox := append state.inbox side.peer letter })
  | .popIf side requestID cause, state =>
    match state.queue side with
    | [] => some (none, state)
    | front :: rest =>
      if front.call.uniqueId = requestID then
        some (some front, { state with
          queue := update state.queue side rest
          completed := match cause with
            | none => state.completed
            | some letter => append state.completed side (front, letter) })
      else some (none, state)
  | .deletePending side requestID, state => some ((), { state with
      pending := update state.pending side
        ((state.pending side).deletePendingRequest requestID) })
  | .receive side, state =>
    match state.inbox side with
    | [] => none
    | letter :: rest =>
      some (letter, { state with inbox := update state.inbox side rest })
  | .parse side letter, state =>
    some ((opts.endpoint side).parseMessage opts.sprint letter.frame
      (state.pending side), state)
  | .accept side call, state => some ((), { state with received := append state.received side call })
  | .lookBack side index, state => some ((state.received side)[index]?, state)

/-! ## Code -/

/-- What an application sends in answer to a CALL. -/
inductive Reply (R : Type) where
  | result (response : R)
  | error (code description : String) (details : Option Json)

inductive Routine (Q R : Type) where
  /-- `SendRequest`, with the identifier the generator has produced -/
  | sendRequest (side : Side) (request : Q) (uniqueId : String)
  /-- the pump dispatches the front of the queue -/
  | dispatch (side : Side)
  /-- the pump gives the front of the queue up -/
  | giveUp (side : Side)
  /-- the loop of the read goroutine -/
  | read (side : Side)
  /-- `SendResponse` or `SendError` for a CALL that was received -/
  | respond (side : Side) (index : Nat) (reply : Reply R)

abbrev Code (Q R : Type) (α : Type) := Program (Op Q) (Op.Res Q R) α

/-- One operation, as a program. -/
def act (op : Op Q) : Code Q R (Op.Res Q R op) := .act op .done

/-- The part of `dispatchNextRequest` that writes. -/
def dispatchNextRequest (side : Side) : Code Q R Unit := do
  match <- act (.peek side) with
  | none => return
  | some bundle =>
    act (.addPending side bundle.call.uniqueId bundle.call.payload)
    act (.write side ⟨bundle.data, .call⟩)

def completeRequest (side : Side) (requestID : String) (cause : Option Letter) : Code Q R Bool := do
  match <- act (.popIf side requestID cause) with
  | none => return false
  | some bundle =>
    act (.deletePending side bundle.call.uniqueId)
    return true

def giveUp (side : Side) : Code Q R Unit := do
  match <- act (.peek side) with
  | none => return
  | some bundle =>
    let _ <- completeRequest side bundle.call.uniqueId none

/-- `SendError`. -/
def sendError (opts : Settings Q R) (side : Side) (requestId errorCode description : String)
    (details : Option Json) (purpose : Purpose) : Code Q R Unit :=
  match createCallError (opts.validationEnabled side) requestId errorCode description details with
  | .error _ => pure ()
  | .ok callError => act (.write side ⟨callError.marshalJSON, purpose⟩)

/-- What the error for a rejected letter is: an answer if the letter is a CALL. -/
def Letter.rejection (letter : Letter) : Purpose :=
  match letter.purpose with
  | .call => .ans letter.frame
  | _ => .complaint

/-- `ocppMessageHandler`.  A panic of `ParseMessage` ends the goroutine. -/
def ocppMessageHandler (opts : Settings Q R) (side : Side) (letter : Letter) : Code Q R Unit := do
  match <- act (.parse side letter) with
  | .error _ => return
  | .ok (.rejected rejected) =>
    let err := opts.afterHook side rejected letter.frame
    if err.messageId ≠ "" then
      sendError opts side err.messageId err.code err.description none letter.rejection
  | .ok .discarded => return
  | .ok (.message (.call _)) => act (.accept side letter.frame)
  | .ok (.message (.callResult callResult)) =>
    let _ <- completeRequest side callResult.uniqueId (some letter)
  | .ok (.message (.callError callError)) =>
    let _ <- completeRequest side callError.uniqueId (some letter)

section Programs

variable [Payload Q] [Payload R] (opts : Settings Q R)

def sendRequest (side : Side) (request : Q) (uniqueId : String) : Code Q R Unit :=
  match (opts.endpoint side).createCall (opts.validationEnabled side) request uniqueId with
  | .ok (.ok call) =>
    match call.marshalJSON with
    | .ok (.ok jsonMessage) => act (.push side ⟨call, jsonMessage⟩)
    | _ => pure ()
  | _ => pure ()

/-- `SendResponse`. -/
def sendResponse (side : Side) (requestId : String) (response : R) (purpose : Purpose) :
    Code Q R Unit :=
  match (opts.endpoint side).createCallResult (opts.validationEnabled side) response
    requestId with
  | .ok (.ok callResult) =>
    match callResult.marshalJSON with
    | .ok (.ok jsonMessage) => act (.write side ⟨jsonMessage, purpose⟩)
    | _ => pure ()
  | _ => pure ()

/-- The application answers a CALL under the CALL's identifier. -/
def respond (side : Side) (index : Nat) (reply : Reply R) : Code Q R Unit := do
  match <- act (.lookBack side index) with
  | none => return
  | some call =>
    match reply with
    | .result response => sendResponse opts side (frameId call) response (.ans call)
    | .error code description details =>
      sendError opts side (frameId call) code description details (.ans call)

def body : Routine Q R -> Code Q R (Option (Routine Q R))
  | .sendRequest side request uniqueId => do
      sendRequest opts side request uniqueId
      return none
  | .dispatch side => do
      dispatchNextRequest side
      return none
  | .giveUp side => do
      giveUp side
      return none
  | .read side => do
      let letter <- act (.receive side)
      ocppMessageHandler opts side letter
      return some (.read side)
  | .respond side index reply => do
      respond opts side index reply
      return none

/-- The two endpoints as one system.  Nothing is left to choose, and nothing
happens outside the goroutines. -/
def system : System (Op Q) (Op.Res Q R) (State Q) Unit (Routine Q R) Empty where
  body := body opts
  execute _ op _ state := execute opts op state
  enter _ state := some state
  occur event := event.elim

end Programs

abbrev Configuration (Q R : Type) := Config (Op Q) (Op.Res Q R) (State Q) (Routine Q R)

abbrev Condition (Q R : Type) := Guard (Op Q) (Op.Res Q R) (State Q) (Routine Q R)

/-- The identifiers of the requests an endpoint has pushed. -/
def State.identifiers (state : State Q) (side : Side) : List String :=
  (state.pushed side).map fun bundle => bundle.call.uniqueId

/-- The identifiers of the complaints an endpoint has written. -/
def State.complaints (state : State Q) (side : Side) : List String :=
  (state.sent side).filterMap fun letter =>
    match letter.purpose with
    | .complaint => some (frameId letter.frame)
    | _ => none

/-- Each endpoint's identifiers are unique among its own requests. -/
@[reducible] def uniqueIdentifiers : Condition Q R where
  call _ _ := True
  op state _ op :=
    match op with
    | .push side bundle => bundle.call.uniqueId ∉ state.identifiers side
    | _ => True

/-- Besides, the identifier of a rejected reply is never one of the requests of
the endpoint that gets the error: not when the error is written, and not later. -/
@[reducible] def harmlessComplaints : Condition Q R where
  call _ _ := True
  op state _ op :=
    match op with
    | .push side bundle =>
      bundle.call.uniqueId ∉ state.identifiers side ∧
        bundle.call.uniqueId ∉ state.complaints side.peer
    | .write side letter =>
      match letter.purpose with
      | .complaint => frameId letter.frame ∉ state.identifiers side.peer
      | _ => True
    | _ => True

instance (state : State Q) (tid : Nat) (op : Op Q) :
    Decidable ((uniqueIdentifiers : Condition Q R).op state tid op) := by
  rcases op <;> infer_instance

instance (state : State Q) (tid : Nat) (op : Op Q) :
    Decidable ((harmlessComplaints : Condition Q R).op state tid op) := by
  induction op using Op.casesOn with
  | write side letter =>
    rcases letter with ⟨frame, purpose⟩
    rcases purpose <;> infer_instance
  | _ => infer_instance

/-- Every completed request was completed by a letter of the peer, written in
answer to the request's own CALL. -/
def Agreed (state : State Q) : Prop :=
  ∀ side bundle letter, (bundle, letter) ∈ state.completed side ->
    letter ∈ state.sent side.peer ∧ letter.purpose = .ans bundle.data

/-! ## What the goroutines know -/

/-- What a goroutine has got hold of. -/
inductive Role (Q : Type) where
  | idle
  | peeked (side : Side) (bundle : Bundle Q)
  | reading (side : Side) (letter : Letter)
  | answering (side : Side) (call : Elements)

/-- The frame is a CALL_RESULT or a CALL_ERROR. -/
def IsReplyFrame (frame : Elements) : Prop := frameType frame = some 3 ∨ frameType frame = some 4

/-- The letters a goroutine may write. -/
def Role.warrants (side : Side) (letter : Letter) : Role Q -> Prop
  | .idle => False
  | .peeked own bundle => own = side ∧ letter = ⟨bundle.data, .call⟩
  | .reading own source => own = side ∧ letter.purpose = source.rejection ∧
      IsReplyFrame letter.frame ∧ frameId letter.frame = frameId source.frame
  | .answering own call => own = side ∧ letter.purpose = .ans call ∧
      IsReplyFrame letter.frame ∧ frameId letter.frame = frameId call

/-- The letters that may complete a request. -/
def Role.completes (side : Side) (requestID : String) (cause : Letter) : Role Q -> Prop
  | .reading own letter => own = side ∧ cause = letter ∧ frameId letter.frame = requestID ∧
      IsReplyFrame letter.frame
  | _ => False

def allowed : Op Q -> Role Q -> Prop
  | .push _ bundle, _ =>
    frameType bundle.data = some 2 ∧ frameId bundle.data = bundle.call.uniqueId
  | .write side letter, role => role.warrants side letter
  | .popIf side requestID (some cause), role => role.completes side requestID cause
  | .parse side letter, role => role = .reading side letter
  | .accept side call, role =>
    ∃ letter, role = .reading side letter ∧ call = letter.frame ∧ frameType call = some 2
  | _, _ => True

def next [Payload Q] [Payload R] (opts : Settings Q R) :
    (op : Op Q) -> Role Q -> Op.Res Q R op -> Role Q -> Prop
  | .peek side, _, some bundle, onward => onward = .peeked side bundle
  | .peek _, _, none, onward => onward = .idle
  | .receive side, _, letter, onward => onward = .reading side letter
  | .lookBack side _, _, some call, onward => onward = .answering side call
  | .lookBack _ _, _, none, onward => onward = .idle
  | .parse side letter, role, parsed, onward => onward = role ∧
      ∃ pending, parsed = (opts.endpoint side).parseMessage opts.sprint letter.frame
        pending
  | _, role, _, onward => onward = role

def knowledge [Payload Q] [Payload R] (opts : Settings Q R) :
    Protocol (Op Q) (Op.Res Q R) (Routine Q R) (Role Q) where
  fits _ _ := True
  allowed := allowed
  next := next opts

section Conformance

variable [Payload Q] [Payload R] {opts : Settings Q R} {routine : Routine Q R}

variable {role : Role Q}

theorem obeys_act {op : Op Q} (legal : allowed op role) :
    (act op).Obeys (knowledge opts) routine (fun _ _ => True) role :=
  ⟨trivial, legal, fun _ _ _ => ⟨trivial, trivial⟩⟩

theorem obeys_dispatchNextRequest (side : Side) (role : Role Q) :
    (dispatchNextRequest side).Obeys (knowledge opts) routine (fun _ _ => True) role := by
  refine ⟨trivial, trivial, ?_⟩
  intro ans onward moved
  cases ans with
  | none => exact ⟨trivial, trivial⟩
  | some bundle =>
    cases moved
    refine ⟨trivial, trivial, ?_⟩
    intro _ onward moved
    cases moved
    exact obeys_act ⟨rfl, rfl⟩

theorem obeys_completeRequest {requestID : String} {cause : Option Letter}
    (legal : allowed (.popIf side requestID cause) role) :
    (completeRequest side requestID cause).Obeys (knowledge opts) routine (fun _ _ => True)
      role := by
  refine ⟨trivial, legal, ?_⟩
  intro ans onward moved
  cases ans with
  | none => exact ⟨trivial, trivial⟩
  | some bundle => exact ⟨trivial, trivial, fun _ _ _ => ⟨trivial, trivial⟩⟩

theorem obeys_giveUp (side : Side) (role : Role Q) :
    (giveUp side).Obeys (knowledge opts) routine (fun _ _ => True) role := by
  refine ⟨trivial, trivial, ?_⟩
  intro ans onward moved
  cases ans with
  | none => exact ⟨trivial, trivial⟩
  | some bundle =>
    refine (obeys_completeRequest ?_).bind fun _ _ _ => ⟨trivial, trivial⟩
    exact trivial

theorem obeys_sendError {requestId errorCode description : String} {details : Option Json}
    {purpose : Purpose}
    (warranted : ∀ frame, IsReplyFrame frame -> frameId frame = requestId -> role.warrants
      side ⟨frame, purpose⟩) :
    (sendError opts side requestId errorCode description details purpose).Obeys
      (knowledge opts) routine (fun _ _ => True) role := by
  unfold sendError
  cases created : createCallError (opts.validationEnabled side) requestId errorCode description
    details with
  | error err => exact ⟨trivial, trivial⟩
  | ok callError =>
    rw [(createCallError_ok created).1]
    exact obeys_act (warranted _ (.inr rfl) rfl)

theorem obeys_sendResponse {requestId : String} {response : R} {purpose : Purpose}
    (warranted : ∀ frame, IsReplyFrame frame -> frameId frame = requestId -> role.warrants
      side ⟨frame, purpose⟩) :
    (sendResponse opts side requestId response purpose).Obeys (knowledge opts) routine
      (fun _ _ => True) role := by
  unfold sendResponse
  rcases createCallResult_cases (opts.endpoint side) (opts.validationEnabled side) response
    requestId with ⟨panic, failed⟩ | ⟨err, _, failed⟩ | made
  · rw [failed]
    exact ⟨trivial, trivial⟩
  · rw [failed]
    exact ⟨trivial, trivial⟩
  · rw [made]
    simp only
    split
    · rename_i jsonMessage marshalled
      obtain ⟨payload, rfl⟩ := frame_of_callResult marshalled
      exact obeys_act (warranted _ (.inl rfl) rfl)
    · exact ⟨trivial, trivial⟩

theorem obeys_sendRequest (side : Side) (request : Q) (uniqueId : String) (role : Role Q) :
    (sendRequest opts side request uniqueId).Obeys (knowledge opts) routine
      (fun _ _ => True) role := by
  unfold sendRequest
  split
  · split
    · rename_i jsonMessage marshalled
      exact obeys_act (frame_of_call marshalled)
    · exact ⟨trivial, trivial⟩
  · exact ⟨trivial, trivial⟩

/-- The read goroutine completes requests only by the letter it has read, and
answers under the identifier of that letter. -/
theorem obeys_ocppMessageHandler (kept : opts.HooksKeepIdentifier) (side : Side)
    (letter : Letter) :
    (ocppMessageHandler opts side letter).Obeys (knowledge opts) routine
      (fun _ _ => True) (.reading side letter) := by
  refine ⟨trivial, rfl, ?_⟩
  rintro ans _ ⟨rfl, pending, ret⟩
  cases ans with
  | error panic => exact ⟨trivial, trivial⟩
  | ok parsed =>
    have sound := Endpoint.parseMessage_sound ret.symm
    cases parsed with
    | discarded => exact ⟨trivial, trivial⟩
    | rejected rejected =>
      show Program.Obeys _ _ _ (if _ then _ else _) _
      split
      · rename_i named
        refine obeys_sendError ?_
        intro frame reply identifier
        rw [kept side rejected letter.frame] at named identifier
        rcases sound with empty | same
        · exact absurd empty named
        · exact ⟨rfl, rfl, reply, identifier.trans same⟩
      · exact ⟨trivial, trivial⟩
    | message message =>
      cases message with
      | call call => exact obeys_act ⟨letter, rfl, rfl, sound.2.1⟩
      | callResult callResult =>
        refine (obeys_completeRequest ?_).bind fun _ _ _ => ⟨trivial, trivial⟩
        exact ⟨rfl, rfl, sound.2.2, .inl sound.2.1⟩
      | callError callError =>
        refine (obeys_completeRequest ?_).bind fun _ _ _ => ⟨trivial, trivial⟩
        exact ⟨rfl, rfl, sound.2.2, .inr sound.2.1⟩

theorem obeys_respond (side : Side) (index : Nat) (reply : Reply R) (role : Role Q) :
    (respond opts side index reply).Obeys (knowledge opts) routine (fun _ _ => True)
      role := by
  refine ⟨trivial, trivial, ?_⟩
  intro ans onward moved
  cases ans with
  | none => exact ⟨trivial, trivial⟩
  | some call =>
    cases moved
    cases reply with
    | result response => exact obeys_sendResponse fun _ reply same => ⟨rfl, rfl, reply, same⟩
    | error code description details =>
      exact obeys_sendError fun _ reply same => ⟨rfl, rfl, reply, same⟩

theorem obeys_body (kept : opts.HooksKeepIdentifier) (routine : Routine Q R) (role : Role Q) :
    (body opts routine).Obeys (knowledge opts) routine
      (cont (fun _ _ => True) fun _ => True) role := by
  cases routine with
  | sendRequest side request uniqueId => exact (obeys_sendRequest side request uniqueId role).returning
  | dispatch side => exact (obeys_dispatchNextRequest side role).returning
  | giveUp side => exact (obeys_giveUp side role).returning
  | read side =>
    refine ⟨trivial, trivial, ?_⟩
    intro letter onward moved
    cases moved
    exact (obeys_ocppMessageHandler kept side letter).returning
  | respond side index reply => exact (obeys_respond side index reply role).returning

end Conformance

/-! ## The invariant -/

/-- What holds of a letter an endpoint has written. -/
def Proper (state : State Q) (side : Side) (letter : Letter) : Prop :=
  match letter.purpose with
  | .call => ∃ bundle, bundle ∈ state.pushed side ∧ letter.frame = bundle.data
  | .ans call => IsReplyFrame letter.frame ∧ frameId letter.frame = frameId call ∧
      ∃ bundle, bundle ∈ state.pushed side.peer ∧ bundle.data = call
  | .complaint => IsReplyFrame letter.frame ∧
      frameId letter.frame ∉ state.identifiers side.peer

/-- What a goroutine has got hold of is there. -/
def Known (state : State Q) : Role Q -> Prop
  | .idle => True
  | .peeked side bundle => bundle ∈ state.pushed side
  | .reading side letter => letter ∈ state.sent side.peer
  | .answering side call => call ∈ state.received side

structure Orderly (state : State Q) (view : Nat -> Option (Role Q)) : Prop where
  queued : ∀ side bundle, bundle ∈ state.queue side -> bundle ∈ state.pushed side
  distinct : ∀ side first second, first ∈ state.pushed side -> second ∈ state.pushed side ->
    first.call.uniqueId = second.call.uniqueId -> first = second
  calls : ∀ side bundle, bundle ∈ state.pushed side ->
    frameType bundle.data = some 2 ∧ frameId bundle.data = bundle.call.uniqueId
  transit : ∀ side letter, letter ∈ state.inbox side -> letter ∈ state.sent side.peer
  proper : ∀ side letter, letter ∈ state.sent side -> Proper state side letter
  received : ∀ side call, call ∈ state.received side ->
    ∃ bundle, bundle ∈ state.pushed side.peer ∧ bundle.data = call
  agreed : Agreed state
  known : ∀ tid role, view tid = some role -> Known state role

theorem not_call_of_reply {frame : Elements} (reply : IsReplyFrame frame) :
    frameType frame ≠ some 2 := by
  rcases reply with type | type
  · rw [type]
    exact nofun
  · rw [type]
    exact nofun

/-- What is left of a list after its front was taken was there before. -/
theorem mem_of_taken {α : Type} {lists : Side -> List α} {front element : α} {rest : List α}
    {other : Side} (list : lists side = front :: rest)
    (mem : element ∈ update lists side rest other) : element ∈ lists other := by
  by_cases same : other = side
  · subst same
    rw [update_self] at mem
    rw [list]
    exact mem_cons_of_mem _ mem
  · rwa [update_of_ne same] at mem

/-- The records only grow. -/
structure Grows (pre after : State Q) : Prop where
  pushed : ∀ side bundle, bundle ∈ pre.pushed side -> bundle ∈ after.pushed side
  sent : ∀ side letter, letter ∈ pre.sent side -> letter ∈ after.sent side
  received : ∀ side call, call ∈ pre.received side -> call ∈ after.received side

variable {role : Role Q} {pre after : State Q}

theorem Known.mono (grows : Grows pre after) (known : Known pre role) : Known after role := by
  cases role with
  | idle => trivial
  | peeked side bundle => exact grows.pushed side bundle known
  | reading side letter => exact grows.sent side.peer letter known
  | answering side call => exact grows.received side call known

/-- One goroutine learns something and the others lose nothing. -/
theorem known_update (grows : Grows pre after) {view : Nat -> Option (Role Q)}
    (known : ∀ tid role, view tid = some role -> Known pre role) {tid : Nat}
    {onward : Role Q} (learned : Known after onward) :
    ∀ other role, update view tid (some onward) other = some role ->
      Known after role := by
  intro other role tagged
  rcases tagged_of_update tagged with ⟨_, ⟨⟩⟩ | ⟨_, kept⟩
  · exact learned
  · exact (known other role kept).mono grows

namespace Orderly

variable {state : State Q} {view : Nat -> Option (Role Q)} {tid : Nat}

theorem initially : Orderly (initial : State Q) fun _ => none where
  queued _ _ mem := by cases mem
  distinct _ _ _ mem := by cases mem
  calls _ _ mem := by cases mem
  transit _ _ mem := by cases mem
  proper _ _ mem := by cases mem
  received _ _ mem := by cases mem
  agreed _ _ _ mem := by cases mem
  known _ _ tagged := by cases tagged

section

variable (orderly : Orderly state view)
include orderly

/-- A goroutine learns something and the state stays as it is. -/
theorem learn {onward : Role Q} (learned : Known state onward) :
    Orderly state (update view tid (some onward)) :=
  { orderly with
    known := known_update ⟨fun _ _ => id, fun _ _ => id, fun _ _ => id⟩ orderly.known learned }

/-- A goroutine goes on knowing what it knew. -/
theorem stay (tagged : view tid = some role) :
    Orderly state (update view tid (some role)) :=
  orderly.learn (orderly.known tid role tagged)

/-- The pending state plays no part. -/
theorem pending {pending : Side -> ClientState Q} :
    Orderly { state with pending := pending } view :=
  { orderly with
    proper := orderly.proper
    agreed := orderly.agreed
    known := fun other role tagged =>
      (orderly.known other role tagged).mono ⟨fun _ _ => id, fun _ _ => id, fun _ _ => id⟩ }

theorem push {bundle : Bundle Q}
    (call : frameType bundle.data = some 2 ∧ frameId bundle.data = bundle.call.uniqueId)
    (fresh : bundle.call.uniqueId ∉ state.identifiers side)
    (unblamed : bundle.call.uniqueId ∉ state.complaints side.peer) :
    Orderly { state with
      queue := append state.queue side bundle
      pushed := append state.pushed side bundle } view where
  queued other entry mem := by
    rcases mem_append.mp mem with old | new
    · exact mem_append.mpr (.inl (orderly.queued other entry old))
    · exact mem_append.mpr (.inr new)
  distinct other first second left right same := by
    have differs : ∀ entry, entry ∈ state.pushed side ->
        entry.call.uniqueId ≠ bundle.call.uniqueId := by
      intro entry mem equal
      exact fresh (mem_map.mpr ⟨entry, mem, equal⟩)
    rcases mem_append.mp left with old | ⟨rfl, rfl⟩
    · rcases mem_append.mp right with older | ⟨rfl, rfl⟩
      · exact orderly.distinct other first second old older same
      · exact absurd same (differs first old)
    · rcases mem_append.mp right with older | ⟨_, rfl⟩
      · exact absurd same.symm (differs second older)
      · rfl
  calls other entry mem := by
    rcases mem_append.mp mem with old | ⟨_, rfl⟩
    · exact orderly.calls other entry old
    · exact call
  transit := orderly.transit
  proper other letter mem := by
    have pre := orderly.proper other letter mem
    unfold Proper at pre ⊢
    cases purpose : letter.purpose with
    | call =>
      rw [purpose] at pre
      obtain ⟨entry, old, data⟩ := pre
      exact ⟨entry, mem_append.mpr (.inl old), data⟩
    | ans answered =>
      rw [purpose] at pre
      obtain ⟨reply, identifier, entry, old, data⟩ := pre
      exact ⟨reply, identifier, entry, mem_append.mpr (.inl old), data⟩
    | complaint =>
      rw [purpose] at pre
      refine ⟨pre.1, ?_⟩
      intro used
      obtain ⟨entry, pushed, same⟩ := mem_map.mp used
      rcases mem_append.mp pushed with old | ⟨reached, rfl⟩
      · exact pre.2 (mem_map.mpr ⟨entry, old, same⟩)
      · refine unblamed (mem_filterMap.mpr ⟨letter, ?_, ?_⟩)
        · rwa [← reached, Side.peer_peer]
        · rw [purpose, same]
  received other answered mem := by
    obtain ⟨entry, old, data⟩ := orderly.received other answered mem
    exact ⟨entry, mem_append.mpr (.inl old), data⟩
  agreed := orderly.agreed
  known other role tagged := by
    refine Known.mono ?_ (orderly.known other role tagged)
    exact ⟨fun _ _ old => mem_append.mpr (.inl old), fun _ _ => id, fun _ _ => id⟩

end

variable {letter : Letter}

section

variable (orderly : Orderly state view)
include orderly

/-- Every letter a goroutine may write is a proper one. -/
theorem proper_of_warrants (known : Known state role) (warranted : role.warrants side letter)
    (harmless : letter.purpose = .complaint -> frameId letter.frame ∉ state.identifiers side.peer) :
    Proper state side letter := by
  cases role with
  | idle => exact warranted.elim
  | peeked own bundle =>
    obtain ⟨rfl, rfl⟩ := warranted
    exact ⟨bundle, known, rfl⟩
  | answering own call =>
    obtain ⟨rfl, purpose, reply, identifier⟩ := warranted
    unfold Proper
    rw [purpose]
    exact ⟨reply, identifier, orderly.received own call known⟩
  | reading own source =>
    obtain ⟨rfl, purpose, reply, identifier⟩ := warranted
    unfold Proper
    rw [purpose] at harmless ⊢
    unfold Letter.rejection at harmless ⊢
    -- only an error for a CALL is an answer
    cases reason : source.purpose with
    | call =>
      have origin := orderly.proper own.peer source known
      unfold Proper at origin
      rw [reason] at origin
      obtain ⟨bundle, pushed, data⟩ := origin
      exact ⟨reply, identifier, bundle, pushed, data.symm⟩
    | ans | complaint =>
      rw [reason] at harmless
      exact ⟨reply, harmless rfl⟩

theorem write (proper : Proper state side letter) :
    Orderly { state with
      sent := append state.sent side letter
      inbox := append state.inbox side.peer letter } view where
  queued := orderly.queued
  distinct := orderly.distinct
  calls := orderly.calls
  transit other entry mem := by
    rcases mem_append.mp mem with old | ⟨rfl, rfl⟩
    · exact mem_append.mpr (.inl (orderly.transit other entry old))
    · exact mem_append.mpr (.inr ⟨side.peer_peer, rfl⟩)
  proper other entry mem := by
    rcases mem_append.mp mem with old | ⟨rfl, rfl⟩
    · exact orderly.proper other entry old
    · exact proper
  received := orderly.received
  agreed other bundle entry mem := by
    obtain ⟨sent, purpose⟩ := orderly.agreed other bundle entry mem
    exact ⟨mem_append.mpr (.inl sent), purpose⟩
  known other role tagged := by
    refine Known.mono ?_ (orderly.known other role tagged)
    exact ⟨fun _ _ => id, fun _ _ old => mem_append.mpr (.inl old), fun _ _ => id⟩

theorem receive {rest : List Letter} (waiting : state.inbox side = letter :: rest) :
    Orderly { state with inbox := update state.inbox side rest } view :=
  { orderly with
    transit := fun other entry mem => orderly.transit other entry (mem_of_taken waiting mem)
    proper := orderly.proper
    agreed := orderly.agreed
    known := fun other role tagged =>
      (orderly.known other role tagged).mono ⟨fun _ _ => id, fun _ _ => id, fun _ _ => id⟩ }

/-- A letter that parses as a CALL is the CALL of a request. -/
theorem accept (sent : letter ∈ state.sent side.peer) (type : frameType letter.frame = some 2) :
    Orderly { state with received := append state.received side letter.frame } view where
  queued := orderly.queued
  distinct := orderly.distinct
  calls := orderly.calls
  transit := orderly.transit
  proper := orderly.proper
  received other call mem := by
    rcases mem_append.mp mem with old | ⟨rfl, rfl⟩
    · exact orderly.received other call old
    · have origin := orderly.proper other.peer letter sent
      unfold Proper at origin
      cases purpose : letter.purpose with
      | call =>
        rw [purpose] at origin
        obtain ⟨bundle, pushed, data⟩ := origin
        exact ⟨bundle, pushed, data.symm⟩
      | ans | complaint =>
        rw [purpose] at origin
        exact absurd type (not_call_of_reply origin.1)
  agreed := orderly.agreed
  known other role tagged := by
    refine Known.mono ?_ (orderly.known other role tagged)
    exact ⟨fun _ _ => id, fun _ _ => id, fun _ _ old => mem_append.mpr (.inl old)⟩

variable {front : Bundle Q} {rest : List (Bundle Q)} (queue : state.queue side = front :: rest)
include queue

/-- A request is completed by the answer to its own CALL: the identifier of the
letter is the one of the request, and it is no other request's. -/
theorem complete (sent : letter ∈ state.sent side.peer)
    (reply : IsReplyFrame letter.frame) (identifier : frameId letter.frame = front.call.uniqueId) :
    letter.purpose = .ans front.data := by
  have pushed : front ∈ state.pushed side := orderly.queued side front (by simp [queue])
  have origin := orderly.proper side.peer letter sent
  unfold Proper at origin
  cases purpose : letter.purpose with
  | call =>
    rw [purpose] at origin
    obtain ⟨bundle, mem, data⟩ := origin
    have type := (orderly.calls side.peer bundle mem).1
    exact absurd (data ▸ type) (not_call_of_reply reply)
  | ans call =>
    rw [purpose] at origin
    obtain ⟨_, answered, bundle, mem, rfl⟩ := origin
    rw [Side.peer_peer] at mem
    have same : bundle.call.uniqueId = front.call.uniqueId := by
      rw [← (orderly.calls side bundle mem).2, ← answered, identifier]
    rw [orderly.distinct side bundle front mem pushed same]
  | complaint =>
    rw [purpose] at origin
    refine absurd ?_ origin.2
    rw [Side.peer_peer, identifier]
    exact mem_map.mpr ⟨front, pushed, rfl⟩

theorem pop {completed : Side -> List (Bundle Q × Letter)} (agreed : Agreed { state with completed }) :
    Orderly { state with
      queue := update state.queue side rest
      completed := completed } view :=
  { orderly with
    queued := fun other bundle mem => orderly.queued other bundle (mem_of_taken queue mem)
    proper := orderly.proper
    agreed := agreed
    known := fun other role tagged =>
      (orderly.known other role tagged).mono ⟨fun _ _ => id, fun _ _ => id, fun _ _ => id⟩ }

end

end Orderly

section Run

variable [Payload Q] [Payload R] {opts : Settings Q R}

/-- One operation of one goroutine keeps the invariant. -/
theorem Orderly.execute {view : Nat -> Option (Role Q)} {tid : Nat} {op : Op Q}
    {ans : Op.Res Q R op} (orderly : Orderly pre view)
    (tagged : view tid = some role) (legal : allowed op role)
    (harmless : (harmlessComplaints : Condition Q R).op pre tid op)
    (exec : Agreement.execute opts op pre = some (ans, after)) :
    ∃ onward, next opts op role ans onward ∧
      Orderly after (update view tid (some onward)) := by
  have known := orderly.known tid role tagged
  cases op with
  | push side bundle =>
    cases exec
    exact ⟨role, rfl, (orderly.push legal harmless.1 harmless.2).stay tagged⟩
  | peek side =>
    cases exec
    cases front : (pre.queue side).head? with
    | none => exact ⟨.idle, rfl, orderly.learn trivial⟩
    | some bundle =>
      refine ⟨.peeked side bundle, rfl, orderly.learn ?_⟩
      exact orderly.queued side bundle (mem_of_head? front)
  | addPending side requestID request =>
    cases exec
    exact ⟨role, rfl, orderly.pending.stay tagged⟩
  | write side letter =>
    cases exec
    have proper : Proper pre side letter := by
      refine orderly.proper_of_warrants known legal ?_
      intro purpose
      simp only [purpose] at harmless
      exact harmless
    exact ⟨role, rfl, (orderly.write proper).stay tagged⟩
  | popIf side requestID cause =>
    cases queue : pre.queue side with
    | nil =>
      simp only [Agreement.execute, queue] at exec
      cases exec
      exact ⟨role, rfl, orderly.stay tagged⟩
    | cons front rest =>
      simp only [Agreement.execute, queue] at exec
      split at exec
      · rename_i matched
        cases exec
        refine ⟨role, rfl, (orderly.pop queue ?_).stay tagged⟩
        cases cause with
        | none => exact orderly.agreed
        | some letter =>
          cases role with
          | reading own source =>
            obtain ⟨rfl, rfl, identifier, reply⟩ := legal
            intro other bundle entry mem
            rcases mem_append.mp mem with old | ⟨rfl, ⟨⟩⟩
            · exact orderly.agreed other bundle entry old
            · exact ⟨known, orderly.complete queue known reply (identifier.trans matched.symm)⟩
          | _ => exact legal.elim
      · cases exec
        exact ⟨role, rfl, orderly.stay tagged⟩
  | deletePending side requestID =>
    cases exec
    exact ⟨role, rfl, orderly.pending.stay tagged⟩
  | receive side =>
    cases waiting : pre.inbox side with
    | nil =>
      simp only [Agreement.execute, waiting] at exec
      cases exec
    | cons letter rest =>
      simp only [Agreement.execute, waiting] at exec
      cases exec
      refine ⟨.reading side ans, rfl, (orderly.receive waiting).learn ?_⟩
      exact orderly.transit side ans (by simp [waiting])
  | parse side letter =>
    cases exec
    exact ⟨role, ⟨rfl, _, rfl⟩, orderly.stay tagged⟩
  | accept side call =>
    cases exec
    obtain ⟨letter, rfl, rfl, type⟩ := legal
    exact ⟨_, rfl, (orderly.accept known type).stay tagged⟩
  | lookBack side index =>
    cases exec
    cases found : (pre.received side)[index]? with
    | none => exact ⟨.idle, rfl, orderly.learn trivial⟩
    | some call =>
      exact ⟨.answering side call, rfl, orderly.learn (mem_of_getElem? found)⟩

theorem verified (kept : opts.HooksKeepIdentifier) :
    Verified (system opts) harmlessComplaints initial (knowledge opts) (fun _ _ => True)
      (fun _ => True) Orderly where
  body routine role _ := obeys_body kept routine role
  initially := Orderly.initially
  enter config view routine shared _ _ orderly entered _ := by
    cases entered
    exact ⟨.idle, trivial, orderly.learn trivial⟩
  occur _ _ event := event.elim
  execute pre view tid role op choice ans after orderly tagged legal harmless
      exec := orderly.execute tagged legal harmless exec
  finish shared view tid role orderly tagged _ :=
    { orderly with
      known := by
        intro other label known
        rcases tagged_of_update known with ⟨_, ⟨⟩⟩ | ⟨_, kept⟩
        exact orderly.known other label kept }

/-- In every run in which the error for a rejected reply never carries an
identifier of the receiver's own requests, a request of either endpoint is
completed only by a frame the peer wrote in answer to that request's CALL. -/
theorem completed_by_own_answer (kept : opts.HooksKeepIdentifier) {config : Configuration Q R}
    (reached : (system opts).Reachable harmlessComplaints initial config) :
    Agreed config.shared := by
  obtain ⟨view, _, orderly⟩ := (verified kept).reachable reached
  exact orderly.agreed

end Run

/-- A data transfer, which either endpoint may request. -/
structure Transfer where

instance : Payload Transfer where
  getFeatureName _ := "DataTransfer"
  validate _ := .ok []
  marshal _ := .ok (.ok (.object []))

/-- Two endpoints that know data transfers; the server cannot decode any
response to one. -/
def transferSettings : Settings Transfer Transfer where
  endpoint side := ⟨.v16, [⟨"Core", fun name =>
    if name = "DataTransfer" then
      some ⟨fun _ => .ok {}, fun _ =>
        if side = .server then .error "json: cannot unmarshal" else .ok {}⟩
    else none⟩]⟩
  validationEnabled _ := true
  sprint _ := ""
  invalidMessageHook _ := none

theorem transferSettings_kept : transferSettings.HooksKeepIdentifier := fun _ _ _ => rfl

/-- The first `count` operations of a goroutine, and nothing else meanwhile. -/
def proceed (tid count : Nat) : List (Action Unit (Routine Transfer Transfer) Empty) :=
  List.replicate count (.step tid ())

/-- Some request was completed by a complaint. -/
def completedByComplaint (state : State Transfer) (side : Side) : Bool :=
  (state.completed side).any fun entry => match entry.2.purpose with
    | .complaint => true
    | _ => false

theorem not_agreed_of_complaint {state : State Transfer}
    (found : completedByComplaint state side = true) : ¬ Agreed state := by
  intro agreed
  obtain ⟨⟨bundle, letter⟩, mem, complaint⟩ := any_eq_true.mp found
  have purpose := (agreed side bundle letter mem).2
  simp only [purpose] at complaint
  cases complaint

/-- Both endpoints have sent a request with the identifier 1.  The server
rejects the client's response to its own one, and the client takes the error for
the answer to its request. -/
theorem completed_by_complaint :
    ∃ config : Configuration Transfer Transfer,
      (system transferSettings).Reachable uniqueIdentifiers initial config ∧
        ¬ Agreed config.shared := by
  have run : ∃ config : Configuration Transfer Transfer,
      (system transferSettings).Reachable uniqueIdentifiers initial config ∧
        completedByComplaint config.shared .client = true :=
    System.exists_reachable_of_replay _
      ([.call (.sendRequest .client {} "1"), .call (.sendRequest .server {} "1")] ++
        proceed 0 1 ++ proceed 1 1 ++
        [.call (.dispatch .client), .call (.dispatch .server)] ++
        proceed 2 3 ++ proceed 3 3 ++
        [.call (.read .client)] ++ proceed 4 4 ++
        [.call (.respond .client 0 (.result {}))] ++ proceed 5 2 ++
        [.call (.read .server)] ++ proceed 6 7 ++
        proceed 4 3)
      (by decide +kernel)
  obtain ⟨config, reached, found⟩ := run
  exact ⟨config, reached, not_agreed_of_complaint found⟩

theorem completed_by_own_answer_transfer :
    ∃ config : Configuration Transfer Transfer,
      (system transferSettings).Reachable harmlessComplaints initial config ∧
        (config.shared.completed .client).length = 1 ∧ Agreed config.shared :=
  System.exists_reachable_with
    ([.call (.sendRequest .client {} "1")] ++ proceed 0 1 ++
      [.call (.dispatch .client)] ++ proceed 1 3 ++
      [.call (.read .server)] ++ proceed 2 4 ++
      [.call (.respond .server 0 (.result {}))] ++ proceed 3 2 ++
      [.call (.read .client)] ++ proceed 4 3) (by decide +kernel)
    fun _ reached _ => completed_by_own_answer transferSettings_kept reached

end Agreement
end Ocppj
end OcppGo
