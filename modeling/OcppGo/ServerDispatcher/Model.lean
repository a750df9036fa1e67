import OcppGo.Interleaving.System
import OcppGo.Ocppj.QueueMap
import OcppGo.Ocppj.ServerState
import OcppGo.Sync.RWMutex

namespace OcppGo
namespace ServerDispatcher

open Function Interleaving Ocppj Sync

/-!
# The server dispatcher

`DefaultServerDispatcher` over a `FIFOQueueMap`, with the parts of `ocppj.Server` that
register and remove clients and that complete requests when a frame comes in.  As for
the client dispatcher, every function of the source is a program of atomic operations:
what it does under one lock of the map, a queue, the pending state or the dispatcher, one
channel operation, one use of a context, or one network write.

`Start` makes all channels of a generation anew, in one critical section, and nothing
else assigns them; they are numbered by the generation that made them, and generation
zero stands for the nil channels of a dispatcher that was never started.  Durations are
not modelled: a deadline may pass at any moment.  Logging and the recovery from a
panicking callback are left out.
-/

/-- What is configured before the dispatcher is started. -/
structure Settings where
  /-- a network server was set -/
  network : Bool
  /-- a cancel callback was set -/
  onRequestCancel : Bool
  timeout : Int
  deriving DecidableEq

/-- Why `SendRequest` failed. -/
inductive SendError where
  | noNetwork (uniqueId : String)
  | noClient (uniqueId clientID : String)
  | queueFull
  | notRunning (uniqueId : String)
  deriving DecidableEq

def SendError.text : SendError -> String
  | .noNetwork uniqueId => "cannot send request " ++ uniqueId ++ ", no network server was set"
  | .noClient uniqueId clientID =>
    "cannot send request " ++ uniqueId ++ ", no client " ++ clientID ++ " exists"
  | .queueFull => "request queue is full, cannot push new element"
  | .notRunning uniqueId => "cannot send request " ++ uniqueId ++ ", dispatcher not running"

/-- `serverDispatchRequest`.  The channel of the acknowledgement is named after the
goroutine that made it. -/
structure ServerDispatchRequest where
  clientID : String
  deleteAck : Option Nat
  deriving DecidableEq

/-- `serverReadyToken`. -/
structure ServerReadyToken where
  clientID : String
  requestID : String
  deriving DecidableEq

/-- `serverTimeoutToken`; the context is one of the pump's own. -/
structure ServerTimeoutToken where
  clientID : String
  ctx : Nat
  deriving DecidableEq

/-- `serverCancelToken`; the context is the caller's. -/
structure ServerCancelToken where
  clientID : String
  requestID : String
  ctx : Context
  deriving DecidableEq

/-- The state of a context that the pump made to track a timeout. -/
inductive ClientContext where
  /-- not done yet; `deadline` tells whether it has one -/
  | active (deadline : Bool)
  | canceled
  | deadlineExceeded
  deriving DecidableEq

/-- The arguments of `waitForTimeout`.  The three channels are those of one generation. -/
structure Watch where
  clientID : String
  requestID : String
  ctx : Nat
  userCtx : Context
  gen : Nat
  deriving DecidableEq

/-- An arm of one of the select statements. -/
inductive Arm where
  | stopped
  | request
  | timer
  | ready
  | cancel
  /-- the pump's own context is done -/
  | context
  /-- the caller's context is done -/
  | user
  /-- the send to the timeout or the cancel channel -/
  | post
  | ack
  | done
  /-- the two seconds of `DeleteClientAndWait` have passed -/
  | elapsed
  deriving DecidableEq

/-- What the select statement of the pump received. -/
inductive Selected where
  | stopped
  | request (req : ServerDispatchRequest)
  | timeout (token : ServerTimeoutToken)
  | ready (token : ServerReadyToken)
  | cancel (token : ServerCancelToken)
  deriving DecidableEq

/-- What `waitForTimeout` was woken up by. -/
inductive Watched where
  | expired
  | canceled
  | userDone
  | stopped
  deriving DecidableEq

/-- The variables of `messagePump` that live across passes.  In `clientContextMap` a missing
key and the zero value `clientTimeoutContext{}` are both `none`: every use of the map treats
them alike.  A missing key of `dispatchedRequestIDMap` reads as the empty string. -/
structure Pump where
  reqCh : Nat
  doneC : Nat
  rdy : Bool
  clientQueue : Option QueueRef
  clientContextMap : String -> Option Nat
  dispatchedRequestIDMap : String -> String

/-- The variables of a new pump. -/
def Pump.new (reqCh doneC : Nat) : Pump := ⟨reqCh, doneC, false, none, fun _ => none, fun _ => ""⟩

/-- Both map entries of a client are deleted or zeroed. -/
def Pump.forget (pump : Pump) (clientID : String) : Pump :=
  { pump with
    clientContextMap := update pump.clientContextMap clientID none
    dispatchedRequestIDMap := update pump.dispatchedRequestIDMap clientID "" }

variable {P : Type}

/-- A terminal notification: the entry that was taken out of its queue for it and what was
passed on. -/
structure Notification (P : Type) where
  owner : ClientEntry P
  clientID : String
  requestID : String
  payload : Option P
  outcome : Outcome
  deriving DecidableEq

/-- What happened so far.  Nothing in the code depends on it. -/
structure History (P : Type) where
  /-- entries in the order of their pushes -/
  pushed : List (ClientEntry P)
  /-- clients and identifiers handed to `AddPendingRequest` -/
  registered : List (String × String)
  /-- entries in the order in which they were handed to the network, with the generation of
  the pump that did so -/
  writes : List (Nat × ClientEntry P)
  notifications : List (Notification P)
  /-- goroutines that have removed a client and not returned yet -/
  removing : List (Nat × String)

/-- The state of the dispatcher. -/
structure Shared (P : Type) where
  queueMap : FIFOQueueMap (ClientEntry P)
  pendingRequestState : ServerState P
  gen : Nat
  requestChannel : Nat -> List ServerDispatchRequest
  readyForDispatch : Option ServerReadyToken
  timerC : Nat -> List ServerTimeoutToken
  cancelC : Nat -> List ServerCancelToken
  /-- the generations whose stop channel has been closed -/
  stoppedC : Nat -> Bool
  /-- the generations whose done channel has been closed -/
  doneC : Nat -> Bool
  running : Bool
  mutex : RWMutex
  /-- the acknowledgements that have been given -/
  acks : Nat -> Bool
  clientContexts : Nat -> ClientContext
  contextsMade : Nat
  contexts : Nat -> Option ContextError
  /-- pump goroutines that `Start` has started and that have not run yet -/
  launched : Nat
  /-- watchers that the pump has started and that have not run yet -/
  watchers : List Watch
  hist : History P

/-- The atomic operations. -/
inductive Op (P : Type) where
  | mapGet (clientID : String)
  | mapGetOrCreate (clientID : String)
  | mapRemove (clientID : String)
  | mapDrainAll
  | push (clientID : String) (queue : QueueRef) (bundle : RequestBundle P)
  | isEmpty (queue : QueueRef)
  | peek (queue : QueueRef)
  | popIf (queue : QueueRef) (requestID : String)
  | drainAll (queue : QueueRef)
  | addPendingRequest (clientID requestID : String) (req : Option P)
  | getClientState (clientID : String)
  | getPendingRequest (object : StateRef) (requestID : String)
  | deletePendingRequest (clientID requestID : String)
  | hasPendingRequest (clientID : String)
  | clearClientPendingRequest (clientID : String)
  | clearAllPendingRequests
  | rlock
  | runlock
  | lock
  | awaitReaders
  | unlock
  | isRunning
  | assignStarted
  | assignStopped
  | goMessagePump
  | readDoneC
  | readRequestChannel
  | makeAck
  | sendRequestChannel (req : ServerDispatchRequest)
  | closeAck (ack : Nat)
  | awaitAck (ack done : Nat)
  | sendReady (token : ServerReadyToken)
  | select (reqCh : Nat)
  | closeDone (done : Nat)
  | awaitDone (done : Nat)
  | contextErr (context : Context)
  | withTimeout
  | withCancel
  | cancelContext (ctx : Nat)
  | goWaitForTimeout (clientID requestID : String) (ctx : Nat) (userCtx : Context)
  | watch (watch : Watch)
  | postTimeout (watch : Watch)
  | postCancel (watch : Watch)
  | write (gen : Nat) (entry : ClientEntry P) (data : List UInt8)
  | onRequestCancel (owner : ClientEntry P) (clientID requestID : String) (request : Option P)
      (err : OcppError)
  | completed (owner : ClientEntry P) (clientID requestID : String)
  | removed
  | nilDereference

/-- The answers of the operations. -/
abbrev Res (P : Type) : Op P -> Type
  | .mapGet _ => Option QueueRef
  | .mapDrainAll => List (Sigma fun _ : String => QueueRef)
  | .push _ _ _ => Bool
  | .isEmpty _ => Bool
  | .peek _ => Option (ClientEntry P)
  | .popIf _ _ => Option (ClientEntry P)
  | .drainAll _ => List (ClientEntry P)
  | .getClientState _ => StateRef
  | .getPendingRequest _ _ => Option (Option P)
  | .hasPendingRequest _ => Bool
  | .isRunning => Bool
  | .assignStopped => Nat
  | .readDoneC => Nat
  | .readRequestChannel => Nat
  | .makeAck => Nat
  | .select _ => Selected
  | .contextErr _ => Option ContextError
  | .withTimeout => Nat
  | .withCancel => Nat
  | .watch _ => Watched
  | .write _ _ _ => Option String
  | _ => Unit

/-- What the scheduler, the network and the iteration over a map decide. -/
inductive Choice where
  | proceed
  | arm (arm : Arm)
  | network (failure : Option String)
  | order (detached : List (Sigma fun _ : String => QueueRef))

/-- What a goroutine executes.  `pumpLoop` is one pass through the loop of `messagePump` up to
the inner loop, and `dispatchLoop` one pass through the inner loop. -/
inductive Routine (P : Type) where
  | start
  | stop
  | createClient (clientID : String)
  | deleteClient (clientID : String)
  | deleteClientAndWait (clientID : String)
  | onClientDisconnected (clientID : String)
  | sendRequest (clientID : String) (req : RequestBundle P)
  | ocppMessageHandler (clientID : String) (frame : Frame)
  | messagePump
  | pumpLoop (pump : Pump)
  | dispatchLoop (pump : Pump) (clientID : String)
  | waitForTimeout (watch : Watch)

/-- Events of the environment. -/
inductive Event where
  | deadlinePasses (ctx : Nat)
  | contextFires (id : Nat) (err : ContextError)
  deriving DecidableEq

abbrev Prog (P : Type) := Program (Op P) (Res P)

/-! ## The effect of the operations -/

def History.initial : History P := ⟨[], [], [], [], []⟩

/-- A dispatcher as `NewDefaultServerDispatcher` makes it. -/
def Shared.initial (queueCapacity : Nat) : Shared P where
  queueMap := .new queueCapacity
  pendingRequestState := .new
  gen := 0
  requestChannel := fun _ => []
  readyForDispatch := none
  timerC := fun _ => []
  cancelC := fun _ => []
  stoppedC := fun _ => false
  doneC := fun _ => false
  running := false
  mutex := .new
  acks := fun _ => false
  clientContexts := fun _ => .canceled
  contextsMade := 0
  contexts := fun _ => none
  launched := 0
  watchers := []
  hist := .initial

/-- The queue a reference stands for. -/
def Shared.queue (s : Shared P) (queue : QueueRef) : FIFOClientQueue (ClientEntry P) :=
  s.queueMap.queues queue

/-- The select statement of the pump: the chosen arm has to be ready.  The request channel was
read at the start of the pump, the others are read again in every pass. -/
def select (reqCh : Nat) (arm : Arm) (s : Shared P) : Option (Selected × Shared P) :=
  match arm with
  | .stopped => if s.stoppedC s.gen then some (.stopped, s) else none
  | .request =>
    match s.requestChannel reqCh with
    | [] => none
    | req :: rest => some (.request req, { s with
        requestChannel := update s.requestChannel reqCh rest })
  | .timer =>
    match s.timerC s.gen with
    | [] => none
    | token :: rest => some (.timeout token, { s with
        timerC := update s.timerC s.gen rest })
  | .ready =>
    match s.readyForDispatch with
    | none => none
    | some token => some (.ready token, { s with readyForDispatch := none })
  | .cancel =>
    match s.cancelC s.gen with
    | [] => none
    | token :: rest => some (.cancel token, { s with
        cancelC := update s.cancelC s.gen rest })
  | _ => none

/-- The select statement of `waitForTimeout`.  The error of a context that is done does not
change any more, so it is read in the same step. -/
def watch (watch : Watch) (arm : Arm) (s : Shared P) : Option Watched :=
  match arm with
  | .context =>
    match s.clientContexts watch.ctx with
    | .active _ => none
    | .canceled => some .canceled
    | .deadlineExceeded => some .expired
  | .user => do
      let id <- watch.userCtx.done
      let _ <- s.contexts id
      return .userDone
  | .stopped => if s.stoppedC watch.gen then some .stopped else none
  | _ => none

/-- A new context of the pump. -/
def makeContext (deadline : Bool) (s : Shared P) : Nat × Shared P :=
  (s.contextsMade, { s with
    clientContexts := update s.clientContexts s.contextsMade (.active deadline)
    contextsMade := s.contextsMade + 1 })

/-- `cancel()` of a context; the first end of a context counts. -/
def ClientContext.cancel : ClientContext -> ClientContext
  | .active _ => .canceled
  | ended => ended

/-- One atomic operation of a goroutine; nothing when it has to wait. -/
def execute (tid : Nat) (op : Op P) (choice : Choice) (s : Shared P) :
    Option (Res P op × Shared P) :=
  match op with
  | .mapGet clientID => some (s.queueMap.get clientID, s)
  | .mapGetOrCreate clientID => some ((), { s with
      queueMap := s.queueMap.getOrCreate s.gen clientID })
  | .mapRemove clientID => some ((), { s with
      queueMap := s.queueMap.remove clientID
      hist := { s.hist with removing := (tid, clientID) :: s.hist.removing } })
  | .mapDrainAll =>
    -- the caller goes on to iterate over the map, in an order it cannot know
    match choice with
    | .order detached =>
      if detached.Perm s.queueMap.drainAll.1 then
        some (detached, { s with queueMap := s.queueMap.drainAll.2 })
      else none
    | _ => none
  | .push clientID queue bundle =>
    let entry : ClientEntry P := ⟨⟨s.hist.pushed.length, s.gen, bundle⟩, clientID⟩
    match (s.queue queue).push entry with
    | some content => some (true, { s with
        queueMap := s.queueMap.set queue content
        hist := { s.hist with pushed := s.hist.pushed ++ [entry] } })
    | none => some (false, s)
  | .isEmpty queue => some ((s.queue queue).isEmpty, s)
  | .peek queue => some ((s.queue queue).peek, s)
  | .popIf queue requestID =>
    match (s.queue queue).popIf (fun entry => entry.isRequest requestID) with
    | some (entry, content) => some (some entry, { s with
        queueMap := s.queueMap.set queue content })
    | none => some (none, s)
  | .drainAll queue => some ((s.queue queue).drainAll.1, { s with
      queueMap := s.queueMap.set queue (s.queue queue).drainAll.2 })
  | .addPendingRequest clientID requestID req => some ((), { s with
      pendingRequestState := s.pendingRequestState.addPendingRequest clientID requestID req
      hist := { s.hist with registered := (clientID, requestID) :: s.hist.registered } })
  | .getClientState clientID =>
    some ((s.pendingRequestState.getClientState clientID).1, { s with
      pendingRequestState := (s.pendingRequestState.getClientState clientID).2 })
  | .getPendingRequest object requestID =>
    some (s.pendingRequestState.getPendingRequest object requestID, s)
  | .deletePendingRequest clientID requestID => some ((), { s with
      pendingRequestState := s.pendingRequestState.deletePendingRequest clientID requestID })
  | .hasPendingRequest clientID => some (s.pendingRequestState.hasPendingRequest clientID, s)
  | .clearClientPendingRequest clientID => some ((), { s with
      pendingRequestState := s.pendingRequestState.clearClientPendingRequest clientID })
  | .clearAllPendingRequests => some ((), { s with
      pendingRequestState := s.pendingRequestState.clearAllPendingRequests })
  | .rlock => (s.mutex.rlock tid).map fun mutex => ((), { s with mutex := mutex })
  | .runlock => some ((), { s with mutex := s.mutex.runlock tid })
  | .lock => (s.mutex.announce tid).map fun mutex => ((), { s with mutex := mutex })
  | .awaitReaders => if s.mutex.noReaders then some ((), s) else none
  | .unlock => some ((), { s with mutex := s.mutex.unlock })
  | .isRunning => some (s.running, s)
  | .assignStarted =>
    let gen := s.gen + 1
    some ((), { s with
      gen := gen
      requestChannel := update s.requestChannel gen []
      timerC := update s.timerC gen []
      cancelC := update s.cancelC gen []
      stoppedC := update s.stoppedC gen false
      doneC := update s.doneC gen false
      running := true })
  | .assignStopped =>
    -- closing a closed channel panics
    if s.stoppedC s.gen then none
    else some (s.gen, { s with
      running := false
      stoppedC := update s.stoppedC s.gen true })
  | .goMessagePump => some ((), { s with launched := s.launched + 1 })
  | .readDoneC => some (s.gen, s)
  | .readRequestChannel => some (s.gen, s)
  | .makeAck => some (tid, { s with acks := update s.acks tid false })
  | .sendRequestChannel req =>
    -- a nil channel blocks for ever, a full one until the pump has received
    if s.gen ≠ 0 ∧ (s.requestChannel s.gen).length < 20 then
      some ((), { s with
        requestChannel := update s.requestChannel s.gen
          (s.requestChannel s.gen ++ [req]) })
    else none
  | .closeAck ack => if s.acks ack then none else some ((), { s with
      acks := update s.acks ack true })
  | .awaitAck ack done =>
    match choice with
    | .arm .ack => if s.acks ack then some ((), s) else none
    | .arm .done => if s.doneC done then some ((), s) else none
    | .arm .elapsed => some ((), s)
    | _ => none
  | .sendReady token =>
    match s.readyForDispatch with
    | none => some ((), { s with readyForDispatch := some token })
    | some _ => none
  | .select reqCh =>
    match choice with
    | .arm arm => select reqCh arm s
    | _ => none
  | .closeDone done => if s.doneC done then none else some ((), { s with
      doneC := update s.doneC done true })
  | .awaitDone done => if s.doneC done then some ((), s) else none
  | .contextErr context =>
    match context.done with
    | some id => some (s.contexts id, s)
    | none => some (none, s)
  | .withTimeout => some (makeContext true s)
  | .withCancel => some (makeContext false s)
  | .cancelContext ctx => some ((), { s with
      clientContexts := update s.clientContexts ctx (s.clientContexts ctx).cancel })
  | .goWaitForTimeout clientID requestID ctx userCtx => some ((), { s with
      watchers := ⟨clientID, requestID, ctx, userCtx, s.gen⟩ :: s.watchers })
  | .watch watched =>
    match choice with
    | .arm arm => (watch watched arm s).map fun ans => (ans, s)
    | _ => none
  | .postTimeout watched =>
    match choice with
    | .arm .post =>
      if (s.timerC watched.gen).length < 10 then some ((), { s with
        timerC := update s.timerC watched.gen
          (s.timerC watched.gen ++ [⟨watched.clientID, watched.ctx⟩]) })
      else none
    | .arm .stopped => if s.stoppedC watched.gen then some ((), s) else none
    | _ => none
  | .postCancel watched =>
    match choice with
    | .arm .post =>
      if (s.cancelC watched.gen).length < 10 then some ((), { s with
        cancelC := update s.cancelC watched.gen
          (s.cancelC watched.gen ++
            [⟨watched.clientID, watched.requestID, watched.userCtx⟩]) })
      else none
    | .arm .stopped => if s.stoppedC watched.gen then some ((), s) else none
    | _ => none
  | .write gen entry _ =>
    match choice with
    | .network failure => some (failure, { s with
        hist := { s.hist with writes := s.hist.writes ++ [(gen, entry)] } })
    | _ => none
  | .onRequestCancel owner clientID requestID request err => some ((), { s with
      hist := { s.hist with
        notifications := s.hist.notifications ++
          [⟨owner, clientID, requestID, request, .canceled err⟩] } })
  | .completed owner clientID requestID => some ((), { s with
      hist := { s.hist with
        notifications := s.hist.notifications ++
          [⟨owner, clientID, requestID, none, .completed⟩] } })
  | .removed => some ((), { s with
      hist := { s.hist with
        removing := s.hist.removing.filter (fun removal => removal.1 ≠ tid) } })
  | .nilDereference => none

/-- A new goroutine.  Pumps and watchers run when they have been started; the loops of the
pump are entered from within. -/
def enter (routine : Routine P) (s : Shared P) : Option (Shared P) :=
  match routine with
  | .messagePump => if 0 < s.launched then some { s with launched := s.launched - 1 } else none
  | .waitForTimeout watch =>
    if watch ∈ s.watchers then some { s with watchers := s.watchers.erase watch } else none
  | .pumpLoop _ => none
  | .dispatchLoop _ _ => none
  | _ => some s

def occur (event : Event) (s : Shared P) : Option (Shared P) :=
  match event with
  | .deadlinePasses ctx =>
    match s.clientContexts ctx with
    | .active true => some { s with
        clientContexts := update s.clientContexts ctx .deadlineExceeded }
    | _ => none
  | .contextFires id err =>
    match s.contexts id with
    | some _ => none
    | none => some { s with contexts := update s.contexts id (some err) }

end ServerDispatcher
end OcppGo
