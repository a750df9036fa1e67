import OcppGo.ServerDispatcher.Model

namespace OcppGo
namespace ServerDispatcher

open Interleaving Ocppj

variable {P : Type}

/-!
# The functions of the server dispatcher

Each function is written in the order of the source.  `completeRequestOwned` and
`CompleteRequest` return the entry that was taken out of the queue where the source
returns a bundle or a flag, so that a notification can name the entry it ends.
-/

@[simp] def mapGet (clientID : String) : Prog P (Option QueueRef) := .act (.mapGet clientID) .done
@[simp] def mapGetOrCreate (clientID : String) : Prog P Unit := .act (.mapGetOrCreate clientID) .done
@[simp] def mapRemove (clientID : String) : Prog P Unit := .act (.mapRemove clientID) .done
@[simp] def mapDrainAll : Prog P (List (Sigma fun _ : String => QueueRef)) :=
  .act .mapDrainAll .done
@[simp] def push (clientID : String) (queue : QueueRef) (bundle : RequestBundle P) : Prog P Bool :=
  .act (.push clientID queue bundle) .done
@[simp] def isEmpty (queue : QueueRef) : Prog P Bool := .act (.isEmpty queue) .done
@[simp] def peek (queue : QueueRef) : Prog P (Option (ClientEntry P)) := .act (.peek queue) .done
@[simp] def popIf (queue : QueueRef) (requestID : String) : Prog P (Option (ClientEntry P)) :=
  .act (.popIf queue requestID) .done
@[simp] def drainAll (queue : QueueRef) : Prog P (List (ClientEntry P)) :=
  .act (.drainAll queue) .done
@[simp] def addPendingRequest (clientID requestID : String) (req : Option P) : Prog P Unit :=
  .act (.addPendingRequest clientID requestID req) .done
@[simp] def getClientState (clientID : String) : Prog P StateRef :=
  .act (.getClientState clientID) .done
@[simp] def getPendingRequest (object : StateRef) (requestID : String) : Prog P (Option (Option P)) :=
  .act (.getPendingRequest object requestID) .done
@[simp] def deletePendingRequest (clientID requestID : String) : Prog P Unit :=
  .act (.deletePendingRequest clientID requestID) .done
@[simp] def hasPendingRequest (clientID : String) : Prog P Bool :=
  .act (.hasPendingRequest clientID) .done
@[simp] def clearClientPendingRequest (clientID : String) : Prog P Unit :=
  .act (.clearClientPendingRequest clientID) .done
@[simp] def clearAllPendingRequests : Prog P Unit := .act .clearAllPendingRequests .done
@[simp] def rlock : Prog P Unit := .act .rlock .done
@[simp] def runlock : Prog P Unit := .act .runlock .done
@[simp] def unlock : Prog P Unit := .act .unlock .done
@[simp] def isRunning : Prog P Bool := .act .isRunning .done
@[simp] def assignStarted : Prog P Unit := .act .assignStarted .done
@[simp] def assignStopped : Prog P Nat := .act .assignStopped .done
@[simp] def goMessagePump : Prog P Unit := .act .goMessagePump .done
@[simp] def readDoneC : Prog P Nat := .act .readDoneC .done
@[simp] def readRequestChannel : Prog P Nat := .act .readRequestChannel .done
@[simp] def makeAck : Prog P Nat := .act .makeAck .done
@[simp] def sendRequestChannel (req : ServerDispatchRequest) : Prog P Unit :=
  .act (.sendRequestChannel req) .done
@[simp] def closeAck (ack : Nat) : Prog P Unit := .act (.closeAck ack) .done
@[simp] def awaitAck (ack doneC : Nat) : Prog P Unit := .act (.awaitAck ack doneC) .done
@[simp] def sendReady (token : ServerReadyToken) : Prog P Unit := .act (.sendReady token) .done
@[simp] def selectArm (reqCh : Nat) : Prog P Selected := .act (.select reqCh) .done
@[simp] def closeDone (doneC : Nat) : Prog P Unit := .act (.closeDone doneC) .done
@[simp] def awaitDone (doneC : Nat) : Prog P Unit := .act (.awaitDone doneC) .done
@[simp] def contextErr (context : Context) : Prog P (Option ContextError) :=
  .act (.contextErr context) .done
@[simp] def withTimeout : Prog P Nat := .act .withTimeout .done
@[simp] def withCancel : Prog P Nat := .act .withCancel .done
@[simp] def cancelContext (ctx : Nat) : Prog P Unit := .act (.cancelContext ctx) .done
@[simp] def goWaitForTimeout (clientID requestID : String) (ctx : Nat) (userCtx : Context) :
    Prog P Unit := .act (.goWaitForTimeout clientID requestID ctx userCtx) .done
@[simp] def watchArm (watch : Watch) : Prog P Watched := .act (.watch watch) .done
@[simp] def postTimeout (watch : Watch) : Prog P Unit := .act (.postTimeout watch) .done
@[simp] def postCancel (watch : Watch) : Prog P Unit := .act (.postCancel watch) .done
@[simp] def write (gen : Nat) (entry : ClientEntry P) (data : List UInt8) :
    Prog P (Option String) := .act (.write gen entry data) .done
@[simp] def onRequestCancel (owner : ClientEntry P) (clientID requestID : String)
    (request : Option P) (err : OcppError) : Prog P Unit :=
  .act (.onRequestCancel owner clientID requestID request err) .done
@[simp] def completed (owner : ClientEntry P) (clientID requestID : String) : Prog P Unit :=
  .act (.completed owner clientID requestID) .done
@[simp] def removed : Prog P Unit := .act .removed .done
@[simp] def nilDereference : Prog P Unit := .act .nilDereference .done

/-- `d.mutex.Lock()`. -/
def lock : Prog P Unit := do
  .act .lock .done
  .act .awaitReaders .done

variable (opts : Settings)

def start : Prog P Unit := do
  lock
  assignStarted
  goMessagePump
  unlock

def stop : Prog P Unit := do
  lock
  if ← isRunning then
    let doneC ← assignStopped
    unlock
    awaitDone doneC
  else
    unlock

def createClient (clientID : String) : Prog P Unit := do
  rlock
  if ← isRunning then
    mapGetOrCreate clientID
  else
    pure ()
  runlock

def deleteClient (clientID : String) : Prog P Unit := do
  mapRemove clientID
  rlock
  if ← isRunning then
    sendRequestChannel ⟨clientID, none⟩
  else
    pure ()
  runlock
  removed

/-- `DeleteClientAndWait`, without the end of the removal. -/
def deleteClientAndWait (clientID : String) : Prog P Unit := do
  mapRemove clientID
  let ack ← makeAck
  rlock
  if ← isRunning then
    let doneC ← readDoneC
    sendRequestChannel ⟨clientID, some ack⟩
    runlock
    awaitAck ack doneC
  else
    runlock

/-- `onClientDisconnected` up to the user's handler. -/
def onClientDisconnected (clientID : String) : Prog P Unit := do
  deleteClientAndWait clientID
  clearClientPendingRequest clientID
  removed

/-- The error texts name the request, so they cannot be built for a bundle without a call. -/
def failed (req : RequestBundle P) (failure : String -> SendError) :
    Prog P (Option SendError) := do
  match req.call with
  | some call => return some (failure call.uniqueId)
  | none =>
    nilDereference
    return none

def sendRequest (clientID : String) (req : RequestBundle P) : Prog P (Option SendError) := do
  if opts.network then
    match ← mapGet clientID with
    | none => failed req (fun uniqueId => .noClient uniqueId clientID)
    | some queue =>
      if ← push clientID queue req then
        rlock
        if ← isRunning then
          sendRequestChannel ⟨clientID, none⟩
          runlock
          return none
        else
          -- the deferred unlock also runs when the error text cannot be built
          runlock
          failed req .notRunning
      else
        return some .queueFull
  else
    failed req .noNetwork

def completeRequestOwned (clientID requestID : String) : Prog P (Option (ClientEntry P)) := do
  match ← mapGet clientID with
  | none => return none
  | some queue =>
    match ← popIf queue requestID with
    | none => return none
    | some owner =>
      deletePendingRequest clientID requestID
      return some owner

def completeRequest (clientID requestID : String) : Prog P (Option (ClientEntry P)) := do
  match ← completeRequestOwned clientID requestID with
  | none => return none
  | some owner =>
    sendReady ⟨clientID, requestID⟩
    return some owner

/-- `ocppMessageHandler` for an answer frame, with the checks `ParseMessage` makes before it
looks at the payload. -/
def ocppMessageHandler (clientID : String) (frame : Frame) : Prog P Unit := do
  let pending ← getClientState clientID
  if frame.uniqueId = "" then
    return ()
  else
    match ← getPendingRequest pending frame.uniqueId with
    | none => return ()
    | some _ =>
      if frame.valid then
        match ← completeRequest clientID frame.uniqueId with
        | some owner => completed owner clientID frame.uniqueId
        | none => return ()
      else
        return ()

def waitForTimeout (watch : Watch) : Prog P Unit := do
  match ← watchArm watch with
  | .expired => postTimeout watch
  | .canceled => pure ()
  | .userDone => postCancel watch
  | .stopped => pure ()
  cancelContext watch.ctx

/-! ## The message pump -/

def fireRequestCancel (owner : ClientEntry P) (clientID requestID : String) (request : Option P)
    (err : OcppError) : Prog P Unit :=
  if opts.onRequestCancel then
    onRequestCancel owner clientID requestID request (markLocalTransportError err)
  else
    return ()

/-- `clientCtx.cancel()`, where there is one. -/
def cancelIfActive (clientCtx : Option Nat) : Prog P Unit :=
  match clientCtx with
  | some ctx => cancelContext ctx
  | none => return ()

/-- The cancel callbacks of the stop drain for one queue. -/
def fireStopped (clientID : String) : List (ClientEntry P) -> Prog P Unit
  | [] => return ()
  | entry :: rest => do
      match entry.bundle.call with
      | some call =>
        if call.payload.isSome then
          fireRequestCancel opts entry clientID call.uniqueId call.payload
            (newDispatcherStoppedError call.uniqueId)
        else
          pure ()
      | none => pure ()
      fireStopped clientID rest

/-- The queues of the stop drain, one after the other. -/
def drainDetached : List (Sigma fun _ : String => QueueRef) -> Prog P Unit
  | [] => return ()
  | detached :: rest => do
      let outstanding ← drainAll detached.2
      fireStopped opts detached.1 outstanding
      drainDetached rest

/-- The stop arm. -/
def stopArm : Prog P Unit := do
  let detached ← mapDrainAll
  clearAllPendingRequests
  drainDetached opts detached

/-- The acknowledgement of a deletion, where one is asked for. -/
def acknowledge (deleteAck : Option Nat) : Prog P Unit :=
  match deleteAck with
  | some ack => closeAck ack
  | none => return ()

/-- The request arm.  The flag tells whether the pass goes on to the dispatch. -/
def requestArm (pump : Pump) (req : ServerDispatchRequest) : Prog P (Pump × Bool) := do
  match ← mapGet req.clientID with
  | none =>
    cancelIfActive (pump.clientContextMap req.clientID)
    acknowledge req.deleteAck
    return ({ pump.forget req.clientID with clientQueue := none }, false)
  | some queue =>
    if req.deleteAck.isSome then
      cancelIfActive (pump.clientContextMap req.clientID)
      acknowledge req.deleteAck
      return ({ pump.forget req.clientID with clientQueue := some queue, rdy := true }, true)
    else
      return ({ pump with
        clientQueue := some queue
        rdy := (pump.clientContextMap req.clientID).isNone }, true)

/-- The timer arm. -/
def timeoutArm (pump : Pump) (token : ServerTimeoutToken) : Prog P (Pump × Bool) := do
  if pump.clientContextMap token.clientID = some token.ctx then
    let timedOutRequestID := pump.dispatchedRequestIDMap token.clientID
    cancelContext token.ctx
    let pump := pump.forget token.clientID
    if ← hasPendingRequest token.clientID then
      match ← completeRequestOwned token.clientID timedOutRequestID with
      | none => return (pump, false)
      | some owner =>
        let queue ← mapGet token.clientID
        fireRequestCancel opts owner token.clientID owner.uniqueId owner.payload
          (newRequestTimeoutError owner.uniqueId)
        return ({ pump with clientQueue := queue, rdy := true }, true)
    else
      match ← mapGet token.clientID with
      | some queue => return ({ pump with clientQueue := some queue, rdy := true }, true)
      -- the variables keep what an earlier pass has left in them
      | none => return (pump, true)
  else
    return (pump, false)

/-- The ready arm. -/
def readyArm (pump : Pump) (token : ServerReadyToken) : Prog P (Pump × Bool) := do
  let dispatchedRequestID := pump.dispatchedRequestIDMap token.clientID
  if dispatchedRequestID ≠ "" ∧ dispatchedRequestID ≠ token.requestID then
    return (pump, false)
  else
    cancelIfActive (pump.clientContextMap token.clientID)
    let pump := pump.forget token.clientID
    match ← mapGet token.clientID with
    | some queue => return ({ pump with clientQueue := some queue, rdy := true }, true)
    | none => return ({ pump with clientQueue := none }, true)

/-- The cancel arm. -/
def cancelArm (pump : Pump) (token : ServerCancelToken) : Prog P (Pump × Bool) := do
  if pump.dispatchedRequestIDMap token.clientID = token.requestID then
    match ← completeRequestOwned token.clientID token.requestID with
    | none => return ({ pump with rdy := false, clientQueue := none }, false)
    | some owner =>
      cancelIfActive (pump.clientContextMap token.clientID)
      let queue ← mapGet token.clientID
      let cause ← contextErr token.ctx
      fireRequestCancel opts owner token.clientID owner.uniqueId owner.payload
        (newRequestCanceledError owner.uniqueId cause)
      return ({ pump.forget token.clientID with clientQueue := queue, rdy := true }, true)
  else
    return ({ pump with rdy := false, clientQueue := none }, false)

/-- `dispatchStatus`. -/
inductive DispatchStatus where
  | idle
  | written
  | completedNoWrite
  deriving DecidableEq

/-- The results of `dispatchNextRequest`. -/
structure Dispatched where
  clientCtx : Option Nat
  requestID : String
  userCtx : Context
  status : DispatchStatus

def Dispatched.idle : Dispatched := ⟨none, "", .background, .idle⟩

def Dispatched.completedNoWrite : Dispatched := ⟨none, "", .background, .completedNoWrite⟩

/-- The context that tracks the timeout of a request that was written. -/
def trackingContext (userCtx : Context) : Prog P (Option Nat) := do
  if 0 < opts.timeout then
    let ctx ← withTimeout
    return some ctx
  else if userCtx.done.isSome then
    let ctx ← withCancel
    return some ctx
  else
    return none

/-- `dispatchNextRequest`, run by the pump of the given generation. -/
def dispatchNextRequest (gen : Nat) (clientID : String) : Prog P Dispatched := do
  match ← mapGet clientID with
  | none => return .idle
  | some queue =>
    match ← peek queue with
    | none => return .idle
    | some entry =>
      match entry.bundle.call, entry.bundle.data with
      | some call, some jsonMessage =>
        let userCtx := entry.bundle.bundleCtx
        if (← contextErr userCtx).isSome then
          match ← completeRequestOwned clientID call.uniqueId with
          | some owner =>
            let cause ← contextErr userCtx
            fireRequestCancel opts owner clientID call.uniqueId call.payload
              (newRequestCanceledError call.uniqueId cause)
          | none => pure ()
          return .completedNoWrite
        else
          addPendingRequest clientID call.uniqueId call.payload
          match ← write gen entry jsonMessage with
          | some failure =>
            match ← completeRequestOwned clientID call.uniqueId with
            | some owner =>
              fireRequestCancel opts owner clientID call.uniqueId call.payload
                (newLocalTransportError internalError failure call.uniqueId)
            | none => pure ()
            return .completedNoWrite
          | none =>
            let clientCtx ← trackingContext opts userCtx
            return ⟨clientCtx, call.uniqueId, userCtx, .written⟩
      | _, _ => return .idle

/-- One pass through the loop around `dispatchNextRequest`. -/
def dispatchLoop (pump : Pump) (clientID : String) : Prog P (Option (Routine P)) := do
  let dispatched ← dispatchNextRequest opts pump.reqCh clientID
  let known ← (if dispatched.requestID = "" then return false else hasPendingRequest clientID)
  let pump : Pump := { pump with
    rdy := false
    clientContextMap := Function.update pump.clientContextMap clientID dispatched.clientCtx
    dispatchedRequestIDMap := Function.update pump.dispatchedRequestIDMap clientID
      (if known then dispatched.requestID else "") }
  match dispatched.clientCtx with
  | some ctx => goWaitForTimeout clientID dispatched.requestID ctx dispatched.userCtx
  | none => pure ()
  if dispatched.status = .completedNoWrite then
    match ← mapGet clientID with
    | none => return some (.pumpLoop pump)
    | some queue =>
      if ← isEmpty queue then
        return some (.pumpLoop pump)
      else
        return some (.dispatchLoop pump clientID)
  else
    return some (.pumpLoop pump)

/-- The condition in front of the dispatch. -/
def dispatchGuard (pump : Pump) (clientID : String) : Prog P (Option (Routine P)) := do
  match pump.rdy, pump.clientQueue with
  | true, some queue =>
    if ← isEmpty queue then
      return some (.pumpLoop pump)
    else if ← hasPendingRequest clientID then
      return some (.pumpLoop pump)
    else
      return some (.dispatchLoop pump clientID)
  | _, _ => return some (.pumpLoop pump)

/-- A pass behind its select statement: the arm, and the dispatch unless the arm ended with
`continue`. -/
def pass (clientID : String) (arm : Prog P (Pump × Bool)) : Prog P (Option (Routine P)) := do
  let (pump, goesOn) ← arm
  if goesOn then
    dispatchGuard pump clientID
  else
    return some (.pumpLoop pump)

/-- One pass through the loop of `messagePump`. -/
def pumpLoop (pump : Pump) : Prog P (Option (Routine P)) := do
  match ← selectArm pump.reqCh with
  | .stopped =>
    stopArm opts
    closeDone pump.doneC
    return none
  | .request req => pass req.clientID (requestArm pump req)
  | .timeout token => pass token.clientID (timeoutArm opts pump token)
  | .ready token => pass token.clientID (readyArm pump token)
  | .cancel token => pass token.clientID (cancelArm opts pump token)

/-- The start of the pump goroutine. -/
def messagePump : Prog P (Option (Routine P)) := do
  let doneC ← readDoneC
  let reqCh ← readRequestChannel
  return some (.pumpLoop (.new reqCh doneC))

/-- The program of every goroutine. -/
def body : Routine P -> Prog P (Option (Routine P))
  | .start => do start; return none
  | .stop => do stop; return none
  | .createClient clientID => do createClient clientID; return none
  | .deleteClient clientID => do deleteClient clientID; return none
  | .deleteClientAndWait clientID => do deleteClientAndWait clientID; removed; return none
  | .onClientDisconnected clientID => do onClientDisconnected clientID; return none
  | .sendRequest clientID req => do let _ ← sendRequest opts clientID req; return none
  | .ocppMessageHandler clientID frame => do ocppMessageHandler clientID frame; return none
  | .messagePump => messagePump
  | .pumpLoop pump => pumpLoop opts pump
  | .dispatchLoop pump clientID => dispatchLoop opts pump clientID
  | .waitForTimeout watch => do waitForTimeout watch; return none

/-- The dispatcher with all its goroutines. -/
abbrev Configuration (P : Type) := Config (Op P) (Res P) (Shared P) (Routine P)

/-- The dispatcher. -/
def system : System (Op P) (Res P) (Shared P) Choice (Routine P) Event where
  body := body opts
  execute := execute
  enter := enter
  occur := occur

end ServerDispatcher
end OcppGo
