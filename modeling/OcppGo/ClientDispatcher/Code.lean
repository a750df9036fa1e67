import OcppGo.ClientDispatcher.Model

namespace OcppGo
namespace ClientDispatcher

open Interleaving Ocppj

variable {P : Type}

@[simp] def push (num : Nat) (bundle : RequestBundle P) : Prog P Bool :=
  .act (.push num bundle) .done
@[simp] def isEmpty : Prog P Bool := .act .isEmpty .done
@[simp] def peek (site : Site) : Prog P (Option (Entry P)) := .act (.peek site) .done
@[simp] def popIf (site : Site) (requestId : String) : Prog P (Option (Entry P)) :=
  .act (.popIf site requestId) .done
@[simp] def drainAll : Prog P (List (Entry P)) := .act .drainAll .done
@[simp] def init : Prog P Unit := .act .init .done
@[simp] def addPendingRequest (requestID : String) (req : Option P) : Prog P Unit :=
  .act (.addPendingRequest requestID req) .done
@[simp] def getPendingRequest (requestID : String) : Prog P (Option (Option P)) :=
  .act (.getPendingRequest requestID) .done
@[simp] def deletePendingRequest (site : Site) (requestID : String) : Prog P Unit :=
  .act (.deletePendingRequest site requestID) .done
@[simp] def clearPendingRequests : Prog P Unit := .act .clearPendingRequests .done
@[simp] def hasPendingRequest (site : Site) : Prog P Bool := .act (.hasPendingRequest site) .done
@[simp] def rlock : Prog P Unit := .act .rlock .done
@[simp] def runlock : Prog P Unit := .act .runlock .done
@[simp] def unlock : Prog P Unit := .act .unlock .done
@[simp] def isRunning : Prog P Bool := .act .isRunning .done
@[simp] def assignStarted : Prog P Unit := .act .assignStarted .done
@[simp] def assignStopped : Prog P Nat := .act .assignStopped .done
@[simp] def forgetChannel : Prog P Unit := .act .forgetChannel .done
@[simp] def readDoneC : Prog P Nat := .act .readDoneC .done
@[simp] def readRequestChannel : Prog P (Option Nat) := .act .readRequestChannel .done
@[simp] def goMessagePump : Prog P Unit := .act .goMessagePump .done
@[simp] def sendRequestChannel : Prog P Unit := .act .sendRequestChannel .done
@[simp] def signalReady (site : Site) : Prog P Unit := .act (.signalReady site) .done
@[simp] def selectArm (reqCh pendingDone : Option Nat) : Prog P Selected :=
  .act (.select reqCh pendingDone) .done
@[simp] def closeDone (done : Nat) : Prog P Unit := .act (.closeDone done) .done
@[simp] def awaitDone (done : Nat) : Prog P Unit := .act (.awaitDone done) .done
@[simp] def timerStop : Prog P Bool := .act .timerStop .done
@[simp] def timerDrain : Prog P Unit := .act .timerDrain .done
@[simp] def timerReset (duration : Int) : Prog P Unit := .act (.timerReset duration) .done
@[simp] def isPaused : Prog P Bool := .act .isPaused .done
@[simp] def setPaused (paused : Bool) : Prog P Unit := .act (.setPaused paused) .done
@[simp] def contextErr (context : Option Context) : Prog P (Option ContextError) :=
  .act (.contextErr context) .done
@[simp] def write (entry : Entry P) (data : List UInt8) : Prog P (Option String) :=
  .act (.write entry data) .done
@[simp] def onRequestCancel (owner : Entry P) (requestID : String) (request : Option P)
    (err : OcppError) : Prog P Unit := .act (.onRequestCancel owner requestID request err) .done
@[simp] def completed (owner : Entry P) (requestID : String) : Prog P Unit :=
  .act (.completed owner requestID) .done
@[simp] def ret (num : Nat) (failure : Option SendError) : Prog P Unit :=
  .act (.ret num failure) .done
@[simp] def retain (entry : Option (Entry P)) : Prog P Unit := .act (.retain entry) .done
@[simp] def nilDereference : Prog P Unit := .act .nilDereference .done

/-- `d.mutex.Lock()`. -/
def lock : Prog P Unit := do
  .act .lock .done
  .act .awaitReaders .done

variable (opts : Settings)

def sendRequest (num : Nat) (req : RequestBundle P) : Prog P Unit := do
  if opts.network then
    if ← push num req then
      rlock
      if ← isRunning then
        sendRequestChannel
        runlock
        ret num none
      else
        -- the deferred unlock also runs when the error text cannot be built
        runlock
        match req.call with
        | some call => ret num (some (.notRunning call.uniqueId))
        | none => nilDereference
    else
      ret num (some .queueFull)
  else
    ret num (some .noNetwork)

def start : Prog P Unit := do
  lock
  assignStarted
  goMessagePump
  unlock

def stop : Prog P Unit := do
  lock
  if ← isRunning then
    let done ← assignStopped
    unlock
    awaitDone done
  else
    unlock

/-- Stop the timer and take out a tick that was already delivered. -/
def stopAndDrainTimer : Prog P Unit := do
  if ← timerStop then
    return ()
  else
    timerDrain

def pause : Prog P Unit := do
  lock
  stopAndDrainTimer
  timerReset (if opts.timeoutOnPause && decide (0 < opts.timeout) then opts.timeout
    else defaultTimeoutTick)
  setPaused true
  unlock

def resume : Prog P Unit := do
  setPaused false
  if ← hasPendingRequest .resume then
    stopAndDrainTimer
    timerReset opts.timeout
  else
    signalReady .resume

/-- `CompleteRequest`.  The source returns whether an entry was popped; here the
entry itself is returned. -/
def completeRequest (site : Site) (requestId : String) : Prog P (Option (Entry P)) := do
  match ← popIf site requestId with
  | some entry =>
    deletePendingRequest site entry.uniqueId
    signalReady site
    return some entry
  | none => return none

/-- `ocppMessageHandler` for an answer frame, with the checks `ParseMessage` makes
before it looks at the payload. -/
def ocppMessageHandler (frame : Frame) : Prog P Unit := do
  if frame.uniqueId = "" then
    return ()
  else
    match ← getPendingRequest frame.uniqueId with
    | none => return ()
    | some _ =>
      if frame.valid then
        match ← completeRequest .inbound frame.uniqueId with
        | some owner => completed owner frame.uniqueId
        | none => return ()
      else
        return ()

/-! ## The message pump -/

def fireRequestCancel (owner : Entry P) (requestID : String) (request : Option P)
    (err : OcppError) : Prog P Unit :=
  if opts.onRequestCancel then
    onRequestCancel owner requestID request (markLocalTransportError err)
  else
    return ()

/-- Complete the request and, if this call took it out of the queue, cancel it. -/
def cancelIfOwned (site : Site) (requestID : String) (request : Option P)
    (err : Prog P OcppError) : Prog P Unit := do
  match ← completeRequest site requestID with
  | some owner => fireRequestCancel opts owner requestID request (← err)
  | none => return ()

/-- The cancel callbacks of the stop drain. -/
def fireStopped : List (Entry P) -> Prog P Unit
  | [] => return ()
  | entry :: rest => do
      match entry.bundle.call with
      | some call =>
        fireRequestCancel opts entry call.uniqueId call.payload
          (newDispatcherStoppedError call.uniqueId)
      | none => pure ()
      fireStopped rest

/-- The request arm once `Stop` has closed the channel. -/
def stopDrain (doneC : Nat) : Prog P Unit := do
  retain none
  let outstanding ← drainAll
  clearPendingRequests
  fireStopped opts outstanding
  init
  lock
  forgetChannel
  unlock
  closeDone doneC

/-- The timer arm. -/
def timeoutArm : Prog P Unit := do
  if ← hasPendingRequest .timeout then
    match ← peek .timeout with
    | some entry =>
      match entry.bundle.call with
      | some call =>
        cancelIfOwned opts .timeout call.uniqueId call.payload
          (return newRequestTimeoutError call.uniqueId)
      | none => pure ()
    | none => pure ()
  timerReset defaultTimeoutTick

/-- The context arm. -/
def cancelArm (pending : PumpPending P) : Prog P Unit := do
  match ← getPendingRequest pending.id with
  | some _ =>
    cancelIfOwned opts .cancel pending.id pending.payload do
      return newRequestCanceledError pending.id (← contextErr pending.ctx)
  | none => return ()

def dispatchNextRequest : Prog P (PumpPending P × Bool) := do
  match ← peek .dispatch with
  | none => return (.zero, false)
  | some entry =>
    match entry.bundle.call, entry.bundle.data with
    | some call, some jsonMessage =>
      let ctx := entry.bundle.bundleCtx
      if (← contextErr (some ctx)).isSome then
        cancelIfOwned opts .dispatch call.uniqueId call.payload do
          return newRequestCanceledError call.uniqueId (← contextErr (some ctx))
        return (.zero, false)
      else
        addPendingRequest call.uniqueId call.payload
        match ← write entry jsonMessage with
        | some failure =>
          cancelIfOwned opts .dispatch call.uniqueId call.payload
            (return newLocalTransportError internalError failure call.uniqueId)
          return (.zero, true)
        | none =>
          return (⟨call.uniqueId, call.action, some ctx, call.payload, some entry⟩, true)
    | _, _ => return (.zero, false)

/-- The part of a pass behind the select statement; returns the pump's variables
for the next pass. -/
def dispatchStep (rdy : Bool) (pending : PumpPending P) : Prog P (Bool × PumpPending P) := do
  if ← isPaused then
    return (rdy, pending)
  else if rdy then
    if ← isEmpty then
      return (rdy, pending)
    else if ← hasPendingRequest .dispatch then
      return (rdy, pending)
    else
      let (token, dispatched) ← dispatchNextRequest opts
      if dispatched then
        stopAndDrainTimer
        timerReset opts.timeout
        return (false, token)
      else
        return (rdy, pending)
  else
    return (rdy, pending)

/-- The beginning of a pass: a request that was completed elsewhere is dropped
from the pump's own note. -/
def reconcile (pending : PumpPending P) : Prog P (PumpPending P) := do
  if pending.id = "" then
    return pending
  else
    match ← getPendingRequest pending.id with
    | some _ => return pending
    | none => return .zero

/-- The context whose end the select statement waits for. -/
def PumpPending.pendingDone (pending : PumpPending P) : Option Nat :=
  if pending.id = "" then none else pending.ctx.bind Context.done

/-- What every arm of the select statement but the first ends with. -/
def dispatchPass (reqCh : Option Nat) (doneC : Nat) (rdy : Bool) (pending : PumpPending P) :
    Prog P (Option (Routine P)) := do
  let (rdy, pending) ← dispatchStep opts rdy pending
  return some (.pumpLoop reqCh doneC rdy pending)

/-- One pass through the loop of `messagePump`. -/
def pumpLoop (reqCh : Option Nat) (doneC : Nat) (rdy : Bool) (pending : PumpPending P) :
    Prog P (Option (Routine P)) := do
  let pending ← reconcile pending
  retain pending.entry
  match ← selectArm reqCh pending.pendingDone with
  | .closed =>
    stopDrain opts doneC
    return none
  | .request => dispatchPass opts reqCh doneC rdy pending
  | .tick =>
    timeoutArm opts
    dispatchPass opts reqCh doneC rdy .zero
  | .ready => dispatchPass opts reqCh doneC true pending
  | .canceled =>
    cancelArm opts pending
    dispatchPass opts reqCh doneC rdy .zero

/-- The start of the pump goroutine: both channels are read once. -/
def messagePump : Prog P (Option (Routine P)) := do
  let doneC ← readDoneC
  let reqCh ← readRequestChannel
  return some (.pumpLoop reqCh doneC true .zero)

/-- The program of every goroutine. -/
def body : Routine P -> Prog P (Option (Routine P))
  | .start => do start; return none
  | .stop => do stop; return none
  | .pause => do pause opts; return none
  | .resume => do resume opts; return none
  | .sendRequest num req => do sendRequest opts num req; return none
  | .ocppMessageHandler frame => do ocppMessageHandler frame; return none
  | .messagePump => messagePump
  | .pumpLoop reqCh doneC rdy pending => pumpLoop opts reqCh doneC rdy pending

/-- The dispatcher with all its goroutines. -/
abbrev Configuration (P : Type) := Config (Op P) (Res P) (Shared P) (Routine P)

/-- Conditions on the steps of a run. -/
abbrev Condition (P : Type) := Guard (Op P) (Res P) (Shared P) (Routine P)

/-- The dispatcher. -/
def system : System (Op P) (Res P) (Shared P) Choice (Routine P) Event where
  body := body opts
  execute := execute
  enter := enter
  occur := occur

end ClientDispatcher
end OcppGo
