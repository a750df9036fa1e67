import OcppGo.ClientLifecycle.Model

namespace OcppGo
namespace ClientLifecycle

open Interleaving Ocppj

variable {P : Type}

/-!
# The functions of the client and of the websocket client

Functions of the websocket client that share their name with one of `ocppj.Client` are written
with `ws` in front.
-/

@[simp] def begins (call : CallKind) : Prog P Unit := .act (.begins call) .done
@[simp] def returns (call : CallKind) (success : Bool) : Prog P Unit :=
  .act (.returns call success) .done
@[simp] def setDisconnectedHandler (handler : Handler) : Prog P Unit :=
  .act (.setDisconnectedHandler handler) .done
@[simp] def setReconnectedHandler : Prog P Unit := .act .setReconnectedHandler .done
@[simp] def readWebSocket : Prog P (Option Nat) := .act .readWebSocket .done
@[simp] def socketIsConnected (sock : Nat) : Prog P Bool := .act (.isConnected sock) .done
@[simp] def makeReconnectC : Prog P Unit := .act .makeReconnectC .done
@[simp] def dial : Prog P (Option Nat) := .act .dial .done
@[simp] def publish (sock : Nat) (reconnecting : Bool) : Prog P Unit :=
  .act (.publish sock reconnecting) .done
@[simp] def run (sock : Nat) : Prog P Unit := .act (.run sock) .done
@[simp] def close (sock : Nat) : Prog P Unit := .act (.close sock) .done
@[simp] def stopBegins : Prog P Unit := .act .stopBegins .done
@[simp] def signalReconnect : Prog P Unit := .act .signalReconnect .done
@[simp] def awaitTeardown (sock : Nat) : Prog P Bool := .act (.awaitTeardown sock) .done
@[simp] def closeDone (sock : Nat) : Prog P Unit := .act (.closeDone sock) .done
@[simp] def dropConnection (sock : Nat) : Prog P Unit := .act (.dropConnection sock) .done
@[simp] def readDisconnectedHandler (sock : Nat) : Prog P (Option Handler) :=
  .act (.readDisconnectedHandler sock) .done
@[simp] def readReconnectedHandler : Prog P Bool := .act .readReconnectedHandler .done
@[simp] def notificationEnds : Prog P Unit := .act .notificationEnds .done
@[simp] def reconnectionBegins : Prog P Nat := .act .reconnectionBegins .done
@[simp] def awaitRetry : Prog P Bool := .act .awaitRetry .done
@[simp] def reconnectionAborted (began : Nat) : Prog P Unit :=
  .act (.reconnectionAborted began) .done
@[simp] def ended (sock : Nat) : Prog P Unit := .act (.ended sock) .done
@[simp] def makeCleanup : Prog P Nat := .act .makeCleanup .done
@[simp] def closeCleanup (stop : Nat) : Prog P Unit := .act (.closeCleanup stop) .done
@[simp] def sendCleanup (stop : Nat) : Prog P Unit := .act (.sendCleanup stop) .done
@[simp] def awaitCleanup (stop : Nat) : Prog P Unit := .act (.awaitCleanup stop) .done

/-- An operation of the dispatcher. -/
@[simp] def operate (op : ClientDispatcher.Op P) : Prog P (ClientDispatcher.Res P op) :=
  .act (.dispatcher op) .done

/-- A function of the dispatcher. -/
def dispatcher {α : Type} (prog : ClientDispatcher.Prog P α) : Prog P α := prog.interpret operate

variable (opts : Settings)

/-! ## The websocket client -/

/-- `IsConnected`. -/
def isConnected : Prog P Bool := do
  match ← readWebSocket with
  | none => return false
  | some sock => socketIsConnected sock

/-- `Start`: whether the connection was established.  The flag tells whether it is called by
`handleReconnection`. -/
def wsStart (reconnecting : Bool) : Prog P Bool := do
  makeReconnectC
  match ← dial with
  | none => return false
  | some sock =>
    publish sock reconnecting
    run sock
    return true

/-- `Stop`. -/
def wsStop : Prog P Unit := do
  stopBegins
  match ← readWebSocket with
  | none => pure ()
  | some sock =>
    if ← socketIsConnected sock then
      close sock
    else
      pure ()
  signalReconnect

/-- The beginning of `handleReconnection`, up to its loop. -/
def handleReconnection (owner : Owner) : Prog P (Option (Routine P)) := do
  let began ← reconnectionBegins
  return some (.reconnecting began owner)

/-- `onReconnected` of `ocppj.Client`. -/
def onReconnected : Prog P Unit := dispatcher (ClientDispatcher.resume opts.dispatcher)

/-- `onDisconnected` of `ocppj.Client`. -/
def onDisconnected : Prog P Unit := dispatcher (ClientDispatcher.pause opts.dispatcher)

/-- What follows `handleReconnection` when it returns. -/
def afterReconnection : Owner -> Prog P (Option (Routine P))
  | .handleDisconnect sock => do
      ended sock
      return none
  | .startWithRetries => do
      dispatcher ClientDispatcher.start
      returns .startWithRetries true
      return none
  | .client => return none

/-- One pass through the loop of `handleReconnection`. -/
def reconnecting (began : Nat) (owner : Owner) : Prog P (Option (Routine P)) := do
  if ← awaitRetry then
    reconnectionAborted began
    afterReconnection owner
  else if ← wsStart true then
    if ← readReconnectedHandler then
      onReconnected opts
    else
      pure ()
    notificationEnds
    afterReconnection owner
  else
    return some (.reconnecting began owner)

/-- `handleDisconnect`. -/
def handleDisconnect (sock : Nat) (forced : Bool) : Prog P (Option (Routine P)) := do
  match ← readDisconnectedHandler sock with
  | some .onDisconnected => onDisconnected opts
  | some (.cleanup stop) => sendCleanup stop
  | none => pure ()
  notificationEnds
  if forced && opts.autoReconnect then
    handleReconnection (.handleDisconnect sock)
  else
    ended sock
    return none

/-- `writePump` from its last select statement on, with `cleanup`. -/
def writePump (sock : Nat) : Prog P (Option (Routine P)) := do
  let forced ← awaitTeardown sock
  closeDone sock
  dropConnection sock
  handleDisconnect opts sock forced

/-- `StartWithRetries`, called directly. -/
def wsStartWithRetries : Prog P (Option (Routine P)) := do
  if ← wsStart false then
    return none
  else
    handleReconnection .client

def start : Prog P Unit := do
  begins .start
  setDisconnectedHandler .onDisconnected
  setReconnectedHandler
  if ← wsStart false then
    dispatcher ClientDispatcher.start
    returns .start true
  else
    returns .start false

def startWithRetries : Prog P (Option (Routine P)) := do
  begins .startWithRetries
  setDisconnectedHandler .onDisconnected
  setReconnectedHandler
  if ← wsStart false then
    dispatcher ClientDispatcher.start
    returns .startWithRetries true
    return none
  else
    handleReconnection .startWithRetries

/-- `IsRunning` of the dispatcher. -/
def isRunning : Prog P Bool := do
  operate .rlock
  let requestChannel ← operate .readRequestChannel
  operate .runlock
  return requestChannel.isSome

def stop : Prog P Unit := do
  begins .stop
  let cleanupC ← makeCleanup
  if ← isConnected then
    setDisconnectedHandler (.cleanup cleanupC)
  else
    closeCleanup cleanupC
  wsStop
  if ← isRunning then
    dispatcher ClientDispatcher.stop
  else
    pure ()
  awaitCleanup cleanupC
  returns .stop true

/-- The program of every goroutine. -/
def body : Routine P -> Prog P (Option (Routine P))
  | .start => do start; return none
  | .startWithRetries => startWithRetries
  | .stop => do stop; return none
  | .wsStart => do let _ ← wsStart false; return none
  | .wsStartWithRetries => wsStartWithRetries
  | .wsStop => do wsStop; return none
  | .writePump sock => writePump opts sock
  | .reconnecting began owner => reconnecting opts began owner
  | .dispatcher routine => do
      let onward ← dispatcher (ClientDispatcher.body opts.dispatcher routine)
      return onward.map .dispatcher

/-- The client with all its goroutines. -/
abbrev Configuration (P : Type) := Config (Op P) (Res P) (Shared P) (Routine P)

/-- Conditions on the steps of a run. -/
abbrev Condition (P : Type) := Guard (Op P) (Res P) (Shared P) (Routine P)

/-- The client. -/
def system : System (Op P) (Res P) (Shared P) Choice (Routine P) Event where
  body := body opts
  execute := execute
  enter := enter
  occur := occur

end ClientLifecycle
end OcppGo
