import OcppGo.Interleaving.System
import OcppGo.Sync.Channel
import OcppGo.Sync.RWMutex

namespace OcppGo
namespace Ws
namespace Socket

open Interleaving Sync

/-!
# The websocket wrapper

`webSocket` of `websocket.go`: one connection, the goroutines `readPump` and `writePump` that
`run` starts, the callers of `Write`, `Close`, `RemoteAddr` and `IsConnected`, and the teardown
`cleanup` at the end of the `writePump`.

The network decides what a read returns and whether a write fails.  A callback of the owner of
the socket is one operation here; the server replaces it by its handler.  What Go answers with
a panic (sending on a closed channel, closing a channel twice, calling a method of a nil
connection) is recorded as a fault; the process ends there, so what the model does after a
fault is of no interest.  Deadlines are not modelled: a read may fail at any moment.
-/

/-- `message`. -/
structure Message where
  typ : Nat
  data : List UInt8
  deriving DecidableEq

/-- `websocket.CloseError`. -/
structure CloseError where
  code : Nat
  text : String
  deriving DecidableEq

structure PingConfig where
  pingPeriod : Int
  pongWait : Int
  deriving DecidableEq

/-- The parts of `WebSocketConfig` that decide which callbacks and timers there are. -/
structure Config where
  id : String
  readWait : Int
  pingConfig : Option PingConfig
  deriving DecidableEq

/-- `newOptTicker` makes a ticker that fires. -/
def Config.ticks (config : Config) : Bool :=
  match config.pingConfig with
  | some ping => decide (0 < ping.pingPeriod)
  | none => false

/-- What Go panics about. -/
inductive Fault where
  | sendOnClosedChannel
  | closeOfClosedChannel
  | nilDereference
  deriving DecidableEq

/-- What a read on the connection comes back with.  Control frames are handed to the callbacks
from inside the read. -/
inductive Incoming where
  | message (data : List UInt8)
  | ping (appData : List UInt8)
  | pong (appData : List UInt8)
  /-- the read failed; `unexpected` is `IsUnexpectedCloseError` -/
  | failure (err : String) (unexpected : Bool)
  deriving DecidableEq

/-- What the select statement of the `writePump` received; a channel that is closed and empty
gives nothing. -/
inductive Selected where
  | tick
  | ping (data : Option (List UInt8))
  | out (msg : Option Message)
  | close (closeErr : Option CloseError)
  | forced (err : Option String)
  deriving DecidableEq

/-- An arm of a select statement. -/
inductive Arm where
  | tick
  | ping
  | out
  | close
  | forced
  | send
  | done
  deriving DecidableEq

/-- The state of the wrapper. -/
structure Shared where
  /-- `connection` is not nil -/
  connection : Bool
  mutex : RWMutex
  outQueue : Chan Message
  pingC : Chan (List UInt8)
  closeC : Chan CloseError
  forceCloseC : Chan String
  /-- `done` has been closed -/
  done : Bool
  /-- `run` has been called -/
  ran : Bool
  /-- pumps that were started and have not run yet -/
  readPump : Bool
  writePump : Bool
  faults : List Fault

/-- A socket as `newWebSocket` makes it. -/
def Shared.new : Shared where
  connection := true
  mutex := .new
  outQueue := .make 2
  pingC := .make 1
  closeC := .make 1
  forceCloseC := .make 1
  done := false
  ran := false
  readPump := false
  writePump := false
  faults := []

/-- The atomic operations.  A method of the connection is called on what was read from the
field before. -/
inductive Op where
  | rlock
  | runlock
  | lock
  | awaitReaders
  | unlock
  /-- `w.connection`, read under the lock -/
  | connection
  /-- `conn := w.connection` without the lock -/
  | snapshot
  | remoteAddr
  | setReadDeadline (conn : Bool)
  | readMessage (conn : Bool)
  | writeMessage (conn : Bool) (msg : Message)
  | sendPing (data : List UInt8)
  | sendForceClose (err : String)
  | sendOutQueue (msg : Message)
  | sendClose (closeErr : CloseError)
  | select
  | closeDone
  | closeConnection
  | clearConnection
  | closeOutQueue
  | closePingC
  | closeCloseC
  | closeForceCloseC
  | goReadPump
  | goWritePump
  | onMessage (data : List UInt8)
  | onError (err : String)
  | onClosed (err : Option String)
  deriving DecidableEq

/-- The answers of the operations. -/
abbrev Res : Op -> Type
  | .connection => Bool
  | .snapshot => Bool
  | .setReadDeadline _ => Option String
  | .readMessage _ => Incoming
  | .writeMessage _ _ => Option String
  | .sendOutQueue _ => Bool
  | .sendClose _ => Bool
  | .select => Selected
  | .closeConnection => Option String
  | .onMessage _ => Option String
  | _ => Unit

/-- What the scheduler, the network and the callbacks decide. -/
inductive Choice where
  | proceed
  | arm (arm : Arm)
  | incoming (incoming : Incoming)
  /-- the outcome of a call: an error or none -/
  | outcome (err : Option String)

/-- What a goroutine executes.  `readLoop` and `writeLoop` are one pass through the loops of
the pumps. -/
inductive Routine where
  | run
  | readPump
  | readLoop
  | writePump
  | writeLoop (conn : Bool)
  | write (msg : Message)
  | close (closeErr : CloseError)
  | remoteAddr
  | isConnected
  deriving DecidableEq

abbrev Prog := Program Op Res

def Shared.fault (s : Shared) (fault : Fault) : Shared := { s with faults := fault :: s.faults }

/-- A method of the connection; the call panics on a nil connection. -/
def Shared.dereference (s : Shared) (conn : Bool) : Shared :=
  if conn then s else s.fault .nilDereference

/-- The select statement of the `writePump`. -/
def select (config : Config) (arm : Arm) (s : Shared) : Option (Selected × Shared) :=
  match arm with
  | .tick => if config.ticks then some (.tick, s) else none
  | .ping => s.pingC.receive.map fun (data, rest) => (.ping data, { s with pingC := rest })
  | .out => s.outQueue.receive.map fun (msg, rest) => (.out msg, { s with outQueue := rest })
  | .close => s.closeC.receive.map fun (closeErr, rest) =>
    (.close closeErr, { s with closeC := rest })
  | .forced => s.forceCloseC.receive.map fun (err, rest) =>
    (.forced err, { s with forceCloseC := rest })
  | _ => none

/-- One atomic operation of a goroutine; nothing when it has to wait. -/
def execute (config : Config) (tid : Nat) (op : Op) (choice : Choice) (s : Shared) :
    Option (Res op × Shared) :=
  match op with
  | .rlock => (s.mutex.rlock tid).map fun mutex => ((), { s with mutex := mutex })
  | .runlock => some ((), { s with mutex := s.mutex.runlock tid })
  | .lock => (s.mutex.announce tid).map fun mutex => ((), { s with mutex := mutex })
  | .awaitReaders => if s.mutex.noReaders then some ((), s) else none
  | .unlock => some ((), { s with mutex := s.mutex.unlock })
  | .connection => some (s.connection, s)
  | .snapshot => some (s.connection, s)
  | .remoteAddr => some ((), s.dereference s.connection)
  | .setReadDeadline conn =>
    match choice with
    | .outcome err => some (err, s.dereference conn)
    | _ => none
  | .readMessage conn =>
    match choice with
    | .incoming incoming => some (incoming, s.dereference conn)
    | _ => none
  | .writeMessage conn _ =>
    match choice with
    | .outcome err => some (err, s.dereference conn)
    | _ => none
  | .sendPing data =>
    if s.pingC.closed then some ((), s.fault .sendOnClosedChannel)
    else if s.pingC.sendable then some ((), { s with pingC := s.pingC.send data })
    else none
  | .sendForceClose err =>
    if s.forceCloseC.closed then some ((), s.fault .sendOnClosedChannel)
    else if s.forceCloseC.sendable then
      some ((), { s with forceCloseC := s.forceCloseC.send err })
    else none
  | .sendOutQueue msg =>
    match choice with
    | .arm .send =>
      if s.outQueue.closed then some (true, s.fault .sendOnClosedChannel)
      else if s.outQueue.sendable then
        some (true, { s with outQueue := s.outQueue.send msg })
      else none
    | .arm .done => if s.done then some (false, s) else none
    | _ => none
  | .sendClose closeErr =>
    match choice with
    | .arm .send =>
      if s.closeC.closed then some (true, s.fault .sendOnClosedChannel)
      else if s.closeC.sendable then
        some (true, { s with closeC := s.closeC.send closeErr })
      else none
    | .arm .done => if s.done then some (false, s) else none
    | _ => none
  | .select =>
    match choice with
    | .arm arm => select config arm s
    | _ => none
  | .closeDone =>
    some ((), if s.done then s.fault .closeOfClosedChannel else { s with done := true })
  | .closeConnection =>
    match choice with
    | .outcome err => some (err, s.dereference s.connection)
    | _ => none
  | .clearConnection => some ((), { s with connection := false })
  | .closeOutQueue =>
    some ((), if s.outQueue.closed then s.fault .closeOfClosedChannel
      else { s with outQueue := s.outQueue.close })
  | .closePingC =>
    some ((), if s.pingC.closed then s.fault .closeOfClosedChannel
      else { s with pingC := s.pingC.close })
  | .closeCloseC =>
    some ((), if s.closeC.closed then s.fault .closeOfClosedChannel
      else { s with closeC := s.closeC.close })
  | .closeForceCloseC =>
    some ((), if s.forceCloseC.closed then s.fault .closeOfClosedChannel
      else { s with forceCloseC := s.forceCloseC.close })
  | .goReadPump => some ((), { s with readPump := true })
  | .goWritePump => some ((), { s with writePump := true })
  | .onMessage _ =>
    match choice with
    | .outcome err => some (err, s)
    | _ => none
  | .onError _ => some ((), s)
  | .onClosed _ => some ((), s)

@[simp] def rlock : Prog Unit := .act .rlock .done
@[simp] def runlock : Prog Unit := .act .runlock .done
@[simp] def unlock : Prog Unit := .act .unlock .done
@[simp] def connection : Prog Bool := .act .connection .done
@[simp] def snapshot : Prog Bool := .act .snapshot .done
@[simp] def setReadDeadline (conn : Bool) : Prog (Option String) :=
  .act (.setReadDeadline conn) .done
@[simp] def readMessage (conn : Bool) : Prog Incoming := .act (.readMessage conn) .done
@[simp] def writeMessage (conn : Bool) (msg : Message) : Prog (Option String) :=
  .act (.writeMessage conn msg) .done
@[simp] def sendPing (data : List UInt8) : Prog Unit := .act (.sendPing data) .done
@[simp] def sendForceClose (err : String) : Prog Unit := .act (.sendForceClose err) .done
@[simp] def sendOutQueue (msg : Message) : Prog Bool := .act (.sendOutQueue msg) .done
@[simp] def sendClose (closeErr : CloseError) : Prog Bool := .act (.sendClose closeErr) .done
@[simp] def selectArm : Prog Selected := .act .select .done
@[simp] def closeDone : Prog Unit := .act .closeDone .done
@[simp] def closeConnection : Prog (Option String) := .act .closeConnection .done
@[simp] def clearConnection : Prog Unit := .act .clearConnection .done
@[simp] def closeOutQueue : Prog Unit := .act .closeOutQueue .done
@[simp] def closePingC : Prog Unit := .act .closePingC .done
@[simp] def closeCloseC : Prog Unit := .act .closeCloseC .done
@[simp] def closeForceCloseC : Prog Unit := .act .closeForceCloseC .done
@[simp] def goReadPump : Prog Unit := .act .goReadPump .done
@[simp] def goWritePump : Prog Unit := .act .goWritePump .done
@[simp] def onMessage (data : List UInt8) : Prog (Option String) := .act (.onMessage data) .done
@[simp] def onError (err : String) : Prog Unit := .act (.onError err) .done
@[simp] def onClosed (err : Option String) : Prog Unit := .act (.onClosed err) .done

/-- `w.mutex.Lock()`. -/
def lock : Prog Unit := do
  .act .lock .done
  .act .awaitReaders .done

variable (config : Config)

/-! ## The functions of the wrapper -/

def run : Prog Unit := do
  goReadPump
  goWritePump

def remoteAddr : Prog Unit := .act .remoteAddr .done

def isConnected : Prog Bool := do
  rlock
  let connected ← connection
  runlock
  return connected

/-- `WriteManual`: the error, if any. -/
def writeManual (msg : Message) : Prog (Option String) := do
  rlock
  if ← connection then
    if ← sendOutQueue msg then
      runlock
      return none
    else
      runlock
      return some ("cannot write to closing connection " ++ config.id)
  else
    runlock
    return some ("cannot write to closed connection " ++ config.id)

/-- `Close`: the error, if any. -/
def close (closeErr : CloseError) : Prog (Option String) := do
  rlock
  if ← connection then
    if ← sendClose closeErr then
      runlock
      return none
    else
      runlock
      return some ("cannot close already closing connection " ++ config.id)
  else
    runlock
    return some ("cannot close already closed connection " ++ config.id)

/-- `getReadTimeout` reads the configuration under the read lock. -/
def getReadTimeout : Prog Unit := do
  rlock
  runlock

def onPing (appData : List UInt8) : Prog (Option String) := do
  let conn ← snapshot
  sendPing appData
  getReadTimeout
  setReadDeadline conn

def onPong : Prog (Option String) := do
  let conn ← snapshot
  getReadTimeout
  setReadDeadline conn

def cleanup (err : Option String) : Prog Unit := do
  closeDone
  lock
  let _ ← closeConnection
  clearConnection
  closeOutQueue
  closePingC
  closeCloseC
  closeForceCloseC
  unlock
  onClosed err

/-- The end of the `readPump` when a read has failed. -/
def readFailed (err : String) (unexpected : Bool) : Prog (Option Routine) := do
  if unexpected then
    onError ("read failed unexpectedly for " ++ config.id ++ ": " ++ err)
  else
    pure ()
  rlock
  if ← connection then
    sendForceClose err
    runlock
    return none
  else
    runlock
    return none

/-- The start of the `readPump`. -/
def readPump : Prog (Option Routine) := do
  rlock
  let conn ← connection
  runlock
  if conn then
    getReadTimeout
    let _ ← setReadDeadline conn
    return some .readLoop
  else
    onError ("readPump started for " ++ config.id ++ " with nil connection")
    return none

/-- One frame of the `readPump`, with the callbacks for control frames that `initPingPong` has
installed.  An error of a callback is the error of the read. -/
def readLoop : Prog (Option Routine) := do
  match ← readMessage true with
  | .failure err unexpected => readFailed config err unexpected
  | .ping appData =>
    if 0 < config.readWait then
      match ← onPing appData with
      | some err => readFailed config err false
      | none => return some .readLoop
    else
      return some .readLoop
  | .pong _ =>
    if config.pingConfig.isSome then
      match ← onPong with
      | some err => readFailed config err false
      | none => return some .readLoop
    else
      return some .readLoop
  | .message data =>
    match ← onMessage data with
    | some err => onError err
    | none => pure ()
    getReadTimeout
    let _ ← setReadDeadline true
    return some .readLoop

/-- The start of the `writePump`. -/
def writePump : Prog (Option Routine) := do
  rlock
  let conn ← connection
  runlock
  return some (.writeLoop conn)

/-- A write of the pump; a failure ends the pump. -/
def transmit (conn : Bool) (msg : Message) (failure : String) : Prog (Option Routine) := do
  match ← writeMessage conn msg with
  | some err =>
    onError (failure ++ config.id ++ ": " ++ err)
    cleanup (some err)
    return none
  | none => return some (.writeLoop conn)

/-- `websocket.FormatCloseMessage`; the code 1005 stands for no status. -/
def formatCloseMessage (closeErr : CloseError) : List UInt8 :=
  if closeErr.code = 1005 then []
  else [UInt8.ofNat (closeErr.code / 256), UInt8.ofNat closeErr.code] ++ closeErr.text.toUTF8.toList

/-- One pass of the `writePump`. -/
def writeLoop (conn : Bool) : Prog (Option Routine) := do
  match ← selectArm with
  | .tick => transmit config conn ⟨9, []⟩ "failed to send ping message for "
  | .ping data => transmit config conn ⟨10, data.getD []⟩ "failed to send pong message "
  | .out none =>
    onError ("output queue for socket " ++ config.id ++ " was closed, ignoring and existing")
    return none
  | .out (some msg) => transmit config conn msg "write failed for "
  | .close closeErr =>
    match ← writeMessage conn ⟨8, formatCloseMessage (closeErr.getD ⟨0, ""⟩)⟩ with
    | some err =>
      onError ("failed to write close message for connection " ++ config.id ++ ": " ++ err)
    | none => pure ()
    cleanup none
    return none
  | .forced err =>
    cleanup (some (err.getD "websocket read channel closed abruptly"))
    return none

/-- The program of every goroutine. -/
def body : Routine -> Prog (Option Routine)
  | .run => do run; return none
  | .readPump => readPump config
  | .readLoop => readLoop config
  | .writePump => writePump
  | .writeLoop conn => writeLoop config conn
  | .write msg => do let _ ← writeManual config msg; return none
  | .close closeErr => do let _ ← close config closeErr; return none
  | .remoteAddr => do remoteAddr; return none
  | .isConnected => do let _ ← isConnected; return none

/-- A new goroutine.  `run` is called once, by whoever made the socket; the pumps run when they
have been started. -/
def enter (routine : Routine) (s : Shared) : Option Shared :=
  match routine with
  | .run => if s.ran then none else some { s with ran := true }
  | .readPump => if s.readPump then some { s with readPump := false } else none
  | .writePump => if s.writePump then some { s with writePump := false } else none
  | .readLoop => none
  | .writeLoop _ => none
  | _ => some s

/-- The wrapper with its goroutines and callers. -/
def system : System Op Res Shared Choice Routine Empty where
  body := body config
  execute := execute config
  enter := enter
  occur := fun event _ => event.elim

abbrev Configuration := Interleaving.Config Op Res Shared Routine

abbrev Condition := Guard Op Res Shared Routine

end Socket
end Ws
end OcppGo
