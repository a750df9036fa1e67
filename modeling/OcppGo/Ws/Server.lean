import Mathlib.Data.List.AList
import OcppGo.Interleaving.Embedding
import OcppGo.Ws.Socket

namespace OcppGo
namespace Ws
namespace Server

open Function Interleaving Sync

/-!
# The websocket server

`server.go`: the upgrade handler, the registration of sockets under their identifiers with the
transition gate, the callbacks of the sockets into the server, and the shutdown.

A section of code between taking and releasing `connMutex` that does not wait for anything is one
operation; it can be performed when nobody holds the mutex.  Only `stopConnections` holds it
across operations that wait.  Logging, listening and the HTTP server itself are left out, except
that `Shutdown` makes the HTTP server start `stopConnections` on a goroutine of its own.
-/

/-- `DuplicateConnectionPolicy`. -/
inductive DuplicateConnectionPolicy where
  | keepCurrent
  | keepNew
  deriving DecidableEq

/-- What is configured before the server is started. -/
structure Settings where
  duplicatePolicy : DuplicateConnectionPolicy
  readWait : Int
  pingConfig : Option Socket.PingConfig
  subprotocols : List String
  basicAuthHandler : Option (String -> String -> Bool)
  checkClientHandler : Option (String -> Bool)
  newClientHandler : Bool
  disconnectedHandler : Bool
  messageHandler : Bool

/-- The parts of an upgrade request that are looked at. -/
structure Request where
  /-- what `chargePointIdResolver` makes of it -/
  id : Option String
  remoteAddr : String
  subprotocols : List String
  basicAuth : Option (String × String)
  deriving DecidableEq

/-- The configuration of a socket. -/
def Settings.config (opts : Settings) (id : String) : Socket.Config :=
  ⟨id, opts.readWait, opts.pingConfig⟩

/-- How far a socket has come, as far as the server knows. -/
inductive Status where
  | fresh
  | registered
  /-- taken out of `connections`; its disconnect callback has not returned -/
  | removed
  | ret
  deriving DecidableEq

/-- What the server has delivered. -/
inductive Notice where
  | connected (sock : Nat)
  | message (sock : Nat)
  | disconnected (sock : Nat)
  deriving DecidableEq

/-- What happened so far.  Nothing in the code depends on it. -/
structure History where
  status : Nat -> Status
  /-- the notices in the order of their delivery, the latest first -/
  notices : List Notice
  /-- the goroutines with an open transition, and the identifier it is about -/
  transitions : List (Nat × String)

structure Shared where
  connections : AList (fun _ : String => Nat)
  gate : AList (fun _ : String => Int)
  stopped : Bool
  errC : Chan String
  /-- the goroutine that holds `connMutex` across operations -/
  connMutex : Option Nat
  sockets : Nat -> Socket.Shared
  ids : Nat -> String
  made : Nat
  /-- the sockets whose `teardownDone` has been closed -/
  teardownDone : Nat -> Bool
  /-- how often `stopConnections` has been registered with the HTTP server -/
  hooks : Nat
  /-- goroutines of `stopConnections` that were started and have not run yet -/
  stopping : Nat
  hist : History

/-- How the first section of `registerNewConnection` ends. -/
inductive Verdict where
  | stopping
  | transition
  | accepted
  | duplicate
  | evict (old : Nat)
  deriving DecidableEq

/-- The atomic operations. -/
inductive Op where
  | error (err : String)
  | upgrade
  | newWebSocket (id : String)
  | register (sock : Nat) (id : String)
  | registerAgain (sock : Nat) (id : String)
  | decrementGate (id : String)
  | awaitTeardown (old : Nat)
  | rejectConnection (sock code : Nat) (reason : String)
  | newClientHandler (sock : Nat)
  | isCurrent (sock : Nat) (id : String)
  | messageHandler (sock : Nat) (data : List UInt8)
  | remove (sock : Nat) (id : String)
  | superseded (id : String)
  | disconnectedHandler (sock : Nat)
  | handlerReturned (sock : Nat)
  | closeTeardown (sock : Nat)
  | lookup (id : String)
  | lockAll
  | unlockAll
  | reset
  | registerOnShutdown
  | readHttpServer
  | httpShutdown
  | closeErrC
  | sock (sock : Nat) (op : Socket.Op)

/-- The answers of the operations. -/
abbrev Res : Op -> Type
  | .upgrade => Option String
  | .newWebSocket _ => Nat
  | .register _ _ => Verdict
  | .registerAgain _ _ => Verdict
  | .awaitTeardown _ => Bool
  | .isCurrent _ _ => Bool
  | .messageHandler _ _ => Option String
  | .remove _ _ => Bool
  | .superseded _ => Bool
  | .lookup _ => Option Nat
  | .lockAll => List (Sigma fun _ : String => Nat)
  | .httpShutdown => Option String
  | .sock _ op => Socket.Res op
  | _ => Unit

/-- What the scheduler, the network, the handlers and the iteration over a map decide. -/
inductive Choice where
  | proceed
  | torn
  | elapsed
  /-- the outcome of a call: an error or none -/
  | outcome (err : Option String)
  | order (sockets : List (Sigma fun _ : String => Nat))
  | sock (choice : Socket.Choice)

/-- What a goroutine executes.  The goroutines and callers of a socket run inside the server. -/
inductive Routine where
  | start
  | shutdown
  | stopConnections
  | stopConnection (id : String) (closeErr : Socket.CloseError)
  | write (id : String) (data : List UInt8)
  | wsHandler (request : Request)
  | sock (sock : Nat) (id : String) (routine : Socket.Routine)

/-- The user takes an error out of the channel. -/
inductive Event where
  | receiveError
  deriving DecidableEq

abbrev Prog := Program Op Res

/-! ## The effect of the operations -/

/-- A server as `NewServer` makes it. -/
def Shared.new : Shared where
  connections := ∅
  gate := ∅
  stopped := false
  errC := .make 1
  connMutex := none
  sockets := fun _ => .new
  ids := fun _ => ""
  made := 0
  teardownDone := fun _ => false
  hooks := 0
  stopping := 0
  hist := ⟨fun _ => .fresh, [], []⟩

/-- A missing entry of the gate reads as zero. -/
def Shared.gateOf (s : Shared) (id : String) : Int := (s.gate.lookup id).getD 0

/-- `s.gate[id]++`, the beginning of a transition. -/
def Shared.openGate (s : Shared) (tid : Nat) (id : String) : Shared :=
  { s with
    gate := s.gate.insert id (s.gateOf id + 1)
    hist := { s.hist with transitions := (tid, id) :: s.hist.transitions } }

/-- The body of `decrementGate`, the end of a transition. -/
def Shared.closeGate (s : Shared) (tid : Nat) (id : String) : Shared :=
  { s with
    gate := if s.gateOf id - 1 ≤ 0 then s.gate.erase id else s.gate.insert id (s.gateOf id - 1)
    hist := { s.hist with transitions := s.hist.transitions.erase (tid, id) } }

def Shared.setStatus (s : Shared) (sock : Nat) (status : Status) : Shared :=
  { s with hist := { s.hist with status := update s.hist.status sock status } }

def Shared.notify (s : Shared) (notice : Notice) : Shared :=
  { s with hist := { s.hist with notices := notice :: s.hist.notices } }

/-- `s.connections[id] = ws`. -/
def Shared.enroll (s : Shared) (sock : Nat) (id : String) : Shared :=
  { s with connections := s.connections.insert id sock }.setStatus sock .registered

/-- The first section of `registerNewConnection`. -/
def Shared.register (opts : Settings) (s : Shared) (tid sock : Nat) (id : String) :
    Verdict × Shared :=
  if s.stopped then (.stopping, s)
  else if 0 < s.gateOf id then (.transition, s)
  else
    match s.connections.lookup id with
    | none => (.accepted, s.enroll sock id)
    | some old =>
      match opts.duplicatePolicy with
      | .keepCurrent => (.duplicate, s)
      | .keepNew => (.evict old, s.openGate tid id)

/-- The second section, after the eviction. -/
def Shared.registerAgain (s : Shared) (sock : Nat) (id : String) : Verdict × Shared :=
  if s.stopped then (.stopping, s)
  else
    match s.connections.lookup id with
    | some _ => (.duplicate, s)
    | none => (.accepted, s.enroll sock id)

/-- The first section of `handleDisconnect`: whether the socket was the current one. -/
def Shared.remove (s : Shared) (tid sock : Nat) (id : String) : Bool × Shared :=
  if s.connections.lookup id = some sock then
    (true, { (s.openGate tid id) with connections := s.connections.erase id }.setStatus sock
      .removed)
  else (false, s.openGate tid id)

/-- One atomic operation of a goroutine; nothing when it has to wait. -/
def execute (opts : Settings) (tid : Nat) (op : Op) (choice : Choice) (s : Shared) :
    Option (Res op × Shared) :=
  match op with
  | .error err =>
    if s.connMutex.isSome then none
    else some ((), if s.errC.closed then s
      else if s.errC.sendable then { s with errC := s.errC.send err }
      else s)
  | .upgrade =>
    match choice with
    | .outcome err => some (err, s)
    | _ => none
  | .newWebSocket id => some (s.made, { s with
      sockets := update s.sockets s.made .new
      ids := update s.ids s.made id
      made := s.made + 1 })
  | .register sock id =>
    if s.connMutex.isSome then none else some (s.register opts tid sock id)
  | .registerAgain sock id =>
    if s.connMutex.isSome then none else some (s.registerAgain sock id)
  | .decrementGate id =>
    if s.connMutex.isSome then none else some ((), s.closeGate tid id)
  | .awaitTeardown old =>
    match choice with
    | .torn => if s.teardownDone old then some (true, s) else none
    | .elapsed => some (false, s)
    | _ => none
  | .rejectConnection _ _ _ => some ((), s)
  | .newClientHandler sock => some ((), s.notify (.connected sock))
  | .isCurrent sock id =>
    if s.connMutex.isSome then none
    else some (decide (s.connections.lookup id = some sock), s)
  | .messageHandler sock _ =>
    match choice with
    | .outcome err => some (err, s.notify (.message sock))
    | _ => none
  | .remove sock id =>
    if s.connMutex.isSome then none else some (s.remove tid sock id)
  | .superseded id =>
    if s.connMutex.isSome then none else some ((s.connections.lookup id).isSome, s)
  | .disconnectedHandler sock => some ((), s.notify (.disconnected sock))
  | .handlerReturned sock => some ((), s.setStatus sock .ret)
  | .closeTeardown sock => some ((), { s with
      teardownDone := update s.teardownDone sock true })
  | .lookup id => if s.connMutex.isSome then none else some (s.connections.lookup id, s)
  | .lockAll =>
    -- the range over the map, in an order nobody knows, is fixed when the lock is taken
    match choice with
    | .order sockets =>
      if s.connMutex.isSome then none
      else if sockets.Perm s.connections.entries then
        some (sockets, { s with connMutex := some tid, stopped := true })
      else none
    | _ => none
  | .unlockAll => some ((), { s with connMutex := none })
  | .reset =>
    if s.connMutex.isSome then none
    else some ((), { s with connections := ∅, gate := ∅, stopped := false })
  | .registerOnShutdown => some ((), { s with hooks := s.hooks + 1 })
  | .readHttpServer => if s.connMutex.isSome then none else some ((), s)
  | .httpShutdown =>
    match choice with
    | .outcome err => some (err, { s with stopping := s.stopping + s.hooks })
    | _ => none
  | .closeErrC =>
    if s.connMutex.isSome then none
    else some ((), if s.errC.closed then s else { s with errC := s.errC.close })
  | .sock sock op =>
    match choice with
    | .sock choice =>
      (Socket.execute (opts.config (s.ids sock)) tid op choice
        (s.sockets sock)).map fun (ans, after) =>
          (ans, { s with sockets := update s.sockets sock after })
    | _ => none

@[simp] def error (err : String) : Prog Unit := .act (.error err) .done
@[simp] def upgrade : Prog (Option String) := .act .upgrade .done
@[simp] def newWebSocket (id : String) : Prog Nat := .act (.newWebSocket id) .done
@[simp] def register (sock : Nat) (id : String) : Prog Verdict :=
  .act (.register sock id) .done
@[simp] def registerAgain (sock : Nat) (id : String) : Prog Verdict :=
  .act (.registerAgain sock id) .done
@[simp] def decrementGate (id : String) : Prog Unit := .act (.decrementGate id) .done
@[simp] def awaitTeardown (old : Nat) : Prog Bool := .act (.awaitTeardown old) .done
@[simp] def rejectConnection (sock code : Nat) (reason : String) : Prog Unit :=
  .act (.rejectConnection sock code reason) .done
@[simp] def newClientHandler (sock : Nat) : Prog Unit :=
  .act (.newClientHandler sock) .done
@[simp] def isCurrent (sock : Nat) (id : String) : Prog Bool :=
  .act (.isCurrent sock id) .done
@[simp] def messageHandler (sock : Nat) (data : List UInt8) : Prog (Option String) :=
  .act (.messageHandler sock data) .done
@[simp] def remove (sock : Nat) (id : String) : Prog Bool := .act (.remove sock id) .done
@[simp] def superseded (id : String) : Prog Bool := .act (.superseded id) .done
@[simp] def disconnectedHandler (sock : Nat) : Prog Unit :=
  .act (.disconnectedHandler sock) .done
@[simp] def handlerReturned (sock : Nat) : Prog Unit := .act (.handlerReturned sock) .done
@[simp] def closeTeardown (sock : Nat) : Prog Unit := .act (.closeTeardown sock) .done
@[simp] def lookup (id : String) : Prog (Option Nat) := .act (.lookup id) .done
@[simp] def lockAll : Prog (List (Sigma fun _ : String => Nat)) := .act .lockAll .done
@[simp] def unlockAll : Prog Unit := .act .unlockAll .done
@[simp] def reset : Prog Unit := .act .reset .done
@[simp] def registerOnShutdown : Prog Unit := .act .registerOnShutdown .done
@[simp] def readHttpServer : Prog Unit := .act .readHttpServer .done
@[simp] def httpShutdown : Prog (Option String) := .act .httpShutdown .done
@[simp] def closeErrC : Prog Unit := .act .closeErrC .done

variable (opts : Settings)

def handleMessage (sock : Nat) (id : String) (data : List UInt8) : Prog (Option String) := do
  if ← isCurrent sock id then
    if opts.messageHandler then
      messageHandler sock data
    else
      return some "no message handler set"
  else
    return none

/-- `handleDisconnect`.  The deferred calls run at every return, the gate first. -/
def handleDisconnect (sock : Nat) (id : String) : Prog Unit := do
  if ← remove sock id then
    if ← superseded id then
      decrementGate id
      closeTeardown sock
    else
      if opts.disconnectedHandler then
        disconnectedHandler sock
      else
        pure ()
      handlerReturned sock
      decrementGate id
      closeTeardown sock
  else
    decrementGate id
    closeTeardown sock

/-- An operation of a socket inside the server; its callbacks are the server's functions. -/
def handle (sock : Nat) (id : String) : (op : Socket.Op) -> Prog (Socket.Res op)
  | .onMessage data => handleMessage opts sock id data
  | .onError err => error err
  | .onClosed _ => handleDisconnect opts sock id
  | op => .act (.sock sock op) .done

/-- A function of a socket inside the server. -/
def inSocket {α : Type} (sock : Nat) (id : String) (prog : Socket.Prog α) : Prog α :=
  prog.interpret (handle opts sock id)

/-- The end of a registration that failed. -/
def refused (sock : Nat) (err reason : String) : Prog Bool := do
  error err
  rejectConnection sock 1008 reason
  return false

/-- `registerNewConnection`. -/
def registerNewConnection (sock : Nat) (id : String) : Prog Bool := do
  match ← register sock id with
  | .stopping =>
    refused sock ("server is stopping, closing new client " ++ id) "server shutting down"
  | .transition =>
    refused sock
      ("client " ++ id ++ " connection transition in progress, closing duplicate client")
      "connection transition in progress"
  | .accepted => return true
  | .duplicate =>
    refused sock ("client " ++ id ++ " already exists, closing duplicate client")
      "a connection with this ID already exists"
  | .evict old =>
    let _ ← inSocket opts old id (Socket.close (opts.config id) ⟨1008, "reconnected"⟩)
    let registered ← (do
      if ← awaitTeardown old then
        match ← registerAgain sock id with
        | .stopping =>
          refused sock ("server is stopping, closing replacement client " ++ id)
            "server shutting down"
        | .accepted => return true
        | _ =>
          refused sock
            ("client " ++ id ++ " still exists after duplicate eviction, closing replacement")
            "a connection with this ID already exists"
      else
        refused sock
          ("timed out waiting for old duplicate connection " ++ id ++ " to tear down")
          "timed out waiting for old connection teardown")
    decrementGate id
    return registered

/-- The subprotocol that the server and the client agree on; empty when there is none. -/
def negotiate (opts : Settings) (request : Request) : String :=
  if opts.subprotocols.isEmpty then request.subprotocols.head?.getD ""
  else (request.subprotocols.find? (fun requested => opts.subprotocols.contains requested)).getD ""

/-- The credentials are accepted, or none are asked for. -/
def authorized (opts : Settings) (request : Request) : Bool :=
  match opts.basicAuthHandler with
  | none => true
  | some handler =>
    match request.basicAuth with
    | none => false
    | some (username, password) => handler username password

/-- The client is accepted, or it is not checked. -/
def checked (opts : Settings) (id : String) : Bool :=
  match opts.checkClientHandler with
  | none => true
  | some handler => handler id

/-- `wsHandler` from the new socket on. -/
def connect (id : String) : Prog Unit := do
  let sock ← newWebSocket id
  if ← registerNewConnection opts sock id then
    inSocket opts sock id Socket.run
    if opts.newClientHandler then
      newClientHandler sock
    else
      return ()
  else
    return ()

/-- `wsHandler`. -/
def wsHandler (request : Request) : Prog Unit := do
  match request.id with
  | none => error "failed to resolve charge point id"
  | some id =>
    if authorized opts request then
      if checked opts id then
        match ← upgrade with
        | some err => error ("upgrade failed: " ++ err)
        | none =>
          if negotiate opts request = "" then
            error ("unsupported subprotocols [" ++ " ".intercalate request.subprotocols ++
              "] for new client " ++ id ++ " (" ++ request.remoteAddr ++ ")")
          else
            connect opts id
      else
        error "client validation: invalid client"
    else
      error "basic auth failed: credentials invalid"

/-- `Start`, up to the loop of the HTTP server. -/
def start : Prog Unit := do
  reset
  registerOnShutdown

/-- `Close` for one connection after the other. -/
def closeAll : List (Sigma fun _ : String => Nat) -> Prog Unit
  | [] => return ()
  | entry :: rest => do
      let _ ← inSocket opts entry.2 entry.1 (Socket.close (opts.config entry.1) ⟨1000, ""⟩)
      closeAll rest

/-- `stopConnections`. -/
def stopConnections : Prog Unit := do
  let sockets ← lockAll
  closeAll opts sockets
  unlockAll

/-- `Shutdown`; the error, if any. -/
def shutdown : Prog (Option String) := do
  readHttpServer
  let err ← httpShutdown
  match err with
  | some text => error ("shutdown failed: " ++ text)
  | none => pure ()
  closeErrC
  return err

/-- `StopConnection`; the error, if any. -/
def stopConnection (id : String) (closeErr : Socket.CloseError) : Prog (Option String) := do
  match ← lookup id with
  | none =>
    return some ("couldn't stop websocket connection. No connection with id " ++ id ++ " is open")
  | some sock => inSocket opts sock id (Socket.close (opts.config id) closeErr)

/-- `Write`; the error, if any. -/
def write (id : String) (data : List UInt8) : Prog (Option String) := do
  match ← lookup id with
  | none => return some ("couldn't write to websocket. No socket with id " ++ id ++ " is open")
  | some sock => inSocket opts sock id (Socket.writeManual (opts.config id) ⟨1, data⟩)

/-- The program of every goroutine. -/
def body : Routine -> Prog (Option Routine)
  | .start => do start; return none
  | .shutdown => do let _ ← shutdown; return none
  | .stopConnections => do stopConnections opts; return none
  | .stopConnection id closeErr => do let _ ← stopConnection opts id closeErr; return none
  | .write id data => do let _ ← write opts id data; return none
  | .wsHandler request => do wsHandler opts request; return none
  | .sock sock id routine => do
      let onward ← inSocket opts sock id (Socket.body (opts.config id) routine)
      return onward.map (Routine.sock sock id)

/-- A new goroutine.  The goroutines of a socket run when they have been started; whoever has the
channel of a socket may ask for its address or whether it is connected. -/
def enter (routine : Routine) (s : Shared) : Option Shared :=
  match routine with
  | .stopConnections =>
    if 0 < s.stopping then some { s with stopping := s.stopping - 1 } else none
  | .sock sock id routine =>
    if s.ids sock = id ∧ sock < s.made then
      match routine with
      | .run | .write _ | .close _ => none
      | routine => (Socket.enter routine (s.sockets sock)).map fun after =>
        { s with sockets := update s.sockets sock after }
    else none
  | _ => some s

def occur (event : Event) (s : Shared) : Option Shared :=
  match event with
  | .receiveError =>
    match s.errC.receive with
    | some (_, rest) => some { s with errC := rest }
    | none => none

abbrev Configuration := Config Op Res Shared Routine

abbrev Condition := Guard Op Res Shared Routine

/-- The server with its sockets. -/
def system : System Op Res Shared Choice Routine Event where
  body := body opts
  execute := execute opts
  enter := enter
  occur := occur

end Server
end Ws
end OcppGo
