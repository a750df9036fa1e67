import OcppGo.ClientDispatcher.Code
import OcppGo.Interleaving.Embedding

namespace OcppGo
namespace ClientLifecycle

open Function Interleaving Ocppj

/-!
# The client and its connection

`ocppj.Client` over the websocket `client` of package `ws`: `Start`, `StartWithRetries` and
`Stop` of both, the loss of a connection, the automatic reconnection, and the notifications that
pause and resume the dispatcher.  The dispatcher is the one of `ClientDispatcher`, with its pump,
its senders and the handling of answers; its functions are called here as programs.

A connection is numbered when it is dialled.  Its `writePump` is modelled from the moment its
select statement ends the connection: gracefully, once it has received a close command, or
forcefully, which a failing read, write or ping may cause at any time.  Frames, pings, the error
channel and the waiting times of the back-off are left out; a waiting time may pass at any moment.
-/

/-- What is configured before the client is started. -/
structure Settings where
  dispatcher : ClientDispatcher.Settings
  autoReconnect : Bool

/-- What the websocket client calls when a connection is lost. -/
inductive Handler where
  /-- `onDisconnected` of `ocppj.Client` -/
  | onDisconnected
  /-- the handler that `Stop` installs; its channel is named after the goroutine of the call -/
  | cleanup (stop : Nat)
  deriving DecidableEq

/-- A `webSocket`. -/
structure Socket where
  /-- the connection is not nil -/
  connection : Bool
  /-- a close command is in the buffer of `closeC` -/
  closeC : Bool
  /-- `done` has been closed -/
  done : Bool
  deriving DecidableEq

/-- `cleanupC`, a channel with a buffer of one. -/
structure CleanupChannel where
  token : Bool
  closed : Bool
  deriving DecidableEq

/-- The calls of `ocppj.Client`. -/
inductive CallKind where
  | start
  | startWithRetries
  | stop
  deriving DecidableEq

/-- Who runs `handleReconnection` and goes on when it returns. -/
inductive Owner where
  /-- `handleDisconnect`, on the goroutine of the connection that was lost -/
  | handleDisconnect (sock : Nat)
  /-- `StartWithRetries` of `ocppj.Client` -/
  | startWithRetries
  /-- `StartWithRetries` of the websocket client, called directly -/
  | client
  deriving DecidableEq

/-- What happened so far.  Nothing in the code depends on it. -/
structure History where
  /-- goroutines inside a call of `ocppj.Client` -/
  calls : List Nat
  /-- a start has succeeded and `Stop` was not called since -/
  started : Bool
  /-- `Stop` was called and no start has begun since -/
  stopCalled : Bool
  /-- `Stop` has returned and no start has begun since -/
  stopped : Bool
  /-- number of calls of the websocket client's `Stop` -/
  stopCalls : Nat
  /-- goroutines inside the websocket client's `Stop` that have not signalled yet -/
  signalling : List Nat
  /-- goroutines inside `handleReconnection` that have not reconnected yet -/
  runs : List Nat
  /-- the runs of `handleReconnection` that were aborted: how often `Stop` had been called when
  the run began, and when it was aborted -/
  aborted : List (Nat × Nat)
  /-- goroutines with a notification that is due or being processed -/
  notifying : List Nat
  /-- connections whose teardown has picked the handler to call -/
  notified : List Nat
  /-- connections whose goroutine has ended, with the reconnection it ran -/
  ended : List Nat

/-- The state of the client. -/
structure Shared (P : Type) where
  dispatcher : ClientDispatcher.Shared P
  onDisconnected : Option Handler
  /-- `onReconnected` of `ocppj.Client` is set -/
  onReconnected : Bool
  webSocket : Option Nat
  sockets : Nat -> Socket
  made : Nat
  /-- connections whose goroutines have been started and have not run yet -/
  launched : List Nat
  /-- `reconnectC`, once it has been made: whether an abort token is in its buffer -/
  reconnectC : Option Bool
  cleanupC : Nat -> CleanupChannel
  hist : History

/-- The atomic operations. -/
inductive Op (P : Type) where
  | dispatcher (op : ClientDispatcher.Op P)
  | begins (call : CallKind)
  | returns (call : CallKind) (success : Bool)
  | setDisconnectedHandler (handler : Handler)
  | setReconnectedHandler
  | readWebSocket
  | isConnected (sock : Nat)
  | makeReconnectC
  | dial
  | publish (sock : Nat) (reconnecting : Bool)
  | run (sock : Nat)
  | close (sock : Nat)
  | stopBegins
  | signalReconnect
  | awaitTeardown (sock : Nat)
  | closeDone (sock : Nat)
  | dropConnection (sock : Nat)
  | readDisconnectedHandler (sock : Nat)
  | readReconnectedHandler
  | notificationEnds
  | reconnectionBegins
  | awaitRetry
  | reconnectionAborted (began : Nat)
  | ended (sock : Nat)
  | makeCleanup
  | closeCleanup (stop : Nat)
  | sendCleanup (stop : Nat)
  | awaitCleanup (stop : Nat)

/-- The answers of the operations. -/
abbrev Res (P : Type) : Op P -> Type
  | .dispatcher op => ClientDispatcher.Res P op
  | .readWebSocket => Option Nat
  | .isConnected _ => Bool
  | .dial => Option Nat
  | .awaitTeardown _ => Bool
  | .readDisconnectedHandler _ => Option Handler
  | .readReconnectedHandler => Bool
  | .reconnectionBegins => Nat
  | .awaitRetry => Bool
  | .makeCleanup => Nat
  | _ => Unit

/-- What the scheduler and the network decide. -/
inductive Choice where
  | proceed
  | dispatcher (choice : ClientDispatcher.Choice)
  | dial (success : Bool)
  | teardown (forced : Bool)
  | retry (aborted : Bool)
  /-- the arm of a closing connection -/
  | closing
  deriving DecidableEq

/-- What a goroutine executes.  `reconnecting` is one pass through the loop of
`handleReconnection`. -/
inductive Routine (P : Type) where
  | start
  | startWithRetries
  | stop
  | wsStart
  | wsStartWithRetries
  | wsStop
  | writePump (sock : Nat)
  | reconnecting (began : Nat) (owner : Owner)
  | dispatcher (routine : ClientDispatcher.Routine P)

/-- Events of the environment. -/
abbrev Event := ClientDispatcher.Event

abbrev Prog (P : Type) := Program (Op P) (Res P)

variable {P : Type}

/-! ## The effect of the operations -/

def History.initial : History where
  calls := []
  started := false
  stopCalled := false
  stopped := false
  stopCalls := 0
  signalling := []
  runs := []
  aborted := []
  notifying := []
  notified := []
  ended := []

/-- A client as `NewClient` makes it. -/
def Shared.initial (capacity : Nat) : Shared P where
  dispatcher := .initial capacity
  onDisconnected := none
  onReconnected := false
  webSocket := none
  sockets := fun _ => ⟨false, false, false⟩
  made := 0
  launched := []
  reconnectC := some false
  cleanupC := fun _ => ⟨false, false⟩
  hist := .initial

/-- A call of `ocppj.Client` begins. -/
def History.begins (hist : History) (tid : Nat) : CallKind -> History
  | .stop => { hist with
      calls := tid :: hist.calls
      started := false
      stopCalled := true }
  | _ => { hist with
      calls := tid :: hist.calls
      stopCalled := false
      stopped := false }

/-- A call of `ocppj.Client` returns. -/
def History.returns (hist : History) (tid : Nat) (success : Bool) : CallKind -> History
  | .stop => { hist with calls := hist.calls.erase tid, stopped := true }
  | _ => { hist with
      calls := hist.calls.erase tid
      started := hist.started || success }

/-- The waiting end of `ws.Close`: the command is buffered, or the connection is closing. -/
def Socket.close (sock : Socket) (choice : Choice) : Option Socket :=
  match choice with
  | .closing => if sock.done then some sock else none
  | _ => if sock.closeC then none else some { sock with closeC := true }

/-- One atomic operation of a goroutine; nothing when it has to wait. -/
def execute (tid : Nat) (op : Op P) (choice : Choice) (s : Shared P) :
    Option (Res P op × Shared P) :=
  match op with
  | .dispatcher inner =>
    match choice with
    | .dispatcher choice =>
      (ClientDispatcher.execute tid inner choice s.dispatcher).map fun (ans, dispatcher) =>
        (ans, { s with dispatcher := dispatcher })
    | _ => none
  | .begins call => some ((), { s with hist := s.hist.begins tid call })
  | .returns call success => some ((), { s with hist := s.hist.returns tid success call })
  | .setDisconnectedHandler handler => some ((), { s with onDisconnected := some handler })
  | .setReconnectedHandler => some ((), { s with onReconnected := true })
  | .readWebSocket => some (s.webSocket, s)
  | .isConnected sock => some ((s.sockets sock).connection, s)
  | .makeReconnectC => some ((), { s with reconnectC := some (s.reconnectC.getD false) })
  | .dial =>
    match choice with
    | .dial true => some (some s.made, { s with
        sockets := update s.sockets s.made ⟨true, false, false⟩
        made := s.made + 1 })
    | .dial false => some (none, s)
    | _ => none
  | .publish sock reconnecting => some ((), { s with
      webSocket := some sock
      hist := if reconnecting then
          { s.hist with notifying := tid :: s.hist.notifying }
        else s.hist })
  | .run sock => some ((), { s with
      launched := sock :: s.launched
      hist := { s.hist with runs := s.hist.runs.erase tid } })
  | .close sock =>
    -- an error is returned for a connection that is gone
    if (s.sockets sock).connection then
      ((s.sockets sock).close choice).map fun closed =>
        ((), { s with sockets := update s.sockets sock closed })
    else some ((), s)
  | .stopBegins => some ((), { s with
      hist := { s.hist with
        stopCalls := s.hist.stopCalls + 1
        signalling := tid :: s.hist.signalling } })
  | .signalReconnect => some ((), { s with
      -- nothing is sent when there is no channel
      reconnectC := s.reconnectC.map fun _ => true
      hist := { s.hist with signalling := s.hist.signalling.erase tid } })
  | .awaitTeardown sock =>
    match choice with
    | .teardown true => some (true, s)
    | .teardown false =>
      if (s.sockets sock).closeC then some (false, { s with
        sockets := update s.sockets sock
          { s.sockets sock with closeC := false } })
      else none
    | _ => none
  | .closeDone sock => some ((), { s with
      sockets := update s.sockets sock { s.sockets sock with done := true } })
  | .dropConnection sock => some ((), { s with
      sockets := update s.sockets sock { s.sockets sock with connection := false }
      hist := { s.hist with notifying := tid :: s.hist.notifying } })
  | .readDisconnectedHandler sock => some (s.onDisconnected, { s with
      hist := { s.hist with notified := sock :: s.hist.notified } })
  | .readReconnectedHandler => some (s.onReconnected, s)
  | .notificationEnds => some ((), { s with
      hist := { s.hist with notifying := s.hist.notifying.erase tid } })
  | .reconnectionBegins => some (s.hist.stopCalls, { s with
      hist := { s.hist with runs := tid :: s.hist.runs } })
  | .awaitRetry =>
    match choice with
    | .retry false => some (false, s)
    | .retry true =>
      if s.reconnectC = some true then some (true, { s with reconnectC := some false }) else none
    | _ => none
  | .reconnectionAborted began => some ((), { s with
      hist := { s.hist with
        runs := s.hist.runs.erase tid
        aborted := (began, s.hist.stopCalls) :: s.hist.aborted } })
  | .ended sock => some ((), { s with
      hist := { s.hist with ended := sock :: s.hist.ended } })
  | .makeCleanup => some (tid, { s with
      cleanupC := update s.cleanupC tid ⟨false, false⟩ })
  | .closeCleanup stop => some ((), { s with
      cleanupC := update s.cleanupC stop { s.cleanupC stop with closed := true } })
  | .sendCleanup stop =>
    if (s.cleanupC stop).token then none
    else some ((), { s with
      cleanupC := update s.cleanupC stop { s.cleanupC stop with token := true } })
  | .awaitCleanup stop =>
    if (s.cleanupC stop).token then some ((), { s with
      cleanupC := update s.cleanupC stop { s.cleanupC stop with token := false } })
    else if (s.cleanupC stop).closed then some ((), s)
    else none

/-- A new goroutine.  The goroutine of a connection runs when it has been started, the loop of
`handleReconnection` is entered from within, and the dispatcher is started, stopped, paused and
resumed by the client only. -/
def enter (routine : Routine P) (s : Shared P) : Option (Shared P) :=
  match routine with
  | .writePump sock =>
    if sock ∈ s.launched then some { s with launched := s.launched.erase sock } else none
  | .reconnecting _ _ => none
  | .dispatcher .start => none
  | .dispatcher .stop => none
  | .dispatcher .pause => none
  | .dispatcher .resume => none
  | .dispatcher inner =>
    (ClientDispatcher.enter inner s.dispatcher).map fun dispatcher =>
      { s with dispatcher := dispatcher }
  | _ => some s

def occur (event : Event) (s : Shared P) : Option (Shared P) :=
  (ClientDispatcher.occur event s.dispatcher).map fun dispatcher => { s with dispatcher := dispatcher }

end ClientLifecycle
end OcppGo
