import OcppGo.Interleaving.System
import OcppGo.Ocppj.Queue
import OcppGo.Ocppj.State
import OcppGo.Sync.RWMutex

namespace OcppGo
namespace ClientDispatcher

open Function Interleaving Ocppj Sync

/-!
# The client dispatcher

`DefaultClientDispatcher` over a `FIFOClientQueue`, with the part of
`ocppj.Client` that completes requests when a frame comes in.  Every function of
the source is a program of atomic operations; an operation is what the source
does under one lock of the queue, the pending state or the dispatcher, one
channel operation, one use of the timer, or one network write.

Durations are not modelled: a timer that is armed may fire at any moment.
Logging is left out, and so is the recovery from a panicking callback, which
has no effect on the dispatcher.
-/

/-- What is configured before the dispatcher is started. -/
structure Settings where
  /-- a network client was set -/
  network : Bool
  /-- a cancel callback was set -/
  onRequestCancel : Bool
  timeout : Int
  timeoutOnPause : Bool

/-- 24 hours, in nanoseconds. -/
def defaultTimeoutTick : Int := 86400000000000

/-- Why `SendRequest` failed. -/
inductive SendError where
  | noNetwork
  | queueFull
  | notRunning (uniqueId : String)
  deriving DecidableEq

def SendError.text : SendError -> String
  | .noNetwork => "cannot SendRequest, no network client was set"
  | .queueFull => "request queue is full, cannot push new element"
  | .notRunning uniqueId => "cannot send request " ++ uniqueId ++ ", dispatcher not running"

/-- The place in the source that accesses the queue, the pending state or the
ready channel. -/
inductive Site where
  /-- the timer arm of `messagePump` -/
  | timeout
  /-- the context arm of `messagePump` -/
  | cancel
  /-- `dispatchNextRequest` and the guard in front of it -/
  | dispatch
  /-- `ocppMessageHandler`, on the goroutine of the connection -/
  | inbound
  /-- `Resume` -/
  | resume
  deriving DecidableEq

/-- An arm of the pump's select statement. -/
inductive Arm where
  | request
  | timer
  | ready
  | context
  deriving DecidableEq

/-- What the select statement received. -/
inductive Selected where
  | request
  | closed
  | tick
  | ready
  | canceled
  deriving DecidableEq

/-- `requestChannel`: a channel with a buffer of one. -/
structure RequestChannel where
  token : Bool
  closed : Bool
  deriving DecidableEq

/-- The request timer.  A tick that was delivered and not received yet stays in
the channel when the timer is stopped or reset.  The tick records the request
that was pending when the timer elapsed. -/
structure Timer where
  armed : Option Int
  tick : Option String
  deriving DecidableEq

variable {P : Type}

/-- `pumpPending`, the pump's own note of the request in flight.  The entry it
was made from is not part of the source. -/
structure PumpPending (P : Type) where
  id : String
  action : String
  ctx : Option Context
  payload : Option P
  entry : Option (Entry P)

def PumpPending.zero : PumpPending P := ⟨"", "", none, none, none⟩

/-- A terminal notification: the entry that was taken out of the queue for it and
what was passed on.  `elapsed` is the request that was pending when the tick
elapsed that the goroutine received last. -/
structure Notification (P : Type) where
  owner : Entry P
  requestID : String
  payload : Option P
  outcome : Outcome
  elapsed : Option String
  deriving DecidableEq

/-- What happened so far.  Nothing in the code depends on it. -/
structure History (P : Type) where
  /-- number of `SendRequest` calls -/
  calls : Nat
  /-- entries in the order of their pushes -/
  pushed : List (Entry P)
  /-- entries in the order in which they were handed to the network -/
  writes : List (Entry P)
  notifications : List (Notification P)
  /-- calls of `SendRequest` that returned nil -/
  accepted : List Nat
  /-- calls of `SendRequest` that returned an error -/
  refused : List Nat
  /-- the queue when the present generation was started -/
  queueAtStart : List (Entry P)
  /-- goroutines with the bundles they have read from the queue and may still act on -/
  held : List (Nat × Entry P)
  /-- goroutines with the bundle they have read in order to write it and have not written yet -/
  writing : List (Nat × Entry P)
  /-- by goroutine, the last tick it received -/
  elapsed : Nat -> Option String
  /-- goroutines between `DrainAll` and `Init` of the stop drain -/
  draining : List Nat

/-- The state of the dispatcher.  Channels made by `Start` are numbered by the
generation that made them. -/
structure Shared (P : Type) where
  requestQueue : FIFOClientQueue (Entry P)
  gen : Nat
  channels : Nat -> RequestChannel
  requestChannel : Option Nat
  readyForDispatch : Bool
  doneC : Nat
  doneClosed : Nat -> Bool
  running : Bool
  pendingRequestState : ClientState P
  mutex : RWMutex
  timer : Option Timer
  paused : Bool
  contexts : Nat -> Option ContextError
  /-- pump goroutines that `Start` has started and that have not run yet -/
  launched : Nat
  hist : History P

/-- The atomic operations. -/
inductive Op (P : Type) where
  | push (num : Nat) (bundle : RequestBundle P)
  | isEmpty
  | peek (site : Site)
  | popIf (site : Site) (requestId : String)
  | drainAll
  | init
  | addPendingRequest (requestID : String) (req : Option P)
  | getPendingRequest (requestID : String)
  | deletePendingRequest (site : Site) (requestID : String)
  | clearPendingRequests
  | hasPendingRequest (site : Site)
  | rlock
  | runlock
  | lock
  | awaitReaders
  | unlock
  | isRunning
  | assignStarted
  | assignStopped
  | forgetChannel
  | readDoneC
  | readRequestChannel
  | goMessagePump
  | sendRequestChannel
  | signalReady (site : Site)
  | select (reqCh : Option Nat) (pendingDone : Option Nat)
  | closeDone (done : Nat)
  | awaitDone (done : Nat)
  | timerStop
  | timerDrain
  | timerReset (duration : Int)
  | isPaused
  | setPaused (paused : Bool)
  | contextErr (context : Option Context)
  | write (entry : Entry P) (data : List UInt8)
  | onRequestCancel (owner : Entry P) (requestID : String) (request : Option P) (err : OcppError)
  | completed (owner : Entry P) (requestID : String)
  | ret (num : Nat) (failure : Option SendError)
  | retain (entry : Option (Entry P))
  | nilDereference

/-- The answers of the operations. -/
abbrev Res (P : Type) : Op P -> Type
  | .push _ _ => Bool
  | .isEmpty => Bool
  | .peek _ => Option (Entry P)
  | .popIf _ _ => Option (Entry P)
  | .drainAll => List (Entry P)
  | .getPendingRequest _ => Option (Option P)
  | .hasPendingRequest _ => Bool
  | .isRunning => Bool
  | .assignStopped => Nat
  | .readDoneC => Nat
  | .readRequestChannel => Option Nat
  | .select _ _ => Selected
  | .timerStop => Bool
  | .isPaused => Bool
  | .contextErr _ => Option ContextError
  | .write _ _ => Option String
  | _ => Unit

/-- What the scheduler and the network decide. -/
inductive Choice where
  | proceed
  | arm (arm : Arm)
  | network (failure : Option String)
  deriving DecidableEq

/-- What a goroutine executes.  `pumpLoop` is one pass through the loop of
`messagePump`, with the variables that live across passes. -/
inductive Routine (P : Type) where
  | start
  | stop
  | pause
  | resume
  | sendRequest (num : Nat) (req : RequestBundle P)
  | ocppMessageHandler (frame : Frame)
  | messagePump
  | pumpLoop (reqCh : Option Nat) (doneC : Nat) (rdy : Bool) (pending : PumpPending P)

/-- Events of the environment. -/
inductive Event where
  | timerFires
  | contextFires (id : Nat) (err : ContextError)
  deriving DecidableEq

abbrev Prog (P : Type) := Program (Op P) (Res P)

/-! ## The effect of the operations -/

namespace RequestChannel

def new : RequestChannel := ⟨false, false⟩

/-- A receive takes a buffered token first; only then is a closed channel seen. -/
def receive (channel : RequestChannel) : Option (Selected × RequestChannel) :=
  if channel.token then some (.request, { channel with token := false })
  else if channel.closed then some (.closed, channel)
  else none

end RequestChannel

namespace Timer

def new (duration : Int) : Timer := ⟨some duration, none⟩

/-- The tick is dropped when the channel already holds one. -/
def fire (timer : Timer) (pending : String) : Option Timer :=
  if timer.armed.isSome then some ⟨none, some (timer.tick.getD pending)⟩ else none

end Timer

/-- The bundles of the other goroutines. -/
def without (tid : Nat) (bundles : List (Nat × Entry P)) : List (Nat × Entry P) :=
  bundles.filter (fun bundle => bundle.1 ≠ tid)

def History.initial : History P where
  calls := 0
  pushed := []
  writes := []
  notifications := []
  accepted := []
  refused := []
  queueAtStart := []
  held := []
  writing := []
  elapsed := fun _ => none
  draining := []

/-- A dispatcher as `NewDefaultClientDispatcher` makes it. -/
def Shared.initial (capacity : Nat) : Shared P where
  requestQueue := .new capacity
  gen := 0
  channels := fun _ => .new
  requestChannel := none
  readyForDispatch := false
  doneC := 0
  doneClosed := fun _ => false
  running := false
  pendingRequestState := .new
  mutex := .new
  timer := none
  paused := false
  contexts := fun _ => none
  launched := 0
  hist := .initial

/-- The select statement of the pump: the chosen arm has to be ready. -/
def select (tid : Nat) (reqCh pendingDone : Option Nat) (arm : Arm) (s : Shared P) :
    Option (Selected × Shared P) :=
  match arm with
  | .request => do
      let channel <- reqCh
      let (selected, rest) <- (s.channels channel).receive
      return (selected, { s with channels := update s.channels channel rest })
  | .timer => do
      let timer <- s.timer
      let pending <- timer.tick
      return (.tick, { s with
        timer := some { timer with tick := none }
        hist := { s.hist with
          elapsed := update s.hist.elapsed tid (some pending) } })
  | .ready => if s.readyForDispatch then some (.ready, { s with readyForDispatch := false }) else none
  | .context => do
      let context <- pendingDone
      let _ <- s.contexts context
      return (.canceled, s)

/-- One atomic operation of a goroutine; nothing when it has to wait. -/
def execute (tid : Nat) (op : Op P) (choice : Choice) (s : Shared P) :
    Option (Res P op × Shared P) :=
  match op with
  | .push num bundle =>
    let entry : Entry P := ⟨num, s.gen, bundle⟩
    match s.requestQueue.push entry with
    | some queue => some (true, { s with
        requestQueue := queue
        hist := { s.hist with pushed := s.hist.pushed ++ [entry] } })
    | none => some (false, s)
  | .isEmpty => some (s.requestQueue.isEmpty, s)
  | .peek site =>
    match s.requestQueue.peek with
    | some entry => some (some entry, { s with
        hist := { s.hist with
          held := (tid, entry) :: s.hist.held
          writing := if site = .dispatch then (tid, entry) :: s.hist.writing
            else s.hist.writing } })
    | none => some (none, s)
  | .popIf _ requestId =>
    let hist := { s.hist with writing := without tid s.hist.writing }
    match s.requestQueue.popIf (Entry.isRequest requestId) with
    | some (entry, queue) => some (some entry, { s with requestQueue := queue, hist := hist })
    | none => some (none, { s with hist := hist })
  | .drainAll => some (s.requestQueue.drainAll.1, { s with
      requestQueue := s.requestQueue.drainAll.2
      hist := { s.hist with draining := tid :: s.hist.draining } })
  | .init => some ((), { s with
      requestQueue := s.requestQueue.init
      hist := { s.hist with draining := s.hist.draining.erase tid } })
  | .addPendingRequest requestID req => some ((), { s with
      pendingRequestState := s.pendingRequestState.addPendingRequest requestID req })
  | .getPendingRequest requestID => some (s.pendingRequestState.getPendingRequest requestID, s)
  | .deletePendingRequest _ requestID => some ((), { s with
      pendingRequestState := s.pendingRequestState.deletePendingRequest requestID })
  | .clearPendingRequests => some ((), { s with
      pendingRequestState := s.pendingRequestState.clearPendingRequests })
  | .hasPendingRequest _ => some (s.pendingRequestState.hasPendingRequest, s)
  | .rlock => (s.mutex.rlock tid).map fun mutex => ((), { s with mutex := mutex })
  | .runlock => some ((), { s with mutex := s.mutex.runlock tid })
  | .lock => (s.mutex.announce tid).map fun mutex => ((), { s with mutex := mutex })
  | .awaitReaders => if s.mutex.noReaders then some ((), s) else none
  | .unlock => some ((), { s with mutex := s.mutex.unlock })
  | .isRunning => some (s.running, s)
  | .assignStarted =>
    let gen := s.gen + 1
    some ((), { s with
      gen := gen
      channels := update s.channels gen .new
      requestChannel := some gen
      doneC := gen
      running := true
      timer := some (.new defaultTimeoutTick)
      hist := { s.hist with queueAtStart := s.requestQueue.elements } })
  | .assignStopped => do
      -- closing a nil or a closed channel panics
      let channel <- s.requestChannel
      if (s.channels channel).closed then none
      else some (s.doneC, { s with
        running := false
        channels := update s.channels channel
          { s.channels channel with closed := true } })
  | .forgetChannel => some ((), { s with requestChannel := none })
  | .readDoneC => some (s.doneC, s)
  | .readRequestChannel => some (s.requestChannel, s)
  | .goMessagePump => some ((), { s with launched := s.launched + 1 })
  | .sendRequestChannel => do
      -- a nil channel blocks for ever, a full one until the pump has received; sending on a
      -- closed channel panics
      let channel <- s.requestChannel
      if (s.channels channel).token || (s.channels channel).closed then none
      else some ((), { s with
        channels := update s.channels channel { s.channels channel with token := true } })
  | .signalReady _ => some ((), { s with readyForDispatch := true })
  | .select reqCh pendingDone =>
    match choice with
    | .arm arm => select tid reqCh pendingDone arm s
    | _ => none
  | .closeDone done =>
    if s.doneClosed done then none
    else some ((), { s with doneClosed := update s.doneClosed done true })
  | .awaitDone done => if s.doneClosed done then some ((), s) else none
  | .timerStop => do
      let timer <- s.timer
      return (timer.armed.isSome, { s with timer := some { timer with armed := none } })
  | .timerDrain => do
      let timer <- s.timer
      return ((), { s with timer := some { timer with tick := none } })
  | .timerReset duration => do
      let timer <- s.timer
      return ((), { s with timer := some { timer with armed := some duration } })
  | .isPaused => some (s.paused, s)
  | .setPaused paused => some ((), { s with paused := paused })
  | .contextErr context =>
    match context.bind Context.done with
    | some id => some (s.contexts id, s)
    | none => some (none, s)
  | .write entry _ =>
    match choice with
    | .network failure => some (failure, { s with
        hist := { s.hist with
          writes := s.hist.writes ++ [entry]
          writing := without tid s.hist.writing } })
    | _ => none
  | .onRequestCancel owner requestID request err => some ((), { s with
      hist := { s.hist with
        notifications := s.hist.notifications ++
          [⟨owner, requestID, request, .canceled err, s.hist.elapsed tid⟩] } })
  | .completed owner requestID => some ((), { s with
      hist := { s.hist with
        notifications := s.hist.notifications ++
          [⟨owner, requestID, none, .completed, s.hist.elapsed tid⟩] } })
  | .ret num failure => some ((), { s with
      hist :=
        if failure.isNone then { s.hist with accepted := s.hist.accepted ++ [num] }
        else { s.hist with refused := s.hist.refused ++ [num] } })
  | .retain entry => some ((), { s with
      hist := { s.hist with
        held := entry.toList.map (tid, ·) ++ without tid s.hist.held
        writing := without tid s.hist.writing } })
  | .nilDereference => none

/-- A new goroutine.  `SendRequest` calls are numbered; the pump runs when `Start`
has started it, and its loop is entered from within. -/
def enter (routine : Routine P) (s : Shared P) : Option (Shared P) :=
  match routine with
  | .sendRequest num _ =>
    if num = s.hist.calls then
      some { s with hist := { s.hist with calls := s.hist.calls + 1 } }
    else none
  | .messagePump => if 0 < s.launched then some { s with launched := s.launched - 1 } else none
  | .pumpLoop _ _ _ _ => none
  | _ => some s

def occur (event : Event) (s : Shared P) : Option (Shared P) :=
  match event with
  | .timerFires => do
      let timer <- s.timer
      let fired <- timer.fire s.pendingRequestState.requestID
      return { s with timer := some fired }
  | .contextFires id err =>
    match s.contexts id with
    | some _ => none
    | none => some { s with contexts := update s.contexts id (some err) }

end ClientDispatcher
end OcppGo
