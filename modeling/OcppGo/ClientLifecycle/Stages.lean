import OcppGo.ClientLifecycle.Code

namespace OcppGo
namespace ClientLifecycle

open Interleaving Ocppj

/-!
# Where every goroutine is

Each goroutine is described by whose part it executes and by how far it has got with a
connection: dialling it, running it, losing it, reporting the loss, and dialling the next one.
The invariants of the client are stated over these descriptions.  They share the agreement of
this module: which operations are open to a goroutine and how they move it.
-/

variable {P : Type}

/-- Whose part a goroutine executes. -/
inductive Agent where
  /-- a goroutine of the dispatcher -/
  | dispatcher
  /-- a direct call of the websocket client -/
  | client
  /-- a call of `ocppj.Client` -/
  | caller
  /-- the goroutine of a connection -/
  | sock (sock : Nat)
  deriving DecidableEq

/-- How far a goroutine has got.  `began` numbers the run of `handleReconnection` a connection is
dialled in, if it is. -/
inductive Stage where
  | fresh
  | idle
  /-- a start that has not set its handlers yet -/
  | begun
  /-- a start that is about to dial, or has failed to -/
  | preparing
  | dialed (sock : Nat) (began : Option Nat)
  | published (sock : Nat) (began : Option Nat)
  /-- reconnected, with `Resume` still to come -/
  | reviving
  /-- reconnected, and resumed -/
  | revived
  /-- from the start of the goroutine of a connection to the end of the connection -/
  | waiting
  | dropped
  /-- the loss is being reported to `onDisconnected` -/
  | pausing
  /-- the loss is to be reported to the handler of a `Stop` -/
  | delivering (stop : Nat)
  /-- the loss has been reported -/
  | reported
  /-- and the notification is over -/
  | down
  | retrying (began : Nat)
  | attempting (began : Nat)
  | aborting (began : Nat)
  /-- `Stop`, before and after it has made its channel -/
  | asking
  | asked (stop : Nat)
  | looking (stop sock : Nat)
  /-- `Stop` has seen a connection, or none -/
  | seen (stop : Nat)
  | absent (stop : Nat)
  /-- `Stop` has installed its handler, or closed its channel -/
  | installed (stop : Nat)
  | released (stop : Nat)
  deriving DecidableEq

/-- `signals` tells that the goroutine is inside `Stop` of the websocket client and has not
signalled yet. -/
structure Label where
  agent : Agent
  stage : Stage
  signals : Bool
  deriving DecidableEq

def agentOf : Routine P -> Agent
  | .start | .startWithRetries | .stop => .caller
  | .wsStart | .wsStartWithRetries | .wsStop => .client
  | .writePump sock => .sock sock
  | .reconnecting _ (.handleDisconnect sock) => .sock sock
  | .reconnecting _ .startWithRetries => .caller
  | .reconnecting _ .client => .client
  | .dispatcher _ => .dispatcher

/-- The run of `handleReconnection` the goroutine is in. -/
def Stage.began : Stage -> Option Nat
  | .attempting began => some began
  | .dialed _ began => began
  | .published _ began => began
  | _ => none

def Stage.undialed : Stage -> Stage
  | .attempting began => .retrying began
  | stage => stage

def Stage.concluded : Stage -> Stage
  | .pausing => .down
  | .reported => .down
  | _ => .idle

def Stage.waited (aborted : Bool) : Stage -> Stage
  | .retrying began => if aborted then .aborting began else .attempting began
  | stage => stage

def Stage.picked : Option Handler -> Stage
  | some .onDisconnected => .pausing
  | some (.cleanup stop) => .delivering stop
  | none => .reported

def Stage.found (sock : Option Nat) : Stage -> Stage
  | .asked stop => match sock with
      | some sock => .looking stop sock
      | none => .absent stop
  | stage => stage

def Stage.answered (connected : Bool) : Stage -> Stage
  | .looking stop _ => if connected then .seen stop else .absent stop
  | stage => stage

def Stage.handled (stage : Stage) : Handler -> Stage
  | .onDisconnected => stage
  | .cleanup stop => .installed stop

def Stage.operated (stage : Stage) : ClientDispatcher.Op P -> Stage
  | .setPaused paused => if paused then stage else .revived
  | _ => stage

def CallKind.stage : CallKind -> Stage
  | .stop => .asking
  | _ => .begun

def Stage.after (stage : Stage) : (op : Op P) -> Res P op -> Stage
  | .dispatcher inner, _ => stage.operated inner
  | .begins call, _ => call.stage
  | .returns _ _, _ => .idle
  | .setDisconnectedHandler handler, _ => stage.handled handler
  | .setReconnectedHandler, _ => .preparing
  | .readWebSocket, sock => stage.found sock
  | .isConnected _, connected => stage.answered connected
  | .dial, some sock => .dialed sock stage.began
  | .dial, none => stage.undialed
  | .publish sock _, _ => .published sock stage.began
  | .run _, _ => if stage.began.isSome then .reviving else .idle
  | .dropConnection _, _ => .dropped
  | .readDisconnectedHandler _, handler => .picked handler
  | .readReconnectedHandler, set => if set then .reviving else .revived
  | .notificationEnds, _ => stage.concluded
  | .reconnectionBegins, began => .retrying began
  | .awaitRetry, aborted => stage.waited aborted
  | .reconnectionAborted _, _ => .idle
  | .ended _, _ => .idle
  | .makeCleanup, stop => .asked stop
  | .closeCleanup stop, _ => .released stop
  | .sendCleanup _, _ => .reported
  | .awaitCleanup _, _ => .idle
  | _, _ => stage

def signalsAfter (signals : Bool) : Op P -> Bool
  | .stopBegins => true
  | .signalReconnect => false
  | _ => signals

def Label.after (label : Label) (op : Op P) (ans : Res P op) : Label :=
  ⟨label.agent, label.stage.after op ans, signalsAfter label.signals op⟩

/-- Where functions of the dispatcher are called. -/
def Stage.inside : Stage -> Bool
  | .idle | .pausing | .revived | .installed _ | .released _ => true
  | _ => false

/-- The operations of the dispatcher.  The pause flag and the timer belong to `Pause` and `Resume`
here; the pump uses the timer, too. -/
def Label.operates (label : Label) : ClientDispatcher.Op P -> Prop
  | .setPaused paused => if paused then label.stage = .pausing else label.stage = .reviving
  | .timerStop | .timerDrain | .timerReset _ => label.stage.inside = true ∧
      (label.agent = .dispatcher ∨ label.stage = .pausing ∨ label.stage = .revived)
  | _ => label.stage.inside = true

def Stage.handles (stage : Stage) : Handler -> Prop
  | .onDisconnected => stage = .begun
  | .cleanup stop => stage = .seen stop

/-- Where `Stop` of the websocket client is called. -/
def Stage.settled : Stage -> Bool
  | .idle => true
  | .installed _ => true
  | .released _ => true
  | _ => false

/-- The operations of `Stop` of the websocket client. -/
def Label.closes (label : Label) : Op P -> Prop
  | .readWebSocket | .isConnected _ | .close _ | .signalReconnect => label.stage.settled = true
  | _ => False

/-- Everything else. -/
def Label.proceeds (label : Label) : Op P -> Prop
  | .begins _ => label.agent = .caller ∧ label.stage = .fresh
  | .returns _ _ => label.agent = .caller ∧ (label.stage = .idle ∨ label.stage = .preparing)
  | .setDisconnectedHandler handler => label.agent = .caller ∧ label.stage.handles handler
  | .setReconnectedHandler => label.agent = .caller ∧ label.stage = .begun
  | .makeReconnectC => label.stage = .preparing ∨ ∃ began, label.stage = .attempting began
  | .dial => label.stage = .preparing ∨ ∃ began, label.stage = .attempting began
  | .publish sock reconnecting =>
    ∃ began, label.stage = .dialed sock began ∧ reconnecting = began.isSome
  | .run sock => ∃ began, label.stage = .published sock began
  | .readWebSocket => ∃ stop, label.stage = .asked stop
  | .isConnected sock => ∃ stop, label.stage = .looking stop sock
  | .stopBegins => label.stage.settled = true
  | .awaitTeardown sock => label.agent = .sock sock ∧ label.stage = .waiting
  | .closeDone sock => label.agent = .sock sock ∧ label.stage = .waiting
  | .dropConnection sock => label.agent = .sock sock ∧ label.stage = .waiting
  | .readDisconnectedHandler sock => label.agent = .sock sock ∧ label.stage = .dropped
  | .readReconnectedHandler => label.stage = .reviving
  | .notificationEnds => label.stage = .pausing ∨ label.stage = .reported ∨ label.stage = .revived
  | .reconnectionBegins => label.stage = .down ∨ label.stage = .preparing
  | .awaitRetry => ∃ began, label.stage = .retrying began
  | .reconnectionAborted began => label.stage = .aborting began
  | .ended sock => label.agent = .sock sock ∧ (label.stage = .down ∨ label.stage = .idle)
  | .makeCleanup => label.agent = .caller ∧ label.stage = .asking
  | .closeCleanup stop => label.agent = .caller ∧ label.stage = .absent stop
  | .sendCleanup stop => label.stage = .delivering stop
  | .awaitCleanup stop =>
    label.agent = .caller ∧ (label.stage = .installed stop ∨ label.stage = .released stop)
  | _ => False

def Label.performs (label : Label) (op : Op P) : Prop :=
  match label.signals with
  | true => label.closes op
  | false => label.proceeds op

def allowed (op : Op P) (label : Label) : Prop :=
  match op with
  | .dispatcher inner => label.operates inner
  | op => label.performs op

def accord : Protocol (Op P) (Res P) (Routine P) Label where
  fits call label := label.agent = agentOf call
  allowed := allowed
  next op label ans onward := onward = label.after op ans

/-- The stage a call is entered in. -/
def stageOf : Routine P -> Stage
  | .start | .startWithRetries | .stop => .fresh
  | .wsStart | .wsStartWithRetries => .preparing
  | .wsStop => .idle
  | .writePump _ => .waiting
  | .reconnecting began _ => .retrying began
  | .dispatcher _ => .idle

/-- The dispatcher is paused and resumed by the client only. -/
def Routine.enters : Routine P -> Bool
  | .dispatcher .pause => false
  | .dispatcher .resume => false
  | _ => true

def entry (routine : Routine P) (label : Label) : Prop :=
  routine.enters = true ∧ label = ⟨agentOf routine, stageOf routine, false⟩

/-- A goroutine ends when it has nothing left to do, or when a direct start has failed. -/
def leave (label : Label) : Prop :=
  label.signals = false ∧
    (label.stage = .idle ∨ (label.agent = .client ∧ label.stage = .preparing))

/-! ## Everything a goroutine does -/

/-- The operations of the dispatcher that say nothing about the connection. -/
def unrelated : ClientDispatcher.Op P -> Bool
  | .setPaused _ => false
  | _ => true

/-- Everything a goroutine does in one operation. -/
inductive Move : Label -> (op : Op P) -> Res P op -> Label -> Prop where
  | operates (label : Label) (inner : ClientDispatcher.Op P) (ans : Res P (.dispatcher inner))
      (open' : label.operates inner) (other : unrelated inner = true) :
      Move label (.dispatcher inner) ans label
  | pauses (agent : Agent) (signals : Bool) :
      Move ⟨agent, .pausing, signals⟩ (.dispatcher (.setPaused true)) () ⟨agent, .pausing, signals⟩
  | resumes (agent : Agent) (signals : Bool) :
      Move ⟨agent, .reviving, signals⟩ (.dispatcher (.setPaused false)) () ⟨agent, .revived, signals⟩
  | begins (call : CallKind) :
      Move ⟨.caller, .fresh, false⟩ (.begins call) () ⟨.caller, call.stage, false⟩
  | returns (stage : Stage) (call : CallKind) (success : Bool)
      (atEnd : stage = .idle ∨ stage = .preparing) :
      Move ⟨.caller, stage, false⟩ (.returns call success) () ⟨.caller, .idle, false⟩
  | installs (stop : Nat) :
      Move ⟨.caller, .seen stop, false⟩ (.setDisconnectedHandler (.cleanup stop)) ()
        ⟨.caller, .installed stop, false⟩
  | prepares :
      Move ⟨.caller, .begun, false⟩ (.setDisconnectedHandler .onDisconnected) ()
        ⟨.caller, .begun, false⟩
  | setReconnectedHandler :
      Move ⟨.caller, .begun, false⟩ .setReconnectedHandler () ⟨.caller, .preparing, false⟩
  | finds (agent : Agent) (stop : Nat) (sock : Option Nat) :
      Move ⟨agent, .asked stop, false⟩ .readWebSocket sock
        ⟨agent, (Stage.asked stop).found sock, false⟩
  | looks (agent : Agent) (stop sock : Nat) (connected : Bool) :
      Move ⟨agent, .looking stop sock, false⟩ (.isConnected sock) connected
        ⟨agent, if connected then .seen stop else .absent stop, false⟩
  | stopBegins (agent : Agent) (stage : Stage) (settled : stage.settled = true) :
      Move ⟨agent, stage, false⟩ .stopBegins () ⟨agent, stage, true⟩
  | reads (agent : Agent) (stage : Stage) (sock : Option Nat) (settled : stage.settled = true) :
      Move ⟨agent, stage, true⟩ .readWebSocket sock ⟨agent, stage, true⟩
  | checks (agent : Agent) (stage : Stage) (sock : Nat) (connected : Bool)
      (settled : stage.settled = true) :
      Move ⟨agent, stage, true⟩ (.isConnected sock) connected ⟨agent, stage, true⟩
  | closes (agent : Agent) (stage : Stage) (sock : Nat) (settled : stage.settled = true) :
      Move ⟨agent, stage, true⟩ (.close sock) () ⟨agent, stage, true⟩
  | signals (agent : Agent) (stage : Stage) (settled : stage.settled = true) :
      Move ⟨agent, stage, true⟩ .signalReconnect () ⟨agent, stage, false⟩
  | makeReconnectC (agent : Agent) (stage : Stage)
      (ready : stage = .preparing ∨ ∃ began, stage = .attempting began) :
      Move ⟨agent, stage, false⟩ .makeReconnectC () ⟨agent, stage, false⟩
  | dials (agent : Agent) (stage : Stage) (sock : Nat)
      (ready : stage = .preparing ∨ ∃ began, stage = .attempting began) :
      Move ⟨agent, stage, false⟩ .dial (some sock) ⟨agent, .dialed sock stage.began, false⟩
  | fails (agent : Agent) (stage : Stage)
      (ready : stage = .preparing ∨ ∃ began, stage = .attempting began) :
      Move ⟨agent, stage, false⟩ .dial none ⟨agent, stage.undialed, false⟩
  | publishes (agent : Agent) (sock : Nat) (began : Option Nat) :
      Move ⟨agent, .dialed sock began, false⟩ (.publish sock began.isSome) ()
        ⟨agent, .published sock began, false⟩
  | runs (agent : Agent) (sock : Nat) (began : Option Nat) :
      Move ⟨agent, .published sock began, false⟩ (.run sock) ()
        ⟨agent, if began.isSome then .reviving else .idle, false⟩
  | awaitTeardown (sock : Nat) (forced : Bool) :
      Move ⟨.sock sock, .waiting, false⟩ (.awaitTeardown sock) forced
        ⟨.sock sock, .waiting, false⟩
  | closeDone (sock : Nat) :
      Move ⟨.sock sock, .waiting, false⟩ (.closeDone sock) () ⟨.sock sock, .waiting, false⟩
  | drops (sock : Nat) :
      Move ⟨.sock sock, .waiting, false⟩ (.dropConnection sock) ()
        ⟨.sock sock, .dropped, false⟩
  | picks (sock : Nat) (handler : Option Handler) :
      Move ⟨.sock sock, .dropped, false⟩ (.readDisconnectedHandler sock) handler
        ⟨.sock sock, .picked handler, false⟩
  | readReconnectedHandler (agent : Agent) (set : Bool) :
      Move ⟨agent, .reviving, false⟩ .readReconnectedHandler set
        ⟨agent, if set then .reviving else .revived, false⟩
  | concludes (agent : Agent) (stage : Stage)
      (atEnd : stage = .pausing ∨ stage = .reported ∨ stage = .revived) :
      Move ⟨agent, stage, false⟩ .notificationEnds () ⟨agent, stage.concluded, false⟩
  | reconnectionBegins (agent : Agent) (stage : Stage) (began : Nat)
      (lost : stage = .down ∨ stage = .preparing) :
      Move ⟨agent, stage, false⟩ .reconnectionBegins began ⟨agent, .retrying began, false⟩
  | waits (agent : Agent) (began : Nat) (aborted : Bool) :
      Move ⟨agent, .retrying began, false⟩ .awaitRetry aborted
        ⟨agent, if aborted then .aborting began else .attempting began, false⟩
  | aborts (agent : Agent) (began : Nat) :
      Move ⟨agent, .aborting began, false⟩ (.reconnectionAborted began) () ⟨agent, .idle, false⟩
  | ends (sock : Nat) (stage : Stage) (atEnd : stage = .down ∨ stage = .idle) :
      Move ⟨.sock sock, stage, false⟩ (.ended sock) () ⟨.sock sock, .idle, false⟩
  | makeCleanup (stop : Nat) :
      Move ⟨.caller, .asking, false⟩ .makeCleanup stop ⟨.caller, .asked stop, false⟩
  | releases (stop : Nat) :
      Move ⟨.caller, .absent stop, false⟩ (.closeCleanup stop) () ⟨.caller, .released stop, false⟩
  | delivers (agent : Agent) (stop : Nat) :
      Move ⟨agent, .delivering stop, false⟩ (.sendCleanup stop) () ⟨agent, .reported, false⟩
  | awaitCleanup (stop : Nat) (stage : Stage)
      (pending : stage = .installed stop ∨ stage = .released stop) :
      Move ⟨.caller, stage, false⟩ (.awaitCleanup stop) () ⟨.caller, .idle, false⟩

section Inversion

variable {agent : Agent} {stage : Stage}

theorem found_settled (settled : stage.settled = true) (sock : Option Nat) :
    stage.found sock = stage := by
  cases stage with
  | asked stop => cases settled
  | _ => rfl

theorem answered_settled (settled : stage.settled = true) (connected : Bool) :
    stage.answered connected = stage := by
  cases stage with
  | looking stop sock => cases settled
  | _ => rfl

theorem move_of_operates {label : Label} {inner : ClientDispatcher.Op P}
    (legal : label.operates inner) (ans : Res P (.dispatcher inner)) :
    Move label (.dispatcher inner) ans (label.after (.dispatcher inner) ans) := by
  rcases label with ⟨agent, stage, signals⟩
  cases other : unrelated inner with
  | true =>
    have unmoved : stage.operated inner = stage := by
      cases inner with
      | setPaused paused => cases other
      | _ => rfl
    have same : (⟨agent, stage, signals⟩ : Label).after (.dispatcher inner) ans =
        ⟨agent, stage, signals⟩ := by
      simp [Label.after, Stage.after, signalsAfter, unmoved]
    rw [same]
    exact .operates _ inner ans legal other
  | false =>
    cases inner with
    | setPaused paused =>
      cases paused with
      | true =>
        have pausing : stage = .pausing := legal
        subst pausing
        exact .pauses agent signals
      | false =>
        have reviving : stage = .reviving := legal
        subst reviving
        exact .resumes agent signals
    | _ => cases other

theorem move_of_closes {op : Op P}
    (legal : (⟨agent, stage, true⟩ : Label).closes op) (ans : Res P op) :
    Move ⟨agent, stage, true⟩ op ans
      ((⟨agent, stage, true⟩ : Label).after op ans) := by
  cases op with
  | readWebSocket =>
    have unmoved := found_settled legal ans
    simp only [Label.after, Stage.after, signalsAfter, unmoved]
    exact .reads agent stage ans legal
  | isConnected sock =>
    have unmoved := answered_settled legal ans
    simp only [Label.after, Stage.after, signalsAfter, unmoved]
    exact .checks agent stage sock ans legal
  | close sock => exact .closes agent stage sock legal
  | signalReconnect => exact .signals agent stage legal
  | _ => exact False.elim legal

theorem move_of_proceeds {op : Op P}
    (legal : (⟨agent, stage, false⟩ : Label).proceeds op) (ans : Res P op) :
    Move ⟨agent, stage, false⟩ op ans
      ((⟨agent, stage, false⟩ : Label).after op ans) := by
  cases op with
  | begins call =>
    obtain ⟨rfl, rfl⟩ := legal
    exact .begins call
  | returns call success =>
    obtain ⟨rfl, atEnd⟩ := legal
    exact .returns stage call success atEnd
  | setDisconnectedHandler handler =>
    obtain ⟨rfl, handles⟩ := legal
    cases handler with
    | onDisconnected =>
      obtain rfl := handles
      exact .prepares
    | cleanup stop =>
      obtain rfl := handles
      exact .installs stop
  | setReconnectedHandler =>
    obtain ⟨rfl, rfl⟩ := legal
    exact .setReconnectedHandler
  | readWebSocket =>
    obtain ⟨stop, rfl⟩ := legal
    exact .finds agent stop ans
  | isConnected sock =>
    obtain ⟨stop, rfl⟩ := legal
    exact .looks agent stop sock ans
  | makeReconnectC => exact .makeReconnectC agent stage legal
  | dial =>
    cases ans with
    | some sock => exact .dials agent stage sock legal
    | none => exact .fails agent stage legal
  | publish sock reconnecting =>
    obtain ⟨began, rfl, rfl⟩ := legal
    exact .publishes agent sock began
  | run sock =>
    obtain ⟨began, rfl⟩ := legal
    exact .runs agent sock began
  | stopBegins => exact .stopBegins agent stage legal
  | awaitTeardown sock =>
    obtain ⟨rfl, rfl⟩ := legal
    exact .awaitTeardown sock ans
  | closeDone sock =>
    obtain ⟨rfl, rfl⟩ := legal
    exact .closeDone sock
  | dropConnection sock =>
    obtain ⟨rfl, rfl⟩ := legal
    exact .drops sock
  | readDisconnectedHandler sock =>
    obtain ⟨rfl, rfl⟩ := legal
    exact .picks sock ans
  | readReconnectedHandler =>
    obtain rfl := legal
    exact .readReconnectedHandler agent ans
  | notificationEnds => exact .concludes agent stage legal
  | reconnectionBegins => exact .reconnectionBegins agent stage ans legal
  | awaitRetry =>
    obtain ⟨began, rfl⟩ := legal
    exact .waits agent began ans
  | reconnectionAborted began =>
    obtain rfl := legal
    exact .aborts agent began
  | ended sock =>
    obtain ⟨rfl, atEnd⟩ := legal
    exact .ends sock stage atEnd
  | makeCleanup =>
    obtain ⟨rfl, rfl⟩ := legal
    exact .makeCleanup ans
  | closeCleanup stop =>
    obtain ⟨rfl, rfl⟩ := legal
    exact .releases stop
  | sendCleanup stop =>
    obtain rfl := legal
    exact .delivers agent stop
  | awaitCleanup stop =>
    obtain ⟨rfl, pending⟩ := legal
    exact .awaitCleanup stop stage pending
  | _ => exact False.elim legal

end Inversion

variable {label : Label} {op : Op P}

/-- An operation that is open to a goroutine makes one of the moves. -/
theorem move_of_allowed (legal : allowed op label) (ans : Res P op) :
    Move label op ans (label.after op ans) := by
  rcases label with ⟨agent, stage, signals⟩
  cases op with
  | dispatcher inner => exact move_of_operates legal ans
  | _ =>
    cases signals with
    | true =>
      apply move_of_closes
      exact legal
    | false =>
      apply move_of_proceeds
      exact legal

/-- The stages before and after a move, with every change spelled out. -/
inductive Shift : Stage -> (op : Op P) -> Res P op -> Stage -> Prop where
  | stays (stage : Stage) (op : Op P) (ans : Res P op) :
      Shift stage op ans stage
  | resumes : Shift .reviving (.dispatcher (.setPaused false)) () .revived
  | startBegins : Shift .fresh (.begins .start) () .begun
  | retriesBegin : Shift .fresh (.begins .startWithRetries) () .begun
  | stopBegins : Shift .fresh (.begins .stop) () .asking
  | gaveUp (call : CallKind) (success : Bool) : Shift .preparing (.returns call success) () .idle
  | installs (stop : Nat) :
      Shift (.seen stop) (.setDisconnectedHandler (.cleanup stop)) () (.installed stop)
  | prepares : Shift .begun .setReconnectedHandler () .preparing
  | finds (stop sock : Nat) : Shift (.asked stop) .readWebSocket (some sock) (.looking stop sock)
  | findsNone (stop : Nat) : Shift (.asked stop) .readWebSocket none (.absent stop)
  | sees (stop sock : Nat) : Shift (.looking stop sock) (.isConnected sock) true (.seen stop)
  | misses (stop sock : Nat) :
      Shift (.looking stop sock) (.isConnected sock) false (.absent stop)
  | dials (sock : Nat) : Shift .preparing .dial (some sock) (.dialed sock none)
  | redials (sock began : Nat) :
      Shift (.attempting began) .dial (some sock) (.dialed sock (some began))
  | fails (began : Nat) : Shift (.attempting began) .dial none (.retrying began)
  | publishes (sock : Nat) (began : Option Nat) :
      Shift (.dialed sock began) (.publish sock began.isSome) () (.published sock began)
  | runs (sock : Nat) : Shift (.published sock none) (.run sock) () .idle
  | reruns (sock began : Nat) : Shift (.published sock (some began)) (.run sock) () .reviving
  | drops (sock : Nat) : Shift .waiting (.dropConnection sock) () .dropped
  | pauses (sock : Nat) :
      Shift .dropped (.readDisconnectedHandler sock) (some .onDisconnected) .pausing
  | reports (sock stop : Nat) :
      Shift .dropped (.readDisconnectedHandler sock) (some (.cleanup stop)) (.delivering stop)
  | ignores (sock : Nat) : Shift .dropped (.readDisconnectedHandler sock) none .reported
  | unheard : Shift .reviving .readReconnectedHandler false .revived
  | paused : Shift .pausing .notificationEnds () .down
  | reported : Shift .reported .notificationEnds () .down
  | resumed : Shift .revived .notificationEnds () .idle
  | reconnects (began : Nat) : Shift .down .reconnectionBegins began (.retrying began)
  | retries (began : Nat) : Shift .preparing .reconnectionBegins began (.retrying began)
  | attempts (began : Nat) : Shift (.retrying began) .awaitRetry false (.attempting began)
  | aborts (began : Nat) : Shift (.retrying began) .awaitRetry true (.aborting began)
  | aborted (began : Nat) : Shift (.aborting began) (.reconnectionAborted began) () .idle
  | ends (sock : Nat) : Shift .down (.ended sock) () .idle
  | asks (stop : Nat) : Shift .asking .makeCleanup stop (.asked stop)
  | releases (stop : Nat) : Shift (.absent stop) (.closeCleanup stop) () (.released stop)
  | delivers (stop : Nat) : Shift (.delivering stop) (.sendCleanup stop) () .reported
  | received (stop : Nat) : Shift (.installed stop) (.awaitCleanup stop) () .idle
  | closed (stop : Nat) : Shift (.released stop) (.awaitCleanup stop) () .idle

variable {onward : Label} {ans : Res P op} (move : Move label op ans onward)
include move

theorem Move.shift : Shift label.stage op ans onward.stage := by
  cases move with
  | resumes => exact .resumes
  | begins call =>
    cases call with
    | start => exact .startBegins
    | startWithRetries => exact .retriesBegin
    | stop => exact .stopBegins
  | returns stage call success atEnd =>
    rcases atEnd with rfl | rfl
    · exact .stays _ _ _
    · exact .gaveUp call success
  | installs stop => exact .installs stop
  | setReconnectedHandler => exact .prepares
  | finds agent stop sock =>
    cases sock with
    | none => exact .findsNone stop
    | some sock => exact .finds stop sock
  | looks agent stop sock connected =>
    cases connected with
    | false => exact .misses stop sock
    | true => exact .sees stop sock
  | dials agent stage sock ready =>
    rcases ready with rfl | ⟨began, rfl⟩
    · exact .dials sock
    · exact .redials sock began
  | fails agent stage ready =>
    rcases ready with rfl | ⟨began, rfl⟩
    · exact .stays _ _ _
    · exact .fails began
  | publishes agent sock began => exact .publishes sock began
  | runs agent sock began =>
    cases began with
    | none => exact .runs sock
    | some began => exact .reruns sock began
  | drops sock => exact .drops sock
  | picks sock handler =>
    cases handler with
    | none => exact .ignores sock
    | some handler =>
      cases handler with
      | onDisconnected => exact .pauses sock
      | cleanup stop => exact .reports sock stop
  | readReconnectedHandler agent set =>
    cases set with
    | false => exact .unheard
    | true => exact .stays _ _ _
  | concludes agent stage atEnd =>
    rcases atEnd with rfl | rfl | rfl
    · exact .paused
    · exact .reported
    · exact .resumed
  | reconnectionBegins agent stage began lost =>
    rcases lost with rfl | rfl
    · exact .reconnects began
    · exact .retries began
  | waits agent began aborted =>
    cases aborted with
    | false => exact .attempts began
    | true => exact .aborts began
  | aborts agent began => exact .aborted began
  | ends sock stage atEnd =>
    rcases atEnd with rfl | rfl
    · exact .ends sock
    · exact .stays _ _ _
  | makeCleanup stop => exact .asks stop
  | releases stop => exact .releases stop
  | delivers agent stop => exact .delivers stop
  | awaitCleanup stop stage pending =>
    rcases pending with rfl | rfl
    · exact .received stop
    · exact .closed stop
  | _ => exact .stays _ _ _

theorem agent_of_move : onward.agent = label.agent := by
  cases move <;> rfl

end ClientLifecycle
end OcppGo
