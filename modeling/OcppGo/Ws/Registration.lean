import OcppGo.Ws.Server

namespace OcppGo
namespace Ws

open Interleaving Sync Program

/-!
# The way of a socket through the server

A socket belongs to one goroutine at a time.  The upgrade handler makes it, registers it, after an
eviction if need be, and starts its pumps; from then on it belongs to the write pump, whose last
act is to take it out of the server.  The places below say how far the owner of a socket has
come; the programs keep to them.
-/

namespace Socket

/-! ## What the functions of a socket use -/

/-- The operations that neither start the pumps nor take the lock nor report the end of the
socket. -/
@[reducible] def Op.plain : Op -> Bool
  | .lock | .unlock | .goReadPump | .goWritePump | .onClosed _ => false
  | _ => true

abbrev Plain {α : Type} (prog : Prog α) : Prop :=
  prog.Uses (fun op => op.plain = true)

variable {config : Config}

theorem plain_isConnected : Plain isConnected :=
  ⟨rfl, fun _ => ⟨rfl, fun _ => ⟨rfl, fun _ => trivial⟩⟩⟩

theorem plain_writeManual (msg : Message) : Plain (writeManual config msg) := by
  refine ⟨rfl, fun _ => ⟨rfl, ?_⟩⟩
  intro connected
  cases connected with
  | false => exact ⟨rfl, fun _ => trivial⟩
  | true =>
    refine ⟨rfl, ?_⟩
    intro sent
    cases sent with
    | _ => exact ⟨rfl, fun _ => trivial⟩

theorem plain_close (closeErr : CloseError) : Plain (close config closeErr) := by
  refine ⟨rfl, fun _ => ⟨rfl, ?_⟩⟩
  intro connected
  cases connected with
  | false => exact ⟨rfl, fun _ => trivial⟩
  | true =>
    refine ⟨rfl, ?_⟩
    intro sent
    cases sent with
    | _ => exact ⟨rfl, fun _ => trivial⟩

theorem plain_getReadTimeout : Plain getReadTimeout := ⟨rfl, fun _ => ⟨rfl, fun _ => trivial⟩⟩

theorem plain_onPing (appData : List UInt8) : Plain (onPing appData) := by
  refine ⟨rfl, fun _ => ⟨rfl, fun _ => ?_⟩⟩
  exact plain_getReadTimeout.bind fun _ => ⟨rfl, fun _ => trivial⟩

theorem plain_onPong : Plain onPong := by
  refine ⟨rfl, fun _ => ?_⟩
  exact plain_getReadTimeout.bind fun _ => ⟨rfl, fun _ => trivial⟩

theorem plain_readFailed (err : String) (unexpected : Bool) :
    Plain (readFailed config err unexpected) := by
  have ends : Plain (do
      rlock
      if ← connection then
        sendForceClose err
        runlock
        return none
      else
        runlock
        return none : Prog (Option Routine)) := by
    refine ⟨rfl, fun _ => ⟨rfl, ?_⟩⟩
    intro connected
    cases connected with
    | true => exact ⟨rfl, fun _ => ⟨rfl, fun _ => trivial⟩⟩
    | false => exact ⟨rfl, fun _ => trivial⟩
  unfold readFailed
  cases unexpected with
  | true => exact ⟨rfl, fun _ => ends⟩
  | false => exact ends

theorem plain_readPump : Plain (readPump config) := by
  refine ⟨rfl, fun _ => ⟨rfl, ?_⟩⟩
  intro connected
  cases connected with
  | true =>
    refine ⟨rfl, fun _ => ?_⟩
    exact plain_getReadTimeout.bind fun _ => ⟨rfl, fun _ => trivial⟩
  | false => exact ⟨rfl, fun _ => ⟨rfl, fun _ => trivial⟩⟩

theorem plain_readLoop : Plain (readLoop config) := by
  refine ⟨rfl, ?_⟩
  intro incoming
  cases incoming with
  | failure err unexpected => exact plain_readFailed err unexpected
  | ping appData =>
    simp only [bind_done]
    split
    · apply (plain_onPing appData).bind
      intro outcome
      cases outcome with
      | some err => exact plain_readFailed err false
      | none => trivial
    · trivial
  | pong appData =>
    simp only [bind_done]
    split
    · apply plain_onPong.bind
      intro outcome
      cases outcome with
      | some err => exact plain_readFailed err false
      | none => trivial
    · trivial
  | message data =>
    refine ⟨rfl, ?_⟩
    have rest : Plain (do
        getReadTimeout
        let _ ← setReadDeadline true
        return some .readLoop : Prog (Option Routine)) :=
      plain_getReadTimeout.bind fun _ => ⟨rfl, fun _ => trivial⟩
    intro outcome
    cases outcome with
    | some err => exact ⟨rfl, fun _ => rest⟩
    | none => exact rest

/-- The routines of a socket besides those of the write pump. -/
@[reducible] def Routine.besides : Routine -> Bool
  | .run | .writePump | .writeLoop _ => false
  | _ => true

theorem plain_body {routine : Routine} (besides : routine.besides = true) :
    Plain (body config routine) := by
  cases routine with
  | readPump => exact plain_readPump
  | readLoop => exact plain_readLoop
  | remoteAddr => exact ⟨rfl, fun _ => trivial⟩
  | isConnected => exact plain_isConnected.bind fun _ => trivial
  | write msg => exact (plain_writeManual msg).bind fun _ => trivial
  | close closeErr => exact (plain_close closeErr).bind fun _ => trivial
  | run | writePump | writeLoop => cases besides

/-- Only the `readPump` has a following routine, and it is its loop. -/
theorem returns_body {routine : Routine} (besides : routine.besides = true) :
    (body config routine).Returns (fun onward => onward = none ∨ onward = some .readLoop) := by
  have failed : ∀ err unexpected, (readFailed config err unexpected).Returns
      (fun onward => onward = none ∨ onward = some .readLoop) := by
    intro err unexpected
    have ends : ∀ connected : Bool, (if connected then do
          sendForceClose err
          runlock
          return none
        else do
          runlock
          return none : Prog (Option Routine)).Returns
        (fun onward => onward = none ∨ onward = some .readLoop) := by
      intro connected
      cases connected with
      | true => exact fun _ _ => .inl rfl
      | false => exact fun _ => .inl rfl
    unfold readFailed
    cases unexpected with
    | true => exact fun _ _ connected => ends connected
    | false => exact fun _ connected => ends connected
  cases routine with
  | readPump =>
    intro _ connected _
    cases connected with
    | true => exact returns_bind getReadTimeout fun _ _ => .inr rfl
    | false => exact fun _ => .inl rfl
  | readLoop =>
    intro incoming
    cases incoming with
    | failure err unexpected => exact failed err unexpected
    | ping appData =>
      simp only [bind_done]
      split
      · refine returns_bind (onPing appData) ?_
        intro outcome
        cases outcome with
        | some err => exact failed err false
        | none => exact .inr rfl
      · exact .inr rfl
    | pong appData =>
      simp only [bind_done]
      split
      · refine returns_bind onPong ?_
        intro outcome
        cases outcome with
        | some err => exact failed err false
        | none => exact .inr rfl
      · exact .inr rfl
    | message data =>
      intro outcome
      cases outcome with
      | some err => exact fun _ => returns_bind getReadTimeout fun _ _ => .inr rfl
      | none => exact returns_bind getReadTimeout fun _ _ => .inr rfl
  | remoteAddr => exact fun _ => .inl rfl
  | isConnected => exact returns_bind isConnected fun _ => .inl rfl
  | write msg => exact returns_bind (writeManual config msg) fun _ => .inl rfl
  | close closeErr => exact returns_bind (close config closeErr) fun _ => .inl rfl
  | run | writePump | writeLoop => cases besides

/-- Which operations change which parts of a socket. -/
structure Frame (op : Op) (pre after : Shared) : Prop where
  writePump : op ≠ .goWritePump -> after.writePump = pre.writePump
  writer : op ≠ .lock -> op ≠ .unlock -> after.mutex.writer = pre.mutex.writer
  closeC : (∀ closeErr, op ≠ .sendClose closeErr) ->
    after.closeC.capacity = pre.closeC.capacity ∧
      (pre.closeC.buffer = [] -> after.closeC.buffer = [])

theorem execute_frame {tid : Nat} {op : Op} {choice : Choice} {s : Shared}
    {result : Res op × Shared}
    (exec : execute config tid op choice s = some result) :
    Frame op s result.2 := by
  cases op with
  | rlock =>
    rcases Option.map_eq_some_iff.mp exec with ⟨locked, taken, rfl⟩
    have known := Sync.RWMutex.rlock_eq_some taken
    exact ⟨fun _ => rfl, fun _ _ => known.2.2.trans known.1.symm, fun _ => ⟨rfl, id⟩⟩
  | lock =>
    rcases Option.map_eq_some_iff.mp exec with ⟨_, _, rfl⟩
    exact ⟨fun _ => rfl, fun free => absurd rfl free, fun _ => ⟨rfl, id⟩⟩
  | select =>
    cases choice with
    | arm arm =>
      cases arm with
      | ping | out | forced =>
        rcases Option.map_eq_some_iff.mp exec with ⟨_, _, rfl⟩
        exact ⟨fun _ => rfl, fun _ _ => rfl, fun _ => ⟨rfl, id⟩⟩
      | close =>
        rcases Option.map_eq_some_iff.mp exec with ⟨received, taken, rfl⟩
        refine ⟨fun _ => rfl, fun _ _ => rfl, fun _ => ?_⟩
        unfold Sync.Chan.receive at taken
        grind
      | _ => constructor <;> grind [execute, select]
    | _ => cases exec
  | _ =>
    dsimp only [execute, Shared.dereference, Shared.fault, Sync.RWMutex.runlock, Sync.Chan.close]
      at exec
    constructor <;> grind

end Socket

namespace Server

/-! ## Places -/

/-- What the owner of a socket has done. -/
inductive Stage where
  /-- the socket was made and is not registered -/
  | holding
  /-- its registration waits for the end of an older socket -/
  | evicting (old : Nat)
  /-- the older socket has been torn down -/
  | torn (old : Nat)
  /-- registered after an eviction; the transition is open -/
  | enrolled
  /-- registered; the write pump is not started -/
  | launching
  /-- the write pump, until it tells the server -/
  | pumping
  /-- the write pump, between taking the lock of the socket and releasing it -/
  | locking
  | removed
  | superseded
  /-- found not to be superseded -/
  | emitting
  | emitted
  | ret
  /-- the transition is closed -/
  | closed
  deriving DecidableEq

/-- Where a goroutine is. -/
inductive Place where
  | idle
  /-- the upgrade handler, after it has started the pumps -/
  | welcoming (sock : Nat) (id : String)
  /-- the write pump, when it is done -/
  | finished
  | seat (sock : Nat) (id : String) (stage : Stage)
  deriving DecidableEq

/-- The places in which a goroutine uses sockets and reports errors. -/
def Place.mild : Place -> Bool
  | .idle | .seat _ _ (.evicting _) | .seat _ _ (.torn _) | .seat _ _ .pumping => true
  | _ => false

/-- The places in which a goroutine has the lock of its socket. -/
def Place.locked : Place -> Bool
  | .seat _ _ .locking => true
  | _ => false

namespace Registration

/-- The operations of the mild places. -/
@[reducible] def mild : Op -> Bool
  | .error _ | .rejectConnection _ _ _ | .isCurrent _ _ | .messageHandler _ _ => true
  | .sock _ op => op.plain
  | _ => false

/-- The operations of the goroutines that own no socket. -/
@[reducible] def common : Op -> Bool
  | .upgrade | .lookup _ | .lockAll | .unlockAll | .reset | .registerOnShutdown | .readHttpServer
  | .httpShutdown | .closeErrC => true
  | _ => false

/-- The operations inside a socket. -/
@[reducible] def inner : Op -> Bool
  | .sock _ op => op.plain
  | _ => false

/-- The operations that leave their goroutine in its place. -/
@[reducible] def calm (op : Op) (place : Place) : Prop :=
  (mild op = true ∧ place.mild = true) ∨ (common op = true ∧ place = .idle) ∨
    (inner op = true ∧ place.locked = true)

/-- The place where a routine begins.  The pumps are started by the upgrade handler only. -/
def entry : Routine -> Place -> Prop
  | .sock _ _ .run, _ => False
  | .sock sock id .writePump, place => place = .seat sock id .pumping
  | .sock sock id (.writeLoop _), place => place = .seat sock id .pumping
  | _, place => place = .idle

/-- Where a goroutine may end. -/
def leave : Place -> Prop
  | .seat _ _ .pumping => True
  | .seat _ _ _ => False
  | _ => True

variable (opts : Settings)

/-- The operations of a place. -/
def allowed (op : Op) (place : Place) : Prop :=
  match op with
  | .newWebSocket _ => place = .idle
  | .register sock id => place = .seat sock id .holding
  | .awaitTeardown old => ∃ sock id, place = .seat sock id (.evicting old)
  | .registerAgain sock id => ∃ old, place = .seat sock id (.torn old)
  | .decrementGate id => ∃ sock stage, place = .seat sock id stage ∧
      ((∃ old, stage = .evicting old ∨ stage = .torn old) ∨ stage = .enrolled ∨
        stage = .superseded ∨ stage = .ret)
  | .newClientHandler sock => ∃ id, place = .welcoming sock id
  | .remove sock id => place = .seat sock id .pumping
  | .superseded id => ∃ sock, place = .seat sock id .removed
  | .disconnectedHandler sock => opts.disconnectedHandler = true ∧
      ∃ id, place = .seat sock id .emitting
  | .handlerReturned sock => ∃ id,
      place = .seat sock id (if opts.disconnectedHandler then .emitted else .emitting)
  | .closeTeardown sock => ∃ id, place = .seat sock id .closed
  | .sock sock .lock => ∃ id, place = .seat sock id .pumping
  | .sock sock .unlock => ∃ id, place = .seat sock id .locking
  | .sock sock .goReadPump => ∃ id, place = .seat sock id .launching
  | .sock sock .goWritePump => ∃ id, place = .seat sock id .launching
  | op => calm op place

/-- The place after an answer. -/
def move : (op : Op) -> Place -> Res op -> Place
  | .newWebSocket id, _, sock => .seat sock id .holding
  | .register sock id, _, .accepted => .seat sock id .launching
  | .register sock id, _, .evict old => .seat sock id (.evicting old)
  | .register _ _, _, _ => .idle
  | .awaitTeardown old, .seat sock id _, true => .seat sock id (.torn old)
  | .registerAgain sock id, _, .accepted => .seat sock id .enrolled
  | .decrementGate _, .seat sock id .enrolled, _ => .seat sock id .launching
  | .decrementGate _, .seat sock id .superseded, _ => .seat sock id .closed
  | .decrementGate _, .seat sock id .ret, _ => .seat sock id .closed
  | .decrementGate _, _, _ => .idle
  | .newClientHandler _, _, _ => .idle
  | .remove sock id, _, _ => .seat sock id .removed
  | .superseded _, .seat sock id _, true => .seat sock id .superseded
  | .superseded _, .seat sock id _, false => .seat sock id .emitting
  | .disconnectedHandler _, .seat sock id _, _ => .seat sock id .emitted
  | .handlerReturned _, .seat sock id _, _ => .seat sock id .ret
  | .closeTeardown _, _, _ => .finished
  | .sock _ .lock, .seat sock id _, _ => .seat sock id .locking
  | .sock _ .unlock, .seat sock id _, _ => .seat sock id .pumping
  | .sock _ .goWritePump, .seat sock id _, _ => .welcoming sock id
  | _, place, _ => place

/-- A socket that is registered is the current one when it goes. -/
def possible : (op : Op) -> Res op -> Prop
  | .remove _ _, current => current = true
  | _, _ => True

/-- The paths of the goroutines. -/
def paths : Protocol Op Res Routine Place where
  fits := fun _ _ => True
  allowed := allowed opts
  next := fun op place ans onward =>
    possible op ans ∧ onward = move op place ans

/-! ## The programs keep to their places -/

section

variable {opts : Settings} {α : Type} {routine : Routine} {post : α -> Place -> Prop}
  {place : Place}

variable {op : Op}

theorem obeys_step {resume : Res op -> Prog α}
    (legal : allowed opts op place)
    (goesOn : ∀ ans, possible op ans -> (resume ans).Obeys (paths opts)
      routine post (move op place ans)) :
    (Program.act op resume).Obeys (paths opts) routine post place :=
  ⟨trivial, legal, fun ans _ moved => moved.2 ▸ goesOn ans moved.1⟩

theorem allowed_of_mild (calm : mild op = true) (here : place.mild = true) :
    allowed opts op place := by
  cases op with
  | error | rejectConnection | isCurrent | messageHandler => exact .inl ⟨calm, here⟩
  | sock sock op =>
    cases op with
    | lock | unlock | goReadPump | goWritePump | onClosed => cases calm
    | _ => exact .inl ⟨calm, here⟩
  | _ => cases calm

theorem move_of_mild (calm : mild op = true) (ans : Res op) :
    move op place ans = place := by
  cases op with
  | error | rejectConnection | isCurrent | messageHandler => rfl
  | sock sock op =>
    cases op with
    | lock | unlock | goReadPump | goWritePump | onClosed => cases calm
    | _ => rfl
  | _ => cases calm

theorem allowed_of_common (plain : common op = true) : allowed opts op .idle := by
  cases op with
  | upgrade | lookup | lockAll | unlockAll | reset | registerOnShutdown | readHttpServer
  | httpShutdown | closeErrC => exact .inr (.inl ⟨plain, rfl⟩)
  | _ => cases plain

theorem move_of_common (plain : common op = true) (ans : Res op) :
    move op place ans = place := by
  cases op with
  | upgrade | lookup | lockAll | unlockAll | reset | registerOnShutdown | readHttpServer
  | httpShutdown | closeErrC => rfl
  | _ => cases plain

variable {prog : Prog α}

/-- A program of mild operations stays where it is. -/
theorem obeys_mild (here : place.mild = true)
    (uses : prog.Uses (fun op => mild op = true)) :
    prog.Obeys (paths opts) routine (fun _ final => final = place) place := by
  refine obeys_of_still trivial (fun _ calm => allowed_of_mild calm here) ?_ uses
  rintro op ans onward calm ⟨_, rfl⟩
  exact move_of_mild calm ans

theorem mild_handleMessage (sock : Nat) (id : String) (data : List UInt8) :
    (handleMessage opts sock id data).Uses (fun op => mild op = true) := by
  refine ⟨rfl, ?_⟩
  intro current
  cases current with
  | false => trivial
  | true =>
    simp only [bind_done, if_true]
    split
    · exact ⟨rfl, fun _ => trivial⟩
    · trivial

/-- A function of a socket that neither starts nor ends it. -/
theorem obeys_inSocket (here : place.mild = true) (sock : Nat) (id : String)
    {prog : Socket.Prog α} (plain : Socket.Plain prog) :
    (inSocket opts sock id prog).Obeys (paths opts) routine
      (fun _ final => final = place) place := by
  apply obeys_mild here
  apply plain.interpret
  intro op plain
  cases op with
  | onMessage data => exact mild_handleMessage sock id data
  | onError err => exact ⟨rfl, fun _ => trivial⟩
  | lock | unlock | goReadPump | goWritePump | onClosed => cases plain
  | _ => exact ⟨rfl, fun _ => trivial⟩

theorem obeys_refused (here : place.mild = true) (sock : Nat) (err reason : String) :
    (refused sock err reason).Obeys (paths opts) routine
      (fun accepted final => accepted = false ∧ final = place) place := by
  have calm : (refused sock err reason).Uses (fun op => mild op = true) :=
    ⟨rfl, fun _ => ⟨rfl, fun _ => trivial⟩⟩
  have returns : (refused sock err reason).Returns (fun accepted => accepted = false) :=
    fun _ _ => rfl
  exact (obeys_mild here calm).and_returns returns

/-- The registration ends with the socket registered, or with nothing. -/
theorem obeys_registerNewConnection (sock : Nat) (id : String) :
    (registerNewConnection opts sock id).Obeys (paths opts) routine
      (fun accepted final =>
        (accepted = true ∧ final = .seat sock id .launching) ∨ (accepted = false ∧ final = .idle))
      (.seat sock id .holding) := by
  refine obeys_step rfl ?_
  intro verdict _
  cases verdict with
  | accepted => exact ⟨trivial, .inl ⟨rfl, rfl⟩⟩
  | evict old =>
    apply (obeys_inSocket rfl old id (Socket.plain_close _)).bind
    rintro _ _ rfl
    -- the deferred decrement runs whatever came of the second attempt
    have settled accepted final (ended : (accepted = true ∧ final = .seat sock id .enrolled) ∨
        (accepted = false ∧ ∃ old, final = .seat sock id (.evicting old) ∨
          final = .seat sock id (.torn old))) :
        (do decrementGate id; return accepted : Prog Bool).Obeys (paths opts) routine
          (fun accepted final => (accepted = true ∧ final = .seat sock id .launching) ∨
            (accepted = false ∧ final = .idle)) final := by
      rcases ended with ⟨rfl, rfl⟩ | ⟨rfl, older, rfl | rfl⟩
      · refine obeys_step ⟨sock, .enrolled, rfl, .inr (.inl rfl)⟩ fun _ _ => ?_
        exact ⟨trivial, .inl ⟨rfl, rfl⟩⟩
      · refine obeys_step ⟨sock, .evicting older, rfl, .inl ⟨older, .inl rfl⟩⟩ fun _ _ => ?_
        exact ⟨trivial, .inr ⟨rfl, rfl⟩⟩
      · refine obeys_step ⟨sock, .torn older, rfl, .inl ⟨older, .inr rfl⟩⟩ fun _ _ => ?_
        exact ⟨trivial, .inr ⟨rfl, rfl⟩⟩
    refine Program.Obeys.bind ?_ settled
    refine obeys_step ⟨sock, id, rfl⟩ ?_
    intro torn _
    cases torn with
    | false =>
      apply (obeys_refused rfl sock _ _).mono
      rintro accepted final ⟨rfl, rfl⟩
      exact .inr ⟨rfl, old, .inl rfl⟩
    | true =>
      refine obeys_step ⟨old, rfl⟩ ?_
      intro verdict _
      cases verdict with
      | accepted => exact ⟨trivial, .inl ⟨rfl, rfl⟩⟩
      | _ =>
        apply (obeys_refused rfl sock _ _).mono
        rintro accepted final ⟨rfl, rfl⟩
        exact .inr ⟨rfl, old, .inr rfl⟩
  | _ => exact (obeys_refused rfl sock _ _).mono fun _ _ refused => .inr refused

theorem obeys_connect (id : String) :
    (connect opts id).Obeys (paths opts) routine (fun _ final => leave final) .idle := by
  refine obeys_step rfl ?_
  intro sock _
  apply (obeys_registerNewConnection sock id).bind
  rintro accepted final (⟨rfl, rfl⟩ | ⟨rfl, rfl⟩)
  · refine obeys_step ⟨id, rfl⟩ fun _ _ => ?_
    refine obeys_step ⟨id, rfl⟩ fun _ _ => ?_
    simp only [bind_done, interpret_done]
    by_cases handled : opts.newClientHandler = true
    · rw [if_pos handled]
      exact obeys_step ⟨id, rfl⟩ fun _ _ => ⟨trivial, trivial⟩
    · rw [if_neg handled]
      exact ⟨trivial, trivial⟩
  · exact ⟨trivial, trivial⟩

/-- A goroutine without a socket. -/
theorem obeys_idle
    (uses : prog.Uses (fun op => mild op = true ∨ common op = true)) :
    prog.Obeys (paths opts) routine (fun _ final => final = .idle) .idle := by
  refine obeys_of_still trivial ?_ ?_ uses
  · rintro op (calm | plain)
    · exact allowed_of_mild calm rfl
    · exact allowed_of_common plain
  · rintro op ans onward (calm | plain) ⟨_, rfl⟩
    · exact move_of_mild calm ans
    · exact move_of_common plain ans

theorem idle_error (err : String) :
    (error err).Uses (fun op => mild op = true ∨ common op = true) :=
  ⟨.inl rfl, fun _ => trivial⟩

theorem obeys_wsHandler (request : Request) :
    (wsHandler opts request).Obeys (paths opts) routine (fun _ final => leave final)
      .idle := by
  have reports : ∀ err, (error err).Obeys (paths opts) routine
      (fun _ final => leave final) .idle := by
    intro err
    apply (obeys_idle (idle_error err)).mono
    rintro _ _ rfl
    trivial
  unfold wsHandler
  split
  · exact reports _
  · split
    · split
      · refine obeys_step (.inr (.inl ⟨rfl, rfl⟩)) ?_
        intro outcome _
        cases outcome with
        | some err => exact reports _
        | none =>
          simp only [bind_done]
          split
          · exact reports _
          · exact obeys_connect _
      · exact reports _
    · exact reports _

theorem obeys_handleDisconnect (sock : Nat) (id : String) :
    (handleDisconnect opts sock id).Obeys (paths opts) routine
      (fun _ final => final = .finished) (.seat sock id .pumping) := by
  have ends : (do decrementGate id; closeTeardown sock : Prog Unit).Obeys (paths opts)
      routine (fun _ final => final = .finished) (.seat sock id .ret) := by
    refine obeys_step ⟨sock, .ret, rfl, .inr (.inr (.inr rfl))⟩ fun _ _ => ?_
    exact obeys_step ⟨id, rfl⟩ fun _ _ => ⟨trivial, rfl⟩
  refine obeys_step rfl ?_
  intro current remains
  obtain rfl := remains
  refine obeys_step ⟨sock, rfl⟩ ?_
  intro superseded _
  cases superseded with
  | true =>
    refine obeys_step ⟨sock, .superseded, rfl, .inr (.inr (.inl rfl))⟩ fun _ _ => ?_
    exact obeys_step ⟨id, rfl⟩ fun _ _ => ⟨trivial, rfl⟩
  | false =>
    simp only [bind_done, Bool.false_eq_true, if_false]
    by_cases handled : opts.disconnectedHandler = true
    · simp only [handled, if_true]
      refine obeys_step ⟨handled, id, rfl⟩ fun _ _ => ?_
      refine obeys_step ⟨id, ?_⟩ fun _ _ => ends
      rw [if_pos handled]
      rfl
    · rw [Bool.not_eq_true] at handled
      simp only [handled, Bool.false_eq_true, if_false]
      refine obeys_step ⟨id, ?_⟩ fun _ _ => ends
      rw [handled]
      rfl

variable {sock : Nat} {id : String}

section

variable {op : Socket.Op} {resume : Socket.Res op -> Socket.Prog α}
  (plain : op.plain = true)
include plain

/-- A plain operation of the write pump. -/
theorem obeys_pump
    (goesOn : ∀ ans, (inSocket opts sock id (resume ans)).Obeys
      (paths opts) routine post (.seat sock id .pumping)) :
    (inSocket opts sock id (.act op resume)).Obeys (paths opts) routine
      post (.seat sock id .pumping) := by
  have single : Socket.Plain (Program.act op .done : Socket.Prog _) :=
    ⟨plain, fun _ => trivial⟩
  have first : (inSocket opts sock id (.act op .done)).Obeys (paths opts)
      routine (fun _ final => final = .seat sock id .pumping) (.seat sock id .pumping) :=
    obeys_inSocket rfl sock id single
  have split : inSocket opts sock id (.act op resume) =
      (inSocket opts sock id (.act op .done) >>= fun ans =>
        inSocket opts sock id (resume ans)) :=
    interpret_bind (Program.act op .done) resume
  rw [split]
  apply first.bind
  rintro ans _ rfl
  exact goesOn ans

/-- An operation of the write pump while it has the lock. -/
theorem obeys_locked (message : ∀ data, op ≠ .onMessage data)
    (error : ∀ err, op ≠ .onError err)
    (goesOn : ∀ ans, (inSocket opts sock id (resume ans)).Obeys
      (paths opts) routine post (.seat sock id .locking)) :
    (inSocket opts sock id (.act op resume)).Obeys (paths opts) routine
      post (.seat sock id .locking) := by
  cases op with
  | lock | unlock | goReadPump | goWritePump | onClosed => cases plain
  | onMessage data => exact absurd rfl (message data)
  | onError err => exact absurd rfl (error err)
  | _ => exact obeys_step (.inr (.inr ⟨rfl, rfl⟩)) fun ans _ => goesOn ans

end

/-- The teardown of the socket ends with the server being told. -/
theorem obeys_cleanup (err : Option String) :
    (inSocket opts sock id (Socket.cleanup err)).Obeys (paths opts) routine
      (fun _ final => final = .finished) (.seat sock id .pumping) := by
  refine obeys_pump rfl fun _ => ?_
  refine obeys_step ⟨id, rfl⟩ fun _ _ => ?_
  -- waiting for the readers, clearing and closing are the socket's own business
  iterate 7
    refine obeys_locked rfl nofun nofun fun _ => ?_
  refine obeys_step ⟨id, rfl⟩ fun _ _ => ?_
  apply (obeys_handleDisconnect sock id).bind
  rintro _ _ rfl
  exact ⟨trivial, rfl⟩

theorem obeys_ends (err : Option String) :
    (inSocket opts sock id
      (do Socket.cleanup err; return none : Socket.Prog (Option Socket.Routine))).Obeys
      (paths opts) routine
      (fun onward final => cont entry leave
        (onward.map (Routine.sock sock id)) final) (.seat sock id .pumping) := by
  have split : inSocket opts sock id
      (do Socket.cleanup err; return none : Socket.Prog (Option Socket.Routine)) =
      (inSocket opts sock id (Socket.cleanup err) >>= fun _ => .done none) :=
    interpret_bind (Socket.cleanup err) _
  rw [split]
  apply (obeys_cleanup err).bind
  rintro _ _ rfl
  exact ⟨trivial, trivial⟩

variable {conn : Bool}

/-- The loop of the write pump goes on. -/
theorem obeys_again :
    (inSocket opts sock id
      (.done (some (.writeLoop conn)) : Socket.Prog (Option Socket.Routine))).Obeys
      (paths opts) routine
      (fun onward final => cont entry leave
        (onward.map (Routine.sock sock id)) final) (.seat sock id .pumping) :=
  ⟨trivial, rfl⟩

theorem obeys_transmit (msg : Socket.Message) (failure : String) :
    (inSocket opts sock id (Socket.transmit (opts.config id) conn msg failure)).Obeys
      (paths opts) routine
      (fun onward final => cont entry leave
        (onward.map (Routine.sock sock id)) final) (.seat sock id .pumping) := by
  refine obeys_pump rfl ?_
  intro outcome
  cases outcome with
  | some err => exact obeys_pump rfl fun _ => obeys_ends _
  | none => exact obeys_again

theorem obeys_writeLoop :
    (inSocket opts sock id (Socket.writeLoop (opts.config id) conn)).Obeys
      (paths opts) routine
      (fun onward final => cont entry leave
        (onward.map (Routine.sock sock id)) final) (.seat sock id .pumping) := by
  refine obeys_pump rfl ?_
  intro selected
  cases selected with
  | tick => exact obeys_transmit _ _
  | ping data => exact obeys_transmit _ _
  | out msg =>
    cases msg with
    | none => exact obeys_pump rfl fun _ => ⟨trivial, trivial⟩
    | some msg => exact obeys_transmit _ _
  | close closeErr =>
    refine obeys_pump rfl ?_
    intro outcome
    cases outcome with
    | some err => exact obeys_pump rfl fun _ => obeys_ends _
    | none => exact obeys_ends _
  | forced err => exact obeys_ends _

theorem obeys_closeAll (sockets : List (Sigma fun _ : String => Nat)) :
    (closeAll opts sockets).Obeys (paths opts) routine (fun _ final => final = .idle)
      .idle := by
  induction sockets with
  | nil => exact ⟨trivial, rfl⟩
  | cons entry rest ih =>
    apply (obeys_inSocket rfl entry.2 entry.1 (Socket.plain_close _)).bind
    rintro _ _ rfl
    exact ih

theorem obeys_stopConnections :
    (stopConnections opts).Obeys (paths opts) routine (fun _ final => final = .idle)
      .idle := by
  refine obeys_step (.inr (.inl ⟨rfl, rfl⟩)) fun sockets _ => ?_
  apply (obeys_closeAll sockets).bind
  rintro _ _ rfl
  exact obeys_step (.inr (.inl ⟨rfl, rfl⟩)) fun _ _ => ⟨trivial, rfl⟩

theorem idle_shutdown :
    shutdown.Uses (fun op => mild op = true ∨ common op = true) := by
  refine ⟨.inr rfl, fun _ => ⟨.inr rfl, ?_⟩⟩
  intro outcome
  cases outcome with
  | some err => exact ⟨.inl rfl, fun _ => ⟨.inr rfl, fun _ => trivial⟩⟩
  | none => exact ⟨.inr rfl, fun _ => trivial⟩

/-- A call that looks a socket up and uses it. -/
theorem obeys_lookup {found : Nat -> Socket.Prog (Option String)} {missing : Option String}
    (plain : ∀ sock, Socket.Plain (found sock)) :
    (do
      match ← lookup id with
      | none => return missing
      | some sock => inSocket opts sock id (found sock) :
        Prog (Option String)).Obeys (paths opts) routine (fun _ final => final = .idle)
      .idle := by
  refine obeys_step (.inr (.inl ⟨rfl, rfl⟩)) ?_
  intro present _
  cases present with
  | none => exact ⟨trivial, rfl⟩
  | some sock => exact obeys_inSocket rfl sock id (plain sock)

/-- A function that leaves its goroutine idle, and the end of the goroutine. -/
theorem obeys_returning
    (obeys : prog.Obeys (paths opts) routine (fun _ final => leave final) place) :
    (do let _ ← prog; return none : Prog (Option Routine)).Obeys (paths opts) routine
      (cont entry leave) place := by
  apply obeys.bind
  intro _ final leaves
  exact ⟨trivial, leaves⟩

theorem leave_of_idle {final : Place} (idle : final = .idle) : leave final := by
  subst idle
  trivial

theorem obeys_socket {inner : Socket.Routine} (starts : inner ≠ .run)
    (begins : entry (.sock sock id inner) place) :
    (body opts (.sock sock id inner)).Obeys (paths opts) (.sock sock id inner)
      (cont entry leave) place := by
  have others : inner.besides = true -> (body opts (.sock sock id inner)).Obeys
      (paths opts) (.sock sock id inner) (cont entry leave) .idle := by
    intro besides
    have returns : (inSocket opts sock id (Socket.body (opts.config id) inner)).Returns
        (fun onward => onward = none ∨ onward = some .readLoop) :=
      (Socket.returns_body besides).interpret
    apply ((obeys_inSocket rfl sock id (Socket.plain_body besides)).and_returns returns).bind
    rintro onward _ ⟨rfl | rfl, rfl⟩
    · exact ⟨trivial, trivial⟩
    · exact ⟨trivial, rfl⟩
  cases inner with
  | run => exact absurd rfl starts
  | writePump =>
    obtain rfl := begins
    have pump : (inSocket opts sock id Socket.writePump).Obeys (paths opts)
        (.sock sock id .writePump) (fun onward final => cont entry leave
          (onward.map (Routine.sock sock id)) final) (.seat sock id .pumping) :=
      obeys_pump rfl fun _ => obeys_pump rfl fun _ => obeys_pump rfl fun _ => obeys_again
    apply pump.bind
    intro onward final continues
    exact ⟨trivial, continues⟩
  | writeLoop conn =>
    obtain rfl := begins
    apply obeys_writeLoop.bind
    intro onward final continues
    exact ⟨trivial, continues⟩
  | readPump | readLoop | remoteAddr | isConnected | write | close =>
    obtain rfl := begins
    exact others rfl

/-- Every goroutine keeps to its path. -/
theorem obeys_paths (routine : Routine) (place : Place) (begins : entry routine place) :
    (body opts routine).Obeys (paths opts) routine (cont entry leave) place := by
  have idle : ∀ {α : Type} {prog : Prog α}, prog.Obeys (paths opts) routine
      (fun _ final => final = .idle) .idle ->
      (do let _ ← prog; return none : Prog (Option Routine)).Obeys (paths opts) routine
        (cont entry leave) .idle :=
    fun obeys => obeys_returning (obeys.mono fun _ _ => leave_of_idle)
  cases routine with
  | sock sock id inner =>
    apply obeys_socket _ begins
    rintro rfl
    exact begins
  | start =>
    obtain rfl := begins
    exact idle (obeys_idle ⟨.inr rfl, fun _ => ⟨.inr rfl, fun _ => trivial⟩⟩)
  | shutdown =>
    obtain rfl := begins
    exact idle (obeys_idle idle_shutdown)
  | stopConnections =>
    obtain rfl := begins
    exact idle obeys_stopConnections
  | stopConnection id closeErr =>
    obtain rfl := begins
    exact idle (obeys_lookup fun _ => Socket.plain_close closeErr)
  | write id data =>
    obtain rfl := begins
    exact idle (obeys_lookup fun _ => Socket.plain_writeManual _)
  | wsHandler request =>
    obtain rfl := begins
    exact obeys_returning (obeys_wsHandler request)

end

/-- The stages of a write pump. -/
def pumps : Stage -> Bool
  | .holding | .evicting _ | .torn _ | .enrolled | .launching => false
  | _ => true

/-- A write pump is the owner of its socket, or done. -/
def fits : Routine -> Place -> Prop
  | .sock sock id .writePump, place | .sock sock id (.writeLoop _), place =>
    (∃ stage, pumps stage = true ∧ place = .seat sock id stage) ∨ place = .finished
  | _, _ => True

def protocol : Protocol Op Res Routine Place := { paths opts with fits := fits }

section

variable {opts : Settings}

variable {op : Op} {place : Place}

theorem move_of_calm (still : calm op place) (ans : Res op) :
    move op place ans = place := by
  rcases still with ⟨here, _⟩ | ⟨plain, _⟩ | ⟨inside, _⟩
  · exact move_of_mild here ans
  · exact move_of_common plain ans
  · cases op with
    | sock sock op =>
      have plain : mild (.sock sock op) = true := inside
      exact move_of_mild plain ans
    | _ => cases inside

/-- A write pump goes through its own stages only. -/
theorem pumps_of_move {sock : Nat} {id : String} {stage : Stage} (pump : pumps stage = true)
    (legal : allowed opts op (.seat sock id stage)) (ans : Res op) :
    (∃ onward, pumps onward = true ∧
      move op (.seat sock id stage) ans = .seat sock id onward) ∨
      move op (.seat sock id stage) ans = .finished := by
  have still : calm op (.seat sock id stage) -> ∃ onward, pumps onward = true ∧
      move op (.seat sock id stage) ans = .seat sock id onward :=
    fun calm => ⟨stage, pump, move_of_calm calm ans⟩
  cases op with
  | newWebSocket => cases legal
  | newClientHandler => obtain ⟨_, ⟨⟩⟩ := legal
  | register sock id =>
    cases legal
    cases pump
  | registerAgain sock id =>
    obtain ⟨old, ⟨⟩⟩ := legal
    cases pump
  | awaitTeardown old =>
    obtain ⟨_, _, ⟨⟩⟩ := legal
    cases pump
  | decrementGate id =>
    rcases legal with ⟨_, _, ⟨⟩, ⟨old, rfl | rfl⟩ | rfl | rfl | rfl⟩
    · cases pump
    · cases pump
    · cases pump
    · exact .inl ⟨.closed, rfl, rfl⟩
    · exact .inl ⟨.closed, rfl, rfl⟩
  | remove sock id =>
    cases legal
    exact .inl ⟨.removed, rfl, rfl⟩
  | superseded id =>
    cases ans with
    | true => exact .inl ⟨.superseded, rfl, rfl⟩
    | false => exact .inl ⟨.emitting, rfl, rfl⟩
  | disconnectedHandler sock => exact .inl ⟨.emitted, rfl, rfl⟩
  | handlerReturned sock => exact .inl ⟨.ret, rfl, rfl⟩
  | closeTeardown sock => exact .inr rfl
  | sock sock op =>
    cases op with
    | lock => exact .inl ⟨.locking, rfl, rfl⟩
    | unlock => exact .inl ⟨.pumping, rfl, rfl⟩
    | goReadPump | goWritePump =>
      obtain ⟨_, ⟨⟩⟩ := legal
      cases pump
    | _ => exact .inl (still legal)
  | _ => exact .inl (still legal)

/-- Nothing is left to do for a write pump that is done. -/
theorem not_allowed_finished : ¬ allowed opts op .finished := by
  have still : ¬ calm op .finished := by
    rintro (⟨_, mild⟩ | ⟨_, idle⟩ | ⟨_, locked⟩)
    · cases mild
    · cases idle
    · cases locked
  intro legal
  cases op with
  | newWebSocket | register | remove => cases legal
  | registerAgain | newClientHandler | superseded | handlerReturned | closeTeardown =>
    obtain ⟨_, ⟨⟩⟩ := legal
  | awaitTeardown => obtain ⟨_, _, ⟨⟩⟩ := legal
  | decrementGate => obtain ⟨_, _, ⟨⟩, _⟩ := legal
  | disconnectedHandler => obtain ⟨_, _, ⟨⟩⟩ := legal
  | sock sock op =>
    cases op with
    | lock | unlock | goReadPump | goWritePump => obtain ⟨_, ⟨⟩⟩ := legal
    | _ => exact still legal
  | _ => exact still legal

theorem fits_of_entry {routine : Routine} (begins : entry routine place) : fits routine place := by
  cases routine with
  | sock sock id inner =>
    cases inner with
    | writePump | writeLoop => exact .inl ⟨.pumping, rfl, begins⟩
    | _ => trivial
  | _ => trivial

theorem fits_of_move {routine : Routine} (here : fits routine place)
    (legal : allowed opts op place) (ans : Res op) :
    fits routine (move op place ans) := by
  have pump : ∀ sock id, ((∃ stage, pumps stage = true ∧ place = .seat sock id stage) ∨
      place = .finished) -> ((∃ stage, pumps stage = true ∧
        move op place ans = .seat sock id stage) ∨ move op place ans = .finished) := by
    rintro sock id (⟨stage, pump, rfl⟩ | rfl)
    · exact pumps_of_move pump legal ans
    · exact absurd legal not_allowed_finished
  cases routine with
  | sock sock id inner =>
    cases inner with
    | writePump | writeLoop => exact pump sock id here
    | _ => trivial
  | _ => trivial

/-- Every goroutine keeps to the places. -/
theorem obeys_body (routine : Routine) (place : Place) (begins : entry routine place) :
    (body opts routine).Obeys (protocol opts) routine (cont entry leave) place := by
  apply (obeys_paths routine place begins).refit (fits_of_entry begins)
  rintro op place ans onward here legal ⟨_, rfl⟩
  exact fits_of_move here legal ans

end

end Registration

end Server
end Ws
end OcppGo
