import OcppGo.Interleaving.Protocol
import OcppGo.Sync.Ownership
import OcppGo.Ws.Socket

namespace OcppGo
namespace Ws
namespace Socket

open Function Interleaving Sync Program Option

/-!
# No panic during the teardown of a websocket

`cleanup` closes the channels of a socket and sets its connection to nil under the write lock.
`Write`, `Close` and the end of the `readPump` hold the read lock from their look at the
connection to their send, so they find the channels open.  Three places look at the connection
or use a channel without the lock: the ping callback, the pong callback and `RemoteAddr`.  They
panic when they come too late, and nothing else does.
-/

/-- The callbacks and `RemoteAddr` look at the connection before it is set to nil, and a ping is
passed on before its channel is closed. -/
@[reducible] def comesInTime : Condition where
  call _ _ := True
  op s _ op :=
    match op with
    | .snapshot => s.connection = true
    | .remoteAddr => s.connection = true
    | .sendPing _ => s.pingC.closed = false
    | _ => True

instance (s : Shared) (tid : Nat) (op : Op) :
    Decidable (comesInTime.op s tid op) := by
  rcases op <;> infer_instance

namespace Teardown

/-- How far `cleanup` has come. -/
inductive Phase where
  | signalled
  | announced
  | exclusive
  | shut
  | cleared
  | outClosed
  | pingClosed
  | closeClosed
  | forceClosed
  | released
  deriving DecidableEq

/-- Where a goroutine is.  The write pump is told apart from the others. -/
inductive Place where
  | beside
  | reading
  /-- holds the read lock and has seen the connection -/
  | admitted
  /-- `run`, before it starts the write pump -/
  | launching
  | pumping
  | pumpReading
  | cleaning (phase : Phase)
  deriving DecidableEq

/-- What a place holds of the socket's mutex. -/
def Place.hold : Place -> Hold
  | .reading | .admitted | .pumpReading => .reading
  | .cleaning .announced => .announced
  | .cleaning .exclusive | .cleaning .shut | .cleaning .cleared | .cleaning .outClosed
  | .cleaning .pingClosed | .cleaning .closeClosed | .cleaning .forceClosed => .writing
  | _ => .nothing

/-- The goroutine is the write pump. -/
def Place.owns : Place -> Bool
  | .pumping | .pumpReading | .cleaning _ => true
  | _ => false

/-- What the teardown changes. -/
@[grind cases, grind ext] structure Doors where
  connection : Bool
  done : Bool
  out : Bool
  ping : Bool
  close : Bool
  force : Bool

/-- What the write pump finds. -/
def Place.doors : Place -> Doors
  | .cleaning .signalled | .cleaning .announced | .cleaning .exclusive | .cleaning .shut =>
    ⟨true, true, false, false, false, false⟩
  | .cleaning .cleared => ⟨false, true, false, false, false, false⟩
  | .cleaning .outClosed => ⟨false, true, true, false, false, false⟩
  | .cleaning .pingClosed => ⟨false, true, true, true, false, false⟩
  | .cleaning .closeClosed => ⟨false, true, true, true, true, false⟩
  | .cleaning .forceClosed | .cleaning .released => ⟨false, true, true, true, true, true⟩
  | _ => ⟨true, false, false, false, false, false⟩

/-- The places of a routine. -/
def fits : Routine -> Place -> Prop
  | .run, place => place = .launching ∨ place = .beside
  | .writePump, place => place = .pumping ∨ place = .pumpReading
  | .writeLoop conn, place => conn = true ∧ (place = .pumping ∨ ∃ phase, place = .cleaning phase)
  | _, place => place = .beside ∨ place = .reading ∨ place = .admitted

/-- The place where a routine begins. -/
def entry : Routine -> Place -> Prop
  | .run, place => place = .launching
  | .writePump, place => place = .pumping
  | .writeLoop conn, place => conn = true ∧ place = .pumping
  | _, place => place = .beside

def leave (place : Place) : Prop :=
  place = .beside ∨ place = .pumping ∨ place = .cleaning .released

/-- The operations of a place. -/
def allowed : Op -> Place -> Prop
  | .rlock, place => place = .beside ∨ place = .pumping
  | .runlock, place => place.hold = .reading
  | .connection, place => place = .reading ∨ place = .pumpReading
  | .snapshot, place => place = .beside
  | .remoteAddr, place => place = .beside
  | .setReadDeadline conn, place => conn = true ∧ place = .beside
  | .readMessage conn, place => conn = true ∧ place = .beside
  | .writeMessage conn _, place => conn = true ∧ place = .pumping
  | .sendPing _, place => place = .beside
  | .sendForceClose _, place => place = .admitted
  | .sendOutQueue _, place => place = .admitted
  | .sendClose _, place => place = .admitted
  | .select, place => place = .pumping
  | .closeDone, place => place = .pumping
  | .lock, place => place = .cleaning .signalled
  | .awaitReaders, place => place = .cleaning .announced
  | .closeConnection, place => place = .cleaning .exclusive
  | .clearConnection, place => place = .cleaning .shut
  | .closeOutQueue, place => place = .cleaning .cleared
  | .closePingC, place => place = .cleaning .outClosed
  | .closeCloseC, place => place = .cleaning .pingClosed
  | .closeForceCloseC, place => place = .cleaning .closeClosed
  | .unlock, place => place = .cleaning .forceClosed
  | .onClosed _, place => place = .cleaning .released
  | .goReadPump, place => place = .launching
  | .goWritePump, place => place = .launching
  | .onMessage _, place => place = .beside
  | .onError _, place => place = .beside ∨ place = .pumping

/-- The place after an answer. -/
def move : (op : Op) -> Place -> Res op -> Place
  | .rlock, place, _ => if place = .pumping then .pumpReading else .reading
  | .runlock, place, _ => if place = .pumpReading then .pumping else .beside
  | .connection, place, connected => if place = .reading ∧ connected = true then .admitted else place
  | .closeDone, _, _ => .cleaning .signalled
  | .lock, _, _ => .cleaning .announced
  | .awaitReaders, _, _ => .cleaning .exclusive
  | .closeConnection, _, _ => .cleaning .shut
  | .clearConnection, _, _ => .cleaning .cleared
  | .closeOutQueue, _, _ => .cleaning .outClosed
  | .closePingC, _, _ => .cleaning .pingClosed
  | .closeCloseC, _, _ => .cleaning .closeClosed
  | .closeForceCloseC, _, _ => .cleaning .forceClosed
  | .unlock, _, _ => .cleaning .released
  | .goWritePump, _, _ => .beside
  | _, place, _ => place

/-- The answers that can be given: the callbacks come in time, and the write pump has not yet
torn the connection down when it looks at it. -/
def possible : (op : Op) -> Place -> Res op -> Prop
  | .snapshot, _, connected => connected = true
  | .connection, place, connected => place = .pumpReading -> connected = true
  | _, _, _ => True

def protocol : Protocol Op Res Routine Place where
  fits := fits
  allowed := allowed
  next := fun op place ans onward =>
    possible op place ans ∧ onward = move op place ans

/-! ## The programs keep to their places -/

section

variable {α : Type} {routine : Routine} {post : α -> Place -> Prop} {place : Place}

variable {op : Op}

variable {resume : Res op -> Prog α}

theorem obeys_step (belongs : fits routine place) (legal : allowed op place)
    (goesOn : ∀ ans, possible op place ans ->
      (resume ans).Obeys protocol routine post (move op place ans)) :
    (Program.act op resume).Obeys protocol routine post place :=
  ⟨belongs, legal, fun ans _ moved => moved.2 ▸ goesOn ans moved.1⟩

variable {config : Config}

/-- A routine that is neither `run` nor the write pump. -/
@[reducible] def ordinary : Routine -> Bool
  | .run | .writePump | .writeLoop _ => false
  | _ => true

section

variable (plain : ordinary routine = true)
include plain

theorem fits_of_ordinary (somewhere : place = .beside ∨ place = .reading ∨ place = .admitted)
    : fits routine place := by
  cases routine <;> first | exact somewhere | cases plain

theorem fits_beside : fits routine .beside :=
  fits_of_ordinary plain (.inl rfl)

theorem fits_reading : fits routine .reading :=
  fits_of_ordinary plain (.inr (.inl rfl))

theorem fits_admitted : fits routine .admitted :=
  fits_of_ordinary plain (.inr (.inr rfl))

theorem obeys_getReadTimeout :
    getReadTimeout.Obeys protocol routine (fun _ final => final = .beside) .beside := by
  refine obeys_step (fits_beside plain) (.inl rfl) fun _ _ => ?_
  refine obeys_step (fits_reading plain) rfl fun _ _ => ?_
  exact ⟨fits_beside plain, rfl⟩

/-- The look at the connection under the read lock, and what is done with it. -/
theorem obeys_guarded {sends refuses : Prog α}
    (sent : sends.Obeys protocol routine post .admitted)
    (refused : refuses.Obeys protocol routine post .reading) :
    (do rlock; if ← connection then sends else refuses).Obeys protocol routine post
      .beside := by
  refine obeys_step (fits_beside plain) (.inl rfl) fun _ _ => ?_
  refine obeys_step (fits_reading plain) (.inl rfl) ?_
  intro connected _
  cases connected with
  | true => exact sent
  | false => exact refused

/-- The unlock at the end. -/
theorem obeys_release {value : α} (holds : place = .reading ∨ place = .admitted)
    (leaves : post value .beside) :
    (do runlock; return value).Obeys protocol routine post place := by
  rcases holds with rfl | rfl
  · exact obeys_step (fits_reading plain) rfl fun _ _ => ⟨fits_beside plain, leaves⟩
  · exact obeys_step (fits_admitted plain) rfl fun _ _ => ⟨fits_beside plain, leaves⟩

theorem obeys_writeManual (msg : Message) :
    (writeManual config msg).Obeys protocol routine (fun _ final => final = .beside)
      .beside := by
  refine obeys_guarded plain ?_ (obeys_release plain (.inl rfl) rfl)
  refine obeys_step (fits_admitted plain) rfl ?_
  intro sent _
  cases sent with
  | _ => exact obeys_release plain (.inr rfl) rfl

theorem obeys_close (closeErr : CloseError) :
    (close config closeErr).Obeys protocol routine (fun _ final => final = .beside)
      .beside := by
  refine obeys_guarded plain ?_ (obeys_release plain (.inl rfl) rfl)
  refine obeys_step (fits_admitted plain) rfl ?_
  intro sent _
  cases sent with
  | _ => exact obeys_release plain (.inr rfl) rfl

/-- An operation after which an ordinary routine is where it was. -/
theorem obeys_plain (legal : allowed op .beside)
    (stays : ∀ ans, move op .beside ans = .beside)
    (goesOn : ∀ ans, possible op .beside ans ->
      (resume ans).Obeys protocol routine post .beside) :
    (Program.act op resume).Obeys protocol routine post .beside := by
  refine obeys_step (fits_beside plain) legal ?_
  intro ans given
  rw [stays ans]
  exact goesOn ans given

theorem obeys_readFailed (err : String) (unexpected : Bool) :
    (readFailed config err unexpected).Obeys protocol routine (cont entry leave)
      .beside := by
  have ends : (do
      rlock
      if ← connection then
        sendForceClose err
        runlock
        return none
      else
        runlock
        return none : Prog (Option Routine)).Obeys protocol routine (cont entry leave)
      .beside := by
    refine obeys_guarded plain ?_ (obeys_release plain (.inl rfl) (.inl rfl))
    refine obeys_step (fits_admitted plain) rfl fun _ _ => ?_
    exact obeys_release plain (.inr rfl) (.inl rfl)
  unfold readFailed
  cases unexpected with
  | true => exact obeys_plain plain (.inl rfl) (fun _ => rfl) fun _ _ => ends
  | false => exact ends

theorem obeys_onPing (appData : List UInt8) :
    (onPing appData).Obeys protocol routine (fun _ final => final = .beside) .beside := by
  refine obeys_plain plain rfl (fun _ => rfl) ?_
  rintro connected rfl
  refine obeys_plain plain rfl (fun _ => rfl) fun _ _ => ?_
  apply (obeys_getReadTimeout plain).bind
  rintro _ _ rfl
  refine obeys_plain plain ⟨rfl, rfl⟩ (fun _ => rfl) fun _ _ => ?_
  exact ⟨fits_beside plain, rfl⟩

theorem obeys_onPong :
    onPong.Obeys protocol routine (fun _ final => final = .beside) .beside := by
  refine obeys_plain plain rfl (fun _ => rfl) ?_
  rintro connected rfl
  apply (obeys_getReadTimeout plain).bind
  rintro _ _ rfl
  refine obeys_plain plain ⟨rfl, rfl⟩ (fun _ => rfl) fun _ _ => ?_
  exact ⟨fits_beside plain, rfl⟩

end

theorem obeys_readPump :
    (readPump config).Obeys protocol .readPump (cont entry leave) .beside := by
  refine obeys_step (.inl rfl) (.inl rfl) fun _ _ => ?_
  refine obeys_step (.inr (.inl rfl)) (.inl rfl) ?_
  intro connected _
  cases connected with
  | true =>
    refine obeys_step (.inr (.inr rfl)) rfl fun _ _ => ?_
    apply (obeys_getReadTimeout rfl).bind
    rintro _ _ rfl
    exact obeys_plain rfl ⟨rfl, rfl⟩ (fun _ => rfl) fun _ _ => ⟨.inl rfl, rfl⟩
  | false =>
    refine obeys_step (.inr (.inl rfl)) rfl fun _ _ => ?_
    exact obeys_plain rfl (.inl rfl) (fun _ => rfl) fun _ _ => ⟨.inl rfl, .inl rfl⟩

theorem obeys_readLoop :
    (readLoop config).Obeys protocol .readLoop (cont entry leave) .beside := by
  have again : (Program.done (some .readLoop) : Prog (Option Routine)).Obeys protocol .readLoop
      (cont entry leave) .beside := ⟨.inl rfl, rfl⟩
  have fails : ∀ err unexpected, (readFailed config err unexpected).Obeys protocol .readLoop
      (cont entry leave) .beside := fun err unexpected =>
    obeys_readFailed rfl err unexpected
  refine obeys_plain rfl ⟨rfl, rfl⟩ (fun _ => rfl) ?_
  intro incoming _
  cases incoming with
  | failure err unexpected => exact fails err unexpected
  | ping appData =>
    simp only [bind_done]
    split
    · apply (obeys_onPing rfl appData).bind
      rintro outcome _ rfl
      cases outcome with
      | some err => exact fails err false
      | none => exact again
    · exact again
  | pong appData =>
    simp only [bind_done]
    split
    · apply (obeys_onPong rfl).bind
      rintro outcome _ rfl
      cases outcome with
      | some err => exact fails err false
      | none => exact again
    · exact again
  | message data =>
    have rest : (do
        getReadTimeout
        let _ ← setReadDeadline true
        return some .readLoop : Prog (Option Routine)).Obeys protocol .readLoop
        (cont entry leave) .beside := by
      apply (obeys_getReadTimeout rfl).bind
      rintro _ _ rfl
      exact obeys_plain rfl ⟨rfl, rfl⟩ (fun _ => rfl) fun _ _ => again
    refine obeys_plain rfl rfl (fun _ => rfl) ?_
    intro outcome _
    cases outcome with
    | some err => exact obeys_plain rfl (.inl rfl) (fun _ => rfl) fun _ _ => rest
    | none => exact rest

/-- A step of the write pump. -/
theorem obeys_pump {onward : Place} (belongs : fits (.writeLoop true) place)
    (legal : allowed op place)
    (moves : ∀ ans, move op place ans = onward)
    (goesOn : ∀ ans, (resume ans).Obeys protocol (.writeLoop true) post onward) :
    (Program.act op resume).Obeys protocol (.writeLoop true) post place := by
  refine obeys_step belongs legal ?_
  intro ans _
  rw [moves ans]
  exact goesOn ans

theorem obeys_cleanup (err : Option String) :
    (cleanup err).Obeys protocol (.writeLoop true)
      (fun _ final => final = .cleaning .released) .pumping := by
  have cleans : ∀ phase, fits (.writeLoop true) (.cleaning phase) := fun phase =>
    ⟨rfl, .inr ⟨phase, rfl⟩⟩
  refine obeys_pump ⟨rfl, .inl rfl⟩ rfl (fun _ => rfl) fun _ => ?_
  -- every operation of the teardown leads to the phase that bears its name
  iterate 10 refine obeys_pump (cleans _) rfl (fun _ => rfl) fun _ => ?_
  exact ⟨cleans _, rfl⟩

theorem obeys_ends (err : Option String) :
    (do cleanup err; return none : Prog (Option Routine)).Obeys protocol (.writeLoop true)
      (cont entry leave) .pumping := by
  apply (obeys_cleanup err).bind
  rintro _ _ rfl
  exact ⟨⟨rfl, .inr ⟨_, rfl⟩⟩, .inr (.inr rfl)⟩

theorem obeys_transmit (msg : Message) (failure : String) :
    (transmit config true msg failure).Obeys protocol (.writeLoop true)
      (cont entry leave) .pumping := by
  refine obeys_pump ⟨rfl, .inl rfl⟩ ⟨rfl, rfl⟩ (fun _ => rfl) ?_
  intro outcome
  cases outcome with
  | some err =>
    exact obeys_pump ⟨rfl, .inl rfl⟩ (.inr rfl) (fun _ => rfl) fun _ => obeys_ends _
  | none => exact ⟨⟨rfl, .inl rfl⟩, rfl, rfl⟩

theorem obeys_writeLoop :
    (writeLoop config true).Obeys protocol (.writeLoop true) (cont entry leave)
      .pumping := by
  refine obeys_pump ⟨rfl, .inl rfl⟩ rfl (fun _ => rfl) ?_
  intro selected
  cases selected with
  | tick => exact obeys_transmit _ _
  | ping data => exact obeys_transmit _ _
  | out msg =>
    cases msg with
    | none =>
      exact obeys_pump ⟨rfl, .inl rfl⟩ (.inr rfl) (fun _ => rfl)
        (fun _ => ⟨⟨rfl, .inl rfl⟩, .inr (.inl rfl)⟩)
    | some msg => exact obeys_transmit _ _
  | close closeErr =>
    refine obeys_pump ⟨rfl, .inl rfl⟩ ⟨rfl, rfl⟩ (fun _ => rfl) ?_
    intro outcome
    cases outcome with
    | some err =>
      exact obeys_pump ⟨rfl, .inl rfl⟩ (.inr rfl) (fun _ => rfl) fun _ => obeys_ends _
    | none => exact obeys_ends _
  | forced err => exact obeys_ends _

theorem obeys_body (routine : Routine) (begins : entry routine place) :
    (body config routine).Obeys protocol routine (cont entry leave) place := by
  cases routine with
  | run =>
    obtain rfl := begins
    refine obeys_step (.inl rfl) rfl fun _ _ => ?_
    refine obeys_step (.inl rfl) rfl fun _ _ => ?_
    exact ⟨.inr rfl, .inl rfl⟩
  | readPump =>
    obtain rfl := begins
    exact obeys_readPump
  | readLoop =>
    obtain rfl := begins
    exact obeys_readLoop
  | writePump =>
    obtain rfl := begins
    refine obeys_step (.inl rfl) (.inr rfl) fun _ _ => ?_
    refine obeys_step (.inr rfl) (.inr rfl) ?_
    intro connected given
    obtain rfl := given rfl
    refine obeys_step (.inr rfl) rfl fun _ _ => ?_
    exact ⟨.inl rfl, rfl, rfl⟩
  | writeLoop conn =>
    rcases begins with ⟨rfl, rfl⟩
    exact obeys_writeLoop
  | write msg =>
    obtain rfl := begins
    apply (obeys_writeManual rfl msg).bind
    rintro _ _ rfl
    exact ⟨.inl rfl, .inl rfl⟩
  | close closeErr =>
    obtain rfl := begins
    apply (obeys_close rfl closeErr).bind
    rintro _ _ rfl
    exact ⟨.inl rfl, .inl rfl⟩
  | remoteAddr =>
    obtain rfl := begins
    exact obeys_plain rfl rfl (fun _ => rfl) fun _ _ => ⟨.inl rfl, .inl rfl⟩
  | isConnected =>
    obtain rfl := begins
    refine obeys_step (.inl rfl) (.inl rfl) fun _ _ => ?_
    refine obeys_step (.inr (.inl rfl)) (.inl rfl) ?_
    intro connected _
    cases connected with
    | true => exact obeys_release rfl (.inr rfl) (.inl rfl)
    | false => exact obeys_release rfl (.inl rfl) (.inl rfl)

end

/-! ## The invariant -/

/-- What each goroutine holds of the mutex. -/
def holds (view : Nat -> Option Place) (tid : Nat) : Hold :=
  match view tid with
  | some place => place.hold
  | none => .nothing

theorem holds_update (view : Nat -> Option Place) (tid : Nat) (place : Place) :
    holds (update view tid (some place)) =
      update (holds view) tid place.hold :=
  comp_update (fun content => holds (fun _ => content) tid) view tid (some place)

variable {view : Nat -> Option Place} {tid : Nat} {place : Place}

theorem holds_some (here : view tid = some place) : holds view tid = place.hold := by
  simp [holds, here]

/-- The record does not change when the hold does not. -/
theorem holds_still {onward : Place} (here : view tid = some place)
    (same : onward.hold = place.hold) :
    holds (update view tid (some onward)) = holds view := by
  rw [holds_update, same, ← holds_some here, update_eq_self]

def doors (s : Shared) : Doors :=
  ⟨s.connection, s.done, s.outQueue.closed, s.pingC.closed, s.closeC.closed, s.forceCloseC.closed⟩

/-- What the invariant says besides the mutex.  `pending` is a write pump that was started and
has not run. -/
@[grind cases] structure Sound (now : Doors) (ran pending : Bool) (view : Nat -> Option Place) :
    Prop where
  unran : ran = false -> pending = false ∧ ∀ tid place, view tid = some place ->
    place.owns = false ∧ place ≠ .launching
  launching : ∀ tid, view tid = some .launching -> pending = false ∧
    ∀ other place, view other = some place -> place.owns = false ∧
      (place = .launching -> other = tid)
  started : pending = true -> ∀ tid place, view tid = some place -> place.owns = false
  owner : ∀ tid other place place', view tid = some place -> view other = some place' ->
    place.owns = true -> place'.owns = true -> tid = other
  fresh : ran = false ∨ pending = true -> now = Place.pumping.doors
  begun : ∀ tid, view tid = some .launching -> now = Place.pumping.doors
  staged : ∀ tid place, view tid = some place -> place.owns = true -> now = place.doors
  ordered : now.connection = true ->
    now.out = false ∧ now.ping = false ∧ now.close = false ∧ now.force = false
  admitted : ∀ tid, view tid = some .admitted -> now.connection = true

@[simp, grind =] theorem owns_beside : Place.beside.owns = false := rfl
@[simp, grind =] theorem owns_launching : Place.launching.owns = false := rfl
@[simp, grind =] theorem owns_admitted : Place.admitted.owns = false := rfl
@[simp, grind =] theorem owns_pumping : Place.pumping.owns = true := rfl

namespace Sound

variable {now : Doors} {ran pending : Bool} {view : Nat -> Option Place} {tid : Nat}
  {place onward : Place}

theorem initially : Sound ⟨true, false, false, false, false, false⟩ false false (fun _ => none) := by
  constructor <;> simp [Place.doors]

/-- A goroutine goes where it neither is the write pump nor starts it. -/
theorem wanders (sound : Sound now ran pending view) (ordinary : onward.owns = false)
    (idle : onward ≠ .launching) (seen : onward = .admitted -> now.connection = true) :
    Sound now ran pending (update view tid (some onward)) := by
  constructor <;> grind -linarith

section

variable (sound : Sound now ran pending view) (here : view tid = some place)
  (owns : place.owns = true) (still : onward.owns = true)
include sound here owns still

/-- The write pump goes on without changing anything. -/
theorem pumps (same : onward.doors = place.doors) :
    Sound now ran pending (update view tid (some onward)) := by
  constructor <;> grind -linarith

/-- A step of the teardown, once no goroutine is admitted or the connection stays. -/
theorem tears (ordered : onward.doors.connection = true -> onward.doors.out = false ∧
      onward.doors.ping = false ∧ onward.doors.close = false ∧ onward.doors.force = false)
    (alone : onward.doors.connection = true ∨ ∀ other, view other ≠ some .admitted) :
    Sound onward.doors ran pending (update view tid (some onward)) := by
  constructor <;> grind -linarith

end

theorem launches (sound : Sound now ran pending view) (here : view tid = some .launching) :
    Sound now ran true (update view tid (some .beside)) := by
  constructor <;> grind -linarith

theorem begins (sound : Sound now false pending view) :
    Sound now true pending (update view tid (some .launching)) := by
  constructor <;> grind -linarith

theorem runs (sound : Sound now ran true view) :
    Sound now ran false (update view tid (some .pumping)) := by
  constructor <;> grind -linarith

theorem finishes (sound : Sound now ran pending view) :
    Sound now ran pending (update view tid none) := by
  constructor <;> grind -linarith

end Sound

/-- The mutex is used as recorded, the teardown is at its stage, and there is no fault. -/
structure Safe (s : Shared) (view : Nat -> Option Place) : Prop where
  kept : Kept s.mutex (holds view)
  sound : Sound (doors s) s.ran s.writePump view
  faultless : s.faults = []

variable {mutex : RWMutex}

section

variable {s after : Shared} {view : Nat -> Option Place} {tid : Nat} {place onward : Place}
  {config : Config} {choice : Choice}

section

variable (safe : Safe s view)
include safe

/-- A goroutine that neither is the write pump nor starts it goes on with the mutex. -/
theorem Safe.wanders (kept : Kept mutex (update (holds view) tid onward.hold))
    (ordinary : onward.owns = false) (idle : onward ≠ .launching)
    (seen : onward = .admitted -> s.connection = true) :
    Safe { s with mutex := mutex } (update view tid (some onward)) :=
  ⟨holds_update view tid onward ▸ kept, safe.sound.wanders ordinary idle seen,
    safe.faultless⟩

/-- What a goroutine that has been admitted finds. -/
theorem Safe.open (here : view tid = some .admitted) :
    s.outQueue.closed = false ∧ s.closeC.closed = false ∧ s.forceCloseC.closed = false := by
  have connected := safe.sound.admitted tid here
  rcases safe.sound.ordered connected with ⟨out, _, close, force⟩
  exact ⟨out, close, force⟩

section

variable (here : view tid = some place)
include here

/-- A change of what the invariant does not look at. -/
theorem Safe.still (mutex : after.mutex = s.mutex)
    (unchanged : doors after = doors s) (ran : after.ran = s.ran)
    (pending : after.writePump = s.writePump) (faultless : after.faults = s.faults) :
    Safe after (update view tid (some place)) := by
  rw [← here, update_eq_self]
  exact ⟨mutex ▸ safe.kept, unchanged.symm ▸ ran.symm ▸ pending.symm ▸ safe.sound,
    faultless.trans safe.faultless⟩

/-- A step of the teardown that changes the doors and not the mutex. -/
theorem Safe.tears (owns : place.owns = true) (still : onward.owns = true)
    (hold : onward.hold = place.hold) (reached : doors after = onward.doors)
    (ordered : onward.doors.connection = true -> onward.doors.out = false ∧
      onward.doors.ping = false ∧ onward.doors.close = false ∧ onward.doors.force = false)
    (alone : onward.doors.connection = true ∨ onward.hold = .writing)
    (mutex : after.mutex = s.mutex) (ran : after.ran = s.ran)
    (pending : after.writePump = s.writePump) (faultless : after.faults = s.faults) :
    Safe after (update view tid (some onward)) := by
  have nobody : onward.doors.connection = true ∨ ∀ other, view other ≠ some .admitted := by
    rcases alone with connected | writing
    · exact .inl connected
    · refine .inr ?_
      intro other admitted
      exact safe.kept.not_reading ((holds_some here).trans (hold.symm.trans writing))
        (holds_some admitted)
  refine ⟨?_, ?_, faultless.trans safe.faultless⟩
  · rw [holds_still here hold, mutex]
    exact safe.kept
  · rw [reached, ran, pending]
    exact safe.sound.tears here owns still ordered nobody

/-- The write pump goes on with the mutex. -/
theorem Safe.pumps (kept : Kept mutex (update (holds view) tid onward.hold))
    (owns : place.owns = true) (still : onward.owns = true)
    (same : onward.doors = place.doors) :
    Safe { s with mutex := mutex } (update view tid (some onward)) :=
  ⟨holds_update view tid onward ▸ kept, safe.sound.pumps here owns still same,
    safe.faultless⟩

/-- What the write pump finds. -/
theorem Safe.stage (owns : place.owns = true) : doors s = place.doors :=
  safe.sound.staged tid place here owns

/-- The locks. -/
theorem safe_rlock (legal : place = .beside ∨ place = .pumping)
    (exec : execute config tid .rlock choice s = some ((), after)) :
    Safe after (update view tid (some (move .rlock place ()))) := by
  rcases map_eq_some_iff.mp exec with ⟨mutex, taken, same⟩
  cases same
  rcases legal with rfl | rfl
  · exact safe.wanders (safe.kept.rlock (holds_some here) taken) rfl (by simp [move])
      (by simp [move])
  · exact safe.pumps here (safe.kept.rlock (holds_some here) taken) rfl rfl rfl

theorem safe_runlock (reading : place.hold = .reading) :
    Safe { s with mutex := s.mutex.runlock tid }
      (update view tid (some (move .runlock place ()))) := by
  have kept := safe.kept.runlock ((holds_some here).trans reading)
  cases place with
  | pumpReading => exact safe.pumps here kept rfl rfl rfl
  | reading | admitted => exact safe.wanders kept rfl (by simp [move]) (by simp [move])
  | beside | launching | pumping => cases reading
  | cleaning phase => cases phase <;> cases reading

theorem safe_connection (legal : place = .reading ∨ place = .pumpReading) :
    possible .connection place s.connection ∧
      Safe s (update view tid (some (move .connection place s.connection))) := by
  rcases legal with rfl | rfl
  · refine ⟨by simp [possible], ?_⟩
    cases connected : s.connection with
    | false => exact safe.still here rfl rfl rfl rfl rfl
    | true =>
      refine ⟨?_, safe.sound.wanders rfl (by simp [move]) fun _ => connected, safe.faultless⟩
      have same : holds (update view tid (some .admitted)) = holds view :=
        holds_still here rfl
      exact same.symm ▸ safe.kept
  · have connected : s.connection = true := congrArg Doors.connection (safe.stage here rfl)
    exact ⟨fun _ => connected, safe.still here rfl rfl rfl rfl rfl⟩

end

theorem safe_select {selected : Selected} (here : view tid = some .pumping)
    (exec : execute config tid .select choice s = some (selected, after)) :
    Safe after (update view tid (some .pumping)) := by
  cases choice with
  | arm arm =>
    have taken : select config arm s = some (selected, after) := exec
    cases arm with
    | tick =>
      simp only [select, ite_none_right_eq_some, Option.some.injEq, Prod.mk.injEq] at taken
      rcases taken with ⟨_, _, rfl⟩
      exact safe.still here rfl rfl rfl rfl rfl
    | ping | out | close | forced =>
      rcases map_eq_some_iff.mp taken with ⟨⟨data, rest⟩, received, same⟩
      cases same
      exact safe.still here rfl (by simp [doors, Chan.closed_receive received]) rfl rfl rfl
    | _ => cases taken
  | _ => cases exec

end

/-- A call of the network on a connection that is there. -/
theorem after_of_outcome {err : Option String} {conn : Bool} (present : conn = true)
    (exec : (match choice with
      | .outcome err => some (err, s.dereference conn)
      | _ => none) = some (err, after)) : after = s := by
  split at exec
  · cases exec
    simp [Shared.dereference, present]
  · cases exec

theorem safe_execute {op : Op} {ans : Res op} (safe : Safe s view)
    (here : view tid = some place) (legal : allowed op place)
    (guarded : comesInTime.op s tid op)
    (exec : execute config tid op choice s = some (ans, after)) :
    possible op place ans ∧
      Safe after (update view tid (some (move op place ans))) := by
  cases op with
  | rlock => exact ⟨trivial, safe_rlock safe here legal exec⟩
  | runlock =>
    cases exec
    exact ⟨trivial, safe_runlock safe here legal⟩
  | connection =>
    cases exec
    exact safe_connection safe here legal
  | snapshot =>
    cases exec
    exact ⟨guarded, safe.still here rfl rfl rfl rfl rfl⟩
  | remoteAddr =>
    cases exec
    have present : s.connection = true := guarded
    have same : s.dereference s.connection = s := by simp [Shared.dereference, present]
    exact ⟨trivial, safe.still here (by rw [same]) (by rw [same]) (by rw [same]) (by rw [same])
      (by rw [same])⟩
  | setReadDeadline conn | writeMessage conn msg =>
    obtain rfl := after_of_outcome legal.1 exec
    exact ⟨trivial, safe.still here rfl rfl rfl rfl rfl⟩
  | readMessage conn =>
    refine ⟨trivial, ?_⟩
    cases choice with
    | incoming incoming =>
      cases exec
      rcases legal with ⟨rfl, rfl⟩
      exact safe.still here rfl rfl rfl rfl rfl
    | _ => cases exec
  | sendPing data =>
    refine ⟨trivial, ?_⟩
    have isOpen : s.pingC.closed = false := guarded
    simp only [execute, isOpen, Bool.false_eq_true, if_false, ite_none_right_eq_some,
      Option.some.injEq, Prod.mk.injEq] at exec
    rcases exec with ⟨_, _, rfl⟩
    exact safe.still here rfl (by simp [doors]) rfl rfl rfl
  | sendForceClose err =>
    obtain rfl := legal
    simp only [execute, safe.open here, Bool.false_eq_true, if_false,
      ite_none_right_eq_some, Option.some.injEq, Prod.mk.injEq] at exec
    rcases exec with ⟨_, _, rfl⟩
    exact ⟨trivial, safe.still here rfl (by simp [doors]) rfl rfl rfl⟩
  | sendOutQueue value | sendClose value =>
    obtain rfl := legal
    refine ⟨trivial, ?_⟩
    simp only [execute, safe.open here, Bool.false_eq_true, if_false] at exec
    split at exec
    · simp only [ite_none_right_eq_some, Option.some.injEq, Prod.mk.injEq] at exec
      rcases exec with ⟨_, _, rfl⟩
      exact safe.still here rfl (by simp [doors]) rfl rfl rfl
    · simp only [ite_none_right_eq_some, Option.some.injEq, Prod.mk.injEq] at exec
      rcases exec with ⟨_, _, rfl⟩
      exact safe.still here rfl rfl rfl rfl rfl
    · cases exec
  | select =>
    obtain rfl := legal
    exact ⟨trivial, safe_select safe here exec⟩
  | closeDone =>
    obtain rfl := legal
    have stage := safe.stage here rfl
    have isOpen : s.done = false := congrArg Doors.done stage
    cases exec
    simp only [isOpen, Bool.false_eq_true, if_false]
    refine ⟨trivial, safe.tears here rfl rfl rfl ?_ (fun _ => ⟨rfl, rfl, rfl, rfl⟩) (.inl rfl) rfl
      rfl rfl rfl⟩
    exact congrArg (fun doors : Doors => { doors with done := true }) stage
  | lock =>
    obtain rfl := legal
    rcases map_eq_some_iff.mp exec with ⟨mutex, taken, same⟩
    cases same
    exact ⟨trivial, safe.pumps here (safe.kept.announce (holds_some here) taken) rfl rfl rfl⟩
  | awaitReaders =>
    obtain rfl := legal
    simp only [execute, ite_none_right_eq_some, Option.some.injEq, Prod.mk.injEq] at exec
    rcases exec with ⟨vacant, _, rfl⟩
    exact ⟨trivial, safe.pumps here (safe.kept.awaitReaders (holds_some here) vacant) rfl rfl rfl⟩
  | closeConnection =>
    obtain rfl := legal
    have stage := safe.stage here rfl
    have present : s.connection = true := congrArg Doors.connection stage
    obtain rfl := after_of_outcome present exec
    exact ⟨trivial, safe.tears here rfl rfl rfl stage (fun _ => ⟨rfl, rfl, rfl, rfl⟩)
      (.inl rfl) rfl rfl rfl rfl⟩
  | clearConnection =>
    obtain rfl := legal
    have stage := safe.stage here rfl
    cases exec
    refine ⟨trivial, safe.tears here rfl rfl rfl ?_ (fun connected => absurd connected (by decide))
      (.inr rfl) rfl rfl rfl rfl⟩
    exact congrArg (fun doors : Doors => { doors with connection := false }) stage
  | closeOutQueue | closePingC | closeCloseC | closeForceCloseC =>
    cases legal
    have stage := safe.stage here rfl
    cases exec
    simp only [doors, Place.doors, Doors.mk.injEq] at stage
    simp only [stage, Bool.false_eq_true, if_false]
    refine ⟨trivial, safe.tears here rfl rfl rfl ?_ (fun connected => absurd connected (by decide))
      (.inr rfl) rfl rfl rfl rfl⟩
    simp [doors, move, Place.doors, stage]
  | unlock =>
    obtain rfl := legal
    cases exec
    exact ⟨trivial, safe.pumps here (safe.kept.unlock (holds_some here)) rfl rfl rfl⟩
  | goReadPump =>
    cases exec
    exact ⟨trivial, safe.still here rfl rfl rfl rfl rfl⟩
  | goWritePump =>
    obtain rfl := legal
    cases exec
    refine ⟨trivial, ?_, safe.sound.launches here, safe.faultless⟩
    have same : holds (update view tid (some .beside)) = holds view :=
      holds_still here rfl
    exact same.symm ▸ safe.kept
  | onMessage data =>
    refine ⟨trivial, ?_⟩
    cases choice with
    | outcome err =>
      cases exec
      exact safe.still here rfl rfl rfl rfl rfl
    | _ => cases exec
  | onError err | onClosed err =>
    cases exec
    exact ⟨trivial, safe.still here rfl rfl rfl rfl rfl⟩

end

/-- A goroutine that comes holds nothing. -/
theorem kept_of_entry (kept : Kept mutex (holds view)) (vacant : view tid = none)
    (idle : place.hold = .nothing) : Kept mutex (holds (update view tid (some place))) := by
  have nothing : holds view tid = .nothing := by simp [holds, vacant]
  rwa [holds_update, idle, ← nothing, update_eq_self]

/-- A goroutine that leaves holds nothing. -/
theorem kept_of_leave (kept : Kept mutex (holds view)) (here : view tid = some place)
    (idle : place.hold = .nothing) : Kept mutex (holds (update view tid none)) := by
  have same : holds (update view tid none) = holds view := by
    funext other
    by_cases equal : other = tid
    · subst equal
      simp [holds, here, idle]
    · simp [holds, update_of_ne equal]
  exact same.symm ▸ kept

theorem verified (config : Config) :
    Verified (system config) comesInTime .new protocol entry leave Safe where
  body := fun routine place begins => obeys_body routine begins
  initially := ⟨.new, .initially, rfl⟩
  enter := by
    intro current view routine shared _ _ safe entered vacant
    have arrives : Safe current.shared
        (update view current.threads.length (some .beside)) :=
      ⟨kept_of_entry safe.kept vacant rfl, safe.sound.wanders rfl (by simp) (by simp), safe.faultless⟩
    cases routine with
    | run =>
      simp only [system, enter, ite_none_left_eq_some, Option.some.injEq] at entered
      rcases entered with ⟨unran, rfl⟩
      have sound := safe.sound
      rw [Bool.not_eq_true] at unran
      rw [unran] at sound
      exact ⟨.launching, rfl, kept_of_entry safe.kept vacant rfl, sound.begins, safe.faultless⟩
    | readPump =>
      simp only [system, enter, ite_none_right_eq_some, Option.some.injEq] at entered
      rcases entered with ⟨_, rfl⟩
      exact ⟨.beside, rfl, arrives.kept, arrives.sound, arrives.faultless⟩
    | writePump =>
      simp only [system, enter, ite_none_right_eq_some, Option.some.injEq] at entered
      rcases entered with ⟨started, rfl⟩
      have sound := safe.sound
      rw [started] at sound
      exact ⟨.pumping, rfl, kept_of_entry safe.kept vacant rfl, sound.runs, safe.faultless⟩
    | readLoop | writeLoop => cases entered
    | write | close | remoteAddr | isConnected =>
      cases entered
      exact ⟨.beside, rfl, arrives⟩
  occur := fun _ _ event => event.elim
  execute := by
    intro pre view tid place op choice ans after safe here legal guarded exec
    rcases safe_execute safe here legal guarded exec with ⟨given, kept⟩
    exact ⟨_, ⟨given, rfl⟩, kept⟩
  finish := by
    intro shared view tid place safe here ended
    refine ⟨kept_of_leave safe.kept here ?_, safe.sound.finishes, safe.faultless⟩
    rcases ended with rfl | rfl | rfl
    · rfl
    · rfl
    · rfl

end Teardown

/-- As long as the callbacks and `RemoteAddr` come in time, no goroutine sends on a closed
channel, closes one twice or uses a nil connection. -/
theorem teardown_is_faultless (config : Config) {configuration : Configuration}
    (reached : (system config).Reachable comesInTime .new configuration) :
    configuration.shared.faults = [] := by
  rcases (Teardown.verified config).reachable reached with ⟨_, _, safe⟩
  exact safe.faultless

abbrev Schedule := List (Action Choice Routine Empty)

def proceed (tid count : Nat) : Schedule := List.replicate count (.step tid .proceed)

/-- `run` and the starts of the two pumps, the goroutines after it. -/
def opening (tid : Nat) : Schedule :=
  [.call .run] ++ proceed tid 3 ++ [.call .readPump] ++ proceed (tid + 1) 5 ++
    [.step (tid + 1) (.outcome none)] ++ proceed (tid + 1) 1 ++ [.call .writePump] ++
    proceed (tid + 2) 4

/-- `Close` to its end. -/
def closing (tid : Nat) (closeErr : CloseError) : Schedule :=
  [.call (.close closeErr)] ++ proceed tid 2 ++ [.step tid (.arm .send)] ++ proceed tid 2

/-- The write pump receives the close request and tears the socket down. -/
def tearing (tid : Nat) : Schedule :=
  [.step tid (.arm .close), .step tid (.outcome none)] ++ proceed tid 3 ++
    [.step tid (.outcome none)] ++ proceed tid 6

/-- A socket that expects pings. -/
def sampleConfig : Config := ⟨"a", 1, none⟩

/-- A ping arrives, and before the callback passes it on the socket is closed: the callback
sends on a closed channel. -/
theorem ping_after_teardown :
    ∃ configuration, (system sampleConfig).Reachable .all .new configuration ∧
      configuration.shared.faults = [.sendOnClosedChannel] :=
  System.exists_reachable_of_replay _
    (opening 0 ++ [.step 1 (.incoming (.ping []))] ++ proceed 1 1 ++ closing 3 ⟨1000, ""⟩ ++
      tearing 2 ++ proceed 1 1)
    (by decide +kernel)

/-- A socket is closed after a ping was answered. -/
theorem teardown_is_faultless_closed :
    ∃ configuration, (system sampleConfig).Reachable comesInTime .new configuration ∧
      configuration.shared.connection = false ∧ configuration.shared.faults = [] :=
  System.exists_reachable_with
    (opening 0 ++ [.step 1 (.incoming (.ping []))] ++ proceed 1 2 ++ closing 3 ⟨1000, ""⟩ ++
      tearing 2) (by decide +kernel)
    fun _ reached _ => teardown_is_faultless sampleConfig reached

end Socket
end Ws
end OcppGo
