import OcppGo.Ws.Composition
import OcppGo.Ws.Gate

namespace OcppGo
namespace Ws
namespace Server

open Function Interleaving Sync Program List

/-!
# The order of the events

`wsHandler` starts the pumps of a socket before it calls the connected handler.  Nothing makes the
pumps wait for it: a message of the socket, or its end, may be delivered first.  Where the pumps
come to the server only after the connected handler was called, the events of every identifier
alternate, each disconnect ending the connection announced before it.
-/

/-! ## What was delivered -/

/-- A message or the end of a socket comes after the beginning.  The latest notice stands first. -/
def Ordered : List Notice -> Prop
  | [] => True
  | .connected _ :: earlier => Ordered earlier
  | .message sock :: earlier => .connected sock ∈ earlier ∧ Ordered earlier
  | .disconnected sock :: earlier => .connected sock ∈ earlier ∧ Ordered earlier

/-- Whether the notice is a connect or a disconnect of the identifier. -/
def Notice.concerns (ids : Nat -> String) (id : String) : Notice -> Bool
  | .connected sock => ids sock = id
  | .disconnected sock => ids sock = id
  | .message _ => false

/-- The connects and disconnects of an identifier, the latest first. -/
def eventsOf (ids : Nat -> String) (id : String) (notices : List Notice) : List Notice :=
  notices.filter (Notice.concerns ids id)

/-- Connects and disconnects take turns, beginning with a connect, and a disconnect ends the
connection that was announced last. -/
def Alternates : List Notice -> Prop
  | [] => True
  | .connected _ :: earlier => (∀ sock, earlier.head? ≠ some (.connected sock)) ∧ Alternates earlier
  | .disconnected sock :: earlier => earlier.head? = some (.connected sock) ∧ Alternates earlier
  | .message _ :: _ => False

/-- The events alternate, and a connection that was announced and not ended is the latest event of
its identifier. -/
structure Alternating (ids : Nat -> String) (notices : List Notice) (told : Nat -> Nat) : Prop where
  alternates : ∀ id, Alternates (eventsOf ids id notices)
  latest : ∀ sock, .connected sock ∈ notices -> told sock = 0 ->
    (eventsOf ids (ids sock) notices).head? = some (.connected sock)
  untold : ∀ id sock, (eventsOf ids id notices).head? = some (.connected sock) ->
    told sock = 0

namespace Alternating

variable {ids : Nat -> String} {notices : List Notice} {told : Nat -> Nat} {sock : Nat}

theorem mem_of_head {id : String}
    (head : (eventsOf ids id notices).head? = some (.connected sock)) :
    .connected sock ∈ notices ∧ ids sock = id := by
  have mem := mem_of_mem_head? head
  rw [eventsOf, mem_filter] at mem
  exact ⟨mem.1, by simpa [Notice.concerns] using mem.2⟩

/-- A notice about a socket is an event of its identifier only. -/
theorem eventsOf_cons (notices : List Notice) (notice : Notice)
    (about : ∀ id, notice.concerns ids id = decide (ids sock = id)) :
    eventsOf ids (ids sock) (notice :: notices) = notice :: eventsOf ids (ids sock) notices ∧
      ∀ id, id ≠ ids sock -> eventsOf ids id (notice :: notices) = eventsOf ids id notices := by
  refine ⟨by simp [eventsOf, about], ?_⟩
  intro id apart
  simp [eventsOf, about, Ne.symm apart]

section

variable (alternating : Alternating ids notices told)
include alternating

theorem message : Alternating ids (.message sock :: notices) told := by
  have same : ∀ id, eventsOf ids id (.message sock :: notices) = eventsOf ids id notices :=
    fun _ => rfl
  constructor
  · intro id
    rw [same]
    exact alternating.alternates id
  · intro other mem untold
    rw [same]
    apply alternating.latest other _ untold
    simpa using mem
  · intro id other
    rw [same]
    exact alternating.untold id other

theorem connected (untold : told sock = 0)
    (first : ∀ other, .connected other ∈ notices -> ids other = ids sock -> told other ≠ 0) :
    Alternating ids (.connected sock :: notices) told := by
  obtain ⟨same, others⟩ := eventsOf_cons notices (.connected sock) fun _ => rfl
  have closed : ∀ other,
      (eventsOf ids (ids sock) notices).head? ≠ some (.connected other) := by
    intro other head
    have known := mem_of_head head
    exact first other known.1 known.2 (alternating.untold _ other head)
  constructor
  · intro id
    by_cases this : id = ids sock
    · rw [this, same]
      exact ⟨closed, alternating.alternates _⟩
    · rw [others id this]
      exact alternating.alternates id
  · intro other mem open'
    by_cases this : ids other = ids sock
    · rcases mem_cons.mp mem with itself | pre
      · cases itself
        rw [same]
        rfl
      · exact absurd open' (first other pre this)
    · rw [others _ this]
      apply alternating.latest other _ open'
      rcases mem_cons.mp mem with itself | pre
      · cases itself
        exact absurd rfl this
      · exact pre
  · intro id other
    by_cases this : id = ids sock
    · rw [this, same]
      rintro ⟨⟩
      exact untold
    · rw [others id this]
      exact alternating.untold id other

theorem disconnected (untold : told sock = 0) (announced : .connected sock ∈ notices) :
    Alternating ids (.disconnected sock :: notices)
      (update told sock (told sock + 1)) := by
  have last := alternating.latest sock announced untold
  obtain ⟨same, others⟩ := eventsOf_cons notices (.disconnected sock) fun _ => rfl
  constructor
  · intro id
    by_cases this : id = ids sock
    · rw [this, same]
      exact ⟨last, alternating.alternates _⟩
    · rw [others id this]
      exact alternating.alternates id
  · intro other mem open'
    have apart : other ≠ sock := by
      rintro rfl
      rw [update_self] at open'
      omega
    rw [update_of_ne apart] at open'
    have pre : .connected other ∈ notices := by simpa using mem
    have head := alternating.latest other pre open'
    by_cases this : ids other = ids sock
    · rw [this, last] at head
      cases head
      exact absurd rfl apart
    · rwa [others _ this]
  · intro id other
    by_cases this : id = ids sock
    · rw [this, same]
      rintro ⟨⟩
    · rw [others id this]
      intro head
      have known := mem_of_head head
      have apart : other ≠ sock := by
        rintro rfl
        exact this known.2.symm
      rw [update_of_ne apart]
      exact alternating.untold id other head

/-- A new socket has not been heard of. -/
theorem makes {id : String} (new : .connected sock ∉ notices ∧ .disconnected sock ∉ notices) :
    Alternating (update ids sock id) notices told := by
  have other : ∀ num, .connected num ∈ notices ∨ .disconnected num ∈ notices ->
      update ids sock id num = ids num := by
    intro num mem
    apply update_of_ne
    rintro rfl
    exact mem.elim new.1 new.2
  have same : ∀ id', eventsOf (update ids sock id) id' notices =
      eventsOf ids id' notices := by
    intro id'
    apply filter_congr
    intro notice mem
    cases notice with
    | connected num => simp only [Notice.concerns, other num (.inl mem)]
    | disconnected num => simp only [Notice.concerns, other num (.inr mem)]
    | message num => rfl
  constructor
  · intro id'
    rw [same]
    exact alternating.alternates id'
  · intro num mem untold
    rw [same, other num (.inl mem)]
    exact alternating.latest num mem untold
  · intro id' num
    rw [same]
    exact alternating.untold id' num

end

end Alternating

/-- The owner has not started the pumps. -/
@[grind] def Stage.early : Stage -> Bool
  | .holding | .evicting _ | .torn _ | .enrolled | .launching => true
  | _ => false

/-- A socket is announced by the goroutine that registered it, once.  A socket that has been
removed was announced before. -/
@[grind cases] structure Greeted (made : Nat) (ids : Nat -> String) (status : Nat -> Status)
    (heard : Nat -> Bool) (view : Nat -> Option Place) : Prop where
  greeting : ∀ tid sock id, view tid = some (.welcoming sock id) ->
    sock < made ∧ ids sock = id ∧ status sock ≠ .fresh ∧ heard sock = false
  greeter : ∀ tid other sock id id', view tid = some (.welcoming sock id) ->
    view other = some (.welcoming sock id') -> tid = other
  early : ∀ tid sock id stage, view tid = some (.seat sock id stage) ->
    stage.early = true -> heard sock = false
  ungreeted : ∀ tid other sock id id' stage, view tid = some (.seat sock id stage) ->
    stage.early = true -> view other ≠ some (.welcoming sock id')
  announced : ∀ sock, heard sock = true -> sock < made ∧ status sock ≠ .fresh
  gone : ∀ sock, status sock = .removed ∨ status sock = .ret -> heard sock = true

namespace Greeted

variable {made : Nat} {ids : Nat -> String} {status : Nat -> Status} {heard : Nat -> Bool}
  {view : Nat -> Option Place} {tid sock : Nat} {id : String}

section

variable (greeted : Greeted made ids status heard view)
include greeted

section

variable {place : Option Place} (quiet : ∀ sock id, place ≠ some (.welcoming sock id))
  (keeps : ∀ sock id stage, place = some (.seat sock id stage) -> stage.early = true ->
    ∃ stage, view tid = some (.seat sock id stage) ∧ stage.early = true)
include quiet keeps

/-- A goroutine goes on, and a socket changes its status. -/
theorem restates {onward : Status} (present : onward ≠ .fresh)
    (known : onward = .removed ∨ onward = .ret -> heard sock = true) :
    Greeted made ids (update status sock onward) heard
      (update view tid place) := by
  constructor <;> grind -linarith

theorem relabels : Greeted made ids status heard (update view tid place) := by
  constructor <;> grind -linarith

end

/-- The upgrade handler has started the pumps and is about to announce the socket. -/
theorem launches (here : view tid = some (.seat sock id .launching))
    (known : sock < made ∧ ids sock = id ∧ status sock = .registered)
    (alone : ∀ other id stage, view other = some (.seat sock id stage) -> other = tid) :
    Greeted made ids status heard (update view tid (some (.welcoming sock id))) := by
  constructor <;> grind -linarith

theorem makes :
    Greeted (made + 1) (update ids made id) status heard
      (update view tid (some (.seat made id .holding))) := by
  constructor <;> grind -linarith

theorem hears (here : view tid = some (.welcoming sock id)) :
    Greeted made ids status (update heard sock true)
      (update view tid (some .idle)) := by
  constructor <;> grind -linarith

end

end Greeted

namespace Registration

variable {opts : Settings} {op : Op} {place : Place}

variable (legal : allowed opts op place)
include legal

/-- An owner that has not started the pumps had not started them before. -/
theorem early_of_move (other : ∀ id, op ≠ .newWebSocket id) (ans : Res op)
    (sock : Nat) (id : String) (stage : Stage)
    (moved : move op place ans = .seat sock id stage) (early : stage.early = true) :
    ∃ stage, place = .seat sock id stage ∧ stage.early = true := by
  have calm : calm op place ->
      ∃ stage, place = .seat sock id stage ∧ stage.early = true := by
    intro stays
    rw [move_of_calm stays] at moved
    exact ⟨stage, moved, early⟩
  cases op with
  | newWebSocket id => exact absurd rfl (other id)
  | register sock id =>
    obtain rfl := legal
    cases ans <;> cases moved <;> exact ⟨_, rfl, rfl⟩
  | registerAgain sock id =>
    obtain ⟨old, rfl⟩ : ∃ old, place = .seat sock id (.torn old) := legal
    cases ans <;> cases moved <;> exact ⟨_, rfl, rfl⟩
  | awaitTeardown old =>
    obtain ⟨sock, id, rfl⟩ := legal
    cases ans <;> cases moved <;> exact ⟨_, rfl, rfl⟩
  | decrementGate id =>
    obtain ⟨sock, stage, rfl, closing⟩ := legal
    rcases closing with ⟨old, rfl | rfl⟩ | rfl | rfl | rfl <;> cases moved
    · exact ⟨_, rfl, rfl⟩
    · cases early
    · cases early
  | newClientHandler sock =>
    obtain ⟨id, rfl⟩ := legal
    cases moved
  | remove sock id =>
    cases moved
    cases early
  | superseded id =>
    obtain ⟨sock, rfl⟩ := legal
    cases ans <;> cases moved <;> cases early
  | disconnectedHandler sock =>
    obtain ⟨_, id, rfl⟩ := legal
    cases moved
    cases early
  | handlerReturned sock =>
    obtain ⟨id, rfl⟩ := legal
    cases moved
    cases early
  | closeTeardown sock => cases moved
  | sock sock op =>
    cases op with
    | lock | unlock =>
      obtain ⟨id, rfl⟩ := legal
      cases moved
      cases early
    | goReadPump =>
      obtain ⟨id, rfl⟩ := legal
      cases moved
      exact ⟨_, rfl, rfl⟩
    | goWritePump =>
      obtain ⟨id, rfl⟩ := legal
      cases moved
    | _ => exact calm legal
  | _ => exact calm legal

/-- Only the start of the write pump leads to the announcement. -/
theorem move_ne_welcoming (other : ∀ sock, op ≠ .sock sock .goWritePump)
    (ans : Res op) (sock : Nat) (id : String) :
    move op place ans ≠ .welcoming sock id := by
  have calm : calm op place -> move op place ans ≠ .welcoming sock id := by
    intro stays moved
    rw [move_of_calm stays] at moved
    subst moved
    obtain ⟨_, ⟨⟩⟩ | ⟨_, ⟨⟩⟩ | ⟨_, ⟨⟩⟩ := stays
  cases op with
  | register sock id => cases ans <;> exact fun moved => Place.noConfusion moved
  | registerAgain sock id =>
    obtain ⟨old, rfl⟩ : ∃ old, place = .seat sock id (.torn old) := legal
    cases ans <;> exact fun moved => Place.noConfusion moved
  | awaitTeardown old =>
    obtain ⟨sock, id, rfl⟩ := legal
    cases ans <;> exact fun moved => Place.noConfusion moved
  | decrementGate id =>
    obtain ⟨sock, stage, rfl, closing⟩ := legal
    rcases closing with ⟨old, rfl | rfl⟩ | rfl | rfl | rfl <;>
      exact fun moved => Place.noConfusion moved
  | superseded id =>
    obtain ⟨sock, rfl⟩ := legal
    cases ans <;> exact fun moved => Place.noConfusion moved
  | disconnectedHandler sock =>
    obtain ⟨_, id, rfl⟩ := legal
    exact fun moved => Place.noConfusion moved
  | handlerReturned sock =>
    obtain ⟨id, rfl⟩ := legal
    exact fun moved => Place.noConfusion moved
  | newWebSocket | newClientHandler | remove | closeTeardown =>
    exact fun moved => Place.noConfusion moved
  | sock sock op =>
    cases op with
    | lock | unlock | goReadPump =>
      obtain ⟨id, rfl⟩ := legal
      exact fun moved => Place.noConfusion moved
    | goWritePump => exact absurd rfl (other sock)
    | _ => exact calm legal
  | _ => exact calm legal

end Registration

/-! ## Every operation keeps the order -/

def Shared.heard (s : Shared) (sock : Nat) : Bool := .connected sock ∈ s.hist.notices

/-- What holds of the notices between the operations. -/
structure Heard (opts : Settings) (s : Shared) (view : Nat -> Option Place) : Prop where
  ordered : Ordered s.hist.notices
  greeted : Greeted s.made s.ids s.hist.status s.heard view
  alternating : opts.disconnectedHandler = true ->
    Alternating s.ids s.hist.notices s.told

/-- Nothing is delivered and no socket is made or changes its status. -/
structure Silent (pre after : Shared) : Prop where
  made : after.made = pre.made
  ids : after.ids = pre.ids
  status : after.hist.status = pre.hist.status
  notices : after.hist.notices = pre.hist.notices

/-- The operations of that kind. -/
def Op.silent : Op -> Bool
  | .newWebSocket _ | .register _ _ | .registerAgain _ _ | .newClientHandler _
  | .messageHandler _ _ | .remove _ _ | .disconnectedHandler _ | .handlerReturned _ => false
  | _ => true

/-- The socket whose pump comes to the server with the operation. -/
def Op.receives : Op -> Option Nat
  | .isCurrent num _ | .messageHandler num _ | .remove num _ => some num
  | _ => none

variable {choice : Choice}

namespace Silent

variable {opts : Settings} {pre after : Shared}

section

variable (same : after.hist.notices = pre.hist.notices)
include same

theorem heard : after.heard = pre.heard := by
  funext sock
  rw [Shared.heard, same]
  rfl

theorem told : after.told = pre.told := by
  funext sock
  rw [Shared.told, same]
  rfl

end

theorem of_execute {tid : Nat} {op : Op} {ans : Res op}
    (calm : op.silent = true)
    (exec : execute opts tid op choice pre = some (ans, after)) :
    Silent pre after := by
  cases op with
  | decrementGate | reset =>
    obtain ⟨_, rfl⟩ := of_guarded exec
    exact ⟨rfl, rfl, rfl, rfl⟩
  | closeTeardown =>
    cases exec
    exact ⟨rfl, rfl, rfl, rfl⟩
  | sock sock op =>
    cases choice with
    | sock choice =>
      rcases Option.map_eq_some_iff.mp exec with ⟨result, _, same⟩
      cases same
      exact ⟨rfl, rfl, rfl, rfl⟩
    | _ => cases exec
  | newWebSocket | register | registerAgain | newClientHandler | messageHandler | remove
  | disconnectedHandler | handlerReturned => cases calm
  | _ =>
    obtain ⟨_, _, _, _, _, _, rfl⟩ := of_minor rfl exec
    exact ⟨rfl, rfl, rfl, rfl⟩

theorem of_enter {routine : Routine} (entered : enter routine pre = some after) :
    Silent pre after := by
  cases routine with
  | start | shutdown | stopConnection | write | wsHandler =>
    cases entered
    exact ⟨rfl, rfl, rfl, rfl⟩
  | stopConnections =>
    simp only [enter] at entered
    split at entered
    · cases entered
      exact ⟨rfl, rfl, rfl, rfl⟩
    · cases entered
  | sock sock id inner =>
    simp only [enter] at entered
    split at entered
    · split at entered
      · cases entered
      · cases entered
      · cases entered
      · rcases Option.map_eq_some_iff.mp entered with ⟨state, _, rfl⟩
        exact ⟨rfl, rfl, rfl, rfl⟩
    · cases entered

theorem of_occur {event : Event} (arose : occur event pre = some after) :
    Silent pre after := by
  cases event
  simp only [occur] at arose
  split at arose
  · cases arose
    exact ⟨rfl, rfl, rfl, rfl⟩
  · cases arose

end Silent

/-- What was delivered stays delivered. -/
theorem mem_notices_of_execute {opts : Settings} {pre after : Shared} {tid : Nat}
    {op : Op} {ans : Res op} {notice : Notice}
    (exec : execute opts tid op choice pre = some (ans, after))
    (mem : notice ∈ pre.hist.notices) : notice ∈ after.hist.notices := by
  have still : op.silent = true -> notice ∈ after.hist.notices := by
    intro calm
    rwa [(Silent.of_execute calm exec).notices]
  cases op with
  | register sock id =>
    obtain ⟨rfl, _⟩ | ⟨_, ⟨_, _, rfl⟩ | ⟨_, _, _, rfl⟩⟩ := register_ends (of_section exec) <;>
      exact mem
  | registerAgain sock id =>
    obtain ⟨rfl, _⟩ | ⟨_, _, rfl⟩ := registerAgain_ends (of_section exec) <;> exact mem
  | remove sock id =>
    have removed := of_section exec
    unfold Shared.remove at removed
    split at removed <;> cases removed <;> exact mem
  | newClientHandler | disconnectedHandler =>
    cases exec
    exact mem_cons_of_mem _ mem
  | messageHandler sock data =>
    obtain rfl := of_chosen exec
    exact mem_cons_of_mem _ mem
  | newWebSocket | handlerReturned =>
    cases exec
    exact mem
  | _ => exact still rfl

namespace Heard

variable {opts : Settings} {pre after : Shared} {view : Nat -> Option Place} {tid : Nat}

/-- Nothing has changed that the order is about. -/
theorem alike (heard : Heard opts pre view) (same : Silent pre after) :
    Heard opts after view := by
  refine ⟨?_, ?_, ?_⟩
  · rw [same.notices]
    exact heard.ordered
  · rw [same.made, same.ids, same.status, Silent.heard same.notices]
    exact heard.greeted
  · rw [same.notices, same.ids, Silent.told same.notices]
    exact heard.alternating

variable {place : Option Place} (quiet : ∀ sock id, place ≠ some (.welcoming sock id))
  (keeps : ∀ sock id stage, place = some (.seat sock id stage) -> stage.early = true ->
    ∃ stage, view tid = some (.seat sock id stage) ∧ stage.early = true)

include quiet keeps

/-- Nothing is delivered, and a goroutine goes on. -/
theorem silent (heard : Heard opts pre view) (same : Silent pre after) :
    Heard opts after (update view tid place) := by
  have retagged : Heard opts pre (update view tid place) :=
    ⟨heard.ordered, heard.greeted.relabels quiet keeps, heard.alternating⟩
  exact retagged.alike same

variable {sock : Nat}

/-- A socket changes its status, and nothing is delivered. -/
theorem restates (heard : Heard opts pre view) {status : Status}
    (same : Silent (pre.setStatus sock status) after) (present : status ≠ .fresh)
    (known : status = .removed ∨ status = .ret -> pre.heard sock = true) :
    Heard opts after (update view tid place) := by
  have restated : Heard opts (pre.setStatus sock status)
      (update view tid place) :=
    ⟨heard.ordered, heard.greeted.restates quiet keeps present known, heard.alternating⟩
  exact restated.alike same

omit quiet keeps

/-- A socket that is about to be announced has not gone. -/
theorem registered (heard : Heard opts pre view) {id : String}
    (here : view tid = some (.welcoming sock id)) :
    pre.hist.status sock = .registered := by
  have known := heard.greeted.greeting _ _ _ here
  cases status : pre.hist.status sock with
  | fresh => exact absurd status known.2.2.1
  | registered => rfl
  | removed =>
    rw [heard.greeted.gone sock (.inl status)] at known
    cases known.2.2.2
  | ret =>
    rw [heard.greeted.gone sock (.inr status)] at known
    cases known.2.2.2

variable (heard : Heard opts pre view) {keeper : Nat -> Nat}
  (orderly : Orderly opts pre keeper view)
include heard orderly

/-- No announced socket of the identifier is left when another one is announced. -/
theorem none_open (handled : opts.disconnectedHandler = true)
    {other : Nat} {id : String} (here : view tid = some (.welcoming sock id))
    (announced : .connected other ∈ pre.hist.notices) (same : pre.ids other = id) :
    pre.told other ≠ 0 := by
  have known := heard.greeted.greeting _ _ _ here
  have spoken : pre.heard other = true := decide_eq_true announced
  have present := (orderly.seats.current id sock).mpr ⟨known.1, known.2.1, heard.registered here⟩
  cases status : pre.hist.status other with
  | fresh => exact absurd status (heard.greeted.announced other spoken).2
  | registered =>
    have also := (orderly.seats.current id other).mpr
      ⟨(heard.greeted.announced other spoken).1, same, status⟩
    obtain rfl := Option.some.inj (present.symm.trans also)
    rw [spoken] at known
    cases known.2.2.2
  | removed =>
    have vacant := orderly.seats.vacant other status
    rw [show pre.desk.ids other = id from same, present] at vacant
    cases vacant
  | ret =>
    rw [orderly.announced.ret other status, if_pos handled]
    exact Nat.one_ne_zero

/-- Every operation keeps the order, when the pumps come to the server after the announcement. -/
theorem execute {place : Place} {op : Op} {ans : Res op}
    (here : view tid = some place) (legal : Registration.allowed opts op place)
    (greeted : ∀ sock, op.receives = some sock ->
      .connected sock ∈ pre.hist.notices)
    (exec : Server.execute opts tid op choice pre = some (ans, after)) :
    Heard opts after
      (update view tid (some (Registration.move op place ans))) := by
  have quiet : (∀ sock, op ≠ .sock sock .goWritePump) ->
      ∀ sock id, some (Registration.move op place ans) ≠
        some (.welcoming sock id) := by
    intro other sock id same
    exact Registration.move_ne_welcoming legal other ans sock id (Option.some.inj same)
  have keeps : (∀ id, op ≠ .newWebSocket id) -> ∀ sock id stage,
      some (Registration.move op place ans) = some (.seat sock id stage) ->
      stage.early = true ->
      ∃ stage, view tid = some (.seat sock id stage) ∧ stage.early = true := by
    intro other sock id stage same early
    rcases Registration.early_of_move legal other ans sock id stage (Option.some.inj same)
      early with ⟨stage, rfl, early⟩
    exact ⟨stage, here, early⟩
  have still : op.silent = true -> (∀ sock, op ≠ .sock sock .goWritePump) ->
      Heard opts after
        (update view tid (some (Registration.move op place ans))) := by
    intro calm other
    have later : ∀ id, op ≠ .newWebSocket id := by
      rintro id rfl
      cases calm
    exact heard.silent (quiet other) (keeps later) (.of_execute calm exec)
  cases op with
  | newWebSocket id =>
    cases exec
    have unmade : pre.heard pre.made = false := by
      rw [Bool.eq_false_iff]
      intro spoken
      exact absurd (heard.greeted.announced _ spoken).1 (Nat.lt_irrefl _)
    refine ⟨heard.ordered, heard.greeted.makes, ?_⟩
    intro handled
    refine (heard.alternating handled).makes ⟨of_decide_eq_false unmade, ?_⟩
    have untold := orderly.announced.silent pre.made
      (.inl (orderly.seats.unmade _ (Nat.le_refl _)))
    exact count_eq_zero.mp untold
  | register sock id =>
    obtain ⟨rfl, _⟩ | ⟨_, ⟨_, _, rfl⟩ | ⟨_, _, _, rfl⟩⟩ := register_ends (of_section exec)
    · exact heard.silent (quiet (by simp)) (keeps (by simp)) ⟨rfl, rfl, rfl, rfl⟩
    · exact heard.restates (quiet (by simp)) (keeps (by simp)) ⟨rfl, rfl, rfl, rfl⟩ (by simp) (by simp)
    · exact heard.silent (quiet (by simp)) (keeps (by simp)) ⟨rfl, rfl, rfl, rfl⟩
  | registerAgain sock id =>
    obtain ⟨rfl, _⟩ | ⟨_, _, rfl⟩ := registerAgain_ends (of_section exec)
    · exact heard.silent (quiet (by simp)) (keeps (by simp)) ⟨rfl, rfl, rfl, rfl⟩
    · exact heard.restates (quiet (by simp)) (keeps (by simp)) ⟨rfl, rfl, rfl, rfl⟩ (by simp) (by simp)
  | newClientHandler sock =>
    obtain ⟨id, rfl⟩ := legal
    cases exec
    have known := heard.greeted.greeting _ _ _ here
    have spoken : (pre.notify (.connected sock)).heard =
        update pre.heard sock true := by
      funext num
      by_cases same : num = sock
      · subst same
        simp [Shared.heard, Shared.notify]
      · simp [Shared.heard, Shared.notify, same]
    refine ⟨heard.ordered, ?_, ?_⟩
    · rw [spoken]
      exact heard.greeted.hears here
    · intro handled
      have told : (pre.notify (.connected sock)).told = pre.told := by
        funext num
        exact count_cons_of_ne fun same => by cases same
      rw [told]
      refine (heard.alternating handled).connected ?_ ?_
      · exact orderly.announced.silent sock (.inr (heard.registered here))
      · intro other announced same
        exact heard.none_open orderly handled here announced (same.trans known.2.1)
  | messageHandler sock data =>
    obtain rfl := of_chosen exec
    have announced := greeted sock rfl
    have spoken : (pre.notify (.message sock)).heard = pre.heard := by
      funext num
      simp [Shared.heard, Shared.notify]
    have told : (pre.notify (.message sock)).told = pre.told := by
      funext num
      exact count_cons_of_ne fun same => by cases same
    refine ⟨⟨announced, heard.ordered⟩, ?_, ?_⟩
    · rw [spoken]
      exact heard.greeted.relabels (quiet (by simp)) (keeps (by simp))
    · intro handled
      rw [told]
      exact (heard.alternating handled).message
  | remove sock id =>
    have announced := greeted sock rfl
    have removed := of_section exec
    unfold Shared.remove at removed
    split at removed
    · cases removed
      exact heard.restates (quiet (by simp)) (keeps (by simp)) ⟨rfl, rfl, rfl, rfl⟩ (by simp)
        (fun _ => decide_eq_true announced)
    · cases removed
      exact heard.silent (quiet (by simp)) (keeps (by simp)) ⟨rfl, rfl, rfl, rfl⟩
  | disconnectedHandler sock =>
    obtain ⟨_, id, rfl⟩ := legal
    cases exec
    have announced : .connected sock ∈ pre.hist.notices := of_decide_eq_true
      (heard.greeted.gone sock (.inl (orderly.seats.seated _ _ _ _ here).2.2.1))
    have spoken : (pre.notify (.disconnected sock)).heard = pre.heard := by
      funext num
      simp [Shared.heard, Shared.notify]
    refine ⟨⟨announced, heard.ordered⟩, ?_, ?_⟩
    · rw [spoken]
      exact heard.greeted.relabels (quiet (by simp)) (keeps (by simp))
    · intro handled
      rw [told_notify]
      exact (heard.alternating handled).disconnected
        (orderly.announced.seated _ _ _ _ here) announced
  | handlerReturned sock =>
    obtain ⟨id, rfl⟩ := legal
    cases exec
    have removed : pre.hist.status sock = .removed := by
      have status : pre.hist.status sock = _ := (orderly.seats.seated _ _ _ _ here).2.2.1
      rw [status]
      split <;> rfl
    exact heard.restates (quiet (by simp)) (keeps (by simp)) ⟨rfl, rfl, rfl, rfl⟩ (by simp)
      (fun _ => heard.greeted.gone sock (.inl removed))
  | sock sock op =>
    cases op with
    | goWritePump =>
      obtain ⟨id, rfl⟩ := legal
      cases choice with
      | sock choice =>
        cases exec
        have known := orderly.seats.seated _ _ _ _ here
        refine ⟨heard.ordered, heard.greeted.launches here ⟨known.1, known.2.1, known.2.2.1⟩ ?_,
          heard.alternating⟩
        intro other id stage placed
        exact orderly.seats.alone _ _ _ _ _ _ _ placed here
      | _ => cases exec
    | _ => exact still rfl (by simp)
  | _ => exact still rfl (by simp)

end Heard

namespace Delivery

/-- A goroutine delivers a message of the socket it has just found to be the current one. -/
def protocol : Protocol Op Res Routine (Option Nat) where
  fits := fun _ _ => True
  allowed := fun op delivering =>
    match op with
    | .messageHandler sock _ => delivering = some sock
    | _ => True
  next := fun op _ ans onward =>
    match op, ans with
    | .isCurrent sock _, true => onward = some sock
    | _, _ => onward = none

variable {opts : Settings} {α β : Type} {routine : Routine}

/-- The program delivers only messages of sockets that it found to be current. -/
def Careful (routine : Routine) (prog : Prog α) : Prop :=
  ∀ delivering, prog.Obeys protocol routine (fun _ _ => True) delivering

theorem careful_handleMessage (sock : Nat) (id : String) (data : List UInt8) :
    Careful routine (handleMessage opts sock id data) := by
  intro delivering
  refine ⟨trivial, trivial, ?_⟩
  intro current onward moved
  cases current with
  | false => exact ⟨trivial, trivial⟩
  | true =>
    obtain rfl := moved
    simp only [bind_done, if_true]
    split
    · exact ⟨trivial, rfl, fun _ _ _ => ⟨trivial, trivial⟩⟩
    · exact ⟨trivial, trivial⟩

theorem careful : Composed opts (Careful routine) where
  done := fun _ _ => ⟨trivial, trivial⟩
  bind := fun first second delivering =>
    (first delivering).bind fun value between _ => second value between
  step := by
    intro op other delivering
    refine ⟨trivial, ?_, fun _ _ _ => ⟨trivial, trivial⟩⟩
    cases op with
    | messageHandler => cases other
    | _ => trivial
  message := careful_handleMessage

theorem careful_body (routine : Routine) : Careful routine (body opts routine) := by
  have lockAll : Careful routine lockAll := fun _ => ⟨trivial, trivial, fun _ _ _ => ⟨trivial, trivial⟩⟩
  have unlockAll : Careful routine unlockAll := fun _ => ⟨trivial, trivial, fun _ _ _ => ⟨trivial, trivial⟩⟩
  cases routine with
  | stopConnections => exact careful.stopConnections lockAll unlockAll
  | _ => exact careful.body nofun

/-- A goroutine that is about to deliver a message knows that the socket was announced. -/
theorem runs {guard : Condition} (greeted : ∀ s tid sock id,
      guard.op s tid (.isCurrent sock id) -> .connected sock ∈ s.hist.notices) :
    Verified (system opts) guard .new protocol (fun _ _ => True) (fun _ => True)
      (fun s view => ∀ tid sock, view tid = some (some sock) ->
        .connected sock ∈ s.hist.notices) where
  body := by
    intro routine delivering _
    apply (careful_body routine delivering).mono
    intro value final _
    cases value <;> trivial
  initially := by
    intro tid sock delivers
    cases delivers
  enter := by
    intro config view routine after _ _ announced entered vacant
    refine ⟨none, trivial, ?_⟩
    intro other sock delivers
    rw [(Silent.of_enter entered).notices]
    rcases tagged_of_update delivers with ⟨_, ⟨⟩⟩ | ⟨_, kept⟩
    exact announced other sock kept
  occur := by
    intro pre view event after announced arose tid sock delivers
    replace arose : Server.occur event pre = some after := arose
    rw [(Silent.of_occur arose).notices]
    exact announced tid sock delivers
  execute := by
    intro pre view tid state op choice ans after announced here legal guarded
      exec
    have kept : ∀ onward, (∀ sock, onward = some sock ->
        .connected sock ∈ pre.hist.notices) -> ∀ other sock,
        update view tid (some onward) other = some (some sock) ->
        .connected sock ∈ after.hist.notices := by
      intro onward known other sock delivers
      apply mem_notices_of_execute exec
      rcases tagged_of_update delivers with ⟨_, same⟩ | ⟨_, pre⟩
      · exact known sock (Option.some.inj same)
      · exact announced other sock pre
    by_cases current : ∃ sock id, op = .isCurrent sock id
    · obtain ⟨sock, id, rfl⟩ := current
      cases ans with
      | true =>
        refine ⟨some sock, rfl, kept (some sock) ?_⟩
        rintro _ ⟨⟩
        exact greeted pre tid sock id guarded
      | false => exact ⟨none, rfl, kept none nofun⟩
    · refine ⟨none, ?_, kept none nofun⟩
      cases op with
      | isCurrent sock id => exact absurd ⟨sock, id, rfl⟩ current
      | _ => rfl
  finish := by
    intro s view tid state announced here _ other sock delivers
    rcases tagged_of_update delivers with ⟨_, ⟨⟩⟩ | ⟨_, kept⟩
    exact announced other sock kept

end Delivery

/-- The socket whose pump comes to the server: with a message, or at the end. -/
def Op.arrives : Op -> Option Nat
  | .isCurrent num _ | .remove num _ => some num
  | _ => none

/-- The pumps of a socket come to the server, with a message or at the end, after its connected
handler was called; `Start` is called before the first socket is made. -/
@[reducible] def greetsFirst : Condition where
  call := fun _ _ => True
  op := fun s tid op => oneGeneration.op s tid op ∧
    op.arrives.all (fun sock => .connected sock ∈ s.hist.notices) = true

/-- The same, and the messages are delivered after it, too. -/
def deliversAfter : Condition where
  call := fun _ _ => True
  op := fun s _ op =>
    (op = .reset -> s.made = 0) ∧
      ∀ sock, op.receives = some sock -> .connected sock ∈ s.hist.notices

variable {opts : Settings}

theorem delivers_after {config : Configuration}
    (reached : (system opts).Reachable greetsFirst .new config) :
    (system opts).Reachable deliversAfter .new config := by
  have runs : Verified (system opts) greetsFirst .new Delivery.protocol (fun _ _ => True)
      (fun _ => True) (fun s view => ∀ tid sock, view tid = some (some sock) ->
        .connected sock ∈ s.hist.notices) :=
    Delivery.runs fun _ _ _ _ guarded => of_decide_eq_true guarded.2
  refine reached.refine (fun _ _ _ _ => trivial) ?_
  intro config tid content op reached found next guarded
  refine ⟨?_, ?_⟩
  · rintro rfl
    exact guarded.1 rfl
  · intro sock receives
    cases op with
    | isCurrent num id | remove num id =>
      cases receives
      exact of_decide_eq_true guarded.2
    | messageHandler num data =>
      cases receives
      rcases runs.reachable reached with ⟨view, describes, announced⟩
      rcases describes.tagged tid content found with ⟨delivering, here, obeys⟩
      obtain rfl := obeys.allowed next
      exact announced tid sock here
    | _ => cases receives

theorem place_of_entry {routine : Routine} {place : Place} (begins : Registration.entry routine place) :
    place = .idle ∨ ∃ sock id, place = .seat sock id .pumping := by
  cases routine with
  | sock sock id inner =>
    cases inner with
    | run => cases begins
    | writePump | writeLoop => exact .inr ⟨sock, id, begins⟩
    | _ => exact .inl begins
  | _ => exact .inl begins

theorem heard_runs : Verified (system opts) deliversAfter .new
    (Registration.protocol opts) Registration.entry Registration.leave
    (fun s view => (∃ keeper, Orderly opts s keeper view) ∧ Heard opts s view) where
  body := Registration.obeys_body
  initially := by
    refine ⟨orderly_runs.initially, trivial, ?_, ?_⟩
    · constructor <;> grind -linarith [Shared.new, Shared.heard]
    · intro _
      refine ⟨fun _ => trivial, ?_, ?_⟩
      · intro sock mem
        cases mem
      · intro id sock head
        cases head
  enter := by
    rintro config view routine after _ _ ⟨⟨keeper, orderly⟩, heard⟩ entered vacant
    rcases orderly.enter vacant entered with ⟨place, begins, kept⟩
    refine ⟨place, begins, ⟨keeper, kept⟩, heard.silent ?_ ?_ (.of_enter entered)⟩
    · intro sock id same
      rcases place_of_entry begins with rfl | ⟨_, _, rfl⟩ <;> cases same
    · intro sock id stage same early
      rcases place_of_entry begins with rfl | ⟨_, _, rfl⟩ <;> cases same
      cases early
  occur := by
    rintro pre view event after ⟨orderly, heard⟩ arose
    replace arose : Server.occur event pre = some after := arose
    exact ⟨orderly_runs.occur pre view event after orderly arose,
      heard.alike (.of_occur arose)⟩
  execute := by
    rintro pre view tid place op choice ans after ⟨⟨keeper, orderly⟩, heard⟩ here
      legal guarded exec
    rcases orderly.execute here guarded.1 legal exec with ⟨possible, kept⟩
    exact ⟨_, ⟨possible, rfl⟩, kept, heard.execute orderly here legal guarded.2 exec⟩
  finish := by
    rintro s view tid place ⟨orderly, heard⟩ here leaves
    refine ⟨orderly_runs.finish s view tid place orderly here leaves, ?_⟩
    exact heard.silent nofun nofun
      ⟨rfl, rfl, rfl, rfl⟩

/-- In every run in which the pumps come to the server after the connected handler was called, a
message and a disconnect come after the connect of their socket, and the connects and disconnects
of every identifier alternate. -/
theorem events_in_order (opts : Settings) (config : Configuration)
    (reached : (system opts).Reachable greetsFirst .new config) :
    Ordered config.shared.hist.notices ∧
      (opts.disconnectedHandler = true -> ∀ id,
        Alternates (eventsOf config.shared.ids id config.shared.hist.notices)) := by
  rcases heard_runs.reachable (delivers_after reached) with ⟨view, _, _, heard⟩
  exact ⟨heard.ordered, fun handled => (heard.alternating handled).alternates⟩

/-- The upgrade handler registers the socket and starts its pumps. -/
def launching (tid : Nat) (id : String) : Schedule := arriving tid id ++ proceedInside tid 2

/-- The read pump starts and receives a message, which it hands to the server. -/
def receiving (tid sock : Nat) (id : String) : Schedule :=
  [.call (.sock sock id .readPump)] ++ proceedInside tid 5 ++
    [.step tid (.sock (.outcome none))] ++ proceed tid 1 ++
    [.step tid (.sock (.incoming (.message [])))] ++ proceed tid 1 ++
    [.step tid (.outcome none)]

/-- The read pump of a new socket receives a message before the upgrade handler goes on: the
message is delivered first. -/
theorem message_before_connect :
    ∃ config, (system (sampleOpts .keepCurrent)).Reachable oneGeneration .new config ∧
      ¬ Ordered config.shared.hist.notices := by
  have run : ∃ config,
      (system (sampleOpts .keepCurrent)).Reachable oneGeneration .new config ∧
      config.shared.hist.notices = [.message 0] :=
    System.exists_reachable_of_replay _
      (launching 0 "a" ++ receiving 1 0 "a") (by decide +kernel)
  rcases run with ⟨config, reached, notices⟩
  refine ⟨config, reached, ?_⟩
  rw [notices]
  rintro ⟨mem, _⟩
  cases mem

/-- The connected handler is called before the read pump runs. -/
theorem events_in_order_received :
    ∃ config, (system (sampleOpts .keepCurrent)).Reachable greetsFirst .new config ∧
      config.shared.hist.notices = [.message 0, .connected 0] ∧
      Ordered config.shared.hist.notices :=
  System.exists_reachable_with
    (launching 0 "a" ++ proceed 0 1 ++ receiving 1 0 "a") (by decide +kernel)
    fun config reached _ => (events_in_order _ config reached).1

end Server
end Ws
end OcppGo
