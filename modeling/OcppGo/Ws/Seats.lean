import OcppGo.Ws.Registration

namespace OcppGo
namespace Ws
namespace Server

open Function Interleaving Sync Program List

/-!
# The owners of the sockets and the gates

What the server knows about its sockets, and what their owners know, described by small records
and by the moves that change them.  A socket that is being removed has an owner that has still to
close the gate of its identifier; a registration that waits for an older socket is the only one of
its identifier; the gates count the goroutines that have still to close them.
-/

/-- How many transitions of an identifier are recorded. -/
def opened (transitions : List (Nat × String)) (id : String) : Nat :=
  transitions.countP (fun transition => transition.2 = id)

theorem opened_cons (tid : Nat) (id other : String) (transitions : List (Nat × String)) :
    opened ((tid, id) :: transitions) other =
      opened transitions other + if id = other then 1 else 0 := by
  simp [opened, countP_cons]

variable {transitions : List (Nat × String)}

theorem opened_erase {transition : Nat × String} (mem : transition ∈ transitions)
    (other : String) :
    opened transitions other =
      opened (transitions.erase transition) other + if transition.2 = other then 1 else 0 := by
  rw [opened, (perm_cons_erase mem).countP_eq]
  exact opened_cons transition.1 transition.2 other _

/-- The gate counts the recorded transitions. -/
structure Counted (gate : AList (fun _ : String => Int)) (transitions : List (Nat × String)) :
    Prop where
  nodup : transitions.Nodup
  counts : ∀ id, gate.lookup id =
    if opened transitions id = 0 then none else some (opened transitions id : Int)

namespace Counted

variable {s : Shared} {tid : Nat} {id : String}

section

variable (counted : Counted s.gate s.hist.transitions)
include counted

theorem gateOf_eq (id : String) : s.gateOf id = opened s.hist.transitions id := by
  rw [Shared.gateOf, counted.counts id]
  split
  · next none => simp [none]
  · rfl

/-- The gate of an identifier is closed when nobody has an open transition of it. -/
theorem closed (closed : ¬ 0 < s.gateOf id) (tid : Nat)
    : (tid, id) ∉ s.hist.transitions := by
  intro mem
  have positive : 0 < opened s.hist.transitions id :=
    countP_pos_iff.mpr ⟨(tid, id), mem, by simp⟩
  rw [counted.gateOf_eq] at closed
  omega

theorem openGate (first : (tid, id) ∉ s.hist.transitions) :
    Counted (s.openGate tid id).gate (s.openGate tid id).hist.transitions := by
  refine ⟨nodup_cons.mpr ⟨first, counted.nodup⟩, ?_⟩
  intro other
  simp only [Shared.openGate, opened_cons, counted.gateOf_eq]
  by_cases same : other = id
  · subst same
    simp
  · have apart : ¬ id = other := fun equal => same equal.symm
    rw [AList.lookup_insert_ne same, counted.counts other]
    simp [apart]

theorem closeGate (mem : (tid, id) ∈ s.hist.transitions) :
    Counted (s.closeGate tid id).gate (s.closeGate tid id).hist.transitions := by
  refine ⟨counted.nodup.erase _, ?_⟩
  intro other
  have positive : 0 < opened s.hist.transitions id :=
    countP_pos_iff.mpr ⟨(tid, id), mem, by simp⟩
  have fewer : opened (s.hist.transitions.erase (tid, id)) other =
      opened s.hist.transitions other - if id = other then 1 else 0 := by
    rw [opened_erase mem other]
    exact (Nat.add_sub_cancel ..).symm
  simp only [Shared.closeGate, fewer, counted.gateOf_eq]
  by_cases same : other = id
  · subst same
    split
    · next last =>
        have one : opened s.hist.transitions other - 1 = 0 := by omega
        simp [one]
    · next more =>
        have several : opened s.hist.transitions other - 1 ≠ 0 := by omega
        simp only [AList.lookup_insert, if_true, several, if_false]
        congr 1
        omega
  · have apart : ¬ id = other := fun equal => same equal.symm
    have kept : (if (opened s.hist.transitions id : Int) - 1 ≤ 0 then s.gate.erase id
        else s.gate.insert id (opened s.hist.transitions id - 1)).lookup other =
        s.gate.lookup other := by
      split
      · exact AList.lookup_erase_ne same
      · exact AList.lookup_insert_ne same
    rw [kept, counted.counts other]
    simp [apart]

end

end Counted

/-! ## The owners of the sockets -/

/-- The status of the socket whose owner is at the stage. -/
@[grind] def Stage.status : Stage -> Status
  | .holding | .evicting _ | .torn _ => .fresh
  | .enrolled | .launching | .pumping | .locking => .registered
  | .removed | .superseded | .emitting | .emitted => .removed
  | .ret | .closed => .ret

/-- The owner has still to close the gate. -/
@[grind] def Stage.opens : Stage -> Bool
  | .holding | .launching | .pumping | .locking | .closed => false
  | _ => true

/-- The owner registers its socket by an eviction. -/
@[grind] def Stage.evicts : Stage -> Bool
  | .evicting _ | .torn _ | .enrolled => true
  | _ => false

/-- The identifier whose gate a goroutine has still to close. -/
@[grind] def opening : Option Place -> Option String
  | some (.seat _ id stage) => if stage.opens then some id else none
  | _ => none

/-- The socket a goroutine owns. -/
@[grind] def owned : Option Place -> Option Nat
  | some (.seat sock _ _) => some sock
  | _ => none

/-- What the server knows about its sockets. -/
structure Desk where
  made : Nat
  ids : Nat -> String
  status : Nat -> Status
  torn : Nat -> Bool
  /-- the write pump was started and has not run yet -/
  launched : Nat -> Bool
  current : String -> Option Nat

def Shared.desk (s : Shared) : Desk where
  made := s.made
  ids := s.ids
  status := s.hist.status
  torn := s.teardownDone
  launched := fun sock => (s.sockets sock).writePump
  current := fun id => s.connections.lookup id

/-- The owners of the sockets agree with the server.  `keeper` names the owner of a socket that
has been removed. -/
@[grind cases] structure Seats (desk : Desk) (keeper : Nat -> Nat) (view : Nat -> Option Place) :
    Prop where
  seated : ∀ tid sock id stage, view tid = some (.seat sock id stage) ->
    sock < desk.made ∧ desk.ids sock = id ∧ desk.status sock = stage.status ∧
      desk.torn sock = false ∧ desk.launched sock = false ∧ stage ≠ .superseded
  alone : ∀ tid other sock id stage id' stage', view tid = some (.seat sock id stage) ->
    view other = some (.seat sock id' stage') -> tid = other
  launched : ∀ sock, desk.launched sock = true -> desk.status sock = .registered
  current : ∀ id sock, desk.current id = some sock <->
    sock < desk.made ∧ desk.ids sock = id ∧ desk.status sock = .registered
  unmade : ∀ sock, desk.made ≤ sock -> desk.status sock = .fresh
  torn : ∀ sock, desk.torn sock = true -> desk.status sock = .ret
  kept : ∀ sock, desk.status sock = .removed -> owned (view (keeper sock)) = some sock
  vacant : ∀ sock, desk.status sock = .removed -> desk.current (desk.ids sock) = none
  evicting : ∀ tid sock id old other, view tid = some (.seat sock id (.evicting old)) ->
    desk.ids other = id -> desk.status other = .registered ∨ desk.status other = .removed ->
    other = old
  evicted : ∀ tid sock id old other, view tid = some (.seat sock id (.torn old)) ->
    desk.ids other = id -> desk.status other ≠ .registered ∧ desk.status other ≠ .removed
  evictor : ∀ tid other sock socket' id stage stage',
    view tid = some (.seat sock id stage) -> view other = some (.seat socket' id stage') ->
    stage.evicts = true -> stage'.evicts = true -> tid = other

namespace Seats

variable {desk : Desk} {keeper : Nat -> Nat} {view : Nat -> Option Place} {tid sock old : Nat}
  {id : String} {stage onward : Stage}

theorem new : Seats Shared.new.desk keeper (fun _ => none) := by
  have empty : ∀ id, Shared.new.desk.current id = none := fun _ => rfl
  have launched : ∀ sock, Shared.new.desk.launched sock = false := fun _ => rfl
  have torn : ∀ sock, Shared.new.desk.torn sock = false := fun _ => rfl
  have status : ∀ sock, Shared.new.desk.status sock = .fresh := fun _ => rfl
  constructor <;> grind -linarith

section

variable (seats : Seats desk keeper view)
include seats

/-- The owner of a socket goes on, and the socket keeps its status. -/
theorem relabels
    (placed : view tid = some (.seat sock id stage)) (same : onward.status = stage.status)
    (alone : onward ≠ .superseded)
    (evicting : ∀ old other, onward = .evicting old -> desk.ids other = id ->
      desk.status other = .registered ∨ desk.status other = .removed -> other = old)
    (evicted : ∀ old other, onward = .torn old -> desk.ids other = id ->
      desk.status other ≠ .registered ∧ desk.status other ≠ .removed)
    (evictor : onward.evicts = true -> stage.evicts = false ->
      ∀ other sock stage, view other = some (.seat sock id stage) -> stage.evicts = false) :
    Seats desk keeper (update view tid (some (.seat sock id onward))) := by
  refine ⟨?_, ?_, seats.launched, seats.current, seats.unmade, seats.torn, ?_, seats.vacant,
    ?_, ?_, ?_⟩ <;> grind -linarith

/-- A goroutine has no socket any more, and none was in the middle of its removal. -/
theorem leaves {place : Option Place}
    (done : ∀ sock, owned (view tid) = some sock -> desk.status sock ≠ .removed)
    (left : owned place = none) : Seats desk keeper (update view tid place) := by
  have nothing : ∀ sock id stage, place ≠ some (.seat sock id stage) := by
    rintro sock id stage rfl
    cases left
  refine ⟨?_, ?_, seats.launched, seats.current, seats.unmade, seats.torn, ?_, seats.vacant,
    ?_, ?_, ?_⟩ <;> grind -linarith

/-- A new socket. -/
theorem makes (idle : view tid = some .idle) :
    Seats { desk with
      made := desk.made + 1
      ids := update desk.ids desk.made id
      launched := update desk.launched desk.made false } keeper
      (update view tid (some (.seat desk.made id .holding))) := by
  constructor <;> grind -linarith

/-- The socket takes a free place. -/
theorem enrolls (placed : view tid = some (.seat sock id stage))
    (status : onward.status = .registered) (free : desk.current id = none)
    (gone : ∀ other, desk.ids other = id -> desk.status other ≠ .removed)
    (calm : ∀ other sock stage, view other = some (.seat sock id stage) ->
      stage.evicts = true -> other = tid) :
    Seats { desk with
      status := update desk.status sock .registered
      current := update desk.current id (some sock) } keeper
      (update view tid (some (.seat sock id onward))) := by
  constructor <;> grind -linarith

/-- The write pump is started. -/
theorem launches {place : Option Place}
    (placed : view tid = some (.seat sock id .launching)) (left : owned place = none) :
    Seats { desk with launched := update desk.launched sock true } keeper
      (update view tid place) := by
  have nothing : ∀ sock id stage, place ≠ some (.seat sock id stage) := by
    rintro sock id stage rfl
    cases left
  refine ⟨?_, ?_, ?_, seats.current, seats.unmade, seats.torn, ?_, seats.vacant, ?_, ?_, ?_⟩ <;>
    grind -linarith

/-- The write pump takes its socket over. -/
theorem runs (vacant : view tid = none) (known : sock < desk.made ∧ desk.ids sock = id)
    (started : desk.launched sock = true) :
    Seats { desk with launched := update desk.launched sock false } keeper
      (update view tid (some (.seat sock id .pumping))) := by
  refine ⟨?_, ?_, ?_, seats.current, seats.unmade, seats.torn, ?_, seats.vacant, ?_, ?_, ?_⟩ <;>
    grind -linarith

/-- The current socket is taken out. -/
theorem removes (placed : view tid = some (.seat sock id .pumping)) :
    Seats { desk with
      status := update desk.status sock .removed
      current := update desk.current id none } (update keeper sock tid)
      (update view tid (some (.seat sock id .removed))) := by
  constructor <;> grind -linarith

/-- The disconnect callback has returned. -/
theorem returns
    (placed : view tid = some (.seat sock id stage)) (removed : stage.status = .removed) :
    Seats { desk with status := update desk.status sock .ret } keeper
      (update view tid (some (.seat sock id .ret))) := by
  constructor <;> grind -linarith

/-- The teardown of the socket is complete. -/
theorem tearsDown (placed : view tid = some (.seat sock id .closed)) :
    Seats { desk with torn := update desk.torn sock true } keeper
      (update view tid (some .finished)) := by
  refine ⟨?_, ?_, seats.launched, seats.current, seats.unmade, ?_, ?_, seats.vacant, ?_, ?_, ?_⟩ <;>
    grind -linarith

end

end Seats

/-- The goroutines with a recorded transition are those that have still to close a gate, and the
gates count them. -/
structure Recorded (gate : AList (fun _ : String => Int)) (transitions : List (Nat × String))
    (view : Nat -> Option Place) : Prop where
  counted : Counted gate transitions
  recorded : ∀ tid id, (tid, id) ∈ transitions <-> opening (view tid) = some id

namespace Recorded

variable {s : Shared} {view : Nat -> Option Place} {tid : Nat} {id : String}
  {place : Option Place}

theorem relabels {gate : AList (fun _ : String => Int)} (recorded : Recorded gate transitions view)
    (same : opening place = opening (view tid)) :
    Recorded gate transitions (update view tid place) := by
  refine ⟨recorded.counted, ?_⟩
  intro other id
  rw [recorded.recorded]
  grind -linarith

variable (recorded : Recorded s.gate s.hist.transitions view)
include recorded

theorem openGate (closed : opening (view tid) = none) (opens : opening place = some id) :
    Recorded (s.openGate tid id).gate (s.openGate tid id).hist.transitions
      (update view tid place) := by
  have first : (tid, id) ∉ s.hist.transitions := by
    rw [recorded.recorded, closed]
    exact Option.some_ne_none id ∘ Eq.symm
  refine ⟨recorded.counted.openGate first, ?_⟩
  intro other id'
  have mem := recorded.recorded other id'
  simp only [Shared.openGate, mem_cons, Prod.mk.injEq]
  grind -linarith

theorem closeGate (opens : opening (view tid) = some id) (closed : opening place = none) :
    Recorded (s.closeGate tid id).gate (s.closeGate tid id).hist.transitions
      (update view tid place) := by
  refine ⟨recorded.counted.closeGate ((recorded.recorded tid id).mpr opens), ?_⟩
  intro other id'
  have mem := recorded.recorded other id'
  simp only [Shared.closeGate, recorded.counted.nodup.mem_erase_iff, ne_eq, Prod.mk.injEq]
  grind -linarith

/-- While the gate is closed, no owner of a socket is in a transition. -/
theorem calm (closed : ¬ 0 < s.gateOf id) (tid sock : Nat) (stage : Stage)
    (placed : view tid = some (.seat sock id stage)) : stage.opens = false := by
  rw [Bool.eq_false_iff]
  intro opens
  apply recorded.counted.closed closed tid
  rw [recorded.recorded, placed, opening, if_pos opens]

end Recorded

/-- While a socket is being removed, its gate is open. -/
theorem Seats.not_removed {s : Shared} {keeper : Nat -> Nat} {view : Nat -> Option Place}
    {id : String} (seats : Seats s.desk keeper view)
    (recorded : Recorded s.gate s.hist.transitions view) (closed : ¬ 0 < s.gateOf id)
    (sock : Nat) (same : s.desk.ids sock = id) : s.desk.status sock ≠ .removed := by
  intro removed
  have owner := seats.kept sock removed
  unfold owned at owner
  split at owner
  · next other id' stage placed =>
      cases owner
      rcases seats.seated _ _ _ _ placed with ⟨_, identifier, status, _⟩
      have opens : stage.opens = true := by
        rw [removed] at status
        cases stage <;> first | rfl | cases status
      rw [same] at identifier
      subst identifier
      rw [recorded.calm closed _ _ _ placed] at opens
      cases opens
  · cases owner

/-- How often the end of the socket has been announced when its owner is at the stage. -/
@[grind] def Stage.told (opts : Settings) : Stage -> Nat
  | .emitted => 1
  | .ret | .closed => if opts.disconnectedHandler then 1 else 0
  | _ => 0

/-- How often the end of a socket has been announced. -/
def Shared.told (s : Shared) (sock : Nat) : Nat := s.hist.notices.count (.disconnected sock)

/-- The end of a socket is announced once, and not before its removal. -/
@[grind cases] structure Announced (opts : Settings) (status : Nat -> Status)
    (told : Nat -> Nat) (view : Nat -> Option Place) : Prop where
  seated : ∀ tid sock id stage, view tid = some (.seat sock id stage) ->
    told sock = stage.told opts
  silent : ∀ sock, status sock = .fresh ∨ status sock = .registered -> told sock = 0
  ret : ∀ sock, status sock = .ret ->
    told sock = if opts.disconnectedHandler then 1 else 0

namespace Announced

variable {opts : Settings} {desk : Desk} {keeper : Nat -> Nat} {told : Nat -> Nat}
  {view : Nat -> Option Place} {tid sock : Nat} {id : String} {stage onward : Stage}

section

variable (announced : Announced opts desk.status told view)
include announced

theorem relabels (placed : view tid = some (.seat sock id stage))
    (same : onward.told opts = stage.told opts) :
    Announced opts desk.status told
      (update view tid (some (.seat sock id onward))) := by
  refine ⟨?_, announced.silent, announced.ret⟩
  grind -linarith

theorem leaves {place : Option Place} (left : owned place = none) :
    Announced opts desk.status told (update view tid place) := by
  have nothing : ∀ sock id stage, place ≠ some (.seat sock id stage) := by
    rintro sock id stage rfl
    cases left
  refine ⟨?_, announced.silent, announced.ret⟩
  grind -linarith

/-- A goroutine takes a socket over whose end has not been announced. -/
theorem takes (silent : told sock = 0) (begins : stage.told opts = 0) :
    Announced opts desk.status told
      (update view tid (some (.seat sock id stage))) := by
  refine ⟨?_, announced.silent, announced.ret⟩
  grind -linarith

/-- The status of the socket changes, and the announcements are as they should be. -/
theorem restates (placed : view tid = some (.seat sock id stage))
    (same : onward.told opts = stage.told opts) {status : Status}
    (silent : status = .fresh ∨ status = .registered -> onward.told opts = 0)
    (ret : status = .ret ->
      onward.told opts = if opts.disconnectedHandler then 1 else 0) :
    Announced opts (update desk.status sock status) told
      (update view tid (some (.seat sock id onward))) := by
  constructor <;> grind -linarith

theorem emits
    (alone : ∀ other id stage, view other = some (.seat sock id stage) -> other = tid)
    (placed : view tid = some (.seat sock id .emitting))
    (removed : desk.status sock = .removed) :
    Announced opts desk.status (update told sock (told sock + 1))
      (update view tid (some (.seat sock id .emitted))) := by
  constructor <;> grind -linarith

end

end Announced

end Server
end Ws
end OcppGo
