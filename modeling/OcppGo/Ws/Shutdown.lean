import OcppGo.Ws.Events

namespace OcppGo
namespace Ws

open Function Interleaving Sync Program List

/-!
# Shutting down

`stopConnections` closes every connection while it holds the mutex of the server.  A close request
that is still queued makes the send in `Close` wait for the write pump, and a write pump whose
write has failed waits for the mutex in the error callback.  Where no close request is queued when
the mutex is taken and none is made by others while it is held, `Close` never has to wait for a
write pump that waits for the mutex.
-/

namespace Socket

variable {config : Config} {tid : Nat} {op : Op} {choice : Choice} {s : Shared}

theorem capacity_of_sendClose {closeErr : CloseError} {result : Bool × Shared}
    (exec : execute config tid (.sendClose closeErr) choice s = some result) :
    result.2.closeC.capacity = s.closeC.capacity := by
  dsimp only [execute, Shared.fault, Chan.send] at exec
  grind

end Socket

namespace Server

variable {opts : Settings} {pre after : Shared} {tid : Nat}

/-- What an operation can do to the sockets. -/
inductive Touches (opts : Settings) (tid : Nat) (pre after : Shared) : Op -> Prop where
  | makes (id : String)
      (sockets : after.sockets = update pre.sockets pre.made .new) :
      Touches opts tid pre after (.newWebSocket id)
  | inside (sock : Nat) (op : Socket.Op) (choice : Socket.Choice)
      (result : Socket.Res op × Socket.Shared)
      (exec : Socket.execute (opts.config (pre.ids sock)) tid op choice
        (pre.sockets sock) = some result)
      (sockets : after.sockets = update pre.sockets sock result.2) :
      Touches opts tid pre after (.sock sock op)
  | nothing (op : Op) (other : ∀ sock inner, op ≠ .sock sock inner)
      (sockets : after.sockets = pre.sockets) : Touches opts tid pre after op

variable {op : Op} {choice : Choice}

variable {ans : Res op}

theorem touches_of_execute
    (exec : execute opts tid op choice pre = some (ans, after)) :
    Touches opts tid pre after op ∧
      (op.locks = false -> after.connMutex = pre.connMutex) := by
  have frame : after.sockets = pre.sockets ∧ after.connMutex = pre.connMutex ->
      (∀ sock inner, op ≠ .sock sock inner) ->
      Touches opts tid pre after op ∧
        (op.locks = false -> after.connMutex = pre.connMutex) :=
    fun same other => ⟨.nothing op other same.1, fun _ => same.2⟩
  cases op with
  | newWebSocket id =>
    cases exec
    exact ⟨.makes id rfl, fun _ => rfl⟩
  | sock sock op =>
    cases choice with
    | sock choice =>
      rcases Option.map_eq_some_iff.mp exec with ⟨result, stepped, same⟩
      cases same
      exact ⟨.inside sock op choice result stepped rfl, fun _ => rfl⟩
    | _ => cases exec
  | register sock id =>
    obtain ⟨rfl, _⟩ | ⟨_, ⟨_, _, rfl⟩ | ⟨_, _, _, rfl⟩⟩ := register_ends (of_section exec) <;>
      exact frame ⟨rfl, rfl⟩ nofun
  | registerAgain sock id =>
    obtain ⟨rfl, _⟩ | ⟨_, _, rfl⟩ := registerAgain_ends (of_section exec) <;>
      exact frame ⟨rfl, rfl⟩ nofun
  | remove sock id =>
    have removed := of_section exec
    unfold Shared.remove at removed
    split at removed <;> cases removed <;> exact frame ⟨rfl, rfl⟩ nofun
  | decrementGate | reset =>
    obtain ⟨_, rfl⟩ := of_guarded exec
    exact frame ⟨rfl, rfl⟩ nofun
  | messageHandler =>
    obtain rfl := of_chosen exec
    exact frame ⟨rfl, rfl⟩ nofun
  | newClientHandler | disconnectedHandler | handlerReturned | closeTeardown =>
    cases exec
    exact frame ⟨rfl, rfl⟩ nofun
  | _ =>
    obtain ⟨_, _, _, _, _, held, rfl⟩ := of_minor rfl exec
    exact ⟨.nothing _ nofun rfl, held⟩

/-! ## Who has the lock of a socket -/

/-- The lock of a socket is held by its owner, and only in the course of its teardown. -/
def Locked (s : Shared) (view : Nat -> Option Place) : Prop :=
  ∀ sock tid, (s.sockets sock).mutex.writer = some tid ->
    ∃ id, view tid = some (.seat sock id .locking)

variable {sock : Nat}

/-- A goroutine that has a lock stays where it is until it releases it. -/
theorem Registration.locking_of_move {id : String}
    (legal : allowed opts op (.seat sock id .locking))
    (other : op ≠ .sock sock .unlock) (ans : Res op) :
    move op (.seat sock id .locking) ans = .seat sock id .locking := by
  cases op with
  | newWebSocket | register | remove => cases legal
  | newClientHandler | registerAgain | superseded | closeTeardown =>
    obtain ⟨_, ⟨⟩⟩ := legal
  | awaitTeardown | disconnectedHandler => obtain ⟨_, _, ⟨⟩⟩ := legal
  | handlerReturned num =>
    obtain ⟨_, same⟩ := legal
    split at same <;> cases same
  | decrementGate id =>
    obtain ⟨_, _, ⟨⟩, ⟨old, same | same⟩ | same | same | same⟩ := legal <;> cases same
  | sock num op =>
    cases op with
    | lock | goReadPump | goWritePump => obtain ⟨_, ⟨⟩⟩ := legal
    | unlock =>
      obtain ⟨_, ⟨⟩⟩ := legal
      exact absurd rfl other
    | _ => exact move_of_calm legal ans
  | _ => exact move_of_calm legal ans

namespace Locked

variable {view : Nat -> Option Place} {place : Place}

theorem execute (locked : Locked pre view) (here : view tid = some place)
    (legal : Registration.allowed opts op place)
    (exec : Server.execute opts tid op choice pre = some (ans, after)) :
    Locked after (update view tid (some (Registration.move op place ans))) := by
  -- whoever had a lock before and keeps it
  have kept : ∀ sock holder, (pre.sockets sock).mutex.writer = some holder ->
      op ≠ .sock sock .unlock ->
      ∃ id, update view tid (some (Registration.move op place ans)) holder =
        some (.seat sock id .locking) := by
    intro sock holder writes other
    rcases locked sock holder writes with ⟨id, placed⟩
    refine ⟨id, ?_⟩
    by_cases mine : holder = tid
    · subst mine
      obtain rfl := Option.some.inj (here.symm.trans placed)
      rw [update_self, Registration.locking_of_move legal other]
    · rwa [update_of_ne mine]
  intro sock holder writes
  cases (touches_of_execute exec).1 with
  | nothing _ other sockets =>
    rw [sockets] at writes
    exact kept sock holder writes (other sock .unlock)
  | makes id sockets =>
    rw [sockets] at writes
    by_cases new : sock = pre.made
    · subst new
      rw [update_self] at writes
      cases writes
    · rw [update_of_ne new] at writes
      exact kept sock holder writes nofun
  | inside num inner choice result stepped sockets =>
    rw [sockets] at writes
    by_cases same : sock = num
    · subst same
      rw [update_self] at writes
      by_cases locks : inner = .lock
      · subst locks
        obtain ⟨id, rfl⟩ := legal
        rcases Option.map_eq_some_iff.mp stepped with ⟨mutex, taken, rfl⟩
        have writer := (RWMutex.announce_eq_some taken).2.2
        obtain rfl := Option.some.inj (writer.symm.trans writes)
        exact ⟨id, update_self ..⟩
      · by_cases unlocks : inner = .unlock
        · subst unlocks
          cases stepped
          cases writes
        · rw [(Socket.execute_frame stepped).writer locks unlocks] at writes
          refine kept sock holder writes ?_
          intro same
          injection same with _ same
          exact unlocks same
    · rw [update_of_ne same] at writes
      refine kept sock holder writes ?_
      intro equal
      injection equal with equal
      exact same equal.symm

end Locked

/-- A new goroutine has no lock and has queued nothing. -/
theorem sockets_of_enter {routine : Routine} (entered : enter routine pre = some after) :
    after.connMutex = pre.connMutex ∧ ∀ sock,
      (after.sockets sock).mutex = (pre.sockets sock).mutex ∧
      (after.sockets sock).closeC = (pre.sockets sock).closeC := by
  cases routine with
  | start | shutdown | stopConnection | write | wsHandler =>
    cases entered
    exact ⟨rfl, fun _ => ⟨rfl, rfl⟩⟩
  | stopConnections =>
    simp only [enter] at entered
    split at entered
    · cases entered
      exact ⟨rfl, fun _ => ⟨rfl, rfl⟩⟩
    · cases entered
  | sock sock id inner =>
    have same : ∀ state, Socket.enter inner (pre.sockets sock) = some state ->
        state.mutex = (pre.sockets sock).mutex ∧
          state.closeC = (pre.sockets sock).closeC := by
      intro state began
      cases inner <;> simp only [Socket.enter] at began <;> grind
    simp only [enter] at entered
    split at entered
    · split at entered
      · cases entered
      · cases entered
      · cases entered
      · rcases Option.map_eq_some_iff.mp entered with ⟨state, began, rfl⟩
        refine ⟨rfl, ?_⟩
        intro num
        by_cases equal : num = sock
        · subst equal
          simp only [update_self]
          exact same state began
        · simp [equal]
    · cases entered

theorem sockets_of_occur {event : Event} (arose : occur event pre = some after) :
    after.connMutex = pre.connMutex ∧ after.sockets = pre.sockets := by
  cases event
  simp only [occur] at arose
  split at arose
  · cases arose
    exact ⟨rfl, rfl⟩
  · cases arose

theorem locked_runs : Verified (system opts) oneGeneration .new
    (Registration.protocol opts) Registration.entry Registration.leave
    (fun s view => (∃ keeper, Orderly opts s keeper view) ∧ Locked s view) where
  body := Registration.obeys_body
  initially := by
    refine ⟨orderly_runs.initially, ?_⟩
    intro sock tid writes
    cases writes
  enter := by
    rintro config view routine after _ _ ⟨⟨keeper, orderly⟩, locked⟩ entered vacant
    rcases orderly.enter vacant entered with ⟨place, begins, kept⟩
    refine ⟨place, begins, ⟨keeper, kept⟩, ?_⟩
    intro sock holder writes
    rw [((sockets_of_enter entered).2 sock).1] at writes
    rcases locked sock holder writes with ⟨id, placed⟩
    refine ⟨id, ?_⟩
    rw [update_of_ne]
    · exact placed
    · rintro rfl
      rw [vacant] at placed
      cases placed
  occur := by
    rintro pre view event after ⟨orderly, locked⟩ arose
    refine ⟨orderly_runs.occur pre view event after orderly arose, ?_⟩
    replace arose : Server.occur event pre = some after := arose
    intro sock holder writes
    rw [(sockets_of_occur arose).2] at writes
    exact locked sock holder writes
  execute := by
    rintro pre view tid place op choice ans after ⟨orderly, locked⟩ here legal
      guarded exec
    rcases orderly_runs.execute pre view tid place op choice ans after orderly here
      legal guarded exec with ⟨_, ⟨possible, rfl⟩, kept⟩
    exact ⟨_, ⟨possible, rfl⟩, kept, locked.execute here legal exec⟩
  finish := by
    rintro s view tid place ⟨orderly, locked⟩ here leaves
    refine ⟨orderly_runs.finish s view tid place orderly here leaves, ?_⟩
    intro sock holder writes
    rcases locked sock holder writes with ⟨id, placed⟩
    refine ⟨id, ?_⟩
    by_cases mine : holder = tid
    · subst mine
      obtain rfl := Option.some.inj (here.symm.trans placed)
      cases leaves
    · rwa [update_of_ne mine]

/-! ## Closing one connection after the other -/

namespace Closing

/-- The operations of `stopConnections` on the first of the sockets that are left, and on a socket
it has closed. -/
def allowed (op : Op) : Option (List Nat) -> Prop
  | none => op ≠ .unlockAll
  | some left =>
    match op with
    | .sock sock (.sendClose _) => left.head? = some sock
    | .sock _ .rlock | .sock _ .runlock | .sock _ .connection => True
    | .unlockAll => True
    | _ => False

def move : (op : Op) -> Option (List Nat) -> Res op -> Option (List Nat)
  | .lockAll, _, sockets => some (sockets.map Sigma.snd)
  | .unlockAll, _, _ => none
  | .sock _ .connection, left, false => left.map List.tail
  | .sock _ (.sendClose _), left, _ => left.map List.tail
  | _, left, _ => left

/-- The sockets that a goroutine has still to close. -/
def protocol : Protocol Op Res Routine (Option (List Nat)) where
  fits := fun _ _ => True
  allowed := allowed
  next := fun op left ans onward => onward = move op left ans

/-- The other goroutines close nothing. -/
def Idle (routine : Routine) {α : Type} (prog : Prog α) : Prop :=
  prog.Obeys protocol routine (fun _ final => final = none) none

variable {routine : Routine}

theorem move_none (other : op ≠ .lockAll) (ans : Res op) :
    move op none ans = none := by
  cases op with
  | lockAll => exact absurd rfl other
  | sock sock op =>
    cases op with
    | connection => cases ans <;> rfl
    | _ => rfl
  | _ => rfl

theorem idle : Composed opts (Idle routine) where
  done := fun _ => ⟨trivial, rfl⟩
  bind := by
    intro _ _ prog onward first second
    apply Obeys.bind first
    rintro value _ rfl
    exact second value
  step := by
    intro op simple
    refine ⟨trivial, ?_, ?_⟩
    · rintro rfl
      cases simple
    · rintro ans _ rfl
      refine ⟨trivial, move_none ?_ ans⟩
      rintro rfl
      cases simple
  message := by
    intro sock id data
    refine ⟨trivial, nofun, ?_⟩
    rintro current _ rfl
    cases current with
    | false => exact ⟨trivial, rfl⟩
    | true =>
      simp only [bind_done, if_true]
      split
      · refine ⟨trivial, nofun, ?_⟩
        rintro outcome _ rfl
        exact ⟨trivial, rfl⟩
      · exact ⟨trivial, rfl⟩

/-- An operation of `Close` inside the server. -/
theorem obeys_inside {α : Type} {id : String} {op : Socket.Op}
    {resume : Socket.Res op -> Socket.Prog α} {post : α -> Option (List Nat) -> Prop}
    {left : Option (List Nat)}
    (plain : handle opts sock id op = .act (.sock sock op) .done)
    (legal : allowed (.sock sock op) left)
    (goesOn : ∀ ans, (inSocket opts sock id (resume ans)).Obeys protocol routine
      post (move (.sock sock op) left ans)) :
    (inSocket opts sock id (.act op resume)).Obeys protocol routine post
      left := by
  have first : inSocket opts sock id (.act op resume) =
      .act (.sock sock op) (fun ans => inSocket opts sock id (resume ans)) := by
    rw [inSocket, interpret_act, plain]
    rfl
  rw [first]
  refine ⟨trivial, legal, ?_⟩
  rintro ans _ rfl
  exact goesOn ans

/-- `Close` takes the first of the sockets off the list. -/
theorem obeys_close (sock : Nat) (id : String) (rest : List Nat) (closeErr : Socket.CloseError) :
    (inSocket opts sock id (Socket.close (opts.config id) closeErr)).Obeys protocol
      routine (fun _ final => final = some rest) (some (sock :: rest)) := by
  refine obeys_inside rfl trivial fun _ => obeys_inside rfl trivial ?_
  intro connected
  cases connected with
  | false => exact obeys_inside rfl trivial fun _ => ⟨trivial, rfl⟩
  | true =>
    refine obeys_inside rfl rfl ?_
    intro sent
    cases sent <;> exact obeys_inside rfl trivial fun _ => ⟨trivial, rfl⟩

theorem obeys_closeAll (sockets : List (Sigma fun _ : String => Nat)) :
    (closeAll opts sockets).Obeys protocol routine (fun _ final => final = some [])
      (some (sockets.map Sigma.snd)) := by
  induction sockets with
  | nil => exact ⟨trivial, rfl⟩
  | cons entry rest ih =>
    apply (obeys_close entry.2 entry.1 (rest.map Sigma.snd) _).bind
    rintro _ _ rfl
    exact ih

theorem obeys_body (routine : Routine) :
    (body opts routine).Obeys protocol routine
      (cont (fun _ left => left = none) (fun left => left = none)) none := by
  have ends : Idle routine (body opts routine) := by
    cases routine with
    | stopConnections =>
      refine ⟨trivial, nofun, ?_⟩
      rintro sockets _ rfl
      have closes : (do closeAll opts sockets; unlockAll).Obeys protocol
          .stopConnections (fun _ final => final = none) (some (sockets.map Sigma.snd)) := by
        apply (obeys_closeAll sockets).bind
        rintro _ _ rfl
        refine ⟨trivial, trivial, ?_⟩
        rintro _ _ rfl
        exact ⟨trivial, rfl⟩
      apply closes.bind
      rintro _ _ rfl
      exact ⟨trivial, rfl⟩
    | _ => exact idle.body nofun
  apply Obeys.mono ends
  rintro value _ rfl
  cases value <;> rfl

/-- Whoever holds the mutex has sockets to close, each once and none with a close request. -/
structure Unhurried (s : Shared) (view : Nat -> Option (Option (List Nat))) : Prop where
  holder : ∀ tid, s.connMutex = some tid <->
    ∃ left, view tid = some (some left)
  once : ∀ tid left, view tid = some (some left) -> left.Nodup
  unasked : ∀ tid left sock, view tid = some (some left) ->
    sock ∈ left -> (s.sockets sock).closeC.buffer = []
  capacity : ∀ sock, (s.sockets sock).closeC.capacity = 1

namespace Unhurried

variable {view : Nat -> Option (Option (List Nat))} {left rest : List Nat}

section

variable (unhurried : Unhurried pre view)
include unhurried

/-- A goroutine goes on, and no close request is made. -/
theorem keeps (mutex : after.connMutex = pre.connMutex) (closeC : ∀ sock,
      (after.sockets sock).closeC.capacity = (pre.sockets sock).closeC.capacity ∧
      ((pre.sockets sock).closeC.buffer = [] -> (after.sockets sock).closeC.buffer = []))
    {label : Option (Option (List Nat))}
    (same : ∀ left, label = some (some left) <-> view tid = some (some left)) :
    Unhurried after (update view tid label) := by
  have labels : ∀ other left, update view tid label other =
      some (some left) <-> view other = some (some left) := by
    intro other left
    by_cases mine : other = tid
    · rw [mine, update_self]
      exact same left
    · rw [update_of_ne mine]
  refine ⟨?_, ?_, ?_, ?_⟩
  · intro other
    rw [mutex, unhurried.holder other]
    simp only [labels]
  · intro other left
    rw [labels]
    exact unhurried.once other left
  · intro other left sock
    rw [labels]
    intro label mem
    exact (closeC sock).2 (unhurried.unasked other left sock label mem)
  · intro sock
    rw [(closeC sock).1]
    exact unhurried.capacity sock

/-- What an operation does to the close channels. -/
theorem closeC_of_execute
    (exec : execute opts tid op choice pre = some (ans, after))
    (sock : Nat) :
    (after.sockets sock).closeC.capacity = (pre.sockets sock).closeC.capacity ∧
      ((∀ closeErr, op ≠ .sock sock (.sendClose closeErr)) ->
        (pre.sockets sock).closeC.buffer = [] -> (after.sockets sock).closeC.buffer = []) := by
  cases (touches_of_execute exec).1 with
  | nothing _ _ sockets =>
    rw [sockets]
    exact ⟨rfl, fun _ => id⟩
  | makes id sockets =>
    rw [sockets]
    by_cases new : sock = pre.made
    · subst new
      rw [update_self, unhurried.capacity]
      exact ⟨rfl, fun _ _ => rfl⟩
    · rw [update_of_ne new]
      exact ⟨rfl, fun _ empty => empty⟩
  | inside num inner choice result stepped sockets =>
    rw [sockets]
    by_cases same : sock = num
    · subst same
      rw [update_self]
      by_cases sends : ∃ closeErr, inner = .sendClose closeErr
      · obtain ⟨closeErr, rfl⟩ := sends
        refine ⟨Socket.capacity_of_sendClose stepped, ?_⟩
        intro other
        exact absurd rfl (other closeErr)
      · have quiet := (Socket.execute_frame stepped).closeC fun closeErr equal => sends ⟨closeErr, equal⟩
        exact ⟨quiet.1, fun _ => quiet.2⟩
    · rw [update_of_ne same]
      exact ⟨rfl, fun _ => id⟩

/-- Nobody else holds the mutex. -/
theorem alone (here : view tid = some (some left)) {other : Nat} {others : List Nat}
    (there : view other = some (some others)) : other = tid := by
  have mine := (unhurried.holder tid).mpr ⟨left, here⟩
  have theirs := (unhurried.holder other).mpr ⟨others, there⟩
  exact Option.some.inj (theirs.symm.trans mine)

/-- The holder of the mutex has done with the first socket of its list. -/
theorem shrinks (here : view tid = some (some left))
    (mutex : after.connMutex = pre.connMutex) (fewer : rest.Sublist left)
    (closeC : ∀ sock, sock ∈ rest -> (pre.sockets sock).closeC.buffer = [] ->
      (after.sockets sock).closeC.buffer = [])
    (capacity : ∀ sock,
      (after.sockets sock).closeC.capacity = (pre.sockets sock).closeC.capacity) :
    Unhurried after (update view tid (some (some rest))) := by
  refine ⟨?_, ?_, ?_, ?_⟩
  · intro other
    rw [mutex, unhurried.holder other]
    by_cases mine : other = tid
    · rw [mine, update_self, here]
      exact ⟨fun _ => ⟨rest, rfl⟩, fun _ => ⟨left, rfl⟩⟩
    · rw [update_of_ne mine]
  · intro other others label
    rcases tagged_of_update label with ⟨_, ⟨⟩⟩ | ⟨_, kept⟩
    · exact (unhurried.once tid left here).sublist fewer
    · exact unhurried.once other others kept
  · intro other others sock label mem
    rcases tagged_of_update label with ⟨_, ⟨⟩⟩ | ⟨apart, kept⟩
    · exact closeC sock mem (unhurried.unasked tid left sock here (fewer.subset mem))
    · exact absurd (unhurried.alone here kept) apart
  · intro sock
    rw [capacity]
    exact unhurried.capacity sock

/-- The mutex is taken. -/
theorem locks (free : pre.connMutex = none) (mutex : after.connMutex = some tid)
    (sockets : after.sockets = pre.sockets) (once : left.Nodup)
    (unasked : ∀ sock, sock ∈ left -> (pre.sockets sock).closeC.buffer = []) :
    Unhurried after (update view tid (some (some left))) := by
  have nobody : ∀ other others, view other ≠ some (some others) := by
    intro other others label
    have held := (unhurried.holder other).mpr ⟨others, label⟩
    rw [free] at held
    cases held
  refine ⟨?_, ?_, ?_, ?_⟩
  · intro other
    rw [mutex]
    constructor
    · rintro ⟨⟩
      exact ⟨left, update_self ..⟩
    · rintro ⟨others, label⟩
      rcases tagged_of_update label with ⟨rfl, _⟩ | ⟨_, kept⟩
      · rfl
      · exact absurd kept (nobody other others)
  · intro other others label
    rcases tagged_of_update label with ⟨_, ⟨⟩⟩ | ⟨_, kept⟩
    · exact once
    · exact absurd kept (nobody other others)
  · intro other others sock label mem
    rw [sockets]
    rcases tagged_of_update label with ⟨_, ⟨⟩⟩ | ⟨_, kept⟩
    · exact unasked sock mem
    · exact absurd kept (nobody other others)
  · rw [sockets]
    exact unhurried.capacity

/-- Nobody holds the mutex any more, or still. -/
theorem frees (mutex : after.connMutex = none)
    (only : ∀ other others, view other = some (some others) -> other = tid)
    (capacity : ∀ sock,
      (after.sockets sock).closeC.capacity = (pre.sockets sock).closeC.capacity) :
    Unhurried after (update view tid (some none)) := by
  have nobody : ∀ other others,
      update view tid (some none) other ≠ some (some others) := by
    intro other others label
    rcases tagged_of_update label with ⟨_, ⟨⟩⟩ | ⟨apart, kept⟩
    exact apart (only other others kept)
  refine ⟨?_, ?_, ?_, ?_⟩
  · intro other
    rw [mutex]
    constructor
    · intro same
      cases same
    · rintro ⟨others, label⟩
      exact absurd label (nobody other others)
  · exact fun other others label => absurd label (nobody other others)
  · exact fun other others _ label => absurd label (nobody other others)
  · intro sock
    rw [capacity]
    exact unhurried.capacity sock

end

end Unhurried

/-- No close request is queued when the mutex is taken, and none is made by others while it is
held.  No socket is registered under two identifiers. -/
def guard : Condition where
  call := fun _ _ => True
  op := fun s tid op =>
    match op with
    | .lockAll => (s.connections.entries.map Sigma.snd).Nodup ∧
        ∀ entry, entry ∈ s.connections.entries -> (s.sockets entry.2).closeC.buffer = []
    | .sock _ (.sendClose _) => s.connMutex = none ∨ s.connMutex = some tid
    | _ => True

theorem Unhurried.execute {view : Nat -> Option (Option (List Nat))} {label : Option (List Nat)}
    (unhurried : Unhurried pre view) (here : view tid = some label)
    (legal : allowed op label) (guarded : guard.op pre tid op)
    (exec : Server.execute opts tid op choice pre = some (ans, after)) :
    Unhurried after (update view tid (some (move op label ans))) := by
  have closeC := unhurried.closeC_of_execute exec
  have capacity := fun sock => (closeC sock).1
  have mutex := (touches_of_execute exec).2
  -- the operations that neither take nor release the mutex nor make a close request
  have keeps : op.locks = false ->
      (∀ sock closeErr, op ≠ .sock sock (.sendClose closeErr)) ->
      move op label ans = label ->
      Unhurried after (update view tid (some (move op label ans))) := by
    intro calm quiet still
    refine unhurried.keeps (mutex calm) (fun sock => ⟨capacity sock, ?_⟩) ?_
    · exact (closeC sock).2 (quiet sock)
    · intro left
      rw [still, here]
  -- the holder of the mutex goes on to the next socket
  have shrinks : ∀ sock rest, label = some (sock :: rest) -> op.locks = false ->
      (∀ num closeErr, op = .sock num (.sendClose closeErr) -> num = sock) ->
      Unhurried after (update view tid (some (some rest))) := by
    rintro sock rest rfl calm only
    have once := unhurried.once tid _ here
    refine unhurried.shrinks here (mutex calm) (sublist_cons_self sock rest) ?_ capacity
    intro num mem
    refine (closeC num).2 ?_
    intro closeErr sends
    obtain rfl := only num closeErr sends
    exact (nodup_cons.mp once).1 mem
  cases op with
  | lockAll =>
    cases label with
    | some left => cases legal
    | none =>
      obtain ⟨free, same, rfl⟩ := of_lockAll exec
      refine unhurried.locks free rfl rfl ?_ ?_
      · exact (same.map Sigma.snd).nodup_iff.mpr guarded.1
      · intro sock mem
        rcases mem_map.mp mem with ⟨entry, listed, rfl⟩
        exact guarded.2 entry (same.mem_iff.mp listed)
  | unlockAll =>
    cases label with
    | none => exact absurd rfl legal
    | some left =>
      cases exec
      exact unhurried.frees rfl (fun other others there => unhurried.alone here there) fun _ => rfl
  | sock sock inner =>
    cases inner with
    | sendClose closeErr =>
      cases label with
      | none =>
        have free : pre.connMutex = none := by
          rcases guarded with free | mine
          · exact free
          · rcases (unhurried.holder tid).mp mine with ⟨left, label⟩
            rw [here] at label
            cases label
        refine unhurried.frees ((mutex rfl).trans free) ?_ capacity
        intro other others label
        have held := (unhurried.holder other).mpr ⟨others, label⟩
        rw [free] at held
        cases held
      | some left =>
        cases left with
        | nil => cases legal
        | cons first rest =>
          obtain rfl := Option.some.inj legal
          refine shrinks first rest rfl rfl ?_
          rintro num _ ⟨⟩
          rfl
    | connection =>
      cases ans with
      | true => exact keeps rfl nofun rfl
      | false =>
        cases label with
        | none => exact keeps rfl nofun rfl
        | some left =>
          cases left with
          | nil => exact keeps rfl nofun rfl
          | cons first rest => exact shrinks first rest rfl rfl nofun
    | _ => exact keeps rfl nofun rfl
  | _ => exact keeps rfl nofun rfl

theorem runs : Verified (system opts) guard .new protocol (fun _ left => left = none)
    (fun left => left = none) Unhurried where
  body := by
    rintro routine _ rfl
    exact obeys_body routine
  initially := by
    refine ⟨?_, ?_, ?_, fun _ => rfl⟩
    · intro tid
      constructor
      · intro same
        cases same
      · rintro ⟨_, same⟩
        cases same
    · intro tid left same
      cases same
    · intro tid left sock same
      cases same
  enter := by
    intro config view routine after _ _ unhurried entered vacant
    have same := sockets_of_enter entered
    refine ⟨none, rfl, unhurried.keeps same.1 ?_ ?_⟩
    · intro sock
      rw [(same.2 sock).2]
      exact ⟨rfl, id⟩
    · intro left
      rw [vacant]
      constructor <;> rintro ⟨⟩
  occur := by
    intro pre view event after unhurried arose
    replace arose : Server.occur event pre = some after := arose
    have same := sockets_of_occur arose
    rw [← update_eq_self 0 view]
    refine unhurried.keeps same.1 ?_ fun _ => Iff.rfl
    intro sock
    rw [same.2]
    exact ⟨rfl, id⟩
  execute := by
    intro pre view tid left op choice ans after unhurried here legal guarded
      exec
    exact ⟨_, rfl, unhurried.execute here legal guarded exec⟩
  finish := by
    rintro s view tid _ unhurried here rfl
    refine unhurried.keeps rfl (fun _ => ⟨rfl, id⟩) ?_
    intro left
    rw [here]
    constructor <;> rintro ⟨⟩

end Closing

/-! ## No deadlock -/

/-- The socket whose write pump a routine is. -/
def Routine.pumpOf : Routine -> Option Nat
  | .sock num _ .writePump | .sock num _ (.writeLoop _) => some num
  | _ => none

/-- A goroutine holds the mutex and waits inside `Close` of a socket, whose write pump waits for the
mutex in the error callback. -/
structure Deadlocked (opts : Settings) (config : Configuration) (stopper pump sock : Nat) :
    Prop where
  holds : config.shared.connMutex = some stopper
  closes : ∃ op, (system opts).Blocked config stopper (.sock sock op)
  pumps : ∃ content, config.thread? pump = some content ∧ content.call.pumpOf = some sock
  reports : ∃ err, (system opts).Blocked config pump (.error err)

/-- No close request is queued when `stopConnections` takes the mutex, and none is made by others
while it holds it. -/
def unhurried (s : Shared) (tid : Nat) : Op -> Bool
  | .lockAll => s.connections.entries.all (fun entry => (s.sockets entry.2).closeC.buffer.isEmpty)
  | .sock _ (.sendClose _) => s.connMutex = none ∨ s.connMutex = some tid
  | _ => true

/-- `Start` is called before the first socket is made, and the shutdown is unhurried. -/
@[reducible] def stopsUnhurried : Condition where
  call := fun _ _ => True
  op := fun s tid op =>
    oneGeneration.op s tid op ∧ unhurried s tid op = true

/-- A socket is registered under its own identifier only. -/
theorem nodup_sockets {s : Shared} {keeper : Nat -> Nat} {view : Nat -> Option Place}
    (orderly : Orderly opts s keeper view) : (s.connections.entries.map Sigma.snd).Nodup := by
  have keys : (s.connections.entries.map Sigma.fst).Nodup := s.connections.nodupKeys
  have known : ∀ entry, entry ∈ s.connections.entries -> s.ids entry.2 = entry.1 := by
    intro entry mem
    have found : s.connections.lookup entry.1 = some entry.2 := AList.mem_lookup_iff.mpr mem
    exact ((orderly.seats.current _ _).mp found).2.1
  apply Nodup.of_map s.ids
  have same : (s.connections.entries.map Sigma.snd).map s.ids =
      s.connections.entries.map Sigma.fst := by
    rw [map_map]
    exact map_congr_left known
  rwa [same]

variable {config : Configuration}

section

variable (reached : (system opts).Reachable stopsUnhurried .new config)
include reached

theorem single_generation : (system opts).Reachable oneGeneration .new config := by
  refine reached.mono (fun _ _ _ => trivial) ?_
  intro s tid op guarded
  exact guarded.1

theorem closing_guard : (system opts).Reachable Closing.guard .new config := by
  refine reached.refine (fun _ _ _ _ => trivial) ?_
  intro config tid content op reached found next guarded
  cases op with
  | lockAll =>
    rcases orderly_runs.reachable (single_generation reached) with ⟨view, _, keeper, orderly⟩
    refine ⟨nodup_sockets orderly, ?_⟩
    intro entry mem
    have empty := all_eq_true.mp guarded.2 entry mem
    exact isEmpty_iff.mp empty
  | sock sock inner =>
    cases inner with
    | sendClose closeErr =>
      have free : config.shared.connMutex = none ∨ config.shared.connMutex = some tid :=
        of_decide_eq_true guarded.2
      exact free
    | _ => trivial
  | _ => trivial

end

/-- The error callback is not made by a goroutine that has the lock of a socket. -/
theorem pump_of_error {routine : Routine} {place : Place} {err : String}
    (pump : routine.pumpOf = some sock) (fits : Registration.fits routine place)
    (legal : Registration.allowed opts (.error err) place) :
    ∃ id stage, place = .seat sock id stage ∧ stage ≠ .locking := by
  have seat : ∃ id stage, place = .seat sock id stage := by
    have owner : ∀ num id, ((∃ stage, Registration.pumps stage = true ∧
        place = .seat num id stage) ∨ place = .finished) -> ∃ id stage,
        place = .seat num id stage := by
      rintro num id (⟨stage, _, same⟩ | rfl)
      · exact ⟨id, stage, same⟩
      · exact absurd legal Registration.not_allowed_finished
    cases routine with
    | sock num id inner =>
      cases inner with
      | writePump | writeLoop =>
        cases pump
        exact owner sock id fits
      | _ => cases pump
    | _ => cases pump
  obtain ⟨id, stage, rfl⟩ := seat
  refine ⟨id, stage, rfl, ?_⟩
  rintro rfl
  obtain ⟨_, ⟨⟩⟩ | ⟨⟨⟩, _⟩ | ⟨⟨⟩, _⟩ := legal

/-- In every run of one generation in which the shutdown is unhurried, `stopConnections` never waits
for a write pump that waits for it. -/
theorem shutdown_cannot_deadlock (opts : Settings) (config : Configuration)
    (reached : (system opts).Reachable stopsUnhurried .new config) (stopper pump sock : Nat) :
    ¬ Deadlocked opts config stopper pump sock := by
  rintro ⟨holds, ⟨op, ⟨content, found, next⟩, waits⟩, ⟨pumping, there, pumps⟩,
    err, ⟨reporting, also, reports⟩, _⟩
  obtain rfl := Option.some.inj (there.symm.trans also)
  rcases Closing.runs.reachable (closing_guard reached) with ⟨labels, closing, unhurried⟩
  rcases (unhurried.holder stopper).mp holds with ⟨left, label⟩
  rcases closing.tagged stopper content found with ⟨_, same, obeys⟩
  obtain rfl := Option.some.inj (same.symm.trans label)
  have legal : Closing.allowed (.sock sock op) (some left) := obeys.allowed next
  cases op with
  | rlock =>
    -- the lock is held by the owner of the socket, which is not reporting then
    rcases locked_runs.reachable (single_generation reached) with ⟨view, describes, ⟨keeper, orderly⟩, locked⟩
    have blocked : (config.shared.sockets sock).mutex.writer ≠ none := by
      intro free
      have none := waits (.sock .proceed)
      simp [system, execute, Socket.execute, RWMutex.rlock, free] at none
    rcases Option.ne_none_iff_exists'.mp blocked with ⟨holder, writes⟩
    rcases locked sock holder writes with ⟨id, placed⟩
    rcases describes.tagged pump pumping there with ⟨place, here, obeys⟩
    have reported : Registration.allowed opts (.error err) place := obeys.allowed reports
    rcases pump_of_error pumps obeys.fits reported with ⟨id', stage, rfl, other⟩
    obtain rfl := orderly.seats.alone _ _ _ _ _ _ _ placed here
    rw [placed] at here
    cases here
    exact other rfl
  | sendClose closeErr =>
    have mem : sock ∈ left := mem_of_mem_head? legal
    have empty := unhurried.unasked stopper left sock label mem
    have room := unhurried.capacity sock
    have none := waits (.sock (.arm .send))
    cases closed : (config.shared.sockets sock).closeC.closed <;>
      simp [system, execute, Socket.execute, Chan.sendable, empty, room, closed] at none
  | runlock | connection =>
    have none := waits (.sock .proceed)
    simp [system, execute, Socket.execute] at none
  | _ => cases legal

variable {content : Thread Op Res Routine}

theorem blocked_sendClose {closeErr : Socket.CloseError}
    (found : config.thread? tid = some content)
    (next : content.prog.next? = some (.sock sock (.sendClose closeErr)))
    (full : (config.shared.sockets sock).closeC.sendable = false)
    (running : (config.shared.sockets sock).done = false) :
    (system opts).Blocked config tid (.sock sock (.sendClose closeErr)) := by
  refine ⟨⟨content, found, next⟩, ?_⟩
  have alive : (config.shared.sockets sock).closeC.closed = false := by
    cases closed : (config.shared.sockets sock).closeC.closed with
    | false => rfl
    | true => simp [Chan.sendable, closed] at full
  intro choice
  cases choice with
  | sock choice =>
    cases choice with
    | arm arm => cases arm <;> simp [system, execute, Socket.execute, alive, full, running]
    | _ => rfl
  | _ => rfl

theorem blocked_error {err : String} (found : config.thread? tid = some content)
    (next : content.prog.next? = some (.error err))
    (held : config.shared.connMutex.isSome = true) :
    (system opts).Blocked config tid (.error err) := by
  refine ⟨⟨content, found, next⟩, ?_⟩
  intro choice
  simp [system, execute, held]

/-- The socket into whose close channel the operation sends. -/
def Op.sendsClose : Op -> Option Nat
  | .sock num (.sendClose _) => some num
  | _ => none

def Op.reports : Op -> Bool
  | .error _ => true
  | _ => false

/-- What the goroutine does next. -/
def nextOf (config : Configuration) (tid : Nat) : Option Op :=
  (config.thread? tid).bind fun content => content.prog.next?

/-- Facts about a configuration that can be computed. -/
def stuck (config : Configuration) (stopper pump sock : Nat) : Bool :=
  config.shared.connMutex = some stopper ∧
    (nextOf config stopper).bind Op.sendsClose = some sock ∧
    (config.shared.sockets sock).closeC.sendable = false ∧
    (config.shared.sockets sock).done = false ∧
    (config.thread? pump).bind (fun content => content.call.pumpOf) = some sock ∧
    (nextOf config pump).map Op.reports = some true

theorem deadlocked_of_stuck {stopper pump : Nat} (holds : stuck config stopper pump sock = true) :
    Deadlocked opts config stopper pump sock := by
  rcases of_decide_eq_true holds with ⟨mutex, sends, full, running, pumping, reports⟩
  rcases Option.bind_eq_some_iff.mp sends with ⟨op, next, closes⟩
  rcases Option.bind_eq_some_iff.mp next with ⟨content, found, next⟩
  rcases Option.bind_eq_some_iff.mp pumping with ⟨pumping, there, pumps⟩
  rcases Option.map_eq_some_iff.mp reports with ⟨reporting, also, reports⟩
  rcases Option.bind_eq_some_iff.mp also with ⟨_, same, also⟩
  obtain rfl := Option.some.inj (there.symm.trans same)
  refine ⟨mutex, ?_, ⟨pumping, there, pumps⟩, ?_⟩
  · unfold Op.sendsClose at closes
    split at closes
    · cases closes
      exact ⟨_, blocked_sendClose found next full running⟩
    · cases closes
  · unfold Op.reports at reports
    split at reports
    · exact ⟨_, blocked_error there also (by rw [mutex]; rfl)⟩
    · cases reports

/-- `Start`, and a client that has connected, with its write pump. -/
def connected : Schedule :=
  [.call .start] ++ proceed 0 3 ++ launching 1 "a" ++ proceed 1 2 ++
    [.call (.sock 0 "a" .writePump)] ++ proceedInside 2 3 ++ proceed 2 1

/-- A call that looks the socket up and sends something to its write pump. -/
def asking (tid : Nat) (routine : Routine) : Schedule :=
  [.call routine] ++ proceed tid 1 ++ proceedInside tid 2 ++
    [.step tid (.sock (.arm .send))] ++ proceedInside tid 1 ++ proceed tid 1

/-- `Shutdown` makes the HTTP server start `stopConnections`, which takes the mutex. -/
def stopping (tid : Nat) (sockets : List (Sigma fun _ : String => Nat)) : Schedule :=
  [.call .shutdown] ++ proceed tid 1 ++ [.step tid (.outcome none), .call .stopConnections,
    .step (tid + 1) (.order sockets)]

/-- The write pump has a message and a close request, takes the message first and fails to write
it.  Before it reports the failure, `stopConnections` takes the mutex and waits for room in the
close channel. -/
theorem shutdown_deadlocks :
    ∃ config, (system (sampleOpts .keepCurrent)).Reachable oneGeneration .new config ∧
      Deadlocked (sampleOpts .keepCurrent) config 6 2 0 := by
  have run : ∃ config,
      (system (sampleOpts .keepCurrent)).Reachable oneGeneration .new config ∧
      stuck config 6 2 0 = true :=
    System.exists_reachable_of_replay _
      (connected ++ asking 3 (.write "a" []) ++ asking 4 (.stopConnection "a" ⟨1000, ""⟩) ++
        [.step 2 (.sock (.arm .out)), .step 2 (.sock (.outcome (some "broken pipe")))] ++
        stopping 5 [⟨"a", 0⟩] ++ proceedInside 6 2)
      (by decide +kernel)
  rcases run with ⟨config, reached, holds⟩
  exact ⟨config, reached, deadlocked_of_stuck holds⟩

/-- `stopConnections` holds the mutex and is about to close the only connection. -/
theorem shutdown_cannot_deadlock_closing :
    ∃ config, (system (sampleOpts .keepCurrent)).Reachable stopsUnhurried .new config ∧
      config.shared.connMutex = some 4 ∧
      ¬ Deadlocked (sampleOpts .keepCurrent) config 4 2 0 :=
  System.exists_reachable_with
    (connected ++ stopping 3 [⟨"a", 0⟩] ++ proceedInside 4 2) (by decide +kernel)
    fun config reached _ => shutdown_cannot_deadlock _ config reached 4 2 0

end Server

end Ws
end OcppGo
