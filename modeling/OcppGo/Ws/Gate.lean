import OcppGo.Ws.Seats

namespace OcppGo
namespace Ws
namespace Server

open Function Interleaving Sync Program List Option

/-!
# The transition gate

Between the removal of a socket and the return of its disconnect callback, and while a
registration waits for an older socket to go, the gate of the identifier is open and no other
socket can take the place.
-/

/-- What holds between the operations. -/
structure Orderly (opts : Settings) (s : Shared) (keeper : Nat -> Nat)
    (view : Nat -> Option Place) : Prop where
  seats : Seats s.desk keeper view
  recorded : Recorded s.gate s.hist.transitions view
  announced : Announced opts s.desk.status s.told view

/-- Nothing has changed that the order is about. -/
structure Quiet (pre after : Shared) : Prop where
  desk : after.desk = pre.desk
  gate : after.gate = pre.gate
  transitions : after.hist.transitions = pre.hist.transitions
  told : after.told = pre.told

/-- The operations that change nothing the order is about. -/
def Op.quiet : Op -> Bool
  | .newWebSocket _ | .register _ _ | .registerAgain _ _ | .decrementGate _ | .remove _ _
  | .disconnectedHandler _ | .handlerReturned _ | .closeTeardown _ | .reset
  | .sock _ .goWritePump => false
  | _ => true

theorem launched_update (sockets : Nat -> Socket.Shared) (sock : Nat) (after : Socket.Shared) :
    (fun num => (update sockets sock after num).writePump) =
      update (fun num => (sockets num).writePump) sock after.writePump :=
  Function.comp_update Socket.Shared.writePump sockets sock after

variable {after : Shared}

/-! ## The effect of the operations -/

variable {pre : Shared} {opts : Settings} {tid : Nat} {choice : Choice}

/-- A section behind the mutex. -/
theorem of_section {α : Type} {ans : α} {result : α × Shared}
    (exec : (if pre.connMutex.isSome then none else some result) = some (ans, after)) :
    result = (ans, after) := by
  split at exec
  · cases exec
  · exact Option.some.inj exec

/-- An operation behind the mutex. -/
theorem of_guarded {α : Type} {result : Shared} {ans value : α}
    (exec : (if pre.connMutex.isSome then none else some (value, result)) = some (ans,
      after)) : value = ans ∧ result = after := Prod.mk.inj (of_section exec)

/-- An operation whose outcome is chosen. -/
theorem of_chosen {result : Shared} {ans : Option String}
    (exec : (match choice with | .outcome err => some (err, result) | _ => none) = some
      (ans, after)) : result = after := by
  split at exec
  · cases exec
    rfl
  · cases exec

theorem of_awaitTeardown {old : Nat} {ans : Bool}
    (exec : execute opts tid (.awaitTeardown old) choice pre = some (ans, after)) :
    after = pre ∧ (ans = true -> pre.teardownDone old = true) := by
  simp only [execute] at exec
  split at exec
  · split at exec
    · next torn =>
        cases exec
        exact ⟨rfl, fun _ => torn⟩
    · cases exec
  · cases exec
    exact ⟨rfl, nofun⟩
  · cases exec

/-- `stopConnections` takes the mutex, and fixes an order of the connections. -/
theorem of_lockAll {sockets : List (Sigma fun _ : String => Nat)}
    (exec : execute opts tid .lockAll choice pre = some (sockets, after)) :
    pre.connMutex = none ∧ sockets.Perm pre.connections.entries ∧
      after = { pre with connMutex := some tid, stopped := true } := by
  simp only [execute] at exec
  split at exec
  · split at exec
    · cases exec
    · next free =>
        simp only [ite_none_right_eq_some, Option.some.injEq, Prod.mk.injEq] at exec
        rcases exec with ⟨same, rfl, rfl⟩
        exact ⟨not_isSome_iff_eq_none.mp free, same, rfl⟩
  · cases exec

/-- Only `stopConnections` takes the mutex for longer. -/
def Op.locks : Op -> Bool
  | .lockAll | .unlockAll => true
  | _ => false

/-- The operations that look, or change the error channel, the mutex or the HTTP server. -/
def Op.minor : Op -> Bool
  | .error _ | .closeErrC | .upgrade | .httpShutdown | .awaitTeardown _ | .isCurrent _ _
  | .superseded _ | .lookup _ | .readHttpServer | .rejectConnection _ _ _ | .registerOnShutdown
  | .lockAll | .unlockAll => true
  | _ => false

theorem of_minor {op : Op} {ans : Res op} (minor : op.minor = true)
    (exec : execute opts tid op choice pre = some (ans, after)) :
    ∃ errC connMutex stopped hooks stopping,
      (op.locks = false -> connMutex = pre.connMutex) ∧
      after = { pre with
        errC := errC
        connMutex := connMutex
        stopped := stopped
        hooks := hooks
        stopping := stopping } := by
  cases op with
  | error | closeErrC =>
    obtain ⟨_, rfl⟩ := of_guarded exec
    split_ifs <;> exact ⟨_, _, _, _, _, fun _ => rfl, rfl⟩
  | isCurrent | superseded | lookup | readHttpServer =>
    obtain ⟨_, rfl⟩ := of_guarded exec
    exact ⟨_, _, _, _, _, fun _ => rfl, rfl⟩
  | upgrade | httpShutdown =>
    obtain rfl := of_chosen exec
    exact ⟨_, _, _, _, _, fun _ => rfl, rfl⟩
  | awaitTeardown =>
    obtain ⟨rfl, _⟩ := of_awaitTeardown exec
    exact ⟨_, _, _, _, _, fun _ => rfl, rfl⟩
  | lockAll =>
    obtain ⟨_, _, rfl⟩ := of_lockAll exec
    exact ⟨_, _, _, _, _, by simp [Op.locks], rfl⟩
  | unlockAll =>
    cases exec
    exact ⟨_, _, _, _, _, by simp [Op.locks], rfl⟩
  | rejectConnection | registerOnShutdown =>
    cases exec
    exact ⟨_, _, _, _, _, fun _ => rfl, rfl⟩
  | _ => cases minor

variable {verdict : Verdict}

/-- How the first section of the registration ends: with nothing done, with the socket in a free
place, or with an older socket to be evicted. -/
theorem register_ends {sock : Nat} {id : String}
    (exec : pre.register opts tid sock id = (verdict, after)) :
    (after = pre ∧ verdict ≠ .accepted ∧ ∀ old, verdict ≠ .evict old) ∨
      ¬ 0 < pre.gateOf id ∧
        ((pre.connections.lookup id = none ∧ verdict = .accepted ∧
          after = pre.enroll sock id) ∨
        ∃ old, pre.connections.lookup id = some old ∧ verdict = .evict old ∧
          after = pre.openGate tid id) := by
  unfold Shared.register at exec
  split at exec
  · cases exec
    exact .inl ⟨rfl, nofun, nofun⟩
  · split at exec
    · cases exec
      exact .inl ⟨rfl, nofun, nofun⟩
    · next closed =>
        split at exec
        · next free =>
            cases exec
            exact .inr ⟨closed, .inl ⟨free, rfl, rfl⟩⟩
        · next old present =>
            split at exec
            · cases exec
              exact .inl ⟨rfl, nofun, nofun⟩
            · cases exec
              exact .inr ⟨closed, .inr ⟨old, present, rfl, rfl⟩⟩

/-- How the second section ends. -/
theorem registerAgain_ends {sock : Nat} {id : String}
    (exec : pre.registerAgain sock id = (verdict, after)) :
    (after = pre ∧ (verdict = .stopping ∨ verdict = .duplicate)) ∨
      pre.connections.lookup id = none ∧ verdict = .accepted ∧
        after = pre.enroll sock id := by
  unfold Shared.registerAgain at exec
  split at exec
  · cases exec
    exact .inl ⟨rfl, .inl rfl⟩
  · split at exec
    · cases exec
      exact .inl ⟨rfl, .inr rfl⟩
    · next free =>
        cases exec
        exact .inr ⟨free, rfl, rfl⟩

/-! ## The quiet operations -/

namespace Quiet

variable {opts : Settings} {tid : Nat} {op : Op} {choice : Choice}
  {pre after : Shared}

theorem refl (s : Shared) : Quiet s s := ⟨rfl, rfl, rfl, rfl⟩

theorem notify {notice : Notice} (other : ∀ sock, notice ≠ .disconnected sock) :
    Quiet pre (pre.notify notice) := by
  refine ⟨rfl, rfl, rfl, ?_⟩
  funext sock
  have apart : ¬ (notice == .disconnected sock) = true := by
    simpa using other sock
  simp [Shared.told, Shared.notify, count_cons, apart]

theorem of_socket {sock : Nat} {op : Socket.Op} (other : op ≠ .goWritePump)
    {ans : Socket.Res op}
    (exec : execute opts tid (.sock sock op) choice pre =
      some (ans, after)) : Quiet pre after := by
  cases choice with
  | sock choice =>
    rcases map_eq_some_iff.mp exec with ⟨result, stepped, same⟩
    cases same
    refine ⟨?_, rfl, rfl, rfl⟩
    have kept := (Socket.execute_frame stepped).writePump other
    have same := update_eq_self sock fun num => (pre.sockets num).writePump
    simp only [Shared.desk, launched_update, kept, same]
  | _ => cases exec

theorem of_execute {ans : Res op} (calm : op.quiet = true)
    (exec : execute opts tid op choice pre = some (ans, after)) :
    Quiet pre after := by
  cases op with
  | newClientHandler sock =>
    cases exec
    exact notify fun _ => Notice.noConfusion
  | messageHandler sock data =>
    obtain rfl := of_chosen exec
    exact notify fun _ => Notice.noConfusion
  | sock sock op =>
    refine of_socket ?_ exec
    rintro rfl
    cases calm
  | newWebSocket | register | registerAgain | decrementGate | remove | disconnectedHandler
  | handlerReturned | closeTeardown | reset => cases calm
  | _ =>
    obtain ⟨_, _, _, _, _, _, rfl⟩ := of_minor rfl exec
    exact ⟨rfl, rfl, rfl, rfl⟩

end Quiet

theorem told_notify (s : Shared) (sock : Nat) :
    (s.notify (.disconnected sock)).told =
      update s.told sock (s.told sock + 1) := by
  funext num
  by_cases same : num = sock
  · subst same
    simp [Shared.told, Shared.notify]
  · have apart : ¬ (Notice.disconnected sock == Notice.disconnected num) = true := by
      simpa using fun equal => same equal.symm
    simp [Shared.told, Shared.notify, count_cons, apart, same]

namespace Orderly

variable {opts : Settings} {pre after : Shared} {keeper : Nat -> Nat}
  {view : Nat -> Option Place}

section

variable (orderly : Orderly opts pre keeper view)
include orderly

theorem quiet (quiet : Quiet pre after) : Orderly opts after keeper view := by
  rcases quiet with ⟨desk, gate, transitions, told⟩
  refine ⟨?_, ?_, ?_⟩
  · rw [desk]
    exact orderly.seats
  · rw [gate, transitions]
    exact orderly.recorded
  · rw [desk, told]
    exact orderly.announced

variable {tid : Nat} {place : Place}

/-- An operation that changes nothing the order is about and leaves its goroutine in place. -/
theorem stays (here : view tid = some place) (unchanged : Quiet pre after) :
    ∃ keeper, Orderly opts after keeper (update view tid (some place)) := by
  rw [← here, update_eq_self]
  exact ⟨keeper, orderly.quiet unchanged⟩

variable {sock : Nat} {id : String} {stage onward : Stage}

/-- A registered socket has been made. -/
theorem made (registered : pre.hist.status sock = .registered) : sock < pre.made := by
  by_contra beyond
  have fresh : pre.hist.status sock = .fresh :=
    orderly.seats.unmade sock (Nat.le_of_not_lt beyond)
  rw [registered] at fresh
  cases fresh

/-- A label changes, nothing else. -/
theorem relabels (placed : view tid = some (.seat sock id stage))
    (status : onward.status = stage.status)
    (alone : onward ≠ .superseded) (opens : onward.opens = stage.opens)
    (told : onward.told opts = stage.told opts)
    (evicts : onward.evicts = stage.evicts) (evicting : ∀ old, onward ≠ .evicting old)
    (evicted : ∀ old other, onward = .torn old -> pre.desk.ids other = id ->
      pre.desk.status other ≠ .registered ∧ pre.desk.status other ≠ .removed) :
    ∃ keeper, Orderly opts pre keeper
      (update view tid (some (.seat sock id onward))) := by
  refine ⟨keeper, ?_, ?_, orderly.announced.relabels placed told⟩
  · refine orderly.seats.relabels placed status alone ?_ evicted ?_
    · intro old other same
      exact absurd same (evicting old)
    · intro now pre
      rw [evicts, pre] at now
      cases now
  · apply orderly.recorded.relabels
    rw [placed]
    simp only [opening, opens]

omit orderly in
theorem desk_enroll (s : Shared) (sock : Nat) (id : String) :
    (s.enroll sock id).desk = { s.desk with
      status := update s.desk.status sock .registered
      current := update s.desk.current id (some sock) } := by
  simp only [Shared.desk, Shared.enroll, Shared.setStatus, Desk.mk.injEq, true_and]
  funext other
  by_cases same : other = id
  · rw [same, update_self, AList.lookup_insert]
  · rw [update_of_ne same, AList.lookup_insert_ne same]

omit orderly in
theorem opens_of_evicts (evicts : stage.evicts = true) : stage.opens = true := by
  cases stage <;> first | rfl | cases evicts

section

variable (here : view tid = some (.seat sock id stage))
include here

/-- The socket takes a free place. -/
theorem enrolls (status : onward.status = .registered) (opens : onward.opens = stage.opens)
    (silent : onward.told opts = 0) (silently : stage.told opts = 0)
    (free : pre.desk.current id = none)
    (gone : ∀ other, pre.desk.ids other = id -> pre.desk.status other ≠ .removed)
    (calm : ∀ other sock stage, view other = some (.seat sock id stage) ->
      stage.evicts = true -> other = tid) :
    ∃ keeper, Orderly opts (pre.enroll sock id) keeper
      (update view tid (some (.seat sock id onward))) := by
  refine ⟨keeper, ?_, ?_, ?_⟩
  · rw [desk_enroll]
    exact orderly.seats.enrolls here status free gone calm
  · apply orderly.recorded.relabels
    rw [here]
    simp only [opening, opens]
  · apply orderly.announced.restates here
    · rw [silent, silently]
    · exact fun _ => silent
    · exact nofun

/-- The write pump takes the lock of its socket, or releases it. -/
theorem locks
    (moves : (stage = .pumping ∧ onward = .locking) ∨ (stage = .locking ∧ onward = .pumping)) :
    ∃ keeper, Orderly opts pre keeper
      (update view tid (some (.seat sock id onward))) := by
  rcases moves with ⟨rfl, rfl⟩ | ⟨rfl, rfl⟩ <;>
    exact orderly.relabels here rfl nofun rfl rfl rfl
      nofun nofun

end

/-- The first section of the registration. -/
theorem register (here : view tid = some (.seat sock id .holding))
    (exec : pre.register opts tid sock id = (verdict, after)) :
    ∃ keeper, Orderly opts after keeper (update view tid
      (some (Registration.move (.register sock id) (.seat sock id .holding) verdict))) := by
  -- a refused socket is not registered, and its owner has no transition open
  have refuses : ∃ keeper, Orderly opts pre keeper
      (update view tid (some .idle)) := by
    refine ⟨keeper, orderly.seats.leaves ?_ rfl, orderly.recorded.relabels ?_,
      orderly.announced.leaves rfl⟩
    · rw [here]
      rintro _ ⟨⟩
      rw [(orderly.seats.seated _ _ _ _ here).2.2.1]
      exact nofun
    · rw [here]
      rfl
  obtain ⟨rfl, notAccepted, notEvicted⟩ | ⟨closed, ends⟩ := register_ends exec
  · cases verdict with
    | accepted => exact absurd rfl notAccepted
    | evict old => exact absurd rfl (notEvicted old)
    | _ => exact refuses
  · have unevicted : ∀ other sock stage,
        view other = some (.seat sock id stage) -> stage.evicts = false := by
      intro other sock stage placed
      rw [Bool.eq_false_iff]
      intro evicts
      have opens := opens_of_evicts evicts
      rw [orderly.recorded.calm closed _ _ _ placed] at opens
      cases opens
    obtain ⟨free, rfl, rfl⟩ | ⟨old, present, rfl, rfl⟩ := ends
    · refine orderly.enrolls here rfl rfl rfl rfl free
        (orderly.seats.not_removed orderly.recorded closed) ?_
      intro other sock stage placed evicts
      rw [unevicted _ _ _ placed] at evicts
      cases evicts
    · refine ⟨keeper, ?_, orderly.recorded.openGate ?_ rfl, orderly.announced.relabels here rfl⟩
      · refine orderly.seats.relabels here rfl nofun ?_ nofun ?_
        · intro other sock same identifier status
          cases same
          have gone := orderly.seats.not_removed orderly.recorded closed sock identifier
          have registered := status.resolve_right gone
          have found := (orderly.seats.current id sock).mpr
            ⟨orderly.made registered, identifier, registered⟩
          exact Option.some.inj (found.symm.trans present)
        · exact fun _ _ => unevicted
      · rw [here]
        rfl

/-- The second section, after the older socket has gone. -/
theorem registerAgain {old : Nat} (here : view tid = some (.seat sock id (.torn old)))
    (exec : pre.registerAgain sock id = (verdict, after)) :
    ∃ keeper, Orderly opts after keeper (update view tid
      (some (Registration.move (.registerAgain sock id) (.seat sock id (.torn old)) verdict))) := by
  obtain ⟨rfl, rfl | rfl⟩ | ⟨free, rfl, rfl⟩ := registerAgain_ends exec
  · exact orderly.stays here (.refl after)
  · exact orderly.stays here (.refl after)
  · refine orderly.enrolls here rfl rfl rfl rfl free ?_ ?_
    · intro other identifier
      exact (orderly.seats.evicted _ _ _ _ other here identifier).2
    · intro other sock stage placed evicts
      exact orderly.seats.evictor _ _ _ _ _ _ _ placed here evicts rfl

/-- The end of a transition. -/
theorem decrementGate (here : view tid = some (.seat sock id stage))
    (closing : (∃ old, stage = .evicting old ∨ stage = .torn old) ∨ stage = .enrolled ∨ stage
      = .superseded ∨ stage = .ret) :
    ∃ keeper, Orderly opts (pre.closeGate tid id) keeper (update view tid
      (some (Registration.move (.decrementGate id) (.seat sock id stage) ()))) := by
  have known := orderly.seats.seated _ _ _ _ here
  have leaves : stage.status = .fresh -> stage.opens = true -> ∃ keeper,
      Orderly opts (pre.closeGate tid id) keeper
        (update view tid (some .idle)) := by
    intro fresh opens
    refine ⟨keeper, orderly.seats.leaves ?_ rfl, orderly.recorded.closeGate ?_ rfl,
      orderly.announced.leaves rfl⟩
    · rw [here]
      rintro _ ⟨⟩
      rw [known.2.2.1, fresh]
      exact nofun
    · rw [here, opening, if_pos opens]
  have goesOn : ∀ onward : Stage, onward.status = stage.status -> stage.opens = true ->
      onward.opens = false -> onward.told opts = stage.told opts ->
      onward.evicts = false -> onward ≠ .superseded ->
      ∃ keeper, Orderly opts (pre.closeGate tid id) keeper
        (update view tid (some (.seat sock id onward))) := by
    intro onward status opens closed told evicts alone
    refine ⟨keeper, ?_, orderly.recorded.closeGate ?_ ?_, orderly.announced.relabels here told⟩
    · refine orderly.seats.relabels here status alone ?_ ?_ ?_
      · rintro old other rfl
        cases evicts
      · rintro old other rfl
        cases evicts
      · intro now
        rw [evicts] at now
        cases now
    · rw [here, opening, if_pos opens]
    · rw [opening, closed]
      rfl
  rcases closing with ⟨old, rfl | rfl⟩ | rfl | rfl | rfl
  · exact leaves rfl rfl
  · exact leaves rfl rfl
  · exact goesOn .launching rfl rfl rfl rfl rfl nofun
  · exact absurd rfl known.2.2.2.2.2
  · exact goesOn .closed rfl rfl rfl rfl rfl nofun

/-- The current socket goes. -/
theorem remove (here : view tid = some (.seat sock id .pumping)) {current : Bool}
    (exec : pre.remove tid sock id = (current, after)) :
    current = true ∧ ∃ keeper, Orderly opts after keeper (update view tid
      (some (.seat sock id .removed))) := by
  have known := orderly.seats.seated _ _ _ _ here
  have present : pre.connections.lookup id = some sock :=
    (orderly.seats.current id sock).mpr ⟨known.1, known.2.1, known.2.2.1⟩
  rw [Shared.remove, if_pos present] at exec
  cases exec
  refine ⟨rfl, update keeper sock tid, ?_, ?_, ?_⟩
  · have desk : ({ (pre.openGate tid id) with
        connections := pre.connections.erase id }.setStatus sock .removed).desk =
        { pre.desk with
          status := update pre.desk.status sock .removed
          current := update pre.desk.current id none } := by
      simp only [Shared.desk, Shared.openGate, Shared.setStatus, Desk.mk.injEq, true_and]
      funext other
      by_cases same : other = id
      · rw [same, update_self, AList.lookup_erase]
      · rw [update_of_ne same, AList.lookup_erase_ne same]
    rw [desk]
    exact orderly.seats.removes here
  · refine orderly.recorded.openGate ?_ rfl
    rw [here]
    rfl
  · have announced : Announced opts (update pre.desk.status sock .removed)
        pre.told (update view tid (some (.seat sock id .removed))) := by
      refine orderly.announced.restates here ?_ ?_ ?_
      · rfl
      · rintro (same | same)
        · cases same
        · cases same
      · intro same
        cases same
    exact announced

/-- As long as no socket has been made, `Start` finds everything empty. -/
theorem resets (none : pre.made = 0) :
    Orderly opts { pre with connections := ∅, gate := ∅, stopped := false } keeper view := by
  have unseated : ∀ tid, opening (view tid) = Option.none := by
    intro tid
    cases placed : view tid with
    | none => rfl
    | some place =>
      cases place with
      | idle | welcoming | finished => rfl
      | seat sock id stage =>
        have made := (orderly.seats.seated _ _ _ _ placed).1
        rw [show pre.desk.made = 0 from none] at made
        omega
  have transitions : pre.hist.transitions = [] := by
    apply eq_nil_iff_forall_not_mem.mpr
    rintro ⟨tid, id⟩ mem
    rw [orderly.recorded.recorded, unseated] at mem
    cases mem
  refine ⟨?_, ⟨⟨?_, ?_⟩, orderly.recorded.recorded⟩, orderly.announced⟩
  · have desk : { pre with connections := ∅, gate := ∅, stopped := false : Shared }.desk =
        pre.desk := by
      simp only [Shared.desk, Desk.mk.injEq, true_and]
      funext id
      cases found : pre.connections.lookup id with
      | none => rfl
      | some sock =>
        have made := ((orderly.seats.current id sock).mp found).1
        rw [show pre.desk.made = 0 from none] at made
        omega
    rw [desk]
    exact orderly.seats
  · exact orderly.recorded.counted.nodup
  · intro id
    simp only [transitions]
    rfl

variable {op : Op} {ans : Res op} (here : view tid = some place)
  (gen : op = .reset -> pre.made = 0)
include here gen

/-- The operations of the mild and of the idle places. -/
theorem still (legal : Registration.calm op place)
    (exec : execute opts tid op choice pre = some (ans, after)) :
    ∃ keeper, Orderly opts after keeper (update view tid
      (some (Registration.move op place ans))) := by
  rw [Registration.move_of_calm legal]
  by_cases resets : op = .reset
  · subst resets
    obtain ⟨_, rfl⟩ := of_guarded exec
    rw [← here, update_eq_self]
    exact ⟨keeper, orderly.resets (gen rfl)⟩
  · have calm : op.quiet = true := by
      cases op with
      | reset => exact absurd rfl resets
      | sock sock op =>
        cases op with
        | goWritePump => obtain ⟨⟨⟩, _⟩ | ⟨⟨⟩, _⟩ | ⟨⟨⟩, _⟩ := legal
        | _ => rfl
      | newWebSocket | register | registerAgain | decrementGate | remove | disconnectedHandler
      | handlerReturned | closeTeardown => obtain ⟨⟨⟩, _⟩ | ⟨⟨⟩, _⟩ | ⟨⟨⟩, _⟩ := legal
      | _ => rfl
    exact orderly.stays here (.of_execute calm exec)

/-- Every operation keeps the order. -/
theorem execute (legal : Registration.allowed opts op place)
    (exec : Server.execute opts tid op choice pre = some (ans, after)) :
    Registration.possible op ans ∧ ∃ keeper, Orderly opts after keeper
      (update view tid (some (Registration.move op place ans))) := by
  cases op with
  | newWebSocket id =>
    obtain rfl := legal
    cases exec
    refine ⟨trivial, keeper, ?_, orderly.recorded.relabels ?_, ?_⟩
    · simp only [Shared.desk, launched_update]
      exact orderly.seats.makes here
    · rw [here]
      rfl
    · refine orderly.announced.takes ?_ rfl
      exact orderly.announced.silent _ (.inl (orderly.seats.unmade _ (Nat.le_refl _)))
  | register sock id =>
    obtain rfl := legal
    exact ⟨trivial, orderly.register here (of_section exec)⟩
  | registerAgain sock id =>
    obtain ⟨old, rfl⟩ : ∃ old, place = .seat sock id (.torn old) := legal
    exact ⟨trivial, orderly.registerAgain here (of_section exec)⟩
  | decrementGate id =>
    obtain ⟨sock, stage, rfl, closing⟩ := legal
    obtain ⟨_, rfl⟩ := of_guarded exec
    exact ⟨trivial, orderly.decrementGate here closing⟩
  | awaitTeardown old =>
    obtain ⟨sock, id, rfl⟩ := legal
    obtain ⟨rfl, tears⟩ := of_awaitTeardown exec
    refine ⟨trivial, ?_⟩
    cases ans with
    | false => exact orderly.stays here (.refl after)
    | true =>
      refine orderly.relabels here rfl nofun rfl rfl rfl nofun ?_
      intro _ other same identifier
      cases same
      have ret := orderly.seats.torn old (tears rfl)
      constructor
      · intro registered
        have last := orderly.seats.evicting _ _ _ _ other here identifier (.inl registered)
        rw [last, ret] at registered
        cases registered
      · intro removed
        have last := orderly.seats.evicting _ _ _ _ other here identifier (.inr removed)
        rw [last, ret] at removed
        cases removed
  | newClientHandler sock =>
    obtain ⟨id, rfl⟩ := legal
    refine ⟨trivial, keeper, Orderly.quiet ⟨orderly.seats.leaves ?_ rfl,
      orderly.recorded.relabels ?_, orderly.announced.leaves rfl⟩ (.of_execute rfl exec)⟩
    · rw [here]
      rintro _ ⟨⟩
    · rw [here]
      rfl
  | remove sock id =>
    obtain rfl := legal
    exact orderly.remove here (of_section exec)
  | superseded id =>
    obtain ⟨sock, rfl⟩ := legal
    have known := orderly.seats.seated _ _ _ _ here
    have vacant := orderly.seats.vacant sock known.2.2.1
    rw [known.2.1] at vacant
    have alone : pre.connections.lookup id = none := vacant
    obtain ⟨rfl, rfl⟩ := of_guarded exec
    rw [alone]
    exact ⟨trivial, orderly.relabels here rfl nofun rfl rfl
      rfl nofun nofun⟩
  | disconnectedHandler sock =>
    obtain ⟨handled, id, rfl⟩ := legal
    cases exec
    refine ⟨trivial, keeper, ?_, orderly.recorded.relabels ?_, ?_⟩
    · exact orderly.seats.relabels here rfl nofun
        nofun nofun
        nofun
    · rw [here]
      rfl
    · rw [told_notify]
      refine orderly.announced.emits ?_ here (orderly.seats.seated _ _ _ _ here).2.2.1
      intro other id stage placed
      exact orderly.seats.alone _ _ _ _ _ _ _ placed here
  | handlerReturned sock =>
    obtain ⟨id, placed⟩ := legal
    cases exec
    rw [placed] at here
    have last : ∀ stage : Stage,
        stage = (if opts.disconnectedHandler then .emitted else .emitting) ->
        stage.status = .removed ∧ stage.opens = true ∧
          stage.told opts = Stage.ret.told opts := by
      rintro stage rfl
      cases handled : opts.disconnectedHandler with
      | _ => exact ⟨rfl, rfl, by simp [Stage.told, handled]⟩
    rcases last _ rfl with ⟨removed, opens, told⟩
    subst placed
    refine ⟨trivial, keeper, orderly.seats.returns here removed, orderly.recorded.relabels ?_, ?_⟩
    · rw [here]
      simp only [opening, opens]
      rfl
    · refine orderly.announced.restates here told.symm ?_ fun _ => rfl
      rintro (same | same)
      · cases same
      · cases same
  | closeTeardown sock =>
    obtain ⟨id, rfl⟩ := legal
    cases exec
    refine ⟨trivial, keeper, orderly.seats.tearsDown here, orderly.recorded.relabels ?_,
      orderly.announced.leaves rfl⟩
    rw [here]
    rfl
  | sock sock op =>
    cases op with
    | lock =>
      obtain ⟨id, rfl⟩ := legal
      exact ⟨trivial, (orderly.quiet (.of_execute rfl exec)).locks here (.inl ⟨rfl, rfl⟩)⟩
    | unlock =>
      obtain ⟨id, rfl⟩ := legal
      exact ⟨trivial, (orderly.quiet (.of_execute rfl exec)).locks here (.inr ⟨rfl, rfl⟩)⟩
    | goReadPump =>
      obtain ⟨id, rfl⟩ := legal
      exact ⟨trivial, orderly.stays here (.of_execute rfl exec)⟩
    | goWritePump =>
      obtain ⟨id, rfl⟩ := legal
      cases choice with
      | sock choice =>
        cases exec
        refine ⟨trivial, keeper, ?_, orderly.recorded.relabels ?_, orderly.announced.leaves rfl⟩
        · simp only [Shared.desk, launched_update]
          exact orderly.seats.launches here rfl
        · rw [here]
          rfl
      | _ => cases exec
    | _ => exact ⟨trivial, orderly.still here gen legal exec⟩
  | _ => exact ⟨trivial, orderly.still here gen legal exec⟩

end

end Orderly

def Op.resets : Op -> Bool
  | .reset => true
  | _ => false

/-- `Start` is called before the first socket is made. -/
@[reducible] def oneGeneration : Condition where
  call := fun _ _ => True
  op := fun s _ op => op.resets = true -> s.made = 0

variable {opts : Settings}

variable {keeper : Nat -> Nat} {view : Nat -> Option Place}

theorem Orderly.enter {s : Shared} {routine : Routine} {tid : Nat}
    (orderly : Orderly opts s keeper view) (vacant : view tid = none)
    (entered : enter routine s = some after) :
    ∃ place, Registration.entry routine place ∧
      Orderly opts after keeper (update view tid (some place)) := by
  have idle : Quiet s after -> Orderly opts after keeper
      (update view tid (some .idle)) := by
    intro unchanged
    refine Orderly.quiet ⟨orderly.seats.leaves ?_ rfl, orderly.recorded.relabels ?_,
      orderly.announced.leaves rfl⟩ unchanged
    · rw [vacant]
      rintro _ ⟨⟩
    · rw [vacant]
      rfl
  cases routine with
  | start | shutdown | stopConnection | write | wsHandler =>
    cases entered
    exact ⟨.idle, rfl, idle (.refl _)⟩
  | stopConnections =>
    simp only [Server.enter] at entered
    split at entered
    · cases entered
      exact ⟨.idle, rfl, idle ⟨rfl, rfl, rfl, rfl⟩⟩
    · cases entered
  | sock sock id inner =>
    simp only [Server.enter] at entered
    split at entered
    · next known =>
        -- only the write pump takes something over
        have others : ∀ state, Socket.enter inner (s.sockets sock) = some state ->
            inner ≠ .writePump ->
            Quiet s { s with sockets := update s.sockets sock state } := by
          intro state began other
          have same : state.writePump = (s.sockets sock).writePump := by
            cases inner <;> simp only [Socket.enter] at began <;> grind
          refine ⟨?_, rfl, rfl, rfl⟩
          have unchanged :=
            update_eq_self sock fun num => (s.sockets num).writePump
          simp only [Shared.desk, launched_update, same, unchanged]
        cases inner with
        | run | write | close => cases entered
        | writePump =>
          rcases map_eq_some_iff.mp entered with ⟨state, began, rfl⟩
          simp only [Socket.enter] at began
          split at began
          · next started =>
              cases began
              refine ⟨.seat sock id .pumping, rfl, ?_, orderly.recorded.relabels ?_, ?_⟩
              · simp only [Shared.desk, launched_update]
                exact orderly.seats.runs vacant ⟨known.2, known.1⟩ started
              · rw [vacant]
                rfl
              · refine orderly.announced.takes ?_ rfl
                exact orderly.announced.silent _ (.inr (orderly.seats.launched _ started))
          · cases began
        | readLoop | writeLoop => cases entered
        | readPump | remoteAddr | isConnected =>
          rcases map_eq_some_iff.mp entered with ⟨state, began, rfl⟩
          exact ⟨.idle, rfl, idle (others state began nofun)⟩
    · cases entered

theorem orderly_runs : Verified (system opts) oneGeneration .new
    (Registration.protocol opts) Registration.entry Registration.leave
    (fun s view => ∃ keeper, Orderly opts s keeper view) where
  body := Registration.obeys_body
  initially := by
    refine ⟨fun _ => 0, Seats.new, ⟨⟨nodup_nil, fun _ => rfl⟩, ?_⟩, ?_, ?_, ?_⟩
    · intro tid id
      constructor
      · intro mem
        cases mem
      · intro opens
        cases opens
    · intro tid sock id stage placed
      cases placed
    · exact fun _ _ => rfl
    · intro sock ret
      cases ret
  enter := by
    rintro config view routine after _ _ ⟨keeper, orderly⟩ entered vacant
    rcases orderly.enter vacant entered with ⟨place, begins, kept⟩
    exact ⟨place, begins, keeper, kept⟩
  occur := by
    rintro pre view event after ⟨keeper, orderly⟩ arose
    cases event
    have quiet : Quiet pre after := by
      simp only [system, Server.occur] at arose
      split at arose
      · cases arose
        exact ⟨rfl, rfl, rfl, rfl⟩
      · cases arose
    exact ⟨keeper, orderly.quiet quiet⟩
  execute := by
    rintro pre view tid place op choice ans after ⟨keeper, orderly⟩ here legal
      guarded exec
    have gen : op = .reset -> pre.made = 0 := by
      rintro rfl
      exact guarded rfl
    rcases orderly.execute here gen legal exec with ⟨possible, kept⟩
    exact ⟨_, ⟨possible, rfl⟩, kept⟩
  finish := by
    rintro s view tid place ⟨keeper, orderly⟩ here leaves
    have away : opening (some place) = none ∧ ∀ sock, owned (some place) = some sock ->
        s.desk.status sock ≠ .removed := by
      cases place with
      | idle => exact ⟨rfl, nofun⟩
      | welcoming | finished => exact ⟨rfl, nofun⟩
      | seat sock id stage =>
        cases stage with
        | pumping =>
          refine ⟨rfl, ?_⟩
          rintro _ ⟨⟩
          rw [(orderly.seats.seated _ _ _ _ here).2.2.1]
          exact nofun
        | _ => cases leaves
    refine ⟨keeper, orderly.seats.leaves ?_ rfl, orderly.recorded.relabels ?_,
      orderly.announced.leaves rfl⟩
    · rw [here]
      exact away.2
    · rw [here, away.1]
      rfl

/-! ## Goroutines in a transition -/

/-- The operations that may begin a transition. -/
def Op.begins : Op -> Bool
  | .register _ _ | .remove _ _ => true
  | _ => false

/-- The program closes the gate of the identifier before it begins anything else. -/
def Closes {α : Type} (id : String) : Prog α -> Prop
  | .done _ => False
  | .act op resume => op = .decrementGate id ∨
      (op.begins = false ∧ ∃ ans, Closes id (resume ans))

/-- The goroutine waits for an eviction or carries a disconnect out: it has begun a transition of
the identifier and not ended it. -/
def InTransition (config : Configuration) (id : String) (tid : Nat) : Prop :=
  ∃ content, config.thread? tid = some content ∧ Closes id content.prog

namespace Registration

variable {place : Place}

theorem opening_of_decrement {id : String}
    (legal : allowed opts (.decrementGate id) place) :
    opening (some place) = some id ∧ opening (some (move (.decrementGate id) place ())) = none := by
  obtain ⟨sock, stage, rfl, closing⟩ := legal
  rcases closing with ⟨old, rfl | rfl⟩ | rfl | rfl | rfl <;> exact ⟨rfl, rfl⟩

variable {op : Op}

/-- The other operations leave the transition of their goroutine as it is. -/
theorem opening_move (legal : allowed opts op place)
    (still : op.begins = false) (other : ∀ id, op ≠ .decrementGate id)
    (ans : Res op) :
    opening (some (move op place ans)) = opening (some place) := by
  have calm : calm op place ->
      opening (some (move op place ans)) = opening (some place) := by
    intro stays
    rw [move_of_calm stays]
  cases op with
  | decrementGate id => exact absurd rfl (other id)
  | register | remove => cases still
  | newWebSocket id =>
    obtain rfl := legal
    rfl
  | awaitTeardown old =>
    obtain ⟨sock, id, rfl⟩ := legal
    cases ans <;> rfl
  | registerAgain sock id =>
    obtain ⟨old, rfl⟩ : ∃ old, place = .seat sock id (.torn old) := legal
    cases ans <;> rfl
  | newClientHandler sock =>
    obtain ⟨id, rfl⟩ := legal
    rfl
  | superseded id =>
    obtain ⟨sock, rfl⟩ := legal
    cases ans <;> rfl
  | disconnectedHandler sock =>
    obtain ⟨_, id, rfl⟩ := legal
    rfl
  | handlerReturned sock =>
    obtain ⟨id, rfl⟩ := legal
    split <;> rfl
  | closeTeardown sock =>
    obtain ⟨id, rfl⟩ := legal
    rfl
  | sock sock op =>
    cases op with
    | lock | unlock | goReadPump | goWritePump =>
      obtain ⟨id, rfl⟩ := legal
      rfl
    | _ => exact calm legal
  | _ => exact calm legal

theorem nonempty_res (op : Op) : Nonempty (Res op) := by
  cases op with
  | register | registerAgain => exact ⟨Verdict.stopping⟩
  | sock sock op =>
    cases op with
    | readMessage conn => exact ⟨Socket.Incoming.message []⟩
    | select => exact ⟨Socket.Selected.tick⟩
    | _ => exact ⟨default⟩
  | _ => exact ⟨default⟩

theorem possible_of_still (still : op.begins = false) (ans : Res op) :
    possible op ans := by
  cases op with
  | remove => cases still
  | _ => trivial

/-- A goroutine does not end, and no routine begins, in a transition. -/
theorem not_opening {value : Option Routine} (ends : cont entry leave value place) :
    opening (some place) = none := by
  cases value with
  | none =>
    cases place with
    | idle | welcoming | finished => rfl
    | seat sock id stage =>
      cases stage with
      | pumping => rfl
      | _ => cases ends
  | some routine =>
    cases routine with
    | sock sock id inner =>
      cases inner with
      | run => cases ends
      | _ =>
        cases ends
        rfl
    | _ =>
      cases ends
      rfl

/-- An owner in a transition begins no other one. -/
theorem still_of_opening {id : String} (legal : allowed opts op place)
    (opens : opening (some place) = some id) : op.begins = false := by
  cases op with
  | register sock id =>
    obtain rfl := legal
    cases opens
  | remove sock id =>
    obtain rfl := legal
    cases opens
  | _ => rfl

/-- A goroutine closes a gate exactly when its place says so. -/
theorem closes_iff {prog : Prog (Option Routine)} {routine : Routine}
    (obeys : prog.Obeys (protocol opts) routine (cont entry leave) place)
    (id : String) : Closes id prog <-> opening (some place) = some id := by
  induction prog generalizing place with
  | done value =>
    rw [not_opening obeys.2]
    exact ⟨False.elim, nofun⟩
  | act op resume ih =>
    obtain ⟨_, legal, goesOn⟩ := obeys
    replace legal : allowed opts op place := legal
    have after : ∀ ans, op.begins = false ->
        (Closes id (resume ans) <-> opening (some (move op place ans)) = some id) :=
      fun ans still => ih ans
        (goesOn ans _ ⟨possible_of_still still ans, rfl⟩)
    by_cases closing : ∃ id, op = .decrementGate id
    · obtain ⟨closed, rfl⟩ := closing
      have opens := opening_of_decrement legal
      constructor
      · rintro (same | ⟨still, ans, closes⟩)
        · cases same
          exact opens.1
        · rw [after ans still, opens.2] at closes
          cases closes
      · intro same
        rw [opens.1] at same
        cases same
        exact .inl rfl
    · have other : ∀ id, op ≠ .decrementGate id := fun id same => closing ⟨id, same⟩
      constructor
      · rintro (same | ⟨still, ans, closes⟩)
        · exact absurd same (other id)
        · rwa [after ans still, opening_move legal still other] at closes
      · intro opens
        have still := still_of_opening legal opens
        obtain ⟨ans⟩ := nonempty_res op
        refine .inr ⟨still, ans, ?_⟩
        rwa [after ans still, opening_move legal still other]

end Registration

/-! ## The gate -/

section

variable {config : Configuration} (describes : Describes (Registration.protocol opts)
  Registration.entry Registration.leave config view) (id : String)
include describes

theorem inTransition_iff (tid : Nat) :
    InTransition config id tid <-> opening (view tid) = some id := by
  constructor
  · rintro ⟨content, found, closes⟩
    rcases describes.tagged tid content found with ⟨place, here, obeys⟩
    rw [here]
    exact (Registration.closes_iff obeys id).mp closes
  · intro opens
    cases here : view tid with
    | none =>
      rw [here] at opens
      cases opens
    | some place =>
      rw [here] at opens
      rcases describes.occupied here with ⟨content, found, obeys⟩
      exact ⟨content, found, (Registration.closes_iff obeys id).mpr opens⟩

/-- The gate of an identifier counts the goroutines in a transition. -/
theorem Orderly.counts (orderly : Orderly opts config.shared keeper view) :
    ∃ transitions : List Nat, transitions.Nodup ∧
      (∀ tid, tid ∈ transitions <-> InTransition config id tid) ∧
      config.shared.gate.lookup id =
        if transitions.length = 0 then none else some (transitions.length : Int) := by
  let recorded := config.shared.hist.transitions.filter fun transition => transition.2 = id
  have same : ∀ transition, transition ∈ recorded -> transition.2 = id := by
    intro transition mem
    simpa using (mem_filter.mp mem).2
  refine ⟨recorded.map Prod.fst, ?_, ?_, ?_⟩
  · apply (orderly.recorded.counted.nodup.filter _).map_on
    intro first one second two equal
    exact Prod.ext equal ((same first one).trans (same second two).symm)
  · intro tid
    rw [inTransition_iff describes, ← orderly.recorded.recorded]
    simp [recorded]
  · rw [orderly.recorded.counted.counts id, length_map, ← countP_eq_length_filter]
    rfl

end

/-- The end of a socket is announced at most once. -/
theorem Orderly.once {s : Shared} (orderly : Orderly opts s keeper view) (sock : Nat) :
    s.told sock ≤ 1 := by
  cases status : s.hist.status sock with
  | fresh =>
    rw [orderly.announced.silent sock (.inl status)]
    omega
  | registered =>
    rw [orderly.announced.silent sock (.inr status)]
    omega
  | ret =>
    rw [orderly.announced.ret sock status]
    split <;> omega
  | removed =>
    have owner := orderly.seats.kept sock status
    unfold owned at owner
    split at owner
    · next other id stage placed =>
        cases owner
        rw [orderly.announced.seated _ _ _ _ placed]
        cases stage <;> simp only [Stage.told] <;> (try split) <;> omega
    · cases owner

abbrev Schedule := List (Action Choice Routine Event)

/-- A goroutine goes on as far as nothing has to be decided. -/
def proceed (tid steps : Nat) : Schedule := List.replicate steps (.step tid .proceed)

/-- A goroutine goes on inside a socket. -/
def proceedInside (tid steps : Nat) : Schedule :=
  List.replicate steps (.step tid (.sock .proceed))

def sampleRequest (id : String) : Request := ⟨some id, "", ["ocpp1.6"], none⟩

def sampleOpts (policy : DuplicateConnectionPolicy) : Settings where
  duplicatePolicy := policy
  readWait := 0
  pingConfig := none
  subprotocols := []
  basicAuthHandler := none
  checkClientHandler := none
  newClientHandler := true
  disconnectedHandler := true
  messageHandler := true

/-- The upgrade handler, up to the end of the first section of the registration. -/
def arriving (tid : Nat) (id : String) : Schedule :=
  [.call (.wsHandler (sampleRequest id)), .step tid (.outcome none)] ++ proceed tid 2

end Server
end Ws
end OcppGo
