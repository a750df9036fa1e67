import OcppGo.ClientDispatcher.InFlight

namespace OcppGo
namespace ClientDispatcher

open Function Interleaving Ocppj Option

variable {P : Type}

/-!
# Whose timer has elapsed

The timer belongs to the request that was written last.  A tick that the pump
receives was sent while that request was pending, or while none was; and a request
that is pending when the pump looks is still the one written last.  So a tick says
which request its timer was running for.
-/

/-! ## The clock -/

/-- The request written last, the pending one, and the timer. -/
structure Clock where
  last : Option String
  pending : String
  armed : Bool
  tick : Option String

def Shared.clock (s : Shared P) : Clock where
  last := s.hist.writes.getLast?.map Entry.uniqueId
  pending := s.pendingRequestState.requestID
  armed := (s.timer.bind Timer.armed).isSome
  tick := s.timer.bind Timer.tick

namespace Clock

/-- The identifier is that of the request written last, or nothing is pending. -/
def Explains (clock : Clock) (elapsed : String) : Prop :=
  clock.last = some elapsed ∨ (elapsed = "" ∧ clock.pending = "")

/-- The timer has fired and its tick has been received. -/
def Spent (clock : Clock) : Prop := clock.armed = false ∧ clock.tick = none

/-- What the pump knows in a phase, given the tick it has received last. -/
def At (clock : Clock) (elapsed : Option String) : Phases.Phase P -> Prop
  | .clear => clock.pending = ""
  | .peeked _ => clock.pending = ""
  | .added front => clock.pending = "" ∨ clock.pending = front.uniqueId
  | .stale => clock.armed = false
  | .silenced => clock.Spent
  | .awake _ .ticked => clock.Spent ∧ ∃ pending, elapsed = some pending ∧ clock.Explains pending
  | .awake _ .expired => clock.Spent ∧ ∃ pending, elapsed = some pending ∧ clock.last = some pending
  | .awake _ .spurious => clock.Spent
  | _ => True

theorem Explains.free {clock : Clock} {elapsed : String} (explains : clock.Explains elapsed) :
    Explains { clock with pending := "" } elapsed :=
  explains.imp id fun pre => ⟨pre.1, rfl⟩

theorem At.free {clock : Clock} {elapsed : Option String} {phase : Phases.Phase P}
    (stance : clock.At elapsed phase) : At { clock with pending := "" } elapsed phase := by
  cases phase with
  | clear => rfl
  | peeked front => rfl
  | added front => exact .inl rfl
  | awake rdy alarm =>
    cases alarm with
    | ticked =>
      rcases stance with ⟨spent, pending, received, explains⟩
      exact ⟨spent, pending, received, explains.free⟩
    | _ => exact stance
  | _ => exact stance

end Clock

namespace Phases

/-- Between the registration of a request and the reset of the timer for it. -/
def Phase.dispatching : Phase P -> Prop
  | .added _ | .written | .stale => True
  | _ => False

/-- The pump is about to write the request with this identifier. -/
def Registering (view : Nat -> Option (Label P)) (pending : String) : Prop :=
  ∃ tid label gen front, view tid = some label ∧
    label.role = .pump gen (.added front) ∧ pending = front.uniqueId

/-- The pump has still to set the timer for the request it dispatches. -/
def Dispatching (view : Nat -> Option (Label P)) : Prop :=
  ∃ tid label gen phase, view tid = some label ∧
    label.role = .pump gen phase ∧ phase.dispatching

structure TimeKept (s : Shared P) (view : Nat -> Option (Label P)) : Prop where
  single : s.clock.armed = true -> s.clock.tick = none
  pending : s.clock.pending = "" ∨ s.clock.last = some s.clock.pending ∨
    Registering view s.clock.pending
  tick : ∀ elapsed, s.clock.tick = some elapsed -> s.clock.Explains elapsed ∨ Dispatching view
  stages : ∀ tid label gen phase, view tid = some label ->
    label.role = .pump gen phase -> s.clock.At (s.hist.elapsed tid) phase
  callers : ∀ tid label, view tid = some label ->
    label.role.kind ≠ .pause ∧ label.role.kind ≠ .resume

variable {pre after : Shared P} {view : Nat -> Option (Label P)} {tid : Nat}
  {label onward : Label P} {choice : Choice} {op : Op P} {ans : Res P op}

theorem Registering.dispatching {pending : String} (registering : Registering view pending) :
    Dispatching view := by
  rcases registering with ⟨other, label', gen, front, tagged, pumps, _⟩
  exact ⟨other, label', gen, .added front, tagged, pumps, trivial⟩

/-- Relabelling a goroutine does not end a dispatch. -/
def Continues (view : Nat -> Option (Label P)) (tid : Nat) (content : Option (Label P)) : Prop :=
  ∀ label gen phase, view tid = some label ->
    label.role = .pump gen phase -> phase.dispatching ->
    ∃ onward, content = some onward ∧ onward.role = .pump gen phase

variable {content : Option (Label P)}

theorem Registering.update {pending : String} (registering : Registering view pending)
    (continues : Continues view tid content) :
    Registering (update view tid content) pending := by
  rcases registering with ⟨other, label', gen, front, tagged, pumps, named⟩
  by_cases same : other = tid
  · subst same
    rcases continues label' gen _ tagged pumps trivial with ⟨onward, rfl, pumps'⟩
    exact ⟨other, onward, gen, front, update_self .., pumps', named⟩
  · exact ⟨other, label', gen, front, by rwa [update_of_ne same],
      pumps, named⟩

theorem Dispatching.update (dispatching : Dispatching view)
    (continues : Continues view tid content) : Dispatching (update view tid content) := by
  rcases dispatching with ⟨other, label', gen, phase, tagged, pumps, busy⟩
  by_cases same : other = tid
  · subst same
    rcases continues label' gen phase tagged pumps busy with ⟨onward, rfl, pumps'⟩
    exact ⟨other, onward, gen, phase, update_self .., pumps', busy⟩
  · exact ⟨other, label', gen, phase, by rwa [update_of_ne same],
      pumps, busy⟩

variable {gen : Nat} {phase : Phase P}

section

variable (alive : Lifecycle (life pre) (stations view)) (tagged : view tid = some label)
  (pumps : label.role = .pump gen phase) (working : phase ≠ .finished)
include alive tagged pumps working

/-- A pump that registers or dispatches a request is the only pump there is. -/
theorem same_pump {other : Nat} {label' : Label P} {generation' : Nat} {phase' : Phase P}
    (tagged' : view other = some label') (pumps' : label'.role = .pump generation' phase')
    (working' : phase' ≠ .finished) : phase' = phase := by
  by_cases same : other = tid
  · subst same
    rw [tagged] at tagged'
    cases tagged'
    rw [pumps] at pumps'
    cases pumps'
    rfl
  · exact absurd (finished_of_other_pump alive tagged pumps working tagged' pumps' same) working'

theorem not_dispatching (elsewhere : ¬ phase.dispatching) : ¬ Dispatching view := by
  rintro ⟨other, label', generation', phase', tagged', pumps', busy⟩
  have working' : phase' ≠ .finished := by
    rintro rfl
    exact busy
  rw [same_pump alive tagged pumps working tagged' pumps' working'] at busy
  exact elsewhere busy

end

section

variable (kept : TimeKept pre view) (caller : ∀ onward, content = some onward ->
  onward.role.kind ≠ .pause ∧ onward.role.kind ≠ .resume)
include kept caller

/-- A step after which the clock and the descriptions are known. -/
theorem TimeKept.change (single : after.clock.armed = true -> after.clock.tick = none)
    (pending : after.clock.pending = "" ∨ after.clock.last = some after.clock.pending ∨ Registering
      (update view tid content) after.clock.pending)
    (tick : ∀ elapsed, after.clock.tick = some elapsed -> after.clock.Explains elapsed ∨
      Dispatching (update view tid content))
    (others : ∀ other label' gen phase, other ≠ tid -> view other = some label' ->
      label'.role = .pump gen phase -> pre.clock.At (pre.hist.elapsed other) phase
      -> after.clock.At (after.hist.elapsed other) phase)
    (own : ∀ onward gen phase, content = some onward -> onward.role = .pump
      gen phase -> after.clock.At (after.hist.elapsed tid) phase) :
    TimeKept after (update view tid content) where
  single := single
  pending := pending
  tick := tick
  stages := by
    intro other label' gen phase tagged pumps
    rcases tagged_of_update tagged with ⟨same, known⟩ | ⟨apart, known⟩
    · rw [same]
      exact own label' gen phase known pumps
    · exact others other label' gen phase apart known pumps
        (kept.stages other label' gen phase known pumps)
  callers := by
    intro other label' tagged
    rcases tagged_of_update tagged with ⟨_, known⟩ | ⟨_, known⟩
    · exact caller label' known
    · exact kept.callers other label' known

/-- A step that leaves the clock alone. -/
theorem TimeKept.still (sameClock : after.clock = pre.clock)
    (sameElapsed : after.hist.elapsed = pre.hist.elapsed)
    (continues : Continues view tid content)
    (own : ∀ onward gen phase, content = some onward -> onward.role = .pump
      gen phase -> pre.clock.At (pre.hist.elapsed tid) phase) :
    TimeKept after (update view tid content) := by
  apply kept.change caller
  · rw [sameClock]
    exact kept.single
  · rw [sameClock]
    exact kept.pending.imp id (Or.imp id fun registering => registering.update continues)
  · rw [sameClock]
    intro elapsed ticked
    exact (kept.tick elapsed ticked).imp id fun dispatching => dispatching.update continues
  · rw [sameClock, sameElapsed]
    exact fun _ _ _ _ _ _ _ stance => stance
  · rwa [sameClock, sameElapsed]

end

/-- The operations that leave the clock alone. -/
def untimed : Op P -> Bool
  | .write _ _ | .addPendingRequest _ _ | .deletePendingRequest _ _ | .clearPendingRequests
  | .timerStop | .timerDrain | .timerReset _ | .assignStarted | .select _ _ => false
  | _ => true

section

variable (exec : execute tid op choice pre = some (ans, after))
  (unconcerned : untimed op = true)
include exec unconcerned

theorem clock_of_execute :
    after.clock = pre.clock ∧ after.hist.elapsed = pre.hist.elapsed := by
  cases op with
  | write | addPendingRequest | deletePendingRequest | clearPendingRequests | timerStop | timerDrain
  | timerReset | assignStarted | select => cases unconcerned
  | _ =>
    simp only [execute, map_eq_some_iff, bind_eq_some_iff, bind] at exec
    grind [Shared.clock]

/-- What the pump learns by an operation that leaves the clock alone. -/
theorem clockAt_of_pumpStep {onward : Phase P} (kept : TimeKept pre view)
    (tagged : view tid = some ⟨.pump gen phase, .none⟩)
    (step : PumpStep gen phase op ans onward) :
    pre.clock.At (pre.hist.elapsed tid) onward := by
  have stance := kept.stages tid _ gen phase tagged rfl
  cases step with
  | select | addPendingRequest | write | timerStop | timerDrain | timerReset | resetAtTick
  | clearPendingRequests => cases unconcerned
  | pendingAtTick rdy pending =>
    cases exec
    rcases stance with ⟨spent, elapsed, received, explained⟩
    split
    · rename_i occupied
      refine ⟨spent, elapsed, received, ?_⟩
      rcases explained with last | ⟨_, free⟩
      · exact last
      · have busy : pre.pendingRequestState.requestID ≠ "" := of_decide_eq_true occupied
        exact absurd free busy
    · exact spent
  | pendingAtDispatch pending =>
    cases exec
    split
    · trivial
    · rename_i free
      show pre.pendingRequestState.requestID = ""
      simpa [ClientState.hasPendingRequest] using free
  | peekAtDispatch front =>
    cases front with
    | none => trivial
    | some front =>
      simp only [Phase.read]
      split
      · exact stance
      · trivial
  | isPaused rdy paused => split <;> trivial
  | isEmpty vacant => cases vacant <;> trivial
  | peekAtTick | popAtTick => exact stance
  | contextAlive => exact stance
  | contextLate | other => exact stance
  | _ => trivial

end

section

variable (move : Move label op ans onward)
include move

theorem continues_of_move (tagged : view tid = some label)
    (unconcerned : untimed op = true) :
    Continues view tid (some onward) := by
  intro label' gen phase tagged' pumps busy
  rw [tagged] at tagged'
  cases tagged'
  refine ⟨onward, rfl, ?_⟩
  cases move with
  | clears => cases unconcerned
  | signals => exact pumps
  | caller step =>
    cases step with
    | timer => exact pumps
    | other => exact pumps
    | _ => cases pumps
  | pump step =>
    cases pumps
    cases step with
    | write | addPendingRequest | timerStop | timerDrain => cases unconcerned
    | popAtFailure => rfl
    | contextLate | other => rfl
    | _ => cases busy

theorem kind_of_move : onward.role.kind = label.role.kind := by
  cases move with
  | clears => rfl
  | signals => rfl
  | caller step => cases step <;> rfl
  | pump step => rfl

theorem TimeKept.rest (kept : TimeKept pre view) (tagged : view tid = some label)
    (exec : execute tid op choice pre = some (ans, after))
    (unconcerned : untimed op = true) :
    TimeKept after (update view tid (some onward)) := by
  rcases clock_of_execute exec unconcerned with ⟨sameClock, sameElapsed⟩
  refine kept.still ?_ sameClock sameElapsed (continues_of_move move tagged unconcerned) ?_
  · rintro _ ⟨rfl⟩
    rw [kind_of_move move]
    exact kept.callers tid label tagged
  · rintro _ gen phase ⟨rfl⟩ pumps
    cases move with
    | clears => cases unconcerned
    | signals => exact kept.stages tid _ gen phase tagged pumps
    | caller step => exact kept.stages tid _ gen phase tagged (step.of_pump pumps)
    | pump step =>
      cases pumps
      exact clockAt_of_pumpStep exec unconcerned kept tagged step

end

/-! ## The dispatch and the timer arm -/

section

variable (kept : TimeKept pre view) (alive : Lifecycle (life pre) (stations view))
include kept alive

section

variable (tagged : view tid = some ⟨.pump gen phase, .none⟩) (working : phase ≠ .finished)
include tagged working

/-- The pump has cleared or set something; no other pump is left that could mind. -/
theorem TimeKept.pumps {onward : Phase P}
    (single : after.clock.armed = true -> after.clock.tick = none)
    (pending : after.clock.pending = "" ∨ after.clock.last = some after.clock.pending ∨ ∃
      front, onward = .added front ∧ after.clock.pending = front.uniqueId)
    (tick : ∀ elapsed, after.clock.tick = some elapsed -> after.clock.Explains elapsed ∨
      onward.dispatching) (own : after.clock.At (after.hist.elapsed tid) onward) :
    TimeKept after (update view tid (some ⟨.pump gen onward, .none⟩)) := by
  refine kept.change ?_ single ?_ ?_ ?_ ?_
  · rintro _ ⟨rfl⟩
    exact ⟨by simp [Role.kind], by simp [Role.kind]⟩
  · refine pending.imp id (Or.imp id ?_)
    rintro ⟨front, rfl, named⟩
    exact ⟨tid, _, gen, front, update_self .., rfl, named⟩
  · intro elapsed ticked
    refine (tick elapsed ticked).imp id ?_
    intro busy
    exact ⟨tid, _, gen, onward, update_self .., rfl, busy⟩
  · intro other label' generation' phase' apart tagged' pumps' _
    rw [finished_of_other_pump alive tagged rfl working tagged' pumps' apart]
    trivial
  · rintro _ generation' phase' ⟨rfl⟩ pumps'
    cases pumps'
    exact own

/-- Once the pump has written, the pending request is the one written last. -/
theorem TimeKept.settled (elsewhere : ∀ front, phase ≠ .added front) :
    pre.clock.pending = "" ∨ pre.clock.last = some pre.clock.pending := by
  rcases kept.pending with free | last | ⟨other, label', _, front, tagged', pumps', _⟩
  · exact .inl free
  · exact .inr last
  · exact absurd (same_pump alive tagged rfl working tagged' pumps' (by simp)).symm
      (elsewhere front)

/-- While the pump is not dispatching, a tick belongs to the request written last. -/
theorem TimeKept.explained (elsewhere : ¬ phase.dispatching) (elapsed : String)
    (ticked : pre.clock.tick = some elapsed) : pre.clock.Explains elapsed :=
  (kept.tick elapsed ticked).resolve_right (not_dispatching alive tagged rfl working elsewhere)

end

theorem TimeKept.select {rdy : Bool} {pendingDone : Option Nat} {selected : Selected}
    (tagged : view tid = some ⟨.pump gen (.top rdy), .none⟩)
    (exec : execute tid (.select (some gen) pendingDone) choice pre = some
      (selected, after)) :
    TimeKept after (update view tid
      (some ⟨.pump gen (Phase.selected (.top rdy) selected), .none⟩)) := by
  have pending := kept.settled alive tagged (by simp) (by simp)
  have tick := kept.explained alive tagged (by simp) id
  have quiet (same : after.clock = pre.clock)
      (own : after.clock.At (after.hist.elapsed tid)
        (Phase.selected (.top rdy) selected : Phase P)) :
      TimeKept after (update view tid
        (some ⟨.pump gen (Phase.selected (.top rdy) selected), .none⟩)) := by
    apply kept.pumps alive tagged (by simp)
    · rw [same]
      exact kept.single
    · rw [same]
      exact pending.imp id .inl
    · rw [same]
      exact fun elapsed ticked => .inl (tick elapsed ticked)
    · exact own
  rcases execute_select exec with ⟨_, _, _, received, rfl⟩ | ⟨timer, elapsed, known, ticked, rfl, rfl⟩ |
    ⟨_, rfl, rfl⟩ | ⟨_, _, _, _, rfl, rfl⟩
  · apply quiet rfl
    rcases RequestChannel.receive_cases received with ⟨_, rfl, _⟩ | ⟨_, _, rfl, _⟩
    · trivial
    · trivial
  · have delivered : pre.clock.tick = some elapsed := by simp [Shared.clock, known, ticked]
    have disarmed : pre.clock.armed = false := by
      by_contra armed
      rw [kept.single (by simpa using armed)] at delivered
      cases delivered
    have disarmed' : timer.armed.isSome = false := by simpa [Shared.clock, known] using disarmed
    apply kept.pumps alive tagged (by simp)
    · intro _
      rfl
    · exact pending.imp id .inl
    · intro _ never
      cases never
    · refine ⟨⟨?_, rfl⟩, elapsed, ?_, tick elapsed delivered⟩
      · simpa [Shared.clock] using disarmed'
      · exact update_self ..
  · exact quiet rfl trivial
  · exact quiet rfl trivial

variable {front : Entry P}

theorem TimeKept.register {req : Option P}
    (tagged : view tid = some ⟨.pump gen (.peeked front), .none⟩)
    (exec : execute tid (.addPendingRequest front.uniqueId req) choice pre = some ((),
      after)) :
    TimeKept after (update view tid (some ⟨.pump gen (.added front), .none⟩)) := by
  have free : pre.pendingRequestState.requestID = "" := kept.stages tid _ _ _ tagged rfl
  cases exec
  have registered : (pre.pendingRequestState.addPendingRequest front.uniqueId req).requestID =
      front.uniqueId := by
    rw [ClientState.addPendingRequest_requestID, if_pos free]
  apply kept.pumps alive tagged (by simp)
  · exact kept.single
  · exact .inr (.inr ⟨front, rfl, registered⟩)
  · intro _ _
    exact .inr trivial
  · exact .inr registered

theorem TimeKept.write {data : List UInt8} {failure : Option String}
    (tagged : view tid = some ⟨.pump gen (.added front), .none⟩)
    (exec : execute tid (.write front data) choice pre = some (failure, after)) :
    TimeKept after (update view tid (some ⟨.pump gen .written, .none⟩)) := by
  have stance := kept.stages tid _ _ _ tagged rfl
  cases choice with
  | network failure' =>
    cases exec
    apply kept.pumps alive tagged (by simp)
    · exact kept.single
    · refine stance.imp id (fun named => .inl ?_)
      have registered : pre.pendingRequestState.requestID = front.uniqueId := named
      simp [Shared.clock, registered]
    · intro _ _
      exact .inr trivial
    · trivial
  | _ => cases exec

/-- The timer is stopped, drained and set again for the request that has been written. -/
theorem TimeKept.timerStop {active : Bool}
    (tagged : view tid = some ⟨.pump gen .written, .none⟩)
    (exec : execute tid .timerStop choice pre = some (active, after)) :
    TimeKept after (update view tid
      (some ⟨.pump gen (if active then .silenced else .stale), .none⟩)) := by
  simp only [execute, bind_eq_some_iff, bind] at exec
  rcases exec with ⟨timer, known, stopped⟩
  cases stopped
  have pending := kept.settled alive tagged (by simp) (by simp)
  apply kept.pumps alive tagged (by simp)
  · intro never
    cases never
  · exact pending.imp id .inl
  · intro elapsed ticked
    cases armed : timer.armed with
    | none => exact .inr trivial
    | some duration =>
      have silent : pre.clock.tick = none := kept.single (by simp [Shared.clock, known, armed])
      have never : pre.clock.tick = some elapsed := by
        simpa [Shared.clock, known] using ticked
      rw [silent] at never
      cases never
  · cases armed : timer.armed with
    | none => rfl
    | some duration =>
      have silent : pre.clock.tick = none := kept.single (by simp [Shared.clock, known, armed])
      exact ⟨rfl, by simpa [Shared.clock, known] using silent⟩

theorem TimeKept.timerDrain (tagged : view tid = some ⟨.pump gen .stale, .none⟩)
    (exec : execute tid .timerDrain choice pre = some ((), after)) :
    TimeKept after (update view tid (some ⟨.pump gen .silenced, .none⟩)) := by
  have disarmed : pre.clock.armed = false := kept.stages tid _ _ _ tagged rfl
  have pending := kept.settled alive tagged (by simp) (by simp)
  simp only [execute, bind_eq_some_iff, bind] at exec
  rcases exec with ⟨timer, known, drained⟩
  cases drained
  have disarmed' : timer.armed.isSome = false := by simpa [Shared.clock, known] using disarmed
  apply kept.pumps alive tagged (by simp)
  · intro _
    rfl
  · exact pending.imp id .inl
  · intro _ never
    cases never
  · exact ⟨disarmed', rfl⟩

/-- The timer is set again when its last tick is out of the way. -/
theorem TimeKept.timerReset {onward : Phase P} {duration : Int}
    (tagged : view tid = some ⟨.pump gen phase, .none⟩) (working : phase ≠ .finished)
    (elsewhere : ∀ front, phase ≠ .added front) (spent : pre.clock.Spent)
    (own : ∀ (clock : Clock) elapsed, clock.At elapsed onward)
    (exec : execute tid (.timerReset duration) choice pre = some ((), after)) :
    TimeKept after (update view tid (some ⟨.pump gen onward, .none⟩)) := by
  have pending := kept.settled alive tagged working elsewhere
  simp only [execute, bind_eq_some_iff, bind] at exec
  rcases exec with ⟨timer, known, reset⟩
  cases reset
  have silent : timer.tick = none := by simpa [Shared.clock, known] using spent.2
  apply kept.pumps alive tagged working
  · intro _
    exact silent
  · exact pending.imp id .inl
  · intro elapsed ticked
    have never : timer.tick = some elapsed := ticked
    rw [silent] at never
    cases never
  · exact own _ _

theorem TimeKept.clear (tagged : view tid = some ⟨.pump gen .drained, .none⟩)
    (exec : execute tid .clearPendingRequests choice pre = some ((), after)) :
    TimeKept after (update view tid (some ⟨.pump gen .cleared, .none⟩)) := by
  have tick := kept.explained alive tagged (by simp) id
  cases exec
  apply kept.pumps alive tagged (by simp)
  · exact kept.single
  · exact .inl rfl
  · intro elapsed ticked
    exact .inl ((tick elapsed ticked).imp id fun free => ⟨free.1, rfl⟩)
  · trivial

/-- A new generation begins with a new timer. -/
theorem TimeKept.start (tagged : view tid = some ⟨.starter .pre, .none⟩)
    (exec : execute tid .assignStarted choice pre = some ((), after)) :
    TimeKept after (update view tid (some ⟨.starter .begun, .none⟩)) := by
  have asleep := (alive.pre tid (stations_some tagged)).2
  have idle : ∀ other label' gen phase, view other = some label' ->
      label'.role = .pump gen phase -> phase = .finished := by
    intro other label' gen phase tagged' pumps'
    have inactive := asleep.2 other
    rw [stations_some tagged', pumps'] at inactive
    cases phase <;> simp_all [Role.station, Station.active]
  cases exec
  apply kept.change
  · rintro _ ⟨rfl⟩
    exact ⟨by simp [Role.kind], by simp [Role.kind]⟩
  · intro _
    rfl
  · rcases kept.pending with free | last | ⟨other, label', gen, front, tagged', pumps', _⟩
    · exact .inl free
    · exact .inr (.inl last)
    · cases idle other label' gen _ tagged' pumps'
  · intro _ never
    cases never
  · intro other label' gen phase _ tagged' pumps' _
    rw [idle other label' gen phase tagged' pumps']
    trivial
  · rintro _ _ _ ⟨rfl⟩ never
    cases never

end

/-- The pending slot is freed by the second half of a completion. -/
theorem TimeKept.settle {front : Entry P} (kept : TimeKept pre view) {role : Role P}
    (tagged : view tid = some ⟨role, .popped front⟩) :
    TimeKept { pre with pendingRequestState :=
        pre.pendingRequestState.deletePendingRequest front.uniqueId }
      (update view tid (some ⟨role, .deleted⟩)) := by
  have continues : Continues view tid (some ⟨role, .deleted⟩) := by
    intro label' gen phase tagged' pumps _
    rw [tagged] at tagged'
    cases tagged'
    exact ⟨_, rfl, pumps⟩
  have callers : ∀ onward, some (⟨role, .deleted⟩ : Label P) = some onward ->
      onward.role.kind ≠ .pause ∧ onward.role.kind ≠ .resume := by
    rintro _ ⟨rfl⟩
    exact kept.callers tid ⟨role, .popped front⟩ tagged
  by_cases same : pre.pendingRequestState.requestID = front.uniqueId
  · have freed : ({ pre with pendingRequestState :=
        pre.pendingRequestState.deletePendingRequest front.uniqueId } : Shared P).clock =
        { pre.clock with pending := "" } := by
      simp [Shared.clock, ClientState.deletePendingRequest_requestID, same]
    apply kept.change callers
    · exact kept.single
    · exact .inl (by rw [freed])
    · rw [freed]
      intro elapsed ticked
      exact (kept.tick elapsed ticked).imp Clock.Explains.free
        (fun dispatching => dispatching.update continues)
    · rw [freed]
      intro other label' gen phase _ _ _ stance
      exact stance.free
    · rw [freed]
      rintro _ gen phase ⟨rfl⟩ pumps
      exact (kept.stages tid _ gen phase tagged pumps).free
  · have unchanged : ({ pre with pendingRequestState :=
        pre.pendingRequestState.deletePendingRequest front.uniqueId } : Shared P).clock =
        pre.clock := by
      simp [Shared.clock, ClientState.deletePendingRequest_requestID, same]
    apply kept.still callers unchanged rfl continues
    rintro _ gen phase ⟨rfl⟩ pumps
    exact kept.stages tid _ gen phase tagged pumps

/-- The timer elapses. -/
theorem TimeKept.fire (kept : TimeKept pre view) {timer fired : Timer}
    (known : pre.timer = some timer)
    (fires : timer.fire pre.pendingRequestState.requestID = some fired) :
    TimeKept { pre with timer := some fired } view := by
  unfold Timer.fire at fires
  split at fires
  · rename_i armed
    cases fires
    have wasArmed : pre.clock.armed = true := by simpa [Shared.clock, known] using armed
    have silent : timer.tick = none := by
      have none := kept.single wasArmed
      simpa [Shared.clock, known] using none
    refine ⟨fun never => (by cases never), kept.pending, ?_, ?_, kept.callers⟩
    · intro elapsed ticked
      have named : pre.clock.pending = elapsed := by
        simpa [Shared.clock, silent] using ticked
      rcases kept.pending with free | last | registering
      · exact .inl (.inr ⟨named ▸ free, free⟩)
      · exact .inl (.inl (named ▸ last))
      · exact .inr registering.dispatching
    · intro tid label gen phase tagged pumps
      have stance := kept.stages tid label gen phase tagged pumps
      have busy (spent : pre.clock.armed = false) : False := by
        rw [wasArmed] at spent
        cases spent
      cases phase with
      | stale => exact absurd stance busy
      | silenced => exact absurd stance.1 busy
      | awake rdy alarm =>
        cases alarm with
        | off => trivial
        | ticked => exact absurd stance.1.1 busy
        | expired => exact absurd stance.1.1 busy
        | spurious => exact absurd stance.1 busy
      | _ => exact stance
  · cases fires

/-- One operation of a goroutine. -/
theorem execute_timeKept (alive : Lifecycle (life pre) (stations view))
    (kept : TimeKept pre view) (tagged : view tid = some label)
    (move : Move label op ans onward)
    (exec : execute tid op choice pre = some (ans, after)) :
    TimeKept after (update view tid (some onward)) := by
  by_cases unconcerned : untimed op = true
  · exact kept.rest move tagged exec unconcerned
  · cases move with
    | clears role site front =>
      cases exec
      exact kept.settle tagged
    | signals => exact absurd rfl unconcerned
    | caller step =>
      cases step with
      | assignStarted => exact kept.start alive tagged exec
      | timer role op ans pausing timing =>
        rcases pausing with rfl | rfl
        · exact absurd rfl (kept.callers tid _ tagged).1
        · exact absurd rfl (kept.callers tid _ tagged).2
      | other role op ans unrelated =>
        cases op <;> first | exact absurd rfl unconcerned | cases unrelated
      | _ => exact absurd rfl unconcerned
    | pump step =>
      cases step with
      | select rdy pendingDone selected => exact kept.select alive tagged exec
      | addPendingRequest front req => exact kept.register alive tagged exec
      | write front data failure => exact kept.write alive tagged exec
      | timerStop active => exact kept.timerStop alive tagged exec
      | timerDrain => exact kept.timerDrain alive tagged exec
      | timerReset duration =>
        exact kept.timerReset alive tagged (by simp) (by simp)
          (kept.stages tid _ _ _ tagged rfl) (fun _ _ => trivial) exec
      | resetAtTick rdy alarm duration sounded =>
        have stance := kept.stages tid _ _ _ tagged rfl
        have spent : pre.clock.Spent := by
          cases alarm with
          | off => exact absurd rfl sounded
          | ticked => exact stance.1
          | expired => exact stance.1
          | spurious => exact stance
        exact kept.timerReset alive tagged (by simp) (by simp) spent (fun _ _ => trivial) exec
      | clearPendingRequests => exact kept.clear alive tagged exec
      | other phase op ans unrelated =>
        cases op <;> first | exact absurd rfl unconcerned | cases unrelated
      | _ => exact absurd rfl unconcerned

end Phases

end ClientDispatcher
end OcppGo
