import OcppGo.ClientDispatcher.Conformance

namespace OcppGo
namespace ClientDispatcher

open Function Interleaving Ocppj Option

/-!
# One pump at a time

As long as `Start` is called only on a stopped dispatcher and not next to another
`Start` or `Stop`, at most one goroutine is the pump, or about to launch one, and it
serves the channels of the present generation.
-/

variable {P : Type}

def Routine.lifecycle : Routine P -> Bool
  | .start => true
  | .stop => true
  | _ => false

/-- No `Start` or `Stop` is in progress. -/
def quietLifecycle (config : Configuration P) : Prop :=
  ∀ place, place ∈ config.threads -> ∀ content, place = some content ->
    content.call.lifecycle = false

instance (config : Configuration P) : Decidable (quietLifecycle config) :=
  inferInstanceAs (Decidable (∀ place, place ∈ config.threads -> ∀ content,
    content ∈ place -> content.call.lifecycle = false))

/-- `Start` is called only when the dispatcher is stopped and no other call of `Start`
or `Stop` is in progress. -/
def startsWhenStopped (config : Configuration P) : Routine P -> Prop
  | .start => config.shared.running = false ∧ quietLifecycle config
  | _ => True

instance (config : Configuration P) (routine : Routine P) :
    Decidable (startsWhenStopped config routine) := by
  delta startsWhenStopped
  rcases routine <;> infer_instance

namespace Phases

/-! ## The lifecycle of a generation -/

/-- The part of the state that `Start`, `Stop` and the end of the pump write. -/
structure Life where
  gen : Nat
  requestChannel : Option Nat
  doneC : Nat
  doneClosed : Nat -> Bool
  running : Bool
  launched : Nat

def life (s : Shared P) : Life :=
  ⟨s.gen, s.requestChannel, s.doneC, s.doneClosed, s.running, s.launched⟩

/-- What a goroutine has to do with the lifecycle. -/
inductive Station where
  | beside
  | starting (stage : StartStage)
  | waiting (done : Nat)
  /-- the pump, and whether it has come to the end of its drain -/
  | pumping (gen : Nat) (drained : Bool)
  deriving DecidableEq

/-- The goroutine is the pump or about to launch it. -/
@[grind] def Station.active : Station -> Bool
  | .starting .begun => true
  | .pumping _ _ => true
  | _ => false

def Role.station : Role P -> Station
  | .starter stage => .starting stage
  | .stopper (.waiting done) => .waiting done
  | .pump _ .finished => .beside
  | .pump gen .cleared => .pumping gen true
  | .pump gen _ => .pumping gen false
  | _ => .beside

def stations (view : Nat -> Option (Label P)) (tid : Nat) : Station :=
  match view tid with
  | some label => label.role.station
  | none => .beside

theorem stations_some {view : Nat -> Option (Label P)} {tid : Nat} {label : Label P}
    (tagged : view tid = some label) : stations view tid = label.role.station := by
  simp only [stations, tagged]

theorem stations_update (view : Nat -> Option (Label P)) (tid : Nat) (label : Label P) :
    stations (update view tid (some label)) =
      update (stations view) tid label.role.station :=
  comp_update (fun content => stations (fun _ => content) tid) view tid (some label)

theorem stations_remove (view : Nat -> Option (Label P)) (tid : Nat) :
    stations (update view tid none) =
      update (stations view) tid .beside :=
  comp_update (fun content => stations (fun _ => content) tid) view tid none

/-- Nobody is the pump and none has been launched. -/
@[grind] def Asleep (now : Life) (at' : Nat -> Station) : Prop :=
  now.launched = 0 ∧ ∀ tid, (at' tid).active = false

@[grind cases] structure Lifecycle (now : Life) (at' : Nat -> Station) : Prop where
  doneC : now.doneC = now.gen
  unborn : ∀ gen, now.gen < gen -> now.doneClosed gen = false
  launched : now.launched ≤ 1
  exclusive : now.launched = 1 -> ∀ tid, (at' tid).active = false
  unique : ∀ tid other, (at' tid).active = true -> (at' other).active = true ->
    tid = other
  /-- a channel other than that of the generation has been forgotten -/
  channel : now.requestChannel = none ∨ now.requestChannel = some now.gen
  /-- the channel is there until the pump forgets it at the end of its drain -/
  launching : now.launched = 1 -> now.requestChannel = some now.gen
  begun : ∀ tid, at' tid = .starting .begun -> now.requestChannel = some now.gen
  pumping : ∀ tid gen drained, at' tid = .pumping gen drained ->
    gen = now.gen ∧ (drained = false -> now.requestChannel = some gen)
  starters : ∀ tid other stage stage', at' tid = .starting stage ->
    at' other = .starting stage' -> tid = other
  pre : ∀ tid, at' tid = .starting .pre -> now.running = false ∧ Asleep now at'
  halted : now.running = false -> Asleep now at' ∨ ∃ tid, at' tid = .waiting now.gen
  closed : now.doneClosed now.gen = true -> Asleep now at'

namespace Lifecycle

variable {now : Life} {at' : Nat -> Station} {tid : Nat}

section

variable (life : Lifecycle now at')
include life

/-- A call of `Start` on a stopped dispatcher. -/
theorem starts (stopped : now.running = false)
    (alone : ∀ other stage, at' other ≠ .starting stage)
    (nobody : ∀ other done, at' other ≠ .waiting done) :
    Lifecycle now (update at' tid (.starting .pre)) := by
  have asleep : Asleep now at' := by
    rcases life.halted stopped with asleep | ⟨other, waiting⟩
    · exact asleep
    · exact absurd waiting (nobody other _)
  constructor <;> grind -linarith

/-- `Start` begins a new generation. -/
theorem assignStarted (starting : at' tid = .starting .pre) :
    Lifecycle { now with
      gen := now.gen + 1
      requestChannel := some (now.gen + 1)
      doneC := now.gen + 1
      running := true } (update at' tid (.starting .begun)) := by
  constructor <;> grind -linarith

/-- What a waiting `Stop` waits for is still to come. -/
theorem halted_update {station : Station} (stopped : now.running = false)
    (waits : at' tid = .waiting now.gen -> now.doneClosed now.gen = true)
    (sleeps : Asleep now at' -> station.active = false) :
    Asleep now (update at' tid station) ∨
      ∃ other, update at' tid station other = .waiting now.gen := by
  rcases life.halted stopped with asleep | ⟨other, waiting⟩
  · left
    grind -linarith
  · by_cases same : other = tid
    · left
      have asleep : Asleep now at' := life.closed (waits (same ▸ waiting))
      grind -linarith
    · right
      exact ⟨other, by rwa [update_of_ne same]⟩

/-- A goroutine that has finished its part, or never had one. -/
theorem bystands (waits : ∀ done, at' tid = .waiting done -> now.doneClosed done = true) :
    Lifecycle now (update at' tid .beside) := by
  constructor
  case halted =>
    intro stopped
    exact life.halted_update stopped (waits _) fun _ => rfl
  all_goals grind -linarith

theorem goMessagePump (starting : at' tid = .starting .begun) :
    Lifecycle { now with launched := now.launched + 1 }
      (update at' tid (.starting .launched)) := by
  constructor
  case halted =>
    intro stopped
    rcases life.halted stopped with asleep | ⟨other, waiting⟩
    · grind -linarith
    · exact .inr ⟨other, by grind -linarith⟩
  all_goals grind -linarith

theorem messagePump (launched : 0 < now.launched) (new : at' tid = .beside) :
    Lifecycle { now with launched := now.launched - 1 }
      (update at' tid (.pumping now.gen false)) := by
  constructor
  case halted =>
    intro stopped
    rcases life.halted stopped with asleep | ⟨other, waiting⟩
    · grind -linarith
    · exact .inr ⟨other, by grind -linarith⟩
  all_goals grind -linarith

theorem assignStopped :
    Lifecycle { now with running := false } (update at' tid (.waiting now.doneC)) := by
  constructor
  case halted =>
    intro _
    exact .inr ⟨tid, by grind -linarith⟩
  all_goals grind -linarith

end

variable {gen : Nat}

variable (life : Lifecycle now at')
include life

/-- The pump has drained the queue. -/
theorem drains {drained : Bool} (pumping : at' tid = .pumping gen drained) :
    Lifecycle now (update at' tid (.pumping gen true)) := by
  constructor
  case halted =>
    intro stopped
    exact life.halted_update stopped (by grind -linarith) (by grind -linarith)
  all_goals grind -linarith

theorem forgetChannel (pumping : at' tid = .pumping gen true) :
    Lifecycle { now with requestChannel := none } at' := by
  constructor <;> grind -linarith

theorem closeDone (pumping : at' tid = .pumping gen true) :
    Lifecycle { now with doneClosed := update now.doneClosed gen true }
      (update at' tid .beside) := by
  constructor <;> grind -linarith

end Lifecycle

/-! ## The operations of the code -/

/-- The operations that have to do with the lifecycle. -/
def vital : Op P -> Bool
  | .assignStarted | .assignStopped | .forgetChannel | .goMessagePump | .closeDone _
  | .awaitDone _ | .clearPendingRequests => true
  | _ => false

variable {config : Configuration P}

section

variable {pre after : Shared P} {tid : Nat} {choice : Choice} {op : Op P}
  {ans : Res P op} {view : Nat -> Option (Label P)} {label : Label P}

theorem life_of_execute (exec : execute tid op choice pre = some (ans, after))
    (idle : vital op = false) : life after = life pre := by
  cases op with
  | assignStarted | assignStopped | forgetChannel | goMessagePump | closeDone | awaitDone
  | clearPendingRequests => cases idle
  | select reqCh pendingDone =>
    obtain ⟨_, _, _, _, rfl⟩ := execute_select_frame exec
    rfl
  | _ =>
    simp only [execute, map_eq_some_iff, bind_eq_some_iff, bind] at exec
    grind -linarith [life]

theorem pump_station {gen : Nat} {phase onward : Phase P}
    (step : PumpStep gen phase op ans onward) (idle : vital op = false) :
    (Role.pump gen onward).station = (Role.pump gen phase).station := by
  cases step with
  | select rdy pendingDone selected => cases selected <;> rfl
  | peekAtDispatch front =>
    cases front with
    | none => rfl
    | some front => simp only [Phase.read]; split <;> rfl
  | clearPendingRequests | closeDone => cases idle
  | isPaused | isEmpty | pendingAtDispatch | timerStop => split <;> rfl
  | _ => rfl

theorem station_of_move {onward : Label P} (move : Move label op ans onward)
    (idle : vital op = false) : onward.role.station = label.role.station := by
  cases move with
  | caller step =>
    cases step with
    | assignStarted | goMessagePump | assignStopped | awaitDone => cases idle
    | runningAtStop running => cases running <;> rfl
    | _ => rfl
  | pump step => exact pump_station step idle
  | _ => rfl

/-- One operation of a goroutine. -/
theorem execute_lifecycle (alive : Lifecycle (life pre) (stations view))
    (tagged : view tid = some label) (legal : allowed op label)
    (exec : execute tid op choice pre = some (ans, after)) :
    Lifecycle (life after)
      (stations (update view tid (some (label.after op ans)))) := by
  have placed := stations_some tagged
  rw [stations_update]
  by_cases idle : vital op = false
  · rwa [life_of_execute exec idle, station_of_move (move_of_allowed legal ans) idle,
      ← placed, update_eq_self]
  · have move := move_of_allowed legal ans
    generalize label.after op ans = onward at move
    cases move with
    | clears role site front => exact absurd rfl idle
    | signals role site => exact absurd rfl idle
    | caller step =>
      cases step with
      | assignStarted =>
        cases exec
        exact alive.assignStarted placed
      | goMessagePump =>
        cases exec
        exact alive.goMessagePump placed
      | assignStopped doneC =>
        simp only [execute, bind_eq_some_iff, bind] at exec
        rcases exec with ⟨channel, _, stopped⟩
        split at stopped
        · cases stopped
        · cases stopped
          exact alive.assignStopped
      | awaitDone doneC =>
        simp only [execute] at exec
        split at exec
        · rename_i finished
          cases exec
          exact alive.bystands fun done waiting => by rw [placed] at waiting; cases waiting; exact finished
        · cases exec
      | timer role op ans pausing timing =>
        cases op <;> first | exact absurd rfl idle | cases timing
      | other role op ans unrelated =>
        cases op <;> first | exact absurd rfl idle | cases unrelated
      | _ => exact absurd rfl idle
    | pump step =>
      cases step with
      | clearPendingRequests =>
        cases exec
        exact alive.drains placed
      | forgetChannel =>
        cases exec
        have kept := alive.forgetChannel placed
        rwa [← update_eq_self tid (stations view), placed] at kept
      | closeDone =>
        simp only [execute] at exec
        split at exec
        · cases exec
        · cases exec
          exact alive.closeDone placed
      | other phase op ans unrelated =>
        cases op <;> first | exact absurd rfl idle | cases unrelated
      | _ => exact absurd rfl idle

theorem informed_popIf {site : Site} {requestId : String} {role : Role P}
    {popped : Option (Entry P)}
    (exec : execute tid (.popIf site requestId) choice pre = some (popped, after)) :
    Informed (.popIf site requestId) role popped := by
  cases popped with
  | none => trivial
  | some front =>
    simp only [execute] at exec
    split at exec
    · rename_i found
      cases exec
      exact (FIFOClientQueue.popIf_eq_some found).2
    · cases exec

/-- What the pump reads are the channels of its generation. -/
theorem informed_of_execute (alive : Lifecycle (life pre) (stations view))
    (tagged : view tid = some label) (legal : allowed op label)
    (exec : execute tid op choice pre = some (ans, after)) :
    Informed op label.role ans := by
  have placed := stations_some tagged
  have move := move_of_allowed legal ans
  generalize label.after op ans = onward at move
  cases move with
  | clears role site front => trivial
  | signals role site => trivial
  | caller step =>
    cases step with
    | popInbound requestId popped => exact informed_popIf exec
    | timer role op ans pausing timing => cases op <;> trivial
    | other role op ans unrelated => cases op <;> trivial
    | _ => trivial
  | pump step =>
    cases step with
    | readDoneC doneC =>
      cases exec
      exact alive.doneC.trans (alive.pumping tid _ _ placed).1.symm
    | readRequestChannel channel =>
      cases exec
      exact (alive.pumping tid _ _ placed).2 rfl
    | popAtTick | popAtCancel | popAtDrop | popAtFailure => exact informed_popIf exec
    | other phase op ans unrelated => cases op <;> trivial
    | _ => trivial

/-- The description a call is entered with. -/
def firstLabel (s : Shared P) : Routine P -> Label P
  | .start => ⟨.starter .pre, .none⟩
  | .stop => ⟨.stopper .asking, .none⟩
  | .pause => ⟨.pauser, .none⟩
  | .resume => ⟨.resumer .pre, .none⟩
  | .sendRequest _ _ => ⟨.sender false, .none⟩
  | .ocppMessageHandler _ => ⟨.answerer, .none⟩
  | .messagePump => ⟨.pump s.gen .starting, .none⟩
  | .pumpLoop _ _ rdy _ => ⟨.pump s.gen (.top rdy), .none⟩

theorem entry_firstLabel {call : Routine P} (entered : enter call pre = some after) :
    entry call (firstLabel pre call) := by
  cases call with
  | messagePump => exact ⟨pre.gen, rfl⟩
  | pumpLoop reqCh doneC rdy pending => cases entered
  | _ => rfl

section

variable (describes : Describes accord entry leave config view)
include describes

/-- Without a call of `Start` or `Stop` in progress, nobody has a part in one. -/
theorem quiet_stations (quiet : quietLifecycle config) (other : Nat) :
    (∀ stage, stations view other ≠ .starting stage) ∧
      ∀ doneC, stations view other ≠ .waiting doneC := by
  cases tagged : view other with
  | none => simp [stations, tagged]
  | some label =>
    rcases describes.occupied tagged with ⟨content, found, obeys⟩
    have unrelated : content.call.lifecycle = false :=
      quiet _ (Config.mem_of_thread? found) content rfl
    have fits : label.role.kind = kindOf content.call := obeys.fits
    have others : label.role.kind ≠ .start ∧ label.role.kind ≠ .stop := by
      rw [fits]
      revert unrelated
      cases content.call <;> simp [Routine.lifecycle, kindOf]
    rw [stations_some tagged]
    generalize label.role = role at others
    cases role with
    | starter stage => exact absurd rfl others.1
    | stopper stage => exact absurd rfl others.2
    | pump gen phase => cases phase <;> simp [Role.station]
    | _ => simp [Role.station]

/-- A new call. -/
theorem enter_lifecycle {call : Routine P} (discipline : startsWhenStopped config call)
    (alive : Lifecycle (life config.shared) (stations view))
    (entered : enter call config.shared = some after) (new : view tid = none) :
    Lifecycle (life after)
      (stations (update view tid (some (firstLabel config.shared call)))) := by
  have absent : stations view tid = .beside := by simp [stations, new]
  have unchanged : update (stations view) tid .beside = stations view := by
    rw [← absent, update_eq_self]
  rw [stations_update]
  rcases enter_cases entered with ⟨_, _, rfl, _, rfl⟩ | ⟨rfl, launched, rfl⟩ | ⟨other, rfl⟩
  · exact unchanged.symm ▸ alive
  · exact alive.messagePump launched absent
  · cases call with
    | start =>
      rcases discipline with ⟨stopped, quiet⟩
      exact alive.starts stopped (fun other => (quiet_stations describes quiet other).1)
        (fun other => (quiet_stations describes quiet other).2)
    | messagePump => exact absurd rfl other
    | pumpLoop => cases entered
    | _ => exact unchanged.symm ▸ alive

end

variable (alive : Lifecycle (life pre) (stations view))
include alive

theorem occur_lifecycle {event : Event} (arose : occur event pre = some after) :
    Lifecycle (life after) (stations view) := by
  rcases occur_cases arose with ⟨_, _, _, _, _, rfl⟩ | ⟨_, _, _, rfl⟩
  all_goals exact alive

/-- A goroutine that ends. -/
theorem finish_lifecycle (tagged : view tid = some label) (left : leave label) :
    Lifecycle (life pre) (stations (update view tid none)) := by
  rw [stations_remove]
  apply alive.bystands
  intro doneC waiting
  rw [stations_some tagged] at waiting
  rcases left.2 with role | role | role | role | role | role | ⟨gen, role⟩ <;>
    · rw [role] at waiting
      cases waiting

end

/-- What has to be shown of a further invariant, which may rely on the lifecycle. -/
structure Extends (guard : Condition P) (initial : Shared P)
    (extra : Shared P -> (Nat -> Option (Label P)) -> Prop) : Prop where
  initially : extra initial (fun _ => none)
  enter : ∀ (config : Configuration P) view tid call after,
    Lifecycle (life config.shared) (stations view) -> extra config.shared view ->
    guard.call config call -> enter call config.shared = some after -> view tid = none ->
    extra after (update view tid (some (firstLabel config.shared call)))
  occur : ∀ pre view event after, Lifecycle (life pre) (stations view) ->
    extra pre view -> occur event pre = some after -> extra after view
  execute : ∀ pre view tid label op choice ans after onward,
    Lifecycle (life pre) (stations view) -> extra pre view -> view tid = some label ->
    Move label op ans onward -> guard.op pre tid op ->
    execute tid op choice pre = some (ans, after) ->
    extra after (update view tid (some onward))
  finish : ∀ pre view tid label, Lifecycle (life pre) (stations view) ->
    extra pre view -> view tid = some label -> leave label ->
    extra pre (update view tid none)

theorem lifecycle_initial (capacity : Nat) :
    Lifecycle (life (Shared.initial capacity : Shared P)) (stations (fun _ => (none : Option (Label P)))) := by
  constructor <;> simp [life, Shared.initial, stations, Station.active, Asleep]

section

variable {extra : Shared P -> (Nat -> Option (Label P)) -> Prop} {opts : Settings}
  {guard : Condition P} {capacity : Nat} (extends' : Extends guard (.initial capacity) extra)
  (discipline : ∀ config call, guard.call config call -> startsWhenStopped config call)
include extends' discipline

/-- Under the discipline of `Start`, a further invariant holds together with the
lifecycle. -/
theorem Extends.verified : Verified (system opts) guard (.initial capacity) accord entry leave
      (fun s view => Lifecycle (life s) (stations view) ∧ extra s view) where
  body := obeys_body
  initially := ⟨lifecycle_initial capacity, extends'.initially⟩
  enter := by
    rintro config view call shared describes admitted ⟨alive, holds⟩ entered new
    exact ⟨firstLabel config.shared call, entry_firstLabel entered,
      enter_lifecycle describes (discipline _ _ admitted) alive entered new,
      extends'.enter _ _ _ _ _ alive holds admitted entered new⟩
  occur := by
    rintro pre view event after ⟨alive, holds⟩ arose
    exact ⟨occur_lifecycle alive arose, extends'.occur _ _ _ _ alive holds arose⟩
  execute := by
    rintro pre view tid label op choice ans after ⟨alive, holds⟩ tagged legal
      admitted exec
    exact ⟨label.after op ans,
      ⟨informed_of_execute alive tagged legal exec, rfl⟩,
      execute_lifecycle alive tagged legal exec,
      extends'.execute _ _ _ _ _ _ _ _ _ alive holds tagged
        (move_of_allowed legal ans) admitted exec⟩
  finish := by
    rintro shared view tid label ⟨alive, holds⟩ tagged left
    exact ⟨finish_lifecycle alive tagged left, extends'.finish _ _ _ _ alive holds tagged left⟩

theorem Extends.reachable (reached : (system opts).Reachable guard (.initial capacity) config) :
    ∃ view, Describes accord entry leave config view ∧
      Lifecycle (life config.shared) (stations view) ∧ extra config.shared view :=
  (extends'.verified discipline).reachable reached

end

/-- While one goroutine is the pump, no other is. -/
theorem finished_of_other_pump {now : Life} {view : Nat -> Option (Label P)}
    (alive : Lifecycle now (stations view)) {tid other : Nat} {label label' : Label P}
    {gen generation' : Nat} {phase phase' : Phase P} (tagged : view tid = some label)
    (pumps : label.role = .pump gen phase) (working : phase ≠ .finished)
    (tagged' : view other = some label') (pumps' : label'.role = .pump generation' phase')
    (apart : other ≠ tid) : phase' = .finished := by
  by_contra working'
  have active : (stations view tid).active = true := by
    rw [stations_some tagged, pumps]
    cases phase <;> simp_all [Role.station, Station.active]
  have active' : (stations view other).active = true := by
    rw [stations_some tagged', pumps']
    cases phase' <;> simp_all [Role.station, Station.active]
  exact apart (alive.unique other tid active' active)

end Phases
end ClientDispatcher
end OcppGo
