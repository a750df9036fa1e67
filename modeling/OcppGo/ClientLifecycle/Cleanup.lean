import OcppGo.ClientLifecycle.Sockets

namespace OcppGo
namespace ClientLifecycle

open Function Interleaving Ocppj Option

/-!
# What `Stop` waits for

`Stop` looks whether there is a connection and, if so, installs a handler that tells it when the
connection is gone.  The connection may be lost in between and report its loss to the handler
that was installed before; `Stop` then waits for a report that has already been made.  When the
connection is still up at the moment the handler is installed, and the calls of `ocppj.Client` do
not overlap, the report that `Stop` waits for is still to come.
-/

variable {P : Type}

/-- No goroutine executes a call of `ocppj.Client`. -/
def quietCalls (config : Configuration P) : Prop :=
  ∀ place, place ∈ config.threads -> ∀ content, content ∈ place ->
    agentOf content.call ≠ .caller
  deriving Decidable

/-- `Start`, `StartWithRetries` and `Stop` of `ocppj.Client` are called one at a time. -/
def callsAlone (config : Configuration P) : Routine P -> Prop
  | .start => quietCalls config
  | .startWithRetries => quietCalls config
  | .stop => quietCalls config
  | _ => True

instance (config : Configuration P) (routine : Routine P) :
    Decidable (callsAlone config routine) := by
  delta callsAlone
  rcases routine <;> infer_instance

/-- At most one goroutine executes a call. -/
def OneCaller (view : Nat -> Option Label) : Prop :=
  ∀ tid other label label', view tid = some label -> view other = some label' ->
    label.agent = .caller -> label'.agent = .caller -> tid = other

variable {config : Configuration P} {view : Nat -> Option Label} {tid : Nat}

theorem no_caller_of_quiet (describes : Describes accord entry leave config view)
    (quiet : quietCalls config) {label : Label} (tagged : view tid = some label) :
    label.agent ≠ .caller := by
  rcases describes.occupied tagged with ⟨content, found, obeys⟩
  have fits : label.agent = agentOf content.call := obeys.fits
  rw [fits]
  exact quiet _ (Config.mem_of_thread? found) content rfl

theorem OneCaller.enter {call : Routine P} {after : Shared P} (one : OneCaller view)
    (describes : Describes accord entry leave config view) (alone : callsAlone config call)
    (entered : enter call config.shared = some after) :
    OneCaller (update view tid (some (firstLabel call))) := by
  by_cases caller : agentOf call = .caller
  · have quiet : quietCalls config := by
      cases call with
      | start | startWithRetries | stop => exact alone
      | reconnecting began owner => cases entered
      | _ => cases caller
    have others := fun (other : Nat) label (tagged : view other = some label) =>
      no_caller_of_quiet describes quiet tagged
    intro first second
    grind
  · have foreign : (firstLabel call).agent ≠ .caller := caller
    intro first second
    grind [OneCaller]

theorem OneCaller.execute {label onward : Label} (one : OneCaller view)
    (tagged : view tid = some label) (agent : onward.agent = label.agent) :
    OneCaller (update view tid (some onward)) := by
  intro first second
  grind [OneCaller]

theorem OneCaller.finish (one : OneCaller view) : OneCaller (update view tid none) := by
  intro first second
  grind [OneCaller]

/-- `IsConnected` of the websocket client. -/
def Shared.isConnected (s : Shared P) : Bool :=
  s.webSocket.any (fun sock => (s.sockets sock).connection)

/-- Calls do not overlap, and `Stop` installs its handler while the connection is up. -/
@[reducible] def installsWhileConnected : Condition P where
  call := callsAlone
  op s _ op :=
    match op with
    | .setDisconnectedHandler (.cleanup _) => s.isConnected = true
    | _ => True

instance (s : Shared P) (tid : Nat) (op : Op P) :
    Decidable (installsWhileConnected.op s tid op) := by
  induction op using Op.casesOn with
  | setDisconnectedHandler handler => rcases handler <;> infer_instance
  | _ => infer_instance

namespace Cleanup

/-! ## The report is still to come -/

/-- A connection has not chosen the handler for its loss yet. -/
def Unreported (launched : List Nat) (at' : Nat -> Option Place) : Prop :=
  launched ≠ [] ∨ ∃ tid place, at' tid = some place ∧ place.carry ≠ .nothing

/-- The call of `Stop` that a stage belongs to. -/
@[grind] def Stage.stop : Stage -> Option Nat
  | .asked stop => some stop
  | .looking stop _ => some stop
  | .seen stop => some stop
  | .absent stop => some stop
  | .installed stop => some stop
  | .released stop => some stop
  | _ => none

/-- What `Stop` waits for has happened, or is still to come. -/
def Promised (s : Shared P) (view : Nat -> Option Label) (stop : Nat) : Prop :=
  (s.cleanupC stop).token = true ∨
  (∃ tid label, view tid = some label ∧ label.stage = .delivering stop) ∨
  (s.onDisconnected = some (.cleanup stop) ∧ Unreported s.launched (places view))

structure Delivers (s : Shared P) (view : Nat -> Option Label) : Prop where
  one : OneCaller view
  own : ∀ tid label stop, view tid = some label -> Stage.stop label.stage = some stop ->
    label.agent = .caller ∧ stop = tid
  installed : ∀ tid label stop, view tid = some label ->
    label.stage = .installed stop -> Promised s view stop
  released : ∀ tid label stop, view tid = some label ->
    label.stage = .released stop -> (s.cleanupC stop).closed = true

section

variable {pre after : Shared P} {view : Nat -> Option Label} {tid stop : Nat} {choice : Choice}
  {op : Op P} {ans : Res P op} {label onward : Label}

/-- A goroutine with a connection is added, or changes what it has to do with it. -/
theorem unreported_of_place {launched : List Nat} {at' : Nat -> Option Place} {place : Place}
    (carries : place.carry ≠ .nothing) : Unreported launched (update at' tid (some place)) :=
  .inr ⟨tid, place, update_self .., carries⟩

/-- A goroutine that has nothing to do with a connection comes, or goes. -/
theorem Unreported.unconcerned {launched : List Nat} {at' : Nat -> Option Place} {place : Option Place}
    (unreported : Unreported launched at')
    (absent : ∀ old, at' tid = some old -> old.carry = .nothing) :
    Unreported launched (update at' tid place) := by
  rcases unreported with listed | ⟨other, old, placed, carries⟩
  · exact .inl listed
  · have apart : other ≠ tid := by
      rintro rfl
      exact carries (absent old placed)
    exact .inr ⟨other, old, by rwa [update_of_ne apart], carries⟩

theorem Unreported.execute (unreported : Unreported pre.launched (places view))
    (tagged : view tid = some label) (move : Move label op ans onward)
    (exec : execute tid op choice pre = some (ans, after))
    (silent : ∀ sock, op ≠ .readDisconnectedHandler sock) :
    Unreported after.launched (places (update view tid (some onward))) := by
  have placed := places_some tagged
  rw [places_update]
  by_cases idle : wiring op = false
  · have same : onward.place = label.place := by
      simp [Label.place, agent_of_move move, carry_of_shift move.shift idle]
    have launched : after.launched = pre.launched :=
      congrArg Wires.launched (wires_of_execute exec idle)
    rwa [launched, map_some, same, ← placed, update_eq_self]
  · cases move with
    | dials agent stage sock ready => exact unreported_of_place (by simp [Label.place, Stage.carry])
    | fails agent stage ready =>
      obtain ⟨_, rfl⟩ | ⟨⟨⟩, _⟩ := execute_dial exec
      have same : (⟨agent, stage.undialed, false⟩ : Label).place = Label.place ⟨agent, stage, false⟩ := by
        rcases ready with rfl | ⟨_, rfl⟩ <;> rfl
      rwa [map_some, same, ← placed, update_eq_self]
    | publishes agent sock began =>
      exact unreported_of_place (by simp [Label.place, Stage.carry])
    | runs agent sock began =>
      cases exec
      exact .inl (by simp)
    | drops sock => exact unreported_of_place (by simp [Label.place, Stage.carry])
    | picks sock handler => exact absurd rfl (silent sock)
    | _ => exact absurd rfl idle

/-- The operations that make `Stop` wait, or let it go on. -/
def arranges : Op P -> Bool
  | .setDisconnectedHandler _ | .makeCleanup | .awaitCleanup _ => true
  | _ => false

theorem cleanupC_of_execute (exec : execute tid op choice pre = some (ans, after))
    (other : arranges op = false) :
    ((pre.cleanupC stop).token = true -> (after.cleanupC stop).token = true) ∧
    ((pre.cleanupC stop).closed = true -> (after.cleanupC stop).closed = true) := by
  cases op with
  | makeCleanup | awaitCleanup => cases other
  | dispatcher | close =>
    obtain ⟨_, _, rfl⟩ := execute_aside exec rfl
    exact ⟨id, id⟩
  | closeCleanup closed =>
    cases exec
    constructor <;> grind
  | sendCleanup sent =>
    have sends := execute_sendCleanup exec
    subst sends
    constructor <;> grind
  | _ =>
    have same : after.cleanupC = pre.cleanupC := by
      simp only [execute] at exec
      grind
    rw [same]
    exact ⟨id, id⟩

/-- A goroutine that has to report to `Stop` does so. -/
theorem delivering_of_shift {stage onward' : Stage}
    (shift : Shift stage op ans onward') (delivering : stage = .delivering stop) :
    onward' = .delivering stop ∨ op = .sendCleanup stop := by
  cases shift with
  | stays => exact .inl delivering
  | delivers other =>
    cases delivering
    exact .inr rfl
  | _ => cases delivering

section

variable (move : Move label op ans onward)
  (exec : execute tid op choice pre = some (ans, after))
include move exec

/-- Whoever moves on, what `Stop` waits for is not lost. -/
theorem Promised.execute (promised : Promised pre view stop)
    (tagged : view tid = some label) (other : arranges op = false) :
    Promised after (update view tid (some onward)) stop := by
  rcases promised with token | ⟨place, delivering, known, stage⟩ | ⟨handler, unreported⟩
  · exact .inl ((cleanupC_of_execute exec other).1 token)
  · by_cases same : place = tid
    · subst same
      rw [tagged] at known
      cases known
      rcases delivering_of_shift move.shift stage with still | rfl
      · exact .inr (.inl ⟨place, onward, update_self .., still⟩)
      · left
        rw [execute_sendCleanup exec]
        simp
    · exact .inr (.inl ⟨place, delivering, by rwa [update_of_ne same], stage⟩)
  · have handler' := ((execute_frame exec).onDisconnected (by rintro _ rfl; cases other)).trans handler
    by_cases silent : ∀ sock, op ≠ .readDisconnectedHandler sock
    · exact .inr (.inr ⟨handler', unreported.execute tagged move exec silent⟩)
    · -- the connection that chooses now finds the handler of `Stop`
      push Not at silent
      rcases silent with ⟨sock, rfl⟩
      have chosen : ans = some (.cleanup stop) := by
        cases exec
        exact handler
      subst chosen
      cases move with
      | picks sock handler =>
        exact .inr (.inl ⟨tid, _, update_self .., rfl⟩)

/-! ## The invariant -/

/-- A stage of `Stop` belongs to the call that made the channel. -/
theorem own_of_move
    (own : ∀ stop, Stage.stop label.stage = some stop -> label.agent = .caller ∧ stop = tid)
    (belongs : Stage.stop onward.stage = some stop) :
    onward.agent = .caller ∧ stop = tid := by
  by_cases making : op = .makeCleanup
  · subst making
    cases move with
    | makeCleanup other =>
      cases exec
      cases belongs
      exact ⟨rfl, rfl⟩
  · have before' : Stage.stop label.stage = some stop := by
      have shift := move.shift
      generalize label.stage = stage, onward.stage = stage' at shift belongs
      cases shift with
      | asks => exact absurd rfl making
      | _ => first | exact belongs | cases belongs
    rw [agent_of_move move]
    exact own stop before'

end

/-- The stages of a `Stop` that has arranged what it waits for are kept until it waits. -/
theorem arranged_of_shift {stage onward' : Stage}
    (shift : Shift stage op ans onward') (other : arranges op = false)
    (arranged : onward' = .installed stop ∨ onward' = .released stop) :
    onward' = stage ∨ (op = .closeCleanup stop ∧ onward' = .released stop) := by
  cases shift with
  | stays => exact .inl rfl
  | releases other =>
    rcases arranged with never | same
    · cases never
    · cases same
      exact .inr ⟨rfl, rfl⟩
  | installs => cases other
  | _ => rcases arranged with never | never <;> cases never

/-- Only a call of `ocppj.Client` arranges something. -/
theorem caller_of_arranges (move : Move label op ans onward)
    (arranging : arranges op = true) : onward.agent = .caller := by
  cases move with
  | installs | prepares | makeCleanup | awaitCleanup => rfl
  | _ => cases arranging

/-- With a connection that is up, there is a report to come. -/
theorem unreported_of_connected (connections : Connections (wires pre) (places view))
    (up : pre.isConnected = true) : Unreported pre.launched (places view) := by
  simp only [Shared.isConnected, any_eq_true] at up
  rcases up with ⟨sock, _, connected⟩
  rcases connections.carried sock connected with listed | ⟨other, place, placed, carries⟩
  · exact .inl (List.ne_nil_of_mem listed)
  · refine .inr ⟨other, place, placed, ?_⟩
    intro nothing
    rcases carries with dialled | rfl
    · rw [nothing] at dialled
      cases dialled
    · cases nothing

theorem Delivers.execute (delivers : Delivers pre view)
    (connections : Connections (wires pre) (places view))
    (tagged : view tid = some label) (move : Move label op ans onward)
    (admitted : installsWhileConnected.op pre tid op)
    (exec : execute tid op choice pre = some (ans, after)) :
    Delivers after (update view tid (some onward)) := by
  have agent := agent_of_move move
  have own : ∀ other label' stop, update view tid (some onward) other = some label' ->
      Stage.stop label'.stage = some stop -> label'.agent = .caller ∧ stop = other := by
    intro other label' stop retagged belongs
    rcases tagged_of_update retagged with ⟨rfl, ⟨⟩⟩ | ⟨_, known⟩
    · exact own_of_move move exec (fun stop => delivers.own other label stop tagged) belongs
    · exact delivers.own other label' stop known belongs
  have one := delivers.one.execute tagged agent
  refine ⟨one, own, ?_, ?_⟩
  · intro other label' stop retagged installed
    have caller := own other label' stop retagged (by rw [installed]; rfl)
    cases arranging : arranges op with
    | false =>
      -- it has been installed before, and what was promised is kept
      have before' : ∃ label, view other = some label ∧ label.stage = .installed stop := by
        rcases tagged_of_update retagged with ⟨rfl, ⟨⟩⟩ | ⟨_, known⟩
        · rcases arranged_of_shift move.shift arranging (.inl installed) with kept | ⟨_, never⟩
          · exact ⟨label, tagged, kept ▸ installed⟩
          · rw [installed] at never
            cases never
        · exact ⟨label', known, installed⟩
      rcases before' with ⟨old, known, stage⟩
      exact (delivers.installed other old stop known stage).execute move exec tagged arranging
    | true =>
      have here : other = tid := one other tid label' onward retagged
        (update_self ..) caller.1 (caller_of_arranges move arranging)
      subst here
      rw [update_self] at retagged
      cases retagged
      cases move with
      | installs stop =>
        cases installed
        have unreported := unreported_of_connected connections admitted
        cases exec
        refine .inr (.inr ⟨rfl, ?_⟩)
        have unmoved : update (places view) other (some ⟨.caller, .nothing⟩) =
            places view := by
          rw [← show places view other = some ⟨.caller, .nothing⟩ from places_some tagged,
            update_eq_self]
        rw [places_update]
        exact unmoved.symm ▸ unreported
      | prepares | makeCleanup | awaitCleanup => cases installed
      | _ => cases arranging
  · intro other label' stop retagged released
    have caller := own other label' stop retagged (by rw [released]; rfl)
    cases arranging : arranges op with
    | false =>
      rcases tagged_of_update retagged with ⟨rfl, ⟨⟩⟩ | ⟨_, known⟩
      · rcases arranged_of_shift move.shift arranging (.inr released) with kept | ⟨rfl, _⟩
        · exact (cleanupC_of_execute exec arranging).2
            (delivers.released other label stop tagged (kept ▸ released))
        · cases exec
          simp
      · exact (cleanupC_of_execute exec arranging).2
          (delivers.released other label' stop known released)
    | true =>
      have here : other = tid := one other tid label' onward retagged
        (update_self ..) caller.1 (caller_of_arranges move arranging)
      subst here
      rw [update_self] at retagged
      cases retagged
      cases move with
      | installs | prepares | makeCleanup | awaitCleanup => cases released
      | _ => cases arranging

end

theorem builds (capacity : Nat) :
    Extends (P := P) installsWhileConnected (.initial capacity)
      (fun s view => Connections (wires s) (places view)) Delivers := by
  constructor
  case initially =>
    constructor <;> simp [OneCaller]
  case enter =>
    intro config view tid call after describes connections delivers alone entered new
    have first : Stage.stop (firstLabel call).stage = none := by
      cases call with
      | reconnecting began owner => cases entered
      | _ => rfl
    have cleanupC : after.cleanupC = config.shared.cleanupC ∧
        after.onDisconnected = config.shared.onDisconnected := by
      rcases enter_cases entered with ⟨_, _, _, rfl⟩ | ⟨_, _, _, _, _, _, _, _, rfl⟩ | ⟨_, _, _, rfl⟩
      · exact ⟨rfl, rfl⟩
      · exact ⟨rfl, rfl⟩
      · exact ⟨rfl, rfl⟩
    have unreported (some' : Unreported config.shared.launched (places view)) :
        Unreported after.launched (places (update view tid (some (firstLabel call)))) := by
      rw [places_update]
      rcases enter_cases entered with ⟨sock, rfl, _, rfl⟩ | ⟨_, _, rfl, _, _, _, _, _, rfl⟩ |
        ⟨_, _, _, rfl⟩
      · exact unreported_of_place (by simp [Label.place, firstLabel, stageOf, Stage.carry])
      · exact some'.unconcerned (by simp [places, new])
      · exact some'.unconcerned (by simp [places, new])
    refine ⟨delivers.one.enter describes alone entered, ?_, ?_, ?_⟩
    · grind [Delivers]
    · intro other label stop tagged installed
      rcases tagged_of_update tagged with ⟨_, ⟨⟩⟩ | ⟨_, known⟩
      · rw [installed] at first
        cases first
      · rcases delivers.installed other label stop known installed with token |
          ⟨place, delivering, known', stage⟩ | ⟨handler, some'⟩
        · exact .inl (cleanupC.1.symm ▸ token)
        · have apart : place ≠ tid := by grind
          exact .inr (.inl ⟨place, delivering, by rwa [update_of_ne apart],
            stage⟩)
        · exact .inr (.inr ⟨cleanupC.2.trans handler, unreported some'⟩)
    · intro other label stop tagged released
      rcases tagged_of_update tagged with ⟨_, ⟨⟩⟩ | ⟨_, known⟩
      · rw [released] at first
        cases first
      · rw [cleanupC.1]
        exact delivers.released other label stop known released
  case occur =>
    intro pre view event after delivers arose
    rcases occur_dispatcher arose with ⟨_, _, rfl⟩
    exact ⟨delivers.one, delivers.own, delivers.installed, delivers.released⟩
  case execute =>
    intro pre view tid label op choice ans after onward connections delivers
      tagged move admitted exec
    exact delivers.execute connections tagged move admitted exec
  case finish =>
    intro pre view tid label connections delivers tagged left
    have nothing : label.place.carry = .nothing ∧ (∀ stop, label.stage ≠ .delivering stop) := by
      rcases left.2 with idle | ⟨_, preparing⟩
      · simp [Label.place, idle, Stage.carry]
      · simp [Label.place, preparing, Stage.carry]
    refine ⟨delivers.one.finish, ?_, ?_, ?_⟩
    · grind [Delivers]
    · intro other label' stop tagged' installed
      rcases tagged_of_update tagged' with ⟨_, ⟨⟩⟩ | ⟨_, known⟩
      rcases delivers.installed other label' stop known installed with token |
        ⟨place, delivering, known', stage⟩ | ⟨handler, unreported⟩
      · exact .inl token
      · have apart : place ≠ tid := by
          rintro rfl
          rw [tagged] at known'
          cases known'
          exact nothing.2 stop stage
        exact .inr (.inl ⟨place, delivering, by rwa [update_of_ne apart],
          stage⟩)
      · refine .inr (.inr ⟨handler, ?_⟩)
        rw [places_update]
        apply unreported.unconcerned
        intro old placed
        rw [places_some tagged] at placed
        cases placed
        exact nothing.1
    · grind [Delivers]

end Cleanup

section

variable {content : Thread (Op P) (Res P) (Routine P)} {label : Label} {op : Op P}

/-- A goroutine in the middle of its part has an operation to perform. -/
theorem next_of_stage
    (obeys : content.prog.Obeys accord content.call (cont entry leave) label)
    (busy : ∀ call : Routine P, label.stage ≠ stageOf call) :
    ∃ op, content.prog.next? = some op ∧ allowed op label := by
  cases shape : content.prog with
  | act op resume =>
    rw [shape] at obeys
    exact ⟨op, rfl, obeys.2.1⟩
  | done value =>
    rw [shape] at obeys
    cases value with
    | none =>
      rcases obeys.2.2 with idle | ⟨_, preparing⟩
      · exact absurd idle (busy .wsStop)
      · exact absurd preparing (busy .wsStart)
    | some call =>
      rcases obeys.2 with ⟨_, rfl⟩
      exact absurd rfl (busy call)

/-- Between a dial and the run, and before a report to `Stop`, one operation is open. -/
def Stage.opens : Stage -> Op P -> Prop
  | .delivering stop, op => op = .sendCleanup stop
  | .dialed sock _, op => ∃ reconnecting, op = .publish sock reconnecting
  | .published sock _, op => op = .run sock
  | _, _ => True

theorem opens_of_allowed (legal : allowed op label) : label.stage.opens op := by
  rcases label with ⟨agent, stage, signals⟩
  cases stage with
  | delivering stop | dialed sock began | published sock began =>
    cases op with
    | dispatcher inner =>
      cases inner with
      | setPaused paused => cases paused <;> cases legal
      | timerStop | timerDrain | timerReset => cases legal.1
      | _ => cases legal
    | setDisconnectedHandler handler =>
      cases signals with
      | true => exact False.elim legal
      | false => cases handler <;> cases legal.2
    | _ =>
      cases signals <;>
        simp_all [allowed, Label.performs, Label.closes, Label.proceeds, Stage.settled, Stage.opens]
  | _ => trivial

end

/-- The connection has not chosen the handler for its loss, and a goroutine that has it in hand
is on its way there. -/
def awaitsHandler (config : Configuration P) (sock : Nat) : Prop :=
  sock ∉ config.shared.hist.notified ∧ (sock ∈ config.shared.launched ∨
    ∃ tid content, config.thread? tid = some content ∧
      (agentOf content.call = .sock sock ∨
        (∃ reconnecting, content.prog.next? = some (.publish sock reconnecting)) ∨
        content.prog.next? = some (.run sock)))

theorem exists_awaitsHandler (describes : Describes accord entry leave config view)
    (connections : Connections (wires config.shared) (places view))
    (unreported : Cleanup.Unreported config.shared.launched (places view)) :
    ∃ sock, awaitsHandler config sock := by
  rcases unreported with listed | ⟨tid, place, placed, carries⟩
  · rcases List.exists_mem_of_ne_nil _ listed with ⟨sock, mem⟩
    exact ⟨sock, connections.launchedUnreported sock mem, .inl mem⟩
  · rcases map_eq_some_iff.mp placed with ⟨label, tagged, rfl⟩
    rcases describes.occupied tagged with ⟨content, found, obeys⟩
    have served (unreported : label.stage.carry.unreported = true) :
        ∃ sock, awaitsHandler config sock := by
      rcases connections.owned tid label.place placed unreported with ⟨sock, agent⟩
      have fits : label.agent = agentOf content.call := obeys.fits
      exact ⟨sock, connections.servedUnreported tid label.place sock placed agent unreported,
        .inr ⟨tid, content, found, .inl (fits.symm.trans agent)⟩⟩
    cases stage : label.stage with
    | dialed sock began =>
      rcases next_of_stage obeys (by rw [stage]; intro call; cases call <;> simp [stageOf]) with
        ⟨op, next, legal⟩
      have publishes := opens_of_allowed legal
      rw [stage] at publishes
      rcases publishes with ⟨reconnecting, rfl⟩
      exact ⟨sock, connections.dialledUnreported tid label.place sock placed
        (by simp [Label.place, stage, Stage.carry, Carry.sock]),
        .inr ⟨tid, content, found, .inr (.inl ⟨reconnecting, next⟩)⟩⟩
    | published sock began =>
      rcases next_of_stage obeys (by rw [stage]; intro call; cases call <;> simp [stageOf]) with
        ⟨op, next, legal⟩
      have runs := opens_of_allowed legal
      rw [stage] at runs
      exact ⟨sock, connections.dialledUnreported tid label.place sock placed
        (by simp [Label.place, stage, Stage.carry, Carry.sock]),
        .inr ⟨tid, content, found, .inr (.inr (next.trans (congrArg some runs)))⟩⟩
    | waiting => exact served (by rw [stage]; rfl)
    | dropped => exact served (by rw [stage]; rfl)
    | _ => simp [Label.place, stage, Stage.carry] at carries

/-- Wherever `Stop` waits for its cleanup channel, the channel has a token or is closed, or a
goroutine is about to send the token, or a connection is left that will choose the handler that
`Stop` has installed. -/
theorem stop_awaits_report (opts : Settings) (capacity : Nat) {config : Configuration P}
    (reached : (system opts).Reachable installsWhileConnected (Shared.initial capacity) config)
    {tid stop : Nat} {content : Thread (Op P) (Res P) (Routine P)}
    (found : config.thread? tid = some content)
    (waits : content.prog.next? = some (.awaitCleanup stop)) :
    (config.shared.cleanupC stop).token = true ∨ (config.shared.cleanupC stop).closed = true ∨
    (∃ other sender, config.thread? other = some sender ∧
      sender.prog.next? = some (.sendCleanup stop)) ∨
    (config.shared.onDisconnected = some (.cleanup stop) ∧
      ∃ sock, awaitsHandler config sock) := by
  rcases ((Cleanup.builds capacity).keeps (connections_keeps _ capacity)).reachable reached with
    ⟨view, describes, connections, delivers⟩
  rcases describes.tagged tid content found with ⟨label, tagged, obeys⟩
  have legal : label.performs (.awaitCleanup stop) := obeys.allowed waits
  have arranged : label.stage = .installed stop ∨ label.stage = .released stop := by
    rcases label with ⟨agent, stage, signals⟩
    cases signals with
    | true => exact False.elim legal
    | false => exact legal.2
  rcases arranged with installed | released
  · rcases delivers.installed tid label stop tagged installed with token |
      ⟨other, delivering, known, stage⟩ | ⟨handler, unreported⟩
    · exact .inl token
    · rcases describes.occupied known with ⟨sender, place, follows'⟩
      rcases next_of_stage follows' (by rw [stage]; intro call; cases call <;> simp [stageOf]) with
        ⟨op, next, permitted'⟩
      have sends := opens_of_allowed permitted'
      rw [stage] at sends
      exact .inr (.inr (.inl ⟨other, sender, place, next.trans (congrArg some sends)⟩))
    · exact .inr (.inr (.inr ⟨handler, exists_awaitsHandler describes connections unreported⟩))
  · exact .inr (.inl (delivers.released tid label stop tagged released))

section Schedules

/-- `Stop` up to its look at the connection. -/
def inspecting (tid : Nat) : Schedule P := [.call .stop] ++ proceed tid 4

/-- `Pause`, called for a connection that is lost. -/
def pausing (tid : Nat) : Schedule P := operating tid 6

/-- `Stop` of the dispatcher, up to its wait for the pump. -/
def stoppingDispatcher (tid : Nat) : Schedule P := operating tid 8

/-- The pump starts and drains the queue, once the dispatcher is being stopped. -/
def draining (tid : Nat) : Schedule P :=
  [.call (.dispatcher .messagePump)] ++ operating tid 4 ++
    [.step tid (.dispatcher (.arm .request))] ++ operating tid 10

end Schedules

/-- What a goroutine is about to wait for. -/
def awaited (config : Configuration P) (tid : Nat) : Option Nat :=
  match (config.thread? tid).bind (fun content => content.prog.next?) with
  | some (.awaitCleanup stop) => some stop
  | _ => none

/-- `Stop` sees a connection, which is then lost and reported to the handler that was installed
before.  `Stop` installs its handler, and waits for ever: no other goroutine is left. -/
theorem stop_awaits_nothing :
    ∃ config, (system sampleOpts).Reachable .all (Shared.initial 10 : Shared Nat) config ∧
      awaited config 1 = some 1 ∧ config.shared.cleanupC 1 = ⟨false, false⟩ ∧
      config.shared.hist.notified = [0] ∧ config.shared.made = 1 ∧
      (∀ place, place ∈ config.threads -> ∀ content, content ∈ place ->
        agentOf content.call = .caller) ∧
      (config.threads.filter Option.isSome).length = 1 :=
  System.exists_reachable_of_replay _
    (connecting 0 ++ launching 0 ++ inspecting 1 ++ dropping 2 0 true ++ pausing 2 ++ proceed 2 3 ++
      proceed 1 5 ++ stoppingDispatcher 1 ++ draining 3 ++ operating 1 1 ++ aborting 2 ++ proceed 2 2)
    (by decide +kernel)

/-- `Stop` installs its handler while the connection is up, and waits for its loss. -/
theorem stop_awaits_report_connected :
    ∃ config content, (system sampleOpts).Reachable installsWhileConnected
        (Shared.initial 10 : Shared Nat) config ∧
      config.thread? 1 = some content ∧ content.prog.next? = some (.awaitCleanup 1) ∧
      config.shared.cleanupC 1 = ⟨false, false⟩ ∧
      ((∃ other sender, config.thread? other = some sender ∧
        sender.prog.next? = some (.sendCleanup 1)) ∨
      (config.shared.onDisconnected = some (.cleanup 1) ∧
        ∃ sock, awaitsHandler config sock)) := by
  have run : ∃ config, (system sampleOpts).Reachable installsWhileConnected
      (Shared.initial 10 : Shared Nat) config ∧
      awaited config 1 = some 1 ∧ config.shared.cleanupC 1 = ⟨false, false⟩ :=
    System.exists_reachable_of_replay _
      (connecting 0 ++ launching 0 ++ inspecting 1 ++ proceed 1 6 ++ stoppingDispatcher 1 ++
        draining 2 ++ operating 1 1) (by decide +kernel)
  rcases run with ⟨config, reached, awaits, empty⟩
  have waiting : ∃ content, config.thread? 1 = some content ∧
      content.prog.next? = some (.awaitCleanup 1) := by
    simp only [awaited] at awaits
    split at awaits
    · rename_i stop next
      cases awaits
      exact bind_eq_some_iff.mp next
    · cases awaits
  rcases waiting with ⟨content, found, waits⟩
  refine ⟨config, content, reached, found, waits, empty, ?_⟩
  rcases stop_awaits_report sampleOpts 10 reached found waits with token | closed | still
  · rw [empty] at token
    cases token
  · rw [empty] at closed
    cases closed
  · exact still

/-- A connection that is up is never left behind: its loss has not been reported, and a goroutine
that is to report it has the connection in hand or is being started. -/
theorem live_connection_awaits_handler (opts : Settings) (guard : Condition P) (capacity : Nat)
    {config : Configuration P}
    (reached : (system opts).Reachable guard (Shared.initial capacity) config) {sock : Nat}
    (up : (config.shared.sockets sock).connection = true) : awaitsHandler config sock := by
  rcases (connections_keeps guard capacity).reachable reached with ⟨view, describes, connections⟩
  rcases connections.carried sock up with listed | ⟨tid, place, placed, carries⟩
  · exact ⟨connections.launchedUnreported sock listed, .inl listed⟩
  rcases map_eq_some_iff.mp placed with ⟨⟨agent, stage, signals⟩, tagged, rfl⟩
  rcases describes.occupied tagged with ⟨content, found, obeys⟩
  rcases carries with dialled | serves
  · have busy : ∀ call : Routine P, stage ≠ stageOf call := by
      rintro call rfl
      cases call <;> cases dialled
    rcases next_of_stage obeys busy with ⟨op, next, legal⟩
    have opens := opens_of_allowed legal
    refine ⟨connections.dialledUnreported tid _ sock placed dialled,
      .inr ⟨tid, content, found, .inr ?_⟩⟩
    cases stage with
    | dialed other began =>
      cases dialled
      exact .inl (opens.imp fun _ same => next.trans (congrArg some same))
    | published other began =>
      cases dialled
      exact .inr (next.trans (congrArg some opens))
    | _ => cases dialled
  · have agent := congrArg Place.agent serves
    rw [serves] at placed
    exact ⟨connections.servedUnreported tid _ sock placed rfl rfl,
      .inr ⟨tid, content, found, .inl (obeys.fits.symm.trans agent)⟩⟩

/-- The goroutine of a lost connection has dialled a new one. -/
theorem live_connection_awaits_handler_anew :
    ∃ config, (system sampleOpts).Reachable .all (Shared.initial 10 : Shared Nat) config ∧
      (config.shared.sockets 1).connection = true ∧ awaitsHandler config 1 :=
  System.exists_reachable_with
    (wsStarting 0 ++ dropping 1 0 true ++ proceed 1 3 ++ [.step 1 (.retry false)] ++ proceed 1 1 ++
      [.step 1 (.dial true)]) (by decide +kernel)
    fun _ reached up => live_connection_awaits_handler sampleOpts .all 10 reached up

end ClientLifecycle
end OcppGo
