import Mathlib.Data.Finset.Card
import OcppGo.Interleaving.Protocol
import OcppGo.ServerDispatcher.Effects
import OcppGo.ServerDispatcher.Usage

namespace OcppGo
namespace ServerDispatcher

open Function Interleaving Ocppj Program Option

/-!
# Completions and the end of the pump

`CompleteRequest` signals the pump through a channel of capacity one, and only the pump
receives from it.  The source takes the wait of a second completion to be bounded by one pass
of the pump.  That holds while there is a pump: one that leaves through its stop arm
receives nothing any more, and of two completions that are under way then, for whichever
clients, the second waits for ever.

A completion is outstanding from the moment it has taken its request out of the queue until the
pump has received its token.
-/

variable {P : Type}

/-- The goroutine completes a request off the pump and has taken it out of its queue. -/
def wins (config : Configuration P) (tid : Nat) : Bool :=
  match config.thread? tid with
  | some ⟨.ocppMessageHandler _ _, .act (.deletePendingRequest _ _) _⟩ => true
  | some ⟨.ocppMessageHandler _ _, .act (.sendReady _) _⟩ => true
  | _ => false

/-- How many completions are outstanding. -/
def outstanding (config : Configuration P) : Nat :=
  ((Finset.range config.threads.length).filter (fun tid => wins config tid = true)).card +
    if config.shared.readyForDispatch.isSome then 1 else 0

/-- When the pump takes its stop arm, at most one completion is outstanding; and a completion
that takes its request while the dispatcher is not running is the only one. -/
def completesAlone (config : Configuration P) : Action Choice (Routine P) Event -> Bool
  | .step tid choice =>
    match config.thread? tid with
    | some ⟨_, .act (.select _) _⟩ =>
      match choice with
      | .arm .stopped => outstanding config ≤ 1
      | _ => true
    | some ⟨.ocppMessageHandler _ _, .act (.popIf queue requestID) _⟩ =>
      config.shared.running ||
        ((config.shared.queue queue).popIf (fun entry => entry.isRequest requestID)).isNone ||
        outstanding config = 0
    | _ => true
  | _ => true

/-- The goroutine is not a pump, or is one that has ended, and it is not about to start one. -/
def pumpless (content : Thread (Op P) (Res P) (Routine P)) : Bool :=
  match content.prog with
  | .done none => true
  | .act .goMessagePump _ => false
  | _ => !content.call.pumps

/-- No pump is running any more, and none is about to start. -/
def PumpExited (config : Configuration P) : Prop :=
  config.shared.launched = 0 ∧ config.threads.all (fun place => place.all pumpless) = true
  deriving Decidable

variable {token : ServerReadyToken}

namespace Completion

/-- Where a goroutine is, as far as the end of the pump is concerned. -/
inductive Place where
  /-- `Start`, with no pump of its own to launch -/
  | starting
  /-- `Start` has set the running flag and not launched the pump yet -/
  | begun
  /-- an answer from a client is handled, and nothing is outstanding for it -/
  | answering
  /-- its request was taken out of the queue, and the token is not sent -/
  | won
  /-- the pump, before its stop arm -/
  | pumping
  /-- the pump, from its stop arm on -/
  | leaving
  | beside
  deriving DecidableEq

/-- The place where a routine begins. -/
def entry : Routine P -> Place
  | .start => .starting
  | .ocppMessageHandler _ _ => .answering
  | .messagePump | .pumpLoop _ | .dispatchLoop _ _ => .pumping
  | _ => .beside

/-- The places of a routine. -/
def fits (routine : Routine P) : Place -> Prop
  | .begun => routine = .start
  | .won => ∃ clientID frame, routine = .ocppMessageHandler clientID frame
  | .leaving => routine.pumps = true
  | place => entry routine = place

/-- The operations of a place. -/
def allowed (op : Op P) : Place -> Prop
  | .starting =>
    op = .lock ∨ op = .awaitReaders ∨ op = .assignStarted ∨
      op = .unlock
  | .begun => op = .goMessagePump
  | .answering =>
    (∃ clientID, op = .getClientState clientID) ∨
      (∃ object requestID, op = .getPendingRequest object requestID) ∨
      (∃ clientID, op = .mapGet clientID) ∨
      (∃ queue requestID, op = .popIf queue requestID) ∨
      ∃ owner clientID requestID, op = .completed owner clientID requestID
  | .won =>
    (∃ clientID requestID, op = .deletePendingRequest clientID requestID) ∨
      ∃ token, op = .sendReady token
  | .pumping =>
    op.passes = true ∨ op = .readDoneC ∨ op = .readRequestChannel ∨
      ∃ reqCh, op = .select reqCh
  | .leaving => op.drains = true ∨ ∃ doneC, op = .closeDone doneC
  | .beside => op.calls = true

/-- The place after an answer. -/
def next : (op : Op P) -> Place -> Res P op -> Place
  | .assignStarted, .starting, _ => .begun
  | .goMessagePump, .begun, _ => .starting
  | .popIf _ _, .answering, some _ => .won
  | .sendReady _, .won, _ => .answering
  | .select _, .pumping, .stopped => .leaving
  | _, place, _ => place

/-- Where a goroutine may end. -/
def leave (place : Place) : Prop := place ≠ .begun ∧ place ≠ .won ∧ place ≠ .pumping

def protocol (P : Type) : Protocol (Op P) (Res P) (Routine P) Place where
  fits := fits
  allowed := allowed
  next := fun op place ans onward => onward = next op place ans

variable {α : Type} {routine : Routine P} {op : Op P}

theorem obeys_step {post : α -> Place -> Prop} {resume : Res P op -> Prog P α}
    {place : Place} (belongs : fits routine place) (legal : allowed op place)
    (goesOn : ∀ ans, (resume ans).Obeys (protocol P) routine post (next op
      place ans)) : (Program.act op resume).Obeys (protocol P) routine post place :=
  ⟨belongs, legal, fun ans _ moved => moved ▸ goesOn ans⟩

variable {opts : Settings}

/-! ## The programs keep to their places -/

theorem next_of_passes (passes : op.passes = true) (ans : Res P op) :
    next op .pumping ans = .pumping := by
  cases op <;> first | rfl | cases passes

/-- The stop arm and the calls from outside stay where they are. -/
theorem next_leaving (op : Op P) (ans : Res P op) :
    next op .leaving ans = .leaving := by
  cases op <;> rfl

theorem next_beside (op : Op P) (ans : Res P op) :
    next op .beside ans = .beside := by
  cases op <;> rfl

variable {prog : Prog P α}

theorem obeys_passes (pumps : entry routine = .pumping) (passes : Passes prog) :
    prog.Obeys (protocol P) routine (fun _ final => final = .pumping) .pumping := by
  refine obeys_of_still pumps (fun _ legal => .inl legal) ?_ passes
  rintro op ans onward legal rfl
  exact next_of_passes legal ans

theorem obeys_drains (pumps : routine.pumps = true) (drains : Drains prog) :
    prog.Obeys (protocol P) routine (fun _ final => final = .leaving) .leaving := by
  refine obeys_of_still pumps (fun _ legal => .inl legal) ?_ drains
  rintro op ans onward _ rfl
  exact next_leaving op ans

theorem obeys_calls (beside : entry routine = .beside) (calls : Calls prog) :
    prog.Obeys (protocol P) routine (fun _ final => final = .beside) .beside := by
  refine obeys_of_still beside (fun _ legal => legal) ?_ calls
  rintro op ans onward _ rfl
  exact next_beside op ans

/-- The pump goes on pumping. -/
theorem pumping_of_continues {pump : Pump} {onward : Option (Routine P)}
    (continues : pump.Continues onward) :
    cont (fun routine place => place = entry routine) leave onward .pumping := by
  cases onward with
  | none => exact False.elim continues
  | some routine =>
    cases routine with
    | pumpLoop later => rfl
    | dispatchLoop later clientID => rfl
    | _ => exact False.elim continues

theorem obeys_pass {pump : Pump} {clientID : String} {arm : Prog P (Pump × Bool)}
    (passes : Passes arm) (returns : arm.Returns (fun result => pump.Same result.1)) :
    (pass clientID arm).Obeys (protocol P) (.pumpLoop pump)
      (cont (fun routine place => place = entry routine) leave) .pumping := by
  apply ((obeys_passes rfl (passes_pass passes)).and_returns (returns_pass clientID returns)).mono
  rintro onward final ⟨continues, rfl⟩
  exact pumping_of_continues continues

theorem obeys_pumpLoop (pump : Pump) :
    (pumpLoop opts pump).Obeys (protocol P) (.pumpLoop pump)
      (cont (fun routine place => place = entry routine) leave) .pumping := by
  refine obeys_step rfl (.inr (.inr (.inr ⟨_, rfl⟩))) ?_
  intro selected
  cases selected with
  | stopped =>
    apply (obeys_drains rfl drains_stopArm).bind
    rintro _ _ rfl
    refine obeys_step rfl (.inr ⟨_, rfl⟩) ?_
    intro _
    exact ⟨rfl, by simp [cont, leave, next]⟩
  | request req => exact obeys_pass (passes_requestArm pump req) (returns_requestArm pump req)
  | timeout token => exact obeys_pass (passes_timeoutArm pump token) (returns_timeoutArm pump token)
  | ready token => exact obeys_pass (passes_readyArm pump token) (returns_readyArm pump token)
  | cancel token => exact obeys_pass (passes_cancelArm pump token) (returns_cancelArm pump token)

theorem obeys_start :
    (body opts .start).Obeys (protocol P) .start
      (cont (fun routine place => place = entry routine) leave) .starting := by
  refine obeys_step rfl (.inl rfl) fun _ => ?_
  refine obeys_step rfl (.inr (.inl rfl)) fun _ => ?_
  refine obeys_step rfl (.inr (.inr (.inl rfl))) fun _ => ?_
  refine obeys_step rfl rfl fun _ => ?_
  refine obeys_step rfl (.inr (.inr (.inr rfl))) fun _ => ?_
  exact ⟨rfl, by simp [cont, leave, next]⟩

theorem leave_answering : leave .answering := by simp [leave]

theorem obeys_ocppMessageHandler (clientID : String) (frame : Frame) :
    (body opts (.ocppMessageHandler clientID frame)).Obeys (protocol P)
      (.ocppMessageHandler clientID frame)
      (cont (fun routine place => place = entry routine) leave) .answering := by
  have nothing : (Program.done none : Prog P (Option (Routine P))).Obeys (protocol P)
      (.ocppMessageHandler clientID frame)
      (cont (fun routine place => place = entry routine) leave) .answering :=
    ⟨rfl, leave_answering⟩
  refine obeys_step rfl (.inl ⟨_, rfl⟩) fun pending => ?_
  simp only [bind_done]
  split
  · exact nothing
  refine obeys_step rfl (.inr (.inl ⟨_, _, rfl⟩)) ?_
  intro known
  cases known with
  | none => exact nothing
  | some _ =>
    simp only [bind_done]
    split
    · refine obeys_step rfl (.inr (.inr (.inl ⟨_, rfl⟩))) ?_
      intro queue
      cases queue with
      | none => exact nothing
      | some queue =>
        refine obeys_step rfl (.inr (.inr (.inr (.inl ⟨_, _, rfl⟩)))) ?_
        intro popped
        cases popped with
        | none => exact nothing
        | some owner =>
          refine obeys_step ⟨_, _, rfl⟩ (.inl ⟨_, _, rfl⟩) fun _ => ?_
          refine obeys_step ⟨_, _, rfl⟩ (.inr ⟨_, rfl⟩) fun _ => ?_
          refine obeys_step rfl (.inr (.inr (.inr (.inr ⟨_, _, _, rfl⟩)))) fun _ => ?_
          exact nothing
    · exact nothing

theorem obeys_body (routine : Routine P) :
    (body opts routine).Obeys (protocol P) routine
      (cont (fun routine place => place = entry routine) leave) (entry routine) := by
  have outside : routine.calls = true -> entry routine = .beside ->
      (body opts routine).Obeys (protocol P) routine
        (cont (fun routine place => place = entry routine) leave) .beside := by
    intro calls beside
    apply ((obeys_calls beside (calls_body calls)).and_returns (returns_body calls)).mono
    rintro onward final ⟨rfl, rfl⟩
    simp [cont, leave]
  cases routine with
  | start => exact obeys_start
  | ocppMessageHandler clientID frame => exact obeys_ocppMessageHandler clientID frame
  | messagePump =>
    refine obeys_step rfl (.inr (.inl rfl)) fun doneC => ?_
    refine obeys_step rfl (.inr (.inr (.inl rfl))) fun reqCh => ?_
    exact ⟨rfl, rfl⟩
  | pumpLoop pump => exact obeys_pumpLoop pump
  | dispatchLoop pump clientID =>
    apply ((obeys_passes rfl (passes_dispatchLoop pump clientID)).and_returns
      (returns_dispatchLoop pump clientID)).mono
    rintro onward final ⟨continues, rfl⟩
    exact pumping_of_continues continues
  | _ => exact outside rfl rfl

/-- What the end of the pump depends on. -/
@[grind cases] structure Signals where
  running : Bool
  /-- the stop channel of the present generation is closed -/
  stopped : Bool
  launched : Nat
  ready : Option ServerReadyToken

def signals (s : Shared P) : Signals :=
  ⟨s.running, s.stoppedC s.gen, s.launched, s.readyForDispatch⟩

/-- There is a pump that has not taken its stop arm, or one is about to start. -/
def Serving (launched : Nat) (view : Nat -> Option Place) : Prop :=
  0 < launched ∨ ∃ tid, view tid = some .pumping ∨ view tid = some .begun

variable {tid : Nat}

theorem Serving.kept {launched : Nat} {view : Nat -> Option Place} (serving : Serving launched view)
    (idle : view tid ≠ some .pumping) (inactive : view tid ≠ some .begun)
    (content : Option Place) : Serving launched (update view tid content) := by
  rcases serving with pending | ⟨other, present⟩
  · exact .inl pending
  · refine .inr ⟨other, ?_⟩
    have apart : other ≠ tid := by
      rintro rfl
      exact present.elim idle inactive
    rwa [update_of_ne apart]

/-- A dispatcher that runs has a pump.  Without one at most one completion is outstanding. -/
@[grind cases] structure Attended (now : Signals) (view : Nat -> Option Place) : Prop where
  halted : now.stopped = true -> now.running = false
  served : now.running = true -> Serving now.launched view
  accepted : Serving now.launched view ∨ now.ready = none ∨ ∀ tid, view tid ≠ some .won
  single : Serving now.launched view ∨ ∀ tid other, view tid = some .won ->
    view other = some .won -> tid = other

namespace Attended

variable {now : Signals} {view : Nat -> Option Place} {tid : Nat} {place : Place}

theorem initially : Attended ⟨false, false, 0, none⟩ (fun _ => none) := by
  constructor <;> simp

/-- `Start` sets the running flag and makes a new stop channel. -/
theorem begins (now : Signals) (view : Nat -> Option Place) (tid : Nat) :
    Attended { now with running := true, stopped := false }
      (update view tid (some .begun)) := by
  have serving : Serving now.launched (update view tid (some .begun)) :=
    .inr ⟨tid, .inr (update_self ..)⟩
  constructor <;> grind -linarith

section

variable (attended : Attended now view)
include attended

theorem launches :
    Attended { now with launched := now.launched + 1 }
      (update view tid (some .starting)) := by
  have serving : Serving (now.launched + 1) (update view tid (some .starting)) :=
    .inl (Nat.succ_pos _)
  constructor <;> grind -linarith

theorem halts : Attended { now with running := false, stopped := true } view := by
  constructor <;> grind -linarith

/-- A completion has taken its request out of the queue. -/
theorem wins (here : view tid = some .answering)
    (alone : now.running = false -> now.ready = none ∧ ∀ other, view other ≠ some .won) :
    Attended now (update view tid (some .won)) := by
  have kept : Serving now.launched view ->
      Serving now.launched (update view tid (some .won)) := fun serving =>
    serving.kept (by simp [here]) (by simp [here]) (some .won)
  constructor <;> grind -linarith

theorem posts (here : view tid = some .won) (token : ServerReadyToken) :
    Attended { now with ready := some token } (update view tid (some .answering)) := by
  have kept : Serving now.launched view ->
      Serving now.launched (update view tid (some .answering)) := fun serving =>
    serving.kept (by simp [here]) (by simp [here]) (some .answering)
  constructor <;> grind -linarith

theorem receives : Attended { now with ready := none } view := by
  constructor <;> grind -linarith

/-- The pump takes its stop arm. -/
theorem leaves (stopped : now.stopped = true)
    (accepted : now.ready = none ∨ ∀ other, view other ≠ some .won)
    (single : ∀ one other, view one = some .won -> view other = some .won -> one = other) :
    Attended now (update view tid (some .leaving)) := by
  constructor <;> grind -linarith

theorem enters (vacant : view tid = none) (harmless : place ≠ .won)
    : Attended now (update view tid (some place)) := by
  have kept : Serving now.launched view ->
      Serving now.launched (update view tid (some place)) := fun serving =>
    serving.kept (by simp [vacant]) (by simp [vacant]) (some place)
  constructor <;> grind -linarith

/-- A pump that was launched runs. -/
theorem runs :
    Attended { now with launched := now.launched - 1 }
      (update view tid (some .pumping)) := by
  have serving : Serving (now.launched - 1) (update view tid (some .pumping)) :=
    .inr ⟨tid, .inl (update_self ..)⟩
  constructor <;> grind -linarith

theorem finishes (here : view tid = some place) (ended : leave place)
    : Attended now (update view tid none) := by
  have kept : Serving now.launched view ->
      Serving now.launched (update view tid none) := fun serving =>
    serving.kept (by simp [here, ended.2.2]) (by simp [here, ended.1]) none
  constructor <;> grind -linarith

end

end Attended

theorem signals_of_execute {choice : Choice} {pre after : Shared P} {ans : Res P op}
    (exec : execute tid op choice pre = some (ans, after))
    (idle : op.steers = false) : signals after = signals pre := by
  rcases control_of_execute exec idle with ⟨running, gen, stopped, launched, ready⟩
  simp only [signals, running, gen, stopped, launched, ready]

/-! ## The condition in terms of places -/

section

variable {config : Configuration P} {view : Nat -> Option Place}
  (describes : Describes (protocol P) (fun routine place => place = entry routine) leave config view)

include describes

/-- A goroutine that has won is seen in the configuration. -/
theorem wins_of_won (won : view tid = some .won) :
    tid < config.threads.length ∧ ServerDispatcher.wins config tid = true := by
  rcases describes.occupied won with ⟨⟨call, prog⟩, found, obeys⟩
  refine ⟨Config.thread?_lt found, ?_⟩
  rcases obeys.fits with ⟨clientID, frame, rfl⟩
  cases prog with
  | done onward =>
    cases onward with
    | none => exact absurd rfl obeys.2.2.1
    | some routine =>
      have never : Place.won = entry routine := obeys.2
      cases routine <;> cases never
  | act op resume =>
    rcases obeys.2.1 with ⟨_, _, rfl⟩ | ⟨_, rfl⟩
    · simp [ServerDispatcher.wins, found]
    · simp [ServerDispatcher.wins, found]

theorem none_of_outstanding (nothing : outstanding config = 0) :
    config.shared.readyForDispatch = none ∧ ∀ tid, view tid ≠ some .won := by
  unfold outstanding at nothing
  refine ⟨?_, ?_⟩
  · cases ready : config.shared.readyForDispatch with
    | none => rfl
    | some token => simp [ready] at nothing
  · intro tid won
    rcases wins_of_won describes won with ⟨inside, wins⟩
    have counted : (Finset.range config.threads.length).filter
        (fun tid => ServerDispatcher.wins config tid = true) = ∅ :=
      Finset.card_eq_zero.mp (Nat.eq_zero_of_add_eq_zero_right nothing)
    have mem : tid ∈ (Finset.range config.threads.length).filter
        (fun tid => ServerDispatcher.wins config tid = true) := by
      simp [inside, wins]
    rw [counted] at mem
    cases mem

theorem single_of_outstanding (few : outstanding config ≤ 1) :
    (config.shared.readyForDispatch = none ∨ ∀ tid, view tid ≠ some .won) ∧
      ∀ tid other, view tid = some .won -> view other = some .won -> tid = other := by
  have mem : ∀ tid, view tid = some .won ->
      tid ∈ (Finset.range config.threads.length).filter
        (fun tid => ServerDispatcher.wins config tid = true) := by
    intro tid won
    rcases wins_of_won describes won with ⟨inside, wins⟩
    simp [inside, wins]
  unfold outstanding at few
  refine ⟨?_, ?_⟩
  · cases ready : config.shared.readyForDispatch with
    | none => exact .inl rfl
    | some token =>
      refine .inr ?_
      intro tid won
      have counted := Finset.card_pos.mpr ⟨tid, mem tid won⟩
      simp only [ready, isSome_some, if_true] at few
      omega
  · intro tid other won alsoWon
    exact Finset.card_le_one.mp (Nat.le_of_add_right_le few) tid (mem tid won) other
      (mem other alsoWon)

end

section

variable {config : Configuration P} {view : Nat -> Option Place} {tid : Nat} {place : Place}
  {content : Thread (Op P) (Res P) (Routine P)} {choice : Choice} {after : Shared P}

section

variable
  (describes : Describes (protocol P) (fun routine place => place = entry routine) leave config view)
  (met : completesAlone config (.step tid choice) = true)
  (found : config.thread? tid = some content)
include describes met found

/-- The pump receives, or takes its stop arm. -/
theorem attended_select {reqCh : Nat} {selected : Selected}
    (next? : content.prog.next? = some (.select reqCh))
    (attended : Attended (signals config.shared) view) (here : view tid = some .pumping)
    (exec : execute tid (.select reqCh) choice config.shared = some (selected, after)) :
    Attended (signals after)
      (update view tid (some (next (.select reqCh : Op P) .pumping selected))) := by
  have unmoved : update view tid (some .pumping) = view := by
    rw [← here]
    exact update_eq_self tid view
  rcases content with ⟨call, prog⟩
  cases prog with
  | done onward => cases next?
  | act op resume =>
    cases next?
    cases receives_of_execute exec with
    | stopped closed =>
      obtain rfl := choice_of_stopped exec
      have few : outstanding config ≤ 1 := by
        simpa [completesAlone, found] using met
      rcases single_of_outstanding describes few with ⟨accepted, single⟩
      exact attended.leaves closed accepted single
    | request req rest first => exact unmoved.symm ▸ attended
    | timeout token rest first => exact unmoved.symm ▸ attended
    | ready token first => exact unmoved.symm ▸ attended.receives
    | cancel token rest first => exact unmoved.symm ▸ attended

/-- A completion takes its request out of the queue, or loses. -/
theorem attended_popIf {queue : QueueRef} {requestID : String} {popped : Option (ClientEntry P)}
    (next? : content.prog.next? = some (.popIf queue requestID))
    (attended : Attended (signals config.shared) view) (here : view tid = some .answering)
    (exec : execute tid (.popIf queue requestID) choice config.shared = some (popped, after)) :
    Attended (signals after)
      (update view tid (some (next (.popIf queue requestID) .answering popped))) := by
  rw [signals_of_execute exec rfl]
  cases popped with
  | none =>
    have unmoved : update view tid (some .answering) = view := by
      rw [← here]
      exact update_eq_self tid view
    exact unmoved.symm ▸ attended
  | some owner =>
    apply attended.wins here
    intro halted
    rcases describes.tagged tid content found with ⟨label, tagged, obeys⟩
    obtain rfl := by simpa [here] using tagged.symm
    have answers : entry content.call = .answering := obeys.fits
    rcases content with ⟨call, prog⟩
    cases prog with
    | done onward => cases next?
    | act op resume =>
      cases next?
      cases call with
      | ocppMessageHandler clientID frame =>
        apply none_of_outstanding describes
        have takes : ((config.shared.queue queue).popIf
            (fun entry => entry.isRequest requestID)).isNone = false := by
          cases result : (config.shared.queue queue).popIf
              (fun entry => entry.isRequest requestID) with
          | none => simp [execute, result] at exec
          | some taken => rfl
        simpa [completesAlone, found, takes, show config.shared.running = false from halted]
          using met
      | _ => cases answers

end

/-- Operations that change neither a signal nor the place. -/
theorem attended_still {ans : Res P op} (attended : Attended (signals config.shared) view)
    (here : view tid = some place)
    (exec : execute tid op choice config.shared = some (ans, after))
    (idle : op.steers = false) (still : next op place ans = place) :
    Attended (signals after) (update view tid (some (next op place ans))) := by
  rwa [signals_of_execute exec idle, still, ← here, update_eq_self]

end

theorem verified (opts : Settings) (capacity : Nat) :
    Verified.Under (system opts : System (Op P) (Res P) (Shared P) Choice (Routine P) Event)
      (fun config action => completesAlone config action = true) (.initial capacity) (protocol P)
      (fun routine place => place = entry routine) leave
      (fun shared view => Attended (signals shared) view) where
  body := by
    rintro routine place rfl
    exact obeys_body routine
  initially := .initially
  enter := by
    intro config view routine shared describes _ attended entered vacant
    refine ⟨entry routine, rfl, ?_⟩
    cases routine with
    | messagePump =>
      simp only [system, enter, ite_none_right_eq_some, Option.some.injEq] at entered
      rcases entered with ⟨_, rfl⟩
      exact attended.runs
    | waitForTimeout watch =>
      simp only [system, enter, ite_none_right_eq_some, Option.some.injEq] at entered
      rcases entered with ⟨_, rfl⟩
      exact attended.enters vacant (by simp [entry])
    | pumpLoop | dispatchLoop => cases entered
    | _ =>
      cases entered
      exact attended.enters vacant (by simp [entry])
  occur := by
    intro config view event after _ _ attended arose
    have same : signals after = signals config.shared := by
      cases event with
      | deadlinePasses ctx =>
        simp only [system, occur] at arose
        split at arose
        · cases arose
          rfl
        · cases arose
      | contextFires id err =>
        simp only [system, occur] at arose
        split at arose
        · cases arose
        · cases arose
          rfl
    exact same ▸ attended
  execute := by
    intro config view tid content place op choice ans after describes met found next?
      attended here legal exec
    have exec : execute tid op choice config.shared = some (ans, after) := exec
    refine ⟨_, rfl, ?_⟩
    cases place with
    | starting =>
      rcases legal with rfl | rfl | rfl | rfl
      · exact attended_still attended here exec rfl rfl
      · exact attended_still attended here exec rfl rfl
      · cases exec
        simpa [signals, next] using Attended.begins (signals config.shared) view tid
      · exact attended_still attended here exec rfl rfl
    | begun =>
      cases legal
      cases exec
      exact attended.launches
    | answering =>
      rcases legal with ⟨_, rfl⟩ | ⟨_, _, rfl⟩ | ⟨_, rfl⟩ | ⟨queue, requestID, rfl⟩ | ⟨_, _, _, rfl⟩
      · exact attended_still attended here exec rfl rfl
      · exact attended_still attended here exec rfl rfl
      · exact attended_still attended here exec rfl rfl
      · exact attended_popIf describes met found next? attended here exec
      · exact attended_still attended here exec rfl rfl
    | won =>
      rcases legal with ⟨_, _, rfl⟩ | ⟨token, rfl⟩
      · exact attended_still attended here exec rfl rfl
      · cases ready : config.shared.readyForDispatch with
        | some buffered => simp [execute, ready] at exec
        | none =>
          simp only [execute, ready, Option.some.injEq, Prod.mk.injEq] at exec
          rcases exec with ⟨_, rfl⟩
          exact attended.posts here token
    | pumping =>
      rcases legal with passes | rfl | rfl | ⟨reqCh, rfl⟩
      · refine attended_still attended here exec ?_ (next_of_passes passes ans)
        cases op <;> first | rfl | cases passes
      · exact attended_still attended here exec rfl rfl
      · exact attended_still attended here exec rfl rfl
      · exact attended_select describes met found next? attended here exec
    | leaving =>
      refine attended_still attended here exec ?_ (next_leaving op ans)
      rcases legal with drains | ⟨_, rfl⟩
      · cases op <;> first | rfl | cases drains
      · rfl
    | beside =>
      by_cases halts : op = .assignStopped
      · subst halts
        simp only [execute, ite_none_left_eq_some, Option.some.injEq,
          Prod.mk.injEq] at exec
        rcases exec with ⟨_, _, rfl⟩
        have unmoved : update view tid (some .beside) = view := by
          rw [← here]
          exact update_eq_self tid view
        simpa [signals, next, unmoved] using attended.halts
      · refine attended_still attended here exec ?_ (next_beside op ans)
        cases op <;> first | exact absurd rfl halts | rfl | cases legal
  finish := by
    intro shared view tid place attended here ended
    exact attended.finishes here ended

/-- When the pump has exited, nothing serves the ready channel. -/
theorem not_serving {config : Configuration P} {view : Nat -> Option Place}
    (describes : Describes (protocol P) (fun routine place => place = entry routine) leave config view)
    (exited : PumpExited config) : ¬ Serving config.shared.launched view := by
  rintro (pending | ⟨tid, present⟩)
  · exact absurd exited.1 (Nat.ne_of_gt pending)
  · rcases present with pumping | begun
    · rcases describes.occupied pumping with ⟨⟨call, prog⟩, found, obeys⟩
      have quiet := List.all_eq_true.mp exited.2 _ (Config.mem_of_thread? found)
      have pumps : call.pumps = true := by
        have place : entry call = .pumping := obeys.fits
        cases call <;> first | rfl | cases place
      cases prog with
      | done onward =>
        cases onward with
        | none => exact obeys.2.2.2 rfl
        | some routine => simp [pumpless, pumps] at quiet
      | act op resume => cases op <;> simp [pumpless, pumps] at quiet
    · rcases describes.occupied begun with ⟨⟨call, prog⟩, found, obeys⟩
      have quiet := List.all_eq_true.mp exited.2 _ (Config.mem_of_thread? found)
      cases prog with
      | done onward =>
        cases onward with
        | none => exact obeys.2.1 rfl
        | some routine =>
          have never : Place.begun = entry routine := obeys.2
          cases routine <;> cases never
      | act op resume =>
        obtain rfl := obeys.2.1
        simp [pumpless] at quiet

/-- Only a completion that has won sends a ready token. -/
theorem won_of_sendReady {place : Place} (legal : allowed (.sendReady token : Op P) place) :
    place = .won := by
  cases place <;> simp [allowed] at legal ⊢

end Completion

/-- A completion that is about to send its ready token after the pump has exited can send it,
provided that no two completions were outstanding when the pump took its stop arm or after. -/
theorem completions_return_after_exit (opts : Settings) (capacity : Nat)
    {config : Configuration P}
    (reached : (system opts).ReachableUnder (fun config action => completesAlone config action = true)
      (.initial capacity) config)
    (exited : PumpExited config) (tid : Nat) (token : ServerReadyToken) :
    ¬ (system opts).Blocked config tid (.sendReady token) := by
  rintro ⟨⟨content, found, next⟩, blocked⟩
  rcases (Completion.verified opts capacity).reachable reached with ⟨view, describes, attended⟩
  have unserved := Completion.not_serving describes exited
  rcases describes.tagged tid content found with ⟨place, tagged, obeys⟩
  obtain rfl := Completion.won_of_sendReady (obeys.allowed next)
  rcases attended.accepted with serving | vacant | nobody
  · exact unserved serving
  · have proceeds := blocked .proceed
    have empty : config.shared.readyForDispatch = none := vacant
    simp [system, execute, empty] at proceeds
  · exact nobody tid tagged

/-- The token a goroutine is about to send. -/
def sending (config : Configuration P) (tid : Nat) : Option ServerReadyToken :=
  match config.thread? tid with
  | some ⟨_, .act (.sendReady token) _⟩ => some token
  | _ => none

section

variable {config : Configuration P} {tid : Nat} (sends : sending config tid = some token)
include sends

theorem next?_of_sending :
    ∃ content, config.thread? tid = some content ∧
      content.prog.next? = some (.sendReady token) := by
  unfold sending at sends
  split at sends
  · rename_i found
    cases sends
    exact ⟨_, found, rfl⟩
  · cases sends

theorem blocked_of_sending {opts : Settings}
    (occupied : config.shared.readyForDispatch.isSome = true) :
    (system opts).Blocked config tid (.sendReady token) := by
  refine ⟨next?_of_sending sends, ?_⟩
  intro choice
  rcases isSome_iff_exists.mp occupied with ⟨buffered, ready⟩
  simp [system, execute, ready]

end

/-- Two clients answer at the same time.  The first completion leaves its token in the channel,
and then the dispatcher is stopped: the pump leaves, `Stop` returns, and the second completion
goes on waiting. -/
theorem completion_hangs_after_stop :
    ∃ config, (system sampleOpts).Reachable .all (Shared.initial 0 : Shared Nat) config ∧
      PumpExited config ∧ config.shared.doneC config.shared.gen = true ∧
      (config.thread? 8).isNone = true ∧
      (system sampleOpts).Blocked config 7 (.sendReady ⟨"b", "2"⟩) := by
  have run : ∃ config, (system sampleOpts).Reachable .all
      (Shared.initial 0 : Shared Nat) config ∧
      PumpExited config ∧ config.shared.doneC config.shared.gen = true ∧
      (config.thread? 8).isNone = true ∧ sending config 7 = some ⟨"b", "2"⟩ ∧
      config.shared.readyForDispatch.isSome = true :=
    System.exists_reachable_of_replay _
      (starting 0 ++ creating 2 "a" ++ creating 3 "b" ++ requesting 4 "a" (sample "1" 0) ++
        requesting 5 "b" (sample "2" 0) ++ dispatching 1 ++ dispatching 1 ++ answering 6 "a" "1" ++
        answering 7 "b" "2" ++ proceed 6 1 ++ stopping 8 ++
        draining 1 [⟨"b", ⟨"b", 1, 1⟩⟩, ⟨"a", ⟨"a", 1, 0⟩⟩] ++ proceed 8 2)
      (by decide +kernel)
  rcases run with ⟨config, reached, exited, closed, ret, sends, occupied⟩
  exact ⟨config, reached, exited, closed, ret, blocked_of_sending sends occupied⟩

/-- With one client the completion returns. -/
theorem completions_return_after_exit_single :
    ∃ config, (system sampleOpts).ReachableUnder
        (fun config action => completesAlone config action = true)
        (Shared.initial 0 : Shared Nat) config ∧
      PumpExited config ∧ sending config 4 = some ⟨"a", "1"⟩ ∧
      ¬ (system sampleOpts).Blocked config 4 (.sendReady ⟨"a", "1"⟩) := by
  have run : ∃ config, (system sampleOpts).ReachableUnder
      (fun config action => completesAlone config action = true)
      (Shared.initial 0 : Shared Nat) config ∧
      PumpExited config ∧ sending config 4 = some ⟨"a", "1"⟩ :=
    System.exists_reachableUnder_of_replay _
      (starting 0 ++ creating 2 "a" ++ requesting 3 "a" (sample "1" 0) ++ dispatching 1 ++
        answering 4 "a" "1" ++ stopping 5 ++ draining 1 [⟨"a", ⟨"a", 1, 0⟩⟩])
      (by decide +kernel)
  rcases run with ⟨config, reached, exited, sends⟩
  exact ⟨config, reached, exited, sends,
    completions_return_after_exit sampleOpts 0 reached exited 4 ⟨"a", "1"⟩⟩

end ServerDispatcher
end OcppGo
