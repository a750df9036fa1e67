import OcppGo.ClientDispatcher.Usage
import OcppGo.ClientDispatcher.WakeUp

namespace OcppGo
namespace ClientDispatcher

open Interleaving Ocppj Option

/-!
# What a pause holds back

`Pause` promises that no further request becomes pending.  The pump reads the pause flag once in
a pass and then goes on, in several steps, to register and write a request, so a `Pause` that
sets the flag in between does not hold that request back.  This is the only way: as long as the
flag is set while no goroutine is on its way from the flag to the write, nothing is registered
and nothing is written until `Resume` clears the flag.
-/

variable {P : Type}

/-- The operation moves a request to pending or hands it to the network. -/
def Op.dispatches : Op P -> Bool
  | .addPendingRequest _ _ => true
  | .write _ _ => true
  | _ => false

/-- The operations of a pump that has found the flag clear and has not written yet.  The error
of a context is also read for the report of a request that was cancelled. -/
def Op.onTheWay : Op P -> Bool
  | .isEmpty => true
  | .hasPendingRequest .dispatch => true
  | .peek .dispatch => true
  | .contextErr _ => true
  | .addPendingRequest _ _ => true
  | .write _ _ => true
  | _ => false

def Op.pauses : Op P -> Bool
  | .setPaused paused => paused
  | _ => false

/-- `Pause` sets the flag only while no goroutine is on its way from the flag to the write. -/
def pausesBetweenDispatches (config : Configuration P) :
    Action Choice (Routine P) Event -> Prop
  | .step tid _ =>
    ((config.thread? tid).bind (fun content => content.prog.next?)).any Op.pauses = true ->
      ∀ place, place ∈ config.threads -> ∀ content, content ∈ place ->
        content.prog.next?.any Op.onTheWay = false
  | _ => True

instance (config : Configuration P) (action : Action Choice (Routine P) Event) :
    Decidable (pausesBetweenDispatches config action) := by
  cases action with
  | step tid choice =>
    exact inferInstanceAs (Decidable (_ -> ∀ place, place ∈ config.threads ->
      ∀ content, content ∈ place -> content.prog.next?.any Op.onTheWay = false))
  | _ => exact .isTrue trivial

namespace Pausing

/-- Where a goroutine is with respect to the flag.  A resting pump carries its ready flag. -/
inductive Stage where
  | resting (rdy : Bool)
  | committed
  /-- a goroutine of `Resume` -/
  | resuming
  deriving DecidableEq

def Stage.rdy : Stage -> Bool
  | .resting rdy => rdy
  | _ => true

def Stage.selected (stage : Stage) : Selected -> Stage
  | .ready => .resting true
  | _ => stage

def Stage.read : Option (Entry P) -> Stage
  | some front => if front.bundle.WellFormed then .committed else .resting true
  | none => .resting true

def Stage.expired : Stage -> Option ContextError -> Stage
  | .committed, some _ => .resting true
  | stage, _ => stage

@[simp] def Stage.after (stage : Stage) : (op : Op P) -> Res P op -> Stage
  | .select _ _, selected => stage.selected selected
  | .isPaused, paused => if !paused && stage.rdy then .committed else stage
  | .isEmpty, vacant => if vacant then .resting true else .committed
  | .hasPendingRequest .dispatch, pending => if pending then .resting true else .committed
  | .peek .dispatch, front => .read front
  | .contextErr _, err => stage.expired err
  | .write _ _, _ => .resting false
  | _, _ => stage

/-- A committed pump only goes on to the write, and only such a pump takes these steps. -/
@[simp] def allowed (op : Op P) (stage : Stage) : Prop :=
  match op with
  | .contextErr _ => True
  | .setPaused paused => if paused then stage = .resting false else stage = .resuming
  | op => op.onTheWay = true <-> stage = .committed

def accord : Protocol (Op P) (Res P) (Routine P) Stage where
  fits call stage := stage = .resuming -> call = .resume
  allowed := allowed
  next op stage ans onward := onward = stage.after op ans

/-- The pump is ready when it starts; the other goroutines never get on the way. -/
def entry : Routine P -> Stage -> Prop
  | .messagePump, stage => stage = .resting true
  | .pumpLoop _ _ rdy _, stage => stage = .resting rdy
  | .resume, stage => stage = .resuming
  | _, stage => stage = .resting false

def leave (stage : Stage) : Prop := stage ≠ .committed

/-! ## The code keeps to the description -/

section

open Program

variable {opts : Settings} {call : Routine P} {stage : Stage} {rdy : Bool} {α : Type}

@[simp] theorem accord_fits :
    accord.fits call stage <-> (stage = .resuming -> call = .resume) := Iff.rfl

theorem obeys_step {post : α -> Stage -> Prop} {op : Op P}
    {resume : Res P op -> Prog P α} :
    (Program.act op resume).Obeys accord call post stage <->
      (stage = .resuming -> call = .resume) ∧ allowed op stage ∧
        ∀ ans, (resume ans).Obeys accord call post (stage.after op ans) := by
  simp only [obeys_act, accord, forall_eq]

theorem fits_resting : Stage.resting rdy = .resuming -> call = .resume := nofun

theorem fits_committed : Stage.committed = .resuming -> call = .resume := nofun

/-- The operations that a resting goroutine performs without moving on. -/
def idle : Op P -> Prop
  | .onRequestCancel _ _ _ _ => True
  | op => op.neutral = true

theorem permits_idle : Permits (idle : Op P -> Prop) where
  neutral := by
    intro op neutral
    cases op <;> first | exact neutral | trivial
  reports := fun _ _ _ _ _ => trivial

theorem obeys_of_idle {prog : Prog P α} (uses : prog.Uses idle) :
    prog.Obeys accord call (fun _ final => final = .resting rdy) (.resting rdy) := by
  induction prog with
  | done value => exact ⟨fits_resting, rfl⟩
  | act op resume ih =>
    have still : allowed op (.resting rdy) ∧ ∀ ans : Res P op,
        (Stage.resting rdy).after op ans = .resting rdy := by
      have unmoved := uses.1
      cases op with
      | hasPendingRequest site | peek site =>
        cases site with
        | dispatch => cases unmoved
        | _ => exact ⟨by simp [Op.onTheWay], fun _ => rfl⟩
      | setPaused | isPaused | isEmpty | addPendingRequest | select | write => cases unmoved
      | contextErr context => exact ⟨trivial, fun ans => by cases ans <;> rfl⟩
      | _ => exact ⟨by simp [Op.onTheWay], fun _ => rfl⟩
    refine obeys_step.mpr ⟨fits_resting, still.1, ?_⟩
    intro ans
    rw [still.2 ans]
    exact ih ans (uses.2 ans)

/-- A call that ends without a following one. -/
theorem obeys_caller {prog : Prog P Unit}
    (uses : (do prog; return none : Prog P (Option (Routine P))).Uses idle) :
    (do prog; return none : Prog P (Option (Routine P))).Obeys accord call
      (cont entry leave) (.resting rdy) := by
  have finished : (do prog; return none : Prog P (Option (Routine P))).Obeys accord call
      (fun _ final => final = .resting rdy) (.resting rdy) := obeys_of_idle uses
  rw [obeys_bind] at finished ⊢
  apply finished.mono
  rintro _ _ ⟨_, rfl⟩
  exact ⟨fits_resting, by simp [cont, leave]⟩

/-- A dispatch ends in a write, after which the pump is not ready, or leaves it as it was. -/
theorem obeys_dispatchNextRequest :
    (dispatchNextRequest opts).Obeys accord call
      (fun result final => final = .resting (!result.2)) .committed := by
  unfold dispatchNextRequest
  refine obeys_step.mpr ⟨fits_committed, by simp [Op.onTheWay], ?_⟩
  intro ans
  cases ans with
  | none => exact ⟨fits_resting, rfl⟩
  | some front =>
    have bad (malformed : ¬ front.bundle.WellFormed) :
        Stage.after .committed (.peek .dispatch) (some front) = .resting true := by
      simp [Stage.read, malformed]
    cases content : front.bundle.call with
    | none =>
      rw [bad (by simp [RequestBundle.WellFormed, content])]
      simp [content]
    | some request =>
      cases text : front.bundle.data with
      | none =>
        rw [bad (by simp [RequestBundle.WellFormed, text])]
        simp [content, text]
      | some jsonMessage =>
        have good : front.bundle.WellFormed := by
          simp [RequestBundle.WellFormed, content, text]
        simp only [content, text, Stage.after, Stage.read, if_pos good, bind_done]
        refine obeys_step.mpr ⟨fits_committed, trivial, ?_⟩
        intro err
        cases err with
        | some err =>
          apply (obeys_of_idle (uses_cancelIfOwned permits_idle .dispatch
            request.uniqueId request.payload ?_)).bind
          · rintro _ _ rfl
            exact ⟨fits_resting, rfl⟩
          · intro _
            exact ⟨rfl, fun _ => uses_fireRequestCancel trivial⟩
        | none =>
          refine obeys_step.mpr ⟨fits_committed, by simp [Op.onTheWay, Stage.expired], ?_⟩
          intro _
          refine obeys_step.mpr ⟨fits_committed, by simp [Op.onTheWay, Stage.expired], ?_⟩
          intro failure
          cases failure with
          | some failure =>
            apply (obeys_of_idle (uses_cancelIfOwned permits_idle .dispatch
              request.uniqueId request.payload
              (fun _ => uses_fireRequestCancel trivial))).bind
            rintro _ _ rfl
            exact ⟨fits_resting, rfl⟩
          | none => exact ⟨fits_resting, rfl⟩

theorem obeys_dispatchStep (pending : PumpPending P) :
    (dispatchStep opts rdy pending).Obeys accord call
      (fun result final => final = .resting result.1) (.resting rdy) := by
  unfold dispatchStep
  refine obeys_step.mpr ⟨fits_resting, by simp [Op.onTheWay], ?_⟩
  intro paused
  cases paused with
  | true => exact ⟨fits_resting, rfl⟩
  | false =>
    cases rdy with
    | false => exact ⟨fits_resting, rfl⟩
    | true =>
      refine obeys_step.mpr ⟨fits_committed, by simp [Op.onTheWay, Stage.rdy], ?_⟩
      intro vacant
      cases vacant with
      | true => exact ⟨fits_resting, rfl⟩
      | false =>
        refine obeys_step.mpr ⟨fits_committed, by simp [Op.onTheWay], ?_⟩
        intro occupied
        cases occupied with
        | true => exact ⟨fits_resting, rfl⟩
        | false =>
          apply obeys_dispatchNextRequest.bind
          rintro ⟨token, dispatched⟩ _ rfl
          cases dispatched with
          | false => exact ⟨fits_resting, rfl⟩
          | true =>
            have silences : (stopAndDrainTimer : Prog P Unit).Uses idle := by
              simp [stopAndDrainTimer, idle, Op.neutral, Op.plain]
            apply (obeys_of_idle silences).bind
            rintro _ _ rfl
            exact obeys_step.mpr ⟨fits_resting, by simp [Op.onTheWay], fun _ => ⟨fits_resting, rfl⟩⟩

theorem obeys_pumpLoop (reqCh : Option Nat) (doneC : Nat) (pending : PumpPending P) :
    (pumpLoop opts reqCh doneC rdy pending).Obeys accord
      (.pumpLoop reqCh doneC rdy pending) (cont entry leave) (.resting rdy) := by
  -- what every arm does once it has dealt with what it received
  have goesOn (ready : Bool) (current : PumpPending P) :
      (dispatchPass opts reqCh doneC ready current).Obeys accord
        (.pumpLoop reqCh doneC rdy pending) (cont entry leave) (.resting ready) := by
    apply (obeys_dispatchStep current).bind
    rintro ⟨_, _⟩ _ rfl
    exact ⟨fits_resting, rfl⟩
  have serves : Serves opts fun _ (prog : Prog P _) => prog.Uses idle :=
    permits_idle.serves composes_uses fun _ _ uses => uses
  unfold pumpLoop
  apply (obeys_of_idle (good_reconcile serves pending)).bind
  rintro current _ rfl
  refine obeys_step.mpr ⟨fits_resting, by simp [Op.onTheWay], ?_⟩
  intro _
  refine obeys_step.mpr ⟨fits_resting, by simp [Op.onTheWay], ?_⟩
  intro selected
  cases selected with
  | request => exact goesOn rdy current
  | ready => exact goesOn true current
  | tick =>
    apply (obeys_of_idle (good_timeoutArm serves fun _ _ => uses_cancelIfOwned permits_idle _ _ _
      fun _ => uses_fireRequestCancel trivial)).bind
    rintro _ _ rfl
    exact goesOn rdy .zero
  | canceled =>
    apply (obeys_of_idle (good_cancelArm serves current)).bind
    rintro _ _ rfl
    exact goesOn rdy .zero
  | closed =>
    apply (obeys_of_idle (serves.drains doneC)).bind
    rintro _ _ rfl
    exact ⟨fits_resting, by simp [cont, leave]⟩

theorem obeys_body (routine : Routine P) (stage : Stage) (entered : entry routine stage) :
    (body opts routine).Obeys accord routine (cont entry leave) stage := by
  have uses (caller : ∀ reqCh doneC rdy pending,
      routine ≠ .pumpLoop reqCh doneC rdy pending)
      (other : routine ≠ .pause ∧ routine ≠ .resume) : (body opts routine).Uses idle :=
    uses_caller permits_idle routine caller fun _ pausing => by
      rcases pausing with pausing | pausing
      · exact absurd pausing other.1
      · exact absurd pausing other.2
  cases routine with
  | messagePump =>
    rw [show stage = .resting true from entered]
    simp [body, messagePump, obeys_step, Op.onTheWay, cont, entry]
  | pumpLoop reqCh doneC rdy pending =>
    rw [show stage = .resting rdy from entered]
    exact obeys_pumpLoop reqCh doneC pending
  | pause =>
    rw [show stage = .resting false from entered]
    simp [body, pause, lock, stopAndDrainTimer, obeys_step, Op.onTheWay, cont, leave]
  | resume =>
    rw [show stage = .resuming from entered]
    simp [body, resume, stopAndDrainTimer, obeys_step, Op.onTheWay, cont, leave]
  | _ =>
    rw [show stage = .resting false from entered]
    exact obeys_caller (uses (fun _ _ _ _ never => by cases never) (by simp))

end

/-! ## The flag and the goroutines -/

/-- While the flag is set, no goroutine is on its way to a write. -/
def Held (s : Shared P) (view : Nat -> Option Stage) : Prop :=
  s.paused = true -> ∀ tid, view tid ≠ some .committed

section

variable {pre after : Shared P} {tid : Nat} {choice : Choice} {op : Op P}
  {ans : Res P op} {stage : Stage} {view : Nat -> Option Stage}

section

variable (exec : execute tid op choice pre = some (ans, after))
include exec

/-- Only `Pause` and `Resume` write the flag. -/
theorem paused_of_execute (other : ∀ paused, op ≠ .setPaused paused) :
    after.paused = pre.paused := by
  cases op with
  | setPaused paused => exact absurd rfl (other paused)
  | select reqCh pendingDone =>
    obtain ⟨_, _, _, _, rfl⟩ := execute_select_frame exec
    rfl
  | _ =>
    simp only [execute, map_eq_some_iff, bind_eq_some_iff, bind] at exec
    grind

/-- A goroutine that finds the flag set does not get on its way. -/
theorem committed_of_execute (legal : allowed op stage) (paused : pre.paused = true)
    (committed : stage.after op ans = .committed) :
    stage = .committed := by
  cases op with
  | isPaused =>
    have seen : ans = pre.paused := by
      cases exec
      rfl
    rw [seen, paused] at committed
    exact committed
  | isEmpty => exact legal.mp rfl
  | hasPendingRequest site | peek site =>
    cases site with
    | dispatch => exact legal.mp rfl
    | _ => exact committed
  | select reqCh pendingDone =>
    cases ans with
    | ready => cases committed
    | _ => exact committed
  | contextErr context =>
    cases stage with
    | committed => rfl
    | _ => cases ans <;> cases committed
  | write front data => cases committed
  | _ => exact committed

theorem Held.execute (held : Held pre view) (tagged : view tid = some stage)
    (legal : allowed op stage)
    (pausing : op.pauses = true -> ∀ other, view other ≠ some .committed) :
    Held after (Function.update view tid (some (stage.after op ans))) := by
  intro paused other
  by_cases writes : ∃ value, op = .setPaused value
  · -- `Pause` sets the flag while nobody is on the way, and is not on the way itself
    rcases writes with ⟨value, rfl⟩
    cases exec
    have alone := pausing paused
    intro tagged'
    rcases tagged_of_update tagged' with ⟨_, committed⟩ | ⟨_, known⟩
    · exact alone tid (tagged.trans committed)
    · exact alone other known
  · have same := paused_of_execute exec (fun value equal => writes ⟨value, equal⟩)
    rw [same] at paused
    intro tagged'
    rcases tagged_of_update tagged' with ⟨_, committed⟩ | ⟨_, known⟩
    · have before' := committed_of_execute exec legal paused (Option.some.inj committed)
      exact held paused tid (before' ▸ tagged)
    · exact held paused other known

end

theorem Held.update (held : Held pre view) (same : after.paused = pre.paused)
    {replacement : Option Stage} (resting : replacement ≠ some .committed) :
    Held after (Function.update view tid replacement) := by
  intro paused other tagged
  rcases tagged_of_update tagged with ⟨_, committed⟩ | ⟨_, known⟩
  · exact resting committed
  · exact held (same ▸ paused) other known

end

/-- A committed goroutine is at one of the steps from the flag to the write. -/
theorem onTheWay_of_committed {call : Routine P} {prog : Prog P (Option (Routine P))}
    (obeys : prog.Obeys accord call (cont entry leave) .committed) :
    prog.next?.any Op.onTheWay = true := by
  cases prog with
  | done value =>
    cases value with
    | none => exact absurd rfl obeys.2
    | some routine => cases routine <;> cases obeys.2
  | act op resume =>
    have legal : allowed op .committed := obeys.2.1
    cases op with
    | setPaused paused => cases paused <;> cases legal
    | _ => first | rfl | exact legal.mpr rfl

theorem enter_paused {routine : Routine P} {pre after : Shared P}
    (entered : enter routine pre = some after) : after.paused = pre.paused := by
  cases routine <;> simp only [enter] at entered <;> grind

theorem occur_paused {event : Event} {pre after : Shared P}
    (arose : occur event pre = some after) : after.paused = pre.paused := by
  cases event <;> simp only [occur, bind_eq_some_iff, bind] at arose <;> grind

theorem verified (opts : Settings) (capacity : Nat) :
    Verified.Under (system opts) pausesBetweenDispatches (Shared.initial capacity : Shared P)
      accord entry leave Held where
  body := obeys_body
  initially := fun never => by cases never
  enter := by
    intro config view call shared _ _ held entered _
    have same := enter_paused entered
    cases call with
    | messagePump => exact ⟨_, rfl, held.update same (by simp)⟩
    | pumpLoop => cases entered
    | _ => exact ⟨_, rfl, held.update same (by simp)⟩
  occur := by
    intro config view event after _ _ held arose paused
    exact held (occur_paused arose ▸ paused)
  execute := by
    intro config view tid content stage op choice ans after describes met found next
      held tagged legal exec
    refine ⟨_, rfl, held.execute exec tagged legal ?_⟩
    intro pauses other committed
    rcases describes.occupied committed with ⟨occupant, placed, obeys⟩
    have away := met (by simp [found, next, pauses]) _ (Config.mem_of_thread? placed) occupant rfl
    rw [onTheWay_of_committed obeys] at away
    cases away
  finish := by
    intro shared view tid stage held _ _
    exact held.update rfl (by simp)

variable {opts : Settings} {config after : Configuration P} {view : Nat -> Option Stage}

/-- What a goroutine does next does not dispatch a request while the flag is set. -/
theorem Held.not_dispatches (held : Held config.shared view) (paused : config.shared.paused = true)
    (describes : Describes accord entry leave config view) {tid : Nat}
    {content : Thread (Op P) (Res P) (Routine P)} {op : Op P}
    (found : config.thread? tid = some content)
    (next : content.prog.next? = some op) : op.dispatches = false := by
  rcases describes.tagged tid content found with ⟨stage, tagged, obeys⟩
  have legal : allowed op stage := obeys.allowed next
  by_contra dispatches
  have committed : stage = .committed := by
    cases op with
    | addPendingRequest | write => exact legal.mp rfl
    | _ => exact absurd rfl dispatches
  exact held paused tid (committed ▸ tagged)

/-- Only a goroutine of `Resume` clears the flag. -/
theorem resume_of_cleared (describes : Describes accord entry leave config view)
    (paused : config.shared.paused = true) {action : Action Choice (Routine P) Event}
    (stepped : (system opts).step config action = some after)
    (cleared : after.shared.paused = false) :
    ∃ tid choice content, action = .step tid choice ∧
      config.thread? tid = some content ∧ content.call = .resume := by
  have changed : after.shared.paused ≠ config.shared.paused := by
    rw [paused, cleared]
    decide
  cases action with
  | call call =>
    rcases map_eq_some_iff.mp stepped with ⟨shared, entered, rfl⟩
    exact absurd (enter_paused entered) changed
  | occur event =>
    rcases map_eq_some_iff.mp stepped with ⟨shared, arose, rfl⟩
    exact absurd (occur_paused arose) changed
  | step tid choice =>
    rcases bind_eq_some_iff.mp stepped with ⟨content, found, advanced⟩
    rcases describes.tagged tid content found with ⟨stage, tagged, obeys⟩
    refine ⟨tid, choice, content, rfl, found, ?_⟩
    cases shape : content.prog with
    | done value =>
      cases value <;>
        · simp only [System.advance, shape, Option.some.injEq] at advanced
          exact absurd (congrArg (fun config => config.shared.paused) advanced.symm) changed
    | act op resume =>
      rw [shape] at obeys
      simp only [System.advance, shape, map_eq_some_iff] at advanced
      rcases advanced with ⟨⟨ans, shared⟩, exec, rfl⟩
      by_cases writes : ∃ value, op = .setPaused value
      · rcases writes with ⟨value, rfl⟩
        cases exec
        have resuming : stage = .resuming := by
          have legal : allowed (.setPaused value : Op P) stage := obeys.2.1
          rw [show value = false from cleared] at legal
          exact legal
        exact obeys.fits resuming
      · exact absurd (paused_of_execute exec fun value equal => writes ⟨value, equal⟩) changed

end Pausing

/-- While the flag is set, no goroutine is about to move a request to pending or to hand one to
the network, and the flag stays set until a goroutine of `Resume` clears it. -/
theorem pause_holds_back (opts : Settings) (capacity : Nat) {config : Configuration P}
    (reached : (system opts).ReachableUnder pausesBetweenDispatches
      (Shared.initial capacity) config) (paused : config.shared.paused = true) :
    (∀ tid content op, config.thread? tid = some content ->
      content.prog.next? = some op -> op.dispatches = false) ∧
    (∀ action after, (system opts).step config action = some after ->
      after.shared.paused = false -> ∃ tid choice content, action = .step tid choice ∧
        config.thread? tid = some content ∧ content.call = .resume) := by
  rcases (Pausing.verified opts capacity).reachable reached with ⟨view, describes, held⟩
  constructor
  · intro tid content op found next
    exact held.not_dispatches paused describes found next
  · intro action after stepped cleared
    exact Pausing.resume_of_cleared describes paused stepped cleared

/-- `Pause` to its end. -/
def pausing (tid : Nat) : Schedule P := [.call .pause] ++ proceed tid 7

/-- The pump has found the flag clear when `Pause` is called and returns.  It goes on to register
the request it finds in the queue. -/
theorem registers_while_paused :
    ∃ config, (system sampleOpts).Reachable startDiscipline
        (Shared.initial 10 : Shared Nat) config ∧
      config.shared.paused = true ∧ quietPausing config ∧
      ((config.thread? 1).bind (fun content => content.prog.next?)).any Op.dispatches = true :=
  System.exists_reachable_of_replay _
    (starting 0 ++ sending 2 0 (sample "1" 1) ++ receive 1 .request ++ proceed 1 1 ++ pausing 3 ++
      proceed 1 4) (by decide +kernel)

/-- A request that is sent after `Pause` has returned stays in the queue. -/
theorem pause_holds_back_request :
    ∃ config, (system sampleOpts).ReachableUnder pausesBetweenDispatches
        (Shared.initial 10 : Shared Nat) config ∧
      (config.shared.paused = true ∧ config.shared.requestQueue.elements.length = 1) ∧
      ∀ tid content op, config.thread? tid = some content ->
        content.prog.next? = some op -> op.dispatches = false := by
  have run : ∃ config, (system sampleOpts).ReachableUnder pausesBetweenDispatches
      (Shared.initial 10 : Shared Nat) config ∧
      (config.shared.paused = true ∧ config.shared.requestQueue.elements.length = 1) :=
    System.exists_reachableUnder_of_replay _
      (starting 0 ++ pausing 2 ++ sending 3 0 (sample "1" 1) ++ receive 1 .request)
      (by decide +kernel)
  rcases run with ⟨config, reached, paused, queued⟩
  exact ⟨config, reached, ⟨paused, queued⟩, (pause_holds_back sampleOpts 10 reached paused).1⟩

end ClientDispatcher
end OcppGo
