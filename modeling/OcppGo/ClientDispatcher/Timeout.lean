import OcppGo.ClientDispatcher.Clock
import OcppGo.ClientDispatcher.Usage

namespace OcppGo
namespace ClientDispatcher

open Function Interleaving Ocppj List

variable {P : Type}

/-!
# Honest timeouts

The timer arm knows for which request the timer was running.  What it takes out of
the queue is another matter: it looks at the front only after it has found something
pending, and a reply may have removed the front in between.  Then a request that was
never written is reported as timed out.
-/

/-- `Start` as it is meant, and no `Pause` or `Resume`. -/
def sendsAndAnswers (config : Configuration P) (routine : Routine P) : Prop :=
  startsWhenStopped config routine ∧ Phases.kindOf routine ≠ .pause ∧ Phases.kindOf routine ≠ .resume
  deriving Decidable

/-- When the timer arm takes a request out of the queue, it is the one written last. -/
def lastIsFirst (s : Shared P) : Op P -> Prop
  | .popIf .timeout requestId => ∀ front, s.requestQueue.elements.head? = some front ->
      front.isRequest requestId = true -> s.hist.writes.getLast? = some front
  | _ => True

/-- Whenever the timer arm completes the request at the front of the queue, it is the request
that was written last; so no reply has removed that one since the look at the pending slot. -/
@[reducible] def undisturbedTimeouts : Condition P where
  call := sendsAndAnswers
  op s _ op := lastIsFirst s op

namespace Phases

theorem extends_timeKept (capacity : Nat) :
    Extends undisturbedTimeouts (Shared.initial capacity) (TimeKept : Shared P -> _ -> Prop) where
  initially := by
    refine ⟨?_, .inl rfl, ?_, ?_, ?_⟩
    · intro _
      rfl
    · intro _ never
      cases never
    · intro tid label gen phase tagged
      cases tagged
    · intro tid label tagged
      cases tagged
  enter := by
    intro config view tid call after _ kept admitted entered new
    have same : after.clock = config.shared.clock ∧
        after.hist.elapsed = config.shared.hist.elapsed := by
      cases call <;> simp only [enter] at entered <;> grind [Shared.clock]
    refine kept.still ?_ same.1 same.2 ?_ ?_
    · rintro _ ⟨rfl⟩
      rcases admitted with ⟨_, noPause, noResume⟩
      cases call <;> simp_all [firstLabel, Role.kind, kindOf]
    · intro label gen phase tagged
      rw [new] at tagged
      cases tagged
    · rintro _ gen phase ⟨rfl⟩ pumps
      cases call with
      | messagePump | pumpLoop _ _ _ _ =>
        cases pumps
        trivial
      | _ => cases pumps
  occur := by
    intro pre view event after _ kept arose
    rcases occur_cases arose with ⟨_, timer, fired, known, fires, rfl⟩ | ⟨_, _, _, rfl⟩
    · exact kept.fire known fires
    · exact ⟨kept.single, kept.pending, kept.tick, kept.stages, kept.callers⟩
  execute := by
    intro pre view tid label op choice ans after onward alive kept tagged move
      _ exec
    exact execute_timeKept alive kept tagged move exec
  finish := by
    intro pre view tid label _ kept tagged left
    refine kept.still ?_ rfl rfl ?_ ?_
    · intro _ never
      cases never
    · intro label' gen phase tagged' pumps busy
      rw [tagged] at tagged'
      cases tagged'
      rcases left.2 with role | role | role | role | role | role | ⟨generation', role⟩
      all_goals
        rw [role] at pumps
        cases pumps
      cases busy
    · intro _ _ _ never
      cases never

end Phases

namespace Blame

/-- A timeout is reported for the entry that the goroutine has taken out in its timer
arm.  The abstract state is that entry. -/
def allowed : Op P -> Option (Entry P) -> Prop
  | .onRequestCancel owner _ _ err, blamed => err.marker = requestTimeoutMarker -> blamed = some owner
  | _, _ => True

def next : (op : Op P) -> Option (Entry P) -> Res P op -> Option (Entry P) -> Prop
  | .popIf .timeout _, _, some front, onward => onward = some front
  | .select _ _, _, _, onward => onward = none
  | _, blamed, _, onward => onward = blamed

def accord : Protocol (Op P) (Res P) (Routine P) (Option (Entry P)) where
  fits _ _ := True
  allowed := allowed
  next := next

def entry : Routine P -> Option (Entry P) -> Prop := fun _ _ => True

/-- Everything but the report of a timeout. -/
def unblaming : Op P -> Prop
  | .onRequestCancel _ _ _ err => err.marker ≠ requestTimeoutMarker
  | _ => True

theorem permits_unblaming : Permits (unblaming : Op P -> Prop) where
  neutral := by
    intro op neutral
    cases op with
    | onRequestCancel => cases neutral
    | _ => trivial
  reports := fun _ _ _ _ other => other

variable {opts : Settings} {call : Routine P} {α : Type}

open Program

theorem keeps_of_unblaming {prog : Prog P α} (uses : prog.Uses unblaming) :
    prog.Keeps accord call fun _ => True := by
  refine keeps_of_uses (fun _ _ => trivial) ?_ (fun _ _ _ _ _ _ _ => trivial) uses
  intro op state unblaming _
  cases op with
  | onRequestCancel owner requestID request err => exact fun timedOut => absurd timedOut unblaming
  | _ => trivial

/-- The timer arm reports what it has popped. -/
theorem keeps_cancelIfOwned (requestID : String) (request : Option P) (err : OcppError) :
    (cancelIfOwned opts .timeout requestID request (return err)).Keeps accord call
      fun _ => True := by
  refine fun blamed _ => ⟨trivial, trivial, ?_⟩
  intro popped onward moved
  cases popped with
  | none => exact ⟨trivial, trivial⟩
  | some popped =>
    have named : onward = some popped := moved
    subst named
    refine ⟨trivial, trivial, ?_⟩
    rintro _ _ rfl
    refine ⟨trivial, trivial, ?_⟩
    rintro _ _ rfl
    simp only [bind_done, fireRequestCancel]
    split
    · exact ⟨trivial, fun _ => rfl, fun _ _ _ => ⟨trivial, trivial⟩⟩
    · exact ⟨trivial, trivial⟩

theorem keeps_pumpLoop (reqCh : Option Nat) (doneC : Nat) (rdy : Bool) (pending : PumpPending P) :
    (pumpLoop opts reqCh doneC rdy pending).Keeps accord call fun _ => True := by
  have serves : Serves opts fun _ (prog : Prog P _) => prog.Keeps accord call fun _ => True :=
    permits_unblaming.serves (composes_keeps fun _ _ => trivial) fun _ _ => keeps_of_unblaming
  have steps (op : Op P) (stepping : op.stepping = true) :
      (Program.act op .done).Keeps accord call fun _ => True := by
    refine keeps_of_unblaming ⟨?_, fun _ => trivial⟩
    cases op with
    | onRequestCancel => cases stepping
    | _ => trivial
  refine good_pumpLoop serves steps (good_dispatchNextRequest serves steps ?_ ?_)
    (good_timeoutArm serves fun _ _ => keeps_cancelIfOwned _ _ _) reqCh doneC rdy pending
  · exact fun _ _ => keeps_of_unblaming ⟨trivial, fun _ => trivial⟩
  · intro requestID request failure
    apply keeps_of_unblaming
    exact uses_cancelIfOwned permits_unblaming _ _ _ fun _ => uses_fireRequestCancel transport_ne_timeout

theorem obeys_body (routine : Routine P) (state : Option (Entry P)) :
    (body opts routine).Obeys accord routine (cont entry (fun _ => True)) state := by
  have kept : (body opts routine).Keeps accord routine fun _ => True := by
    cases routine with
    | pumpLoop reqCh doneC rdy pending => exact keeps_pumpLoop reqCh doneC rdy pending
    | _ => exact keeps_of_unblaming (uses_caller permits_unblaming _ nofun fun _ _ => trivial)
  exact (kept state trivial).mono fun _ _ _ => continuation_of_free (fun _ _ => trivial) _ _

end Blame

/-! ## The result -/

/-- A request that was reported as timed out had been written, and it was pending when its
timer elapsed. -/
def HonestTimeouts (s : Shared P) : Prop :=
  ∀ notification, notification ∈ s.hist.notifications -> notification.outcome.timedOut ->
    notification.owner ∈ s.hist.writes ∧
      notification.elapsed = some notification.owner.uniqueId

/-- What the timer arm pops has been written, and was pending at the tick. -/
def blamesRightly : Condition P where
  call _ _ := True
  op s tid op :=
    match op with
    | .popIf .timeout requestId => ∀ front, s.requestQueue.elements.head? = some front ->
        front.isRequest requestId = true ->
        front ∈ s.hist.writes ∧ s.hist.elapsed tid = some front.uniqueId
    | _ => True

/-- Under the condition, the timer arm pops the request whose timer has elapsed. -/
theorem blamesRightly_of_undisturbed {opts : Settings} {capacity : Nat}
    {config : Configuration P}
    (reached : (system opts).Reachable undisturbedTimeouts (Shared.initial capacity) config) :
    (system opts).Reachable blamesRightly (Shared.initial capacity) config := by
  apply reached.refine fun _ _ _ _ => trivial
  intro config tid content op reached found next admitted
  rcases (Phases.extends_timeKept capacity).reachable (fun _ _ admitted => admitted.1) reached with
    ⟨view, describes, _, kept⟩
  rcases describes.tagged tid content found with ⟨label, tagged, obeys⟩
  have legal : Phases.allowed op label := obeys.allowed next
  cases op with
  | popIf site requestId =>
    cases site with
    | timeout =>
      intro front head matched
      have last : config.shared.hist.writes.getLast? = some front :=
        admitted front head matched
      refine ⟨mem_of_mem_getLast? last, ?_⟩
      have move := Phases.move_of_allowed legal none
      generalize label.after _ _ = onward at move
      cases move with
      | caller step =>
        cases step with
        | timer role op ans pausing timing => cases timing
        | other role op ans unrelated => cases unrelated
      | pump step =>
        cases step with
        | popAtTick rdy =>
          rcases kept.stages tid _ _ _ tagged rfl with ⟨_, pending, received, newest⟩
          have named : pending = front.uniqueId := by
            simpa [Shared.clock, last] using newest.symm
          rw [received, named]
        | other phase op ans unrelated => cases unrelated
    | _ => trivial
  | _ => trivial

namespace Blame

/-- What a goroutine will report as timed out, and what has been reported. -/
structure Invariant (s : Shared P) (view : Nat -> Option (Option (Entry P))) : Prop where
  blamed : ∀ tid entry, view tid = some (some entry) ->
    entry ∈ s.hist.writes ∧ s.hist.elapsed tid = some entry.uniqueId
  honest : HonestTimeouts s

variable {pre after : Shared P} {view : Nat -> Option (Option (Entry P))} {tid : Nat}
  {blamed onward : Option (Entry P)} {choice : Choice} {op : Op P}
  {ans : Res P op}

variable {content : Option (Option (Entry P))}

/-- The history grows, and a goroutine remembers its tick until its next select. -/
theorem Invariant.change (inv : Invariant pre view)
    (writes : ∀ entry, entry ∈ pre.hist.writes -> entry ∈ after.hist.writes)
    (elapsed : ∀ other, other ≠ tid -> after.hist.elapsed other = pre.hist.elapsed other)
    (own : ∀ entry, content = some (some entry) ->
      entry ∈ after.hist.writes ∧ after.hist.elapsed tid = some entry.uniqueId)
    (notifications : ∀ notification, notification ∈ after.hist.notifications ->
      notification ∈ pre.hist.notifications ∨ (notification.outcome.timedOut ->
        notification.owner ∈ after.hist.writes ∧
          notification.elapsed = some notification.owner.uniqueId)) :
    Invariant after (update view tid content) where
  blamed := by
    intro other entry tagged
    rcases tagged_of_update tagged with ⟨rfl, known⟩ | ⟨apart, known⟩
    · exact own entry known
    · rw [elapsed other apart]
      exact ⟨writes entry (inv.blamed other entry known).1,
        (inv.blamed other entry known).2⟩
  honest := by
    intro notification mem timedOut
    rcases notifications notification mem with old | new
    · exact ⟨writes _ (inv.honest notification old timedOut).1,
        (inv.honest notification old timedOut).2⟩
    · exact new timedOut

/-- The operations that neither write, nor report, nor receive a tick. -/
def silent : Op P -> Bool
  | .write _ _ | .onRequestCancel _ _ _ _ | .completed _ _ | .select _ _ => false
  | _ => true

theorem history_of_execute (exec : execute tid op choice pre = some (ans, after))
    (quiet : silent op = true) :
    after.hist.writes = pre.hist.writes ∧ after.hist.elapsed = pre.hist.elapsed ∧
      after.hist.notifications = pre.hist.notifications := by
  cases op with
  | write | onRequestCancel | completed | select => cases quiet
  | _ =>
    simp only [execute, Option.map_eq_some_iff, Option.bind_eq_some_iff, bind] at exec
    grind

/-- A goroutine that keeps its abstract state. -/
theorem Invariant.still (inv : Invariant pre view)
    (same : after.hist.writes = pre.hist.writes ∧
      after.hist.elapsed = pre.hist.elapsed ∧
      after.hist.notifications = pre.hist.notifications)
    (own : ∀ entry, content = some (some entry) ->
      entry ∈ pre.hist.writes ∧ pre.hist.elapsed tid = some entry.uniqueId) :
    Invariant after (update view tid content) := by
  rcases same with ⟨writes, elapsed, notifications⟩
  apply inv.change
  · rw [writes]
    exact fun _ mem => mem
  · rw [elapsed]
    exact fun _ _ => rfl
  · rwa [writes, elapsed]
  · rw [notifications]
    exact fun _ mem => .inl mem

/-- One operation of a goroutine. -/
theorem execute_invariant (inv : Invariant pre view)
    (tagged : view tid = some blamed) (legal : allowed op blamed)
    (admitted : blamesRightly.op pre tid op)
    (exec : execute tid op choice pre = some (ans, after)) :
    ∃ onward, next op blamed ans onward ∧
      Invariant after (update view tid (some onward)) := by
  have own : ∀ entry, some blamed = some (some entry) ->
      entry ∈ pre.hist.writes ∧ pre.hist.elapsed tid = some entry.uniqueId := by
    rintro entry same
    cases same
    exact inv.blamed tid entry tagged
  cases op with
  | write written data =>
    refine ⟨blamed, rfl, ?_⟩
    cases choice with
    | network failure =>
      cases exec
      apply inv.change
      · exact fun _ mem => mem_append_left _ mem
      · exact fun _ _ => rfl
      · exact fun entry same => ⟨mem_append_left _ (own entry same).1, (own entry same).2⟩
      · exact fun _ mem => .inl mem
    | _ => cases exec
  | completed owner requestID =>
    refine ⟨blamed, rfl, ?_⟩
    cases exec
    apply inv.change
    · exact fun _ mem => mem
    · exact fun _ _ => rfl
    · exact own
    · intro notification mem
      rcases mem_append.mp mem with old | new
      · exact .inl old
      · rw [mem_singleton.mp new]
        exact .inr False.elim
  | onRequestCancel owner requestID request err =>
    refine ⟨blamed, rfl, ?_⟩
    cases exec
    apply inv.change
    · exact fun _ mem => mem
    · exact fun _ _ => rfl
    · exact own
    · intro notification mem
      rcases mem_append.mp mem with old | new
      · exact .inl old
      · rw [mem_singleton.mp new]
        exact .inr fun timedOut => own owner (congrArg some (legal timedOut.2))
  | select reqCh pendingDone =>
    refine ⟨none, rfl, ?_⟩
    rcases execute_select exec with ⟨_, _, _, _, rfl⟩ | ⟨_, _, _, _, _, rfl⟩ | ⟨_, _, rfl⟩ |
      ⟨_, _, _, _, _, rfl⟩
    · exact inv.still ⟨rfl, rfl, rfl⟩ nofun
    · apply inv.change
      · exact fun _ mem => mem
      · exact fun _ apart => update_of_ne apart ..
      · exact nofun
      · exact fun _ mem => .inl mem
    · exact inv.still ⟨rfl, rfl, rfl⟩ nofun
    · exact inv.still ⟨rfl, rfl, rfl⟩ nofun
  | popIf site requestId =>
    have same := history_of_execute exec rfl
    by_cases timeout : site = .timeout
    · subst timeout
      cases ans with
      | none => exact ⟨blamed, rfl, inv.still same own⟩
      | some popped =>
        refine ⟨some popped, rfl, inv.still same ?_⟩
        rintro entry same
        cases same
        simp only [execute] at exec
        split at exec
        · rename_i found
          cases exec
          rcases FIFOClientQueue.popIf_eq_some found with ⟨shape, matched⟩
          exact admitted popped (by rw [shape]; rfl) matched
        · cases exec
    · refine ⟨blamed, ?_, inv.still same own⟩
      cases site with
      | timeout => exact absurd rfl timeout
      | _ => rfl
  | _ => exact ⟨blamed, rfl, inv.still (history_of_execute exec rfl) own⟩

theorem verified (opts : Settings) (capacity : Nat) :
    Verified (system opts) blamesRightly (Shared.initial capacity : Shared P) accord entry
      (fun _ => True) Invariant where
  body := fun routine state _ => obeys_body routine state
  initially := ⟨fun _ _ never => (by cases never), fun _ never => (by cases never)⟩
  enter := by
    intro config view call shared _ _ inv entered _
    refine ⟨none, trivial, inv.still ?_ nofun⟩
    rcases (enter_frame entered).2 with ⟨calls, hist⟩
    rw [hist]
    exact ⟨rfl, rfl, rfl⟩
  occur := by
    intro pre view event after inv arose
    have hist := (occur_frame arose).2
    exact ⟨hist ▸ inv.blamed, fun notification => hist ▸ inv.honest notification⟩
  execute := by
    intro pre view tid state op choice ans after inv tagged legal admitted
      exec
    exact execute_invariant inv tagged legal admitted exec
  finish := by
    intro shared view tid state inv _ _
    exact inv.still ⟨rfl, rfl, rfl⟩ nofun

end Blame

/-- Under the condition, a request is reported as timed out only if it had been written and
was pending when its timer elapsed. -/
theorem timeouts_honest (opts : Settings) (capacity : Nat) {config : Configuration P}
    (reached : (system opts).Reachable undisturbedTimeouts (Shared.initial capacity) config) :
    HonestTimeouts config.shared := by
  rcases (Blame.verified opts capacity).reachable (blamesRightly_of_undisturbed reached) with
    ⟨view, _, inv⟩
  exact inv.honest

instance [DecidableEq P] (s : Shared P) : Decidable (HonestTimeouts s) :=
  inferInstanceAs (Decidable (∀ notification, notification ∈ s.hist.notifications -> _))

/-- The calls of `undisturbedTimeouts`, with well-formed bundles and distinct identifiers. -/
@[reducible] def timeoutsAndReplies : Condition P where
  call := sendsAndAnswers
  op := orderly.op

/-- The timer elapses for the first request.  The pump has found it pending when its reply is
handled; the front is the second request then, which waits to be written. -/
def replyBehindTick : Schedule Nat :=
  starting 0 ++ sending 2 0 (sample "1" 1) ++ dispatching 1 ++ sending 3 1 (sample "2" 2) ++
    [.occur .timerFires] ++ receive 1 .timer ++ proceed 1 1 ++ answering 4 "1" ++ proceed 1 5

/-- The second request is reported as timed out without having been written. -/
theorem timeout_of_unwritten :
    ∃ config, (system sampleOpts).Reachable timeoutsAndReplies
        (Shared.initial 10 : Shared Nat) config ∧ ¬ HonestTimeouts config.shared :=
  System.exists_reachable_of_replay _ replyBehindTick (by decide +kernel)

instance [DecidableEq P] (s : Shared P) (tid : Nat) (op : Op P) :
    Decidable (undisturbedTimeouts.op s tid op) := by
  induction op using Op.casesOn with
  | popIf site requestId =>
    induction site using Site.casesOn with
    | timeout =>
      exact inferInstanceAs (Decidable (∀ front, front ∈ s.requestQueue.elements.head? -> _))
    | _ => exact .isTrue trivial
  | _ => exact .isTrue trivial

/-- A request that gets no reply is reported as timed out. -/
theorem timeouts_honest_unanswered :
    ∃ config, (system sampleOpts).Reachable undisturbedTimeouts
        (Shared.initial 10 : Shared Nat) config ∧
      (∃ notification, notification ∈ config.shared.hist.notifications ∧
        notification.outcome.timedOut) ∧ HonestTimeouts config.shared :=
  System.exists_reachable_with
    (starting 0 ++ sending 2 0 (sample "1" 1) ++ dispatching 1 ++ sending 3 1 (sample "2" 2) ++
      [.occur .timerFires] ++ receive 1 .timer ++ proceed 1 6) (by decide +kernel)
    fun _ reached _ => timeouts_honest sampleOpts 10 reached

end ClientDispatcher
end OcppGo
