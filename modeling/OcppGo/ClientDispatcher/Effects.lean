import OcppGo.ClientDispatcher.Code

namespace OcppGo
namespace ClientDispatcher

open Interleaving Ocppj Option

variable {P : Type} {tid : Nat} {choice : Choice} {pre after : Shared P}

/-! ## What the operations leave alone -/

variable {bundles : List (Nat × Entry P)}

theorem mem_without {bundle : Entry P} {other : Nat} :
    (other, bundle) ∈ without tid bundles <-> (other, bundle) ∈ bundles ∧ other ≠ tid := by
  simp [without]

theorem mem_of_mem_without {bundle : Nat × Entry P} (mem : bundle ∈ without tid bundles) :
    bundle ∈ bundles :=
  List.mem_of_mem_filter mem

/-- The operations that neither touch the queue nor leave a trace in the history. -/
def Op.quiet : Op P -> Bool
  | .push _ _ | .peek _ | .popIf _ _ | .drainAll | .init | .assignStarted | .select _ _
  | .write _ _ | .onRequestCancel _ _ _ _ | .completed _ _ | .ret _ _ | .retain _ => false
  | _ => true

theorem execute_quiet {op : Op P} {ans : Res P op}
    (exec : execute tid op choice pre = some (ans, after))
    (quiet : op.quiet = true) :
    after.requestQueue = pre.requestQueue ∧ after.hist = pre.hist := by
  cases op with
  | push | peek | popIf | drainAll | init | assignStarted | select | write | onRequestCancel
  | completed | ret | retain => cases quiet
  | _ =>
    simp only [execute, map_eq_some_iff, bind_eq_some_iff, bind] at exec
    grind

variable {reqCh pendingDone : Option Nat} {selected : Selected}

/-- Everything a select statement can do. -/
theorem execute_select
    (exec : execute tid (.select reqCh pendingDone) choice pre = some (selected, after)) :
    (∃ channel rest, reqCh = some channel ∧
      (pre.channels channel).receive = some (selected, rest) ∧
      after = { pre with channels := Function.update pre.channels channel rest }) ∨
    (∃ timer pending, pre.timer = some timer ∧ timer.tick = some pending ∧
      selected = .tick ∧ after = { pre with
        timer := some { timer with tick := none }
        hist := { pre.hist with
          elapsed := Function.update pre.hist.elapsed tid (some pending) } }) ∨
    (pre.readyForDispatch = true ∧ selected = .ready ∧
      after = { pre with readyForDispatch := false }) ∨
    (∃ context err, pendingDone = some context ∧ pre.contexts context = some err ∧
      selected = .canceled ∧ after = pre) := by
  cases choice with
  | proceed => cases exec
  | network failure => cases exec
  | arm arm =>
    cases arm with
    | request =>
      simp only [execute, select, bind_eq_some_iff, bind] at exec
      rcases exec with ⟨channel, known, ⟨received, rest⟩, receives, done⟩
      cases done
      exact .inl ⟨channel, rest, known, receives, rfl⟩
    | timer =>
      simp only [execute, select, bind_eq_some_iff, bind] at exec
      rcases exec with ⟨timer, known, pending, ticked, done⟩
      cases done
      exact .inr (.inl ⟨timer, pending, known, ticked, rfl, rfl⟩)
    | ready =>
      simp only [execute, select] at exec
      split at exec
      · rename_i ready
        cases exec
        exact .inr (.inr (.inl ⟨ready, rfl, rfl⟩))
      · cases exec
    | context =>
      simp only [execute, select, bind_eq_some_iff, bind] at exec
      rcases exec with ⟨context, known, err, finished, done⟩
      cases done
      exact .inr (.inr (.inr ⟨context, err, known, finished, rfl, rfl⟩))

/-- What is received from the request channel is a token or its end. -/
theorem RequestChannel.receive_cases {channel rest : RequestChannel}
    (received : channel.receive = some (selected, rest)) :
    (channel.token = true ∧ selected = .request ∧ rest = { channel with token := false }) ∨
    (channel.token = false ∧ channel.closed = true ∧ selected = .closed ∧ rest = channel) := by
  unfold RequestChannel.receive at received
  split at received
  · rename_i full
    cases received
    exact .inl ⟨full, rfl, rfl⟩
  · rename_i vacant
    split at received
    · rename_i closed
      cases received
      exact .inr ⟨by simpa using vacant, closed, rfl, rfl⟩
    · cases received

/-- The arm of a finished context is received only where one is awaited. -/
theorem execute_select_canceled
    (exec : execute tid (.select reqCh pendingDone) choice pre = some (.canceled, after))
    : pendingDone.isSome = true := by
  rcases execute_select exec with ⟨channel, rest, _, received, _⟩ | ⟨_, _, _, _, ⟨⟩, _⟩ |
    ⟨_, ⟨⟩, _⟩ | ⟨context, _, known, _⟩
  · rcases RequestChannel.receive_cases received with ⟨_, never, _⟩ | ⟨_, _, never, _⟩
    · cases never
    · cases never
  · rw [known]
    rfl

/-- The select statement leaves the queue alone and notes at most a tick. -/
theorem execute_select_frame
    (exec : execute tid (.select reqCh pendingDone) choice pre = some (selected, after)) :
    ∃ channels timer ready elapsed, after = { pre with
      channels := channels
      timer := timer
      readyForDispatch := ready
      hist := { pre.hist with elapsed := elapsed } } := by
  rcases execute_select exec with ⟨_, _, _, _, rfl⟩ | ⟨_, _, _, _, _, rfl⟩ | ⟨_, _, rfl⟩ |
    ⟨_, _, _, _, _, rfl⟩
  all_goals exact ⟨_, _, _, _, rfl⟩

variable {routine : Routine P}

/-- Everything a new goroutine can do. -/
theorem enter_cases (entered : enter routine pre = some after) :
    (∃ num req, routine = .sendRequest num req ∧ num = pre.hist.calls ∧
      after = { pre with hist := { pre.hist with calls := pre.hist.calls + 1 } }) ∨
    (routine = .messagePump ∧ 0 < pre.launched ∧
      after = { pre with launched := pre.launched - 1 }) ∨
    (routine ≠ .messagePump ∧ after = pre) := by
  cases routine with
  | sendRequest | messagePump =>
    simp only [enter] at entered
    grind
  | pumpLoop => cases entered
  | _ =>
    cases entered
    exact .inr (.inr ⟨by simp, rfl⟩)

/-- A new goroutine changes only counters. -/
theorem enter_frame (entered : enter routine pre = some after) :
    after.requestQueue = pre.requestQueue ∧
      ∃ calls, after.hist = { pre.hist with calls := calls } := by
  rcases enter_cases entered with ⟨_, _, _, _, rfl⟩ | ⟨_, _, rfl⟩ | ⟨_, rfl⟩
  all_goals exact ⟨rfl, _, rfl⟩

variable {event : Event}

/-- Everything an event of the environment can do. -/
theorem occur_cases (arose : occur event pre = some after) :
    (event = .timerFires ∧ ∃ timer fired, pre.timer = some timer ∧
      timer.fire pre.pendingRequestState.requestID = some fired ∧
      after = { pre with timer := some fired }) ∨
    (∃ id err, event = .contextFires id err ∧
      after = { pre with contexts := Function.update pre.contexts id (some err) }) := by
  cases event with
  | timerFires =>
    simp only [occur, bind_eq_some_iff, bind] at arose
    rcases arose with ⟨timer, known, fired, fires, done⟩
    exact .inl ⟨rfl, timer, fired, known, fires, (Option.some.inj done).symm⟩
  | contextFires id err =>
    simp only [occur] at arose
    grind

/-- Events of the environment reach neither the queue nor the history. -/
theorem occur_frame (arose : occur event pre = some after) :
    after.requestQueue = pre.requestQueue ∧ after.hist = pre.hist := by
  rcases occur_cases arose with ⟨_, _, _, _, _, rfl⟩ | ⟨_, _, _, rfl⟩
  all_goals exact ⟨rfl, rfl⟩

theorem timer_of_execute {op : Op P} {ans : Res P op}
    (exec : execute tid op choice pre = some (ans, after))
    (created : pre.timer.isSome = true) : after.timer.isSome = true := by
  cases op with
  | select reqCh pendingDone =>
    rcases execute_select exec with ⟨_, _, _, _, rfl⟩ | ⟨_, _, _, _, _, rfl⟩ | ⟨_, _, rfl⟩ |
      ⟨_, _, _, _, _, rfl⟩
    · exact created
    · rfl
    · exact created
    · exact created
  | _ =>
    simp only [execute, map_eq_some_iff, bind_eq_some_iff, bind] at exec
    grind

theorem timer_of_enter (entered : enter routine pre = some after) :
    after.timer = pre.timer := by
  rcases enter_cases entered with ⟨_, _, _, _, rfl⟩ | ⟨_, _, rfl⟩ | ⟨_, rfl⟩
  all_goals rfl

theorem timer_of_occur (arose : occur event pre = some after)
    (created : pre.timer.isSome = true) : after.timer.isSome = true := by
  rcases occur_cases arose with ⟨_, _, _, _, _, rfl⟩ | ⟨_, _, _, rfl⟩
  · rfl
  · exact created

end ClientDispatcher
end OcppGo
