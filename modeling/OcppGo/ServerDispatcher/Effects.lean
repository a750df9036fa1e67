import OcppGo.ServerDispatcher.Code

namespace OcppGo
namespace ServerDispatcher

open Interleaving Ocppj Option

variable {P : Type} {tid : Nat} {choice : Choice} {pre after : Shared P}

/-- The state after an operation, without its answer. -/
theorem state_of_execute {op : Op P} {ans : Res P op}
    (exec : execute tid op choice pre = some (ans, after)) :
    (execute tid op choice pre).map Prod.snd = some after := by
  rw [exec]
  rfl

/-- A watcher only looks. -/
theorem execute_watch {watched : Watch} {ans : Watched}
    (exec : execute tid (.watch watched) choice pre = some (ans, after)) :
    after = pre := by
  cases choice with
  | arm arm =>
    rcases map_eq_some_iff.mp exec with ⟨_, _, same⟩
    exact (congrArg Prod.snd same).symm
  | _ => cases exec

/-- The operations that start or stop the dispatcher or use the ready channel. -/
@[reducible] def Op.steers : Op P -> Bool
  | .assignStarted | .assignStopped | .goMessagePump | .sendReady _ | .select _ => true
  | _ => false

theorem control_of_execute {op : Op P} {ans : Res P op}
    (exec : execute tid op choice pre = some (ans, after))
    (idle : op.steers = false) :
    after.running = pre.running ∧ after.gen = pre.gen ∧
      after.stoppedC = pre.stoppedC ∧ after.launched = pre.launched ∧
      after.readyForDispatch = pre.readyForDispatch := by
  cases op with
  | assignStarted | assignStopped | goMessagePump | sendReady | select => cases idle
  | watch watched => simp [execute_watch exec]
  | _ =>
    have state := state_of_execute exec
    simp only [execute, map_map, map_eq_some_iff] at state
    grind [makeContext]

/-- Everything the select statement of the pump can do. -/
inductive Receives (reqCh : Nat) (pre : Shared P) : Selected -> Shared P -> Prop where
  | stopped (closed : pre.stoppedC pre.gen = true) :
      Receives reqCh pre .stopped pre
  | request (req : ServerDispatchRequest) (rest : List ServerDispatchRequest)
      (first : pre.requestChannel reqCh = req :: rest) :
      Receives reqCh pre (.request req)
        { pre with requestChannel := Function.update pre.requestChannel reqCh rest }
  | timeout (token : ServerTimeoutToken) (rest : List ServerTimeoutToken)
      (first : pre.timerC pre.gen = token :: rest) :
      Receives reqCh pre (.timeout token)
        { pre with timerC := Function.update pre.timerC pre.gen rest }
  | ready (token : ServerReadyToken) (first : pre.readyForDispatch = some token) :
      Receives reqCh pre (.ready token) { pre with readyForDispatch := none }
  | cancel (token : ServerCancelToken) (rest : List ServerCancelToken)
      (first : pre.cancelC pre.gen = token :: rest) :
      Receives reqCh pre (.cancel token)
        { pre with cancelC := Function.update pre.cancelC pre.gen rest }

variable {reqCh : Nat} {selected : Selected}

theorem receives_of_select {arm : Arm} (taken : select reqCh arm pre = some (selected, after)) :
    Receives reqCh pre selected after := by
  cases arm with
  | stopped =>
    simp only [select, ite_none_right_eq_some, Option.some.injEq, Prod.mk.injEq] at taken
    rcases taken with ⟨closed, rfl, rfl⟩
    exact .stopped closed
  | request =>
    cases first : pre.requestChannel reqCh with
    | nil => simp [select, first] at taken
    | cons req rest =>
      simp only [select, first, Option.some.injEq, Prod.mk.injEq] at taken
      rcases taken with ⟨rfl, rfl⟩
      exact .request req rest first
  | timer =>
    cases first : pre.timerC pre.gen with
    | nil => simp [select, first] at taken
    | cons token rest =>
      simp only [select, first, Option.some.injEq, Prod.mk.injEq] at taken
      rcases taken with ⟨rfl, rfl⟩
      exact .timeout token rest first
  | ready =>
    cases first : pre.readyForDispatch with
    | none => simp [select, first] at taken
    | some token =>
      simp only [select, first, Option.some.injEq, Prod.mk.injEq] at taken
      rcases taken with ⟨rfl, rfl⟩
      exact .ready token first
  | cancel =>
    cases first : pre.cancelC pre.gen with
    | nil => simp [select, first] at taken
    | cons token rest =>
      simp only [select, first, Option.some.injEq, Prod.mk.injEq] at taken
      rcases taken with ⟨rfl, rfl⟩
      exact .cancel token rest first
  | _ => cases taken

section

variable (exec : execute tid (.select reqCh) choice pre = some (selected, after))
include exec

theorem execute_select :
    ∃ arm, choice = .arm arm ∧ select reqCh arm pre = some (selected, after) := by
  cases choice with
  | arm arm => exact ⟨arm, rfl, exec⟩
  | _ => cases exec

theorem receives_of_execute : Receives reqCh pre selected after := by
  rcases execute_select exec with ⟨arm, _, taken⟩
  exact receives_of_select taken

end

/-- The stop arm is the one that was chosen. -/
theorem choice_of_stopped
    (exec : execute tid (.select reqCh) choice pre = some (.stopped, after)) :
    choice = .arm .stopped := by
  rcases execute_select exec with ⟨arm, rfl, taken⟩
  cases arm with
  | stopped => rfl
  | request =>
    cases first : pre.requestChannel reqCh with
    | _ => simp [select, first] at taken
  | timer =>
    cases first : pre.timerC pre.gen with
    | _ => simp [select, first] at taken
  | ready =>
    cases first : pre.readyForDispatch with
    | _ => simp [select, first] at taken
  | cancel =>
    cases first : pre.cancelC pre.gen with
    | _ => simp [select, first] at taken
  | _ => cases taken

end ServerDispatcher
end OcppGo
