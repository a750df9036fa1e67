import OcppGo.Ws.Server

namespace OcppGo
namespace Ws
namespace Server

open Interleaving Program

/-!
# How the programs of the server are composed

Most of what is said about all goroutines of the server concerns a few operations.  A property of
programs that sequencing keeps, that every other operation has and that the delivery of a message
has, is a property of every goroutine but `stopConnections`, which alone holds the mutex for longer.
-/

/-- The operations that are not looked at on their own. -/
def Op.simple : Op -> Bool
  | .messageHandler _ _ | .lockAll | .unlockAll => false
  | _ => true

/-- A property that is kept by composition. -/
structure Composed (opts : Settings) (motive : {α : Type} -> Prog α -> Prop) : Prop where
  done : ∀ {α : Type} (value : α), motive (.done value : Prog α)
  bind : ∀ {α β : Type} {prog : Prog α} {onward : α -> Prog β}, motive prog ->
    (∀ value, motive (onward value)) -> motive (prog >>= onward)
  step : ∀ op : Op, op.simple = true ->
    motive (.act op .done : Prog (Res op))
  message : ∀ sock id data, motive (handleMessage opts sock id data)

namespace Composed

variable {opts : Settings} {motive : {α : Type} -> Prog α -> Prop} {α : Type}

section

variable (composed : Composed opts motive)
include composed

theorem act {op : Op}
    {resume : Res op -> Prog α} (simple : op.simple = true)
    (goesOn : ∀ ans, motive (resume ans)) : motive (.act op resume) :=
  composed.bind (composed.step op simple) goesOn

/-- A program whose result is dropped. -/
theorem ending {prog : Prog α} (holds : motive prog) :
    motive (do let _ ← prog; return none : Prog (Option Routine)) :=
  composed.bind holds fun _ => composed.done none

theorem handleDisconnect (sock : Nat) (id : String) :
    motive (handleDisconnect opts sock id) := by
  have ends : motive (do decrementGate id; closeTeardown sock) :=
    composed.act rfl fun _ => composed.act rfl fun _ => composed.done ()
  refine composed.act rfl ?_
  intro current
  cases current with
  | false => exact ends
  | true =>
    refine composed.act rfl ?_
    intro superseded
    cases superseded with
    | true => exact ends
    | false =>
      simp only [bind_done, Bool.false_eq_true, if_false]
      split
      · exact composed.act rfl fun _ => composed.act rfl fun _ => ends
      · exact composed.act rfl fun _ => ends

/-- The functions of a socket. -/
theorem inSocket (sock : Nat) (id : String)
    (prog : Socket.Prog α) : motive (inSocket opts sock id prog) := by
  induction prog with
  | done value => exact composed.done value
  | act op resume ih =>
    have first : motive (handle opts sock id op) := by
      cases op with
      | onMessage data => exact composed.message sock id data
      | onClosed err => exact composed.handleDisconnect sock id
      | _ => exact composed.act rfl composed.done
    exact composed.bind first ih

theorem error (err : String) : motive (error err) :=
  composed.act rfl composed.done

theorem refused (sock : Nat) (err reason : String) : motive (refused sock err reason) :=
  composed.act rfl fun _ => composed.act rfl fun _ => composed.done false

theorem registerNewConnection (sock : Nat) (id : String) :
    motive (registerNewConnection opts sock id) := by
  refine composed.act rfl ?_
  intro verdict
  cases verdict with
  | stopping | transition | duplicate => exact composed.refused _ _ _
  | accepted => exact composed.done true
  | evict old =>
    apply composed.bind (composed.inSocket old id _)
    intro _
    refine composed.bind ?_ fun accepted => composed.act rfl fun _ => composed.done accepted
    refine composed.act rfl ?_
    intro torn
    cases torn with
    | false => exact composed.refused _ _ _
    | true =>
      refine composed.act rfl ?_
      intro verdict
      cases verdict with
      | accepted => exact composed.done true
      | _ => exact composed.refused _ _ _

theorem wsHandler (request : Request) : motive (wsHandler opts request) := by
  unfold Server.wsHandler
  split
  · exact composed.error _
  · next id _ =>
      split
      · split
        · refine composed.act rfl ?_
          intro outcome
          cases outcome with
          | some err => exact composed.error _
          | none =>
            simp only [bind_done]
            split
            · exact composed.error _
            · refine composed.act rfl fun sock => ?_
              apply composed.bind (composed.registerNewConnection sock id)
              intro accepted
              cases accepted with
              | false => exact composed.done ()
              | true =>
                apply composed.bind (composed.inSocket sock id _)
                intro _
                split
                · exact composed.act rfl composed.done
                · exact composed.done ()
        · exact composed.error _
      · exact composed.error _

theorem closeAll
    (sockets : List (Sigma fun _ : String => Nat)) : motive (closeAll opts sockets) := by
  induction sockets with
  | nil => exact composed.done ()
  | cons entry rest ih =>
    exact composed.bind (composed.inSocket entry.2 entry.1 _) fun _ => ih

/-- Every goroutine but `stopConnections` has the property. -/
theorem body {routine : Routine}
    (other : routine ≠ .stopConnections) : motive (body opts routine) := by
  cases routine with
  | stopConnections => exact absurd rfl other
  | start => exact composed.act rfl fun _ => composed.act rfl fun _ => composed.done none
  | shutdown =>
    refine composed.act rfl fun _ => composed.act rfl ?_
    intro outcome
    cases outcome with
    | some err =>
      exact composed.act rfl fun _ => composed.act rfl fun _ => composed.done none
    | none => exact composed.act rfl fun _ => composed.done none
  | stopConnection id closeErr =>
    refine composed.act rfl ?_
    intro present
    cases present with
    | none => exact composed.done none
    | some sock => exact composed.ending (composed.inSocket sock id _)
  | write id data =>
    refine composed.act rfl ?_
    intro present
    cases present with
    | none => exact composed.done none
    | some sock => exact composed.ending (composed.inSocket sock id _)
  | wsHandler request => exact composed.ending (composed.wsHandler request)
  | sock sock id inner =>
    exact composed.bind (composed.inSocket sock id _) fun _ => composed.done _

/-- And `stopConnections` has it when the two operations on the mutex have. -/
theorem stopConnections (locks : motive lockAll)
    (unlocks : motive unlockAll) : motive (Server.body opts .stopConnections) :=
  composed.ending (composed.bind locks fun sockets =>
    composed.bind (composed.closeAll sockets) fun _ => unlocks)

end

end Composed

end Server
end Ws
end OcppGo
