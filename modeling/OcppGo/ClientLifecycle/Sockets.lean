import OcppGo.ClientLifecycle.Reconnection

namespace OcppGo
namespace ClientLifecycle

open Function Interleaving Ocppj Option

/-!
# Every connection is in one place

A connection is dialled, published and started by one goroutine, and is then served by a
goroutine of its own until it is lost and the loss is reported.  In every state each connection
is with one goroutine at most, and a connection that is up is with somebody who has not reported
its loss.
-/

variable {P : Type}

/-! ## Where a connection is -/

/-- The part of the state that is about connections. -/
structure Wires where
  webSocket : Option Nat
  connected : Nat -> Bool
  made : Nat
  launched : List Nat
  notified : List Nat

def wires (s : Shared P) : Wires :=
  ⟨s.webSocket, fun sock => (s.sockets sock).connection, s.made, s.launched, s.hist.notified⟩

/-- What a goroutine has to do with a connection. -/
inductive Carry where
  | nothing
  | dialed (sock : Nat)
  | published (sock : Nat)
  /-- its own connection is up, or is being lost -/
  | waiting
  /-- its own connection is lost, and the handler not chosen yet -/
  | dropped
  deriving DecidableEq

/-- The new connection a goroutine has dialled and not started yet. -/
@[grind] def Carry.sock : Carry -> Option Nat
  | .dialed sock => some sock
  | .published sock => some sock
  | _ => none

/-- The goroutine of a connection still has to choose the handler. -/
@[grind] def Carry.unreported : Carry -> Bool
  | .waiting => true
  | .dropped => true
  | _ => false

def Stage.carry : Stage -> Carry
  | .dialed sock _ => .dialed sock
  | .published sock _ => .published sock
  | .waiting => .waiting
  | .dropped => .dropped
  | _ => .nothing

structure Place where
  agent : Agent
  carry : Carry
  deriving DecidableEq

def Label.place (label : Label) : Place := ⟨label.agent, label.stage.carry⟩

def places (view : Nat -> Option Label) (tid : Nat) : Option Place := (view tid).map Label.place

theorem places_some {view : Nat -> Option Label} {tid : Nat} {label : Label}
    (tagged : view tid = some label) : places view tid = some label.place := by
  simp [places, tagged]

theorem places_update (view : Nat -> Option Label) (tid : Nat) (label : Option Label) :
    places (update view tid label) =
      update (places view) tid (label.map Label.place) :=
  comp_update (Option.map Label.place) view tid label

/-- The goroutine is responsible for a connection that may be up. -/
@[grind] def Place.carries (place : Place) (sock : Nat) : Prop :=
  place.carry.sock = some sock ∨ place = ⟨.sock sock, .waiting⟩

/-- Somebody is responsible for the connection. -/
def Carried (launched : List Nat) (at' : Nat -> Option Place) (sock : Nat) : Prop :=
  sock ∈ launched ∨ ∃ tid place, at' tid = some place ∧ place.carries sock

/-- The connection is passed on, or stays where it is. -/
theorem Carried.update {launched launched' : List Nat} {at' : Nat -> Option Place} {tid : Nat}
    {sock : Nat} {onward : Place} (carried : Carried launched at' sock)
    (listed : sock ∈ launched -> sock ∈ launched' ∨ onward.carries sock)
    (passed : ∀ place, at' tid = some place -> place.carries sock ->
      sock ∈ launched' ∨ onward.carries sock) :
    Carried launched' (update at' tid (some onward)) sock := by
  have here (passed : sock ∈ launched' ∨ onward.carries sock) :
      Carried launched' (Function.update at' tid (some onward)) sock := by
    rcases passed with listed | carries
    · exact .inl listed
    · exact .inr ⟨tid, onward, update_self .., carries⟩
  rcases carried with mem | ⟨other, place, placed, carries⟩
  · exact here (listed mem)
  · by_cases same : other = tid
    · subst same
      exact here (passed place placed carries)
    · exact .inr ⟨other, place, by rwa [update_of_ne same], carries⟩

/-- Each connection is in one place. -/
@[grind cases] structure Connections (now : Wires) (at' : Nat -> Option Place) : Prop where
  launched : ∀ sock, sock ∈ now.launched -> sock < now.made
  serves : ∀ tid place sock, at' tid = some place -> place.agent = .sock sock ->
    sock < now.made
  dials : ∀ tid place sock, at' tid = some place ->
    place.carry.sock = some sock -> sock < now.made
  webSocket : ∀ sock, now.webSocket = some sock -> sock < now.made
  connected : ∀ sock, now.connected sock = true -> sock < now.made
  notified : ∀ sock, sock ∈ now.notified -> sock < now.made
  launchedOnce : now.launched.Nodup
  servesOnce : ∀ tid other place place' sock, at' tid = some place ->
    at' other = some place' -> place.agent = .sock sock -> place'.agent = .sock sock ->
    tid = other
  dialsOnce : ∀ tid other place place' sock, at' tid = some place ->
    at' other = some place' -> place.carry.sock = some sock ->
    place'.carry.sock = some sock -> tid = other
  servesNoDialled : ∀ tid other place place' sock, at' tid = some place ->
    at' other = some place' -> place.agent = .sock sock -> place'.carry.sock ≠ some sock
  launchedUnserved : ∀ tid place sock, sock ∈ now.launched ->
    at' tid = some place -> place.agent ≠ .sock sock
  launchedUndialled : ∀ tid place sock, sock ∈ now.launched ->
    at' tid = some place -> place.carry.sock ≠ some sock
  /-- a connection that is up is with somebody -/
  carried : ∀ sock, now.connected sock = true -> Carried now.launched at' sock
  unpublished : ∀ tid place sock, at' tid = some place ->
    place.carry = .dialed sock -> now.webSocket ≠ some sock
  launchedUnreported : ∀ sock, sock ∈ now.launched -> sock ∉ now.notified
  dialledUnreported : ∀ tid place sock, at' tid = some place ->
    place.carry.sock = some sock -> sock ∉ now.notified
  owned : ∀ tid place, at' tid = some place -> place.carry.unreported = true ->
    ∃ sock, place.agent = .sock sock
  servedUnreported : ∀ tid place sock, at' tid = some place ->
    place.agent = .sock sock -> place.carry.unreported = true -> sock ∉ now.notified

namespace Connections

variable {now : Wires} {at' : Nat -> Option Place} {tid : Nat} {agent : Agent} {sock : Nat}

section

variable (connections : Connections now at')
include connections

theorem dial (placed : at' tid = some ⟨agent, .nothing⟩) :
    Connections { now with
      connected := update now.connected now.made true
      made := now.made + 1 } (update at' tid (some ⟨agent, .dialed now.made⟩)) := by
  constructor
  case carried =>
    intro other up
    by_cases same : other = now.made
    · exact .inr ⟨tid, ⟨agent, .dialed now.made⟩, update_self .., .inl (same ▸ rfl)⟩
    · have pre : now.connected other = true := by simpa [update_of_ne same] using up
      apply (connections.carried other pre).update
      · exact .inl
      · grind -linarith
  all_goals grind -linarith

theorem publish (placed : at' tid = some ⟨agent, .dialed sock⟩) :
    Connections { now with webSocket := some sock }
      (update at' tid (some ⟨agent, .published sock⟩)) := by
  constructor
  case carried =>
    intro other up
    apply (connections.carried other up).update
    · exact .inl
    · grind -linarith
  all_goals grind -linarith

theorem run (placed : at' tid = some ⟨agent, .published sock⟩) :
    Connections { now with launched := sock :: now.launched }
      (update at' tid (some ⟨agent, .nothing⟩)) := by
  constructor
  case carried =>
    intro other up
    apply (connections.carried other up).update
    · grind -linarith
    · grind -linarith
  all_goals grind -linarith

theorem writePump (launched : sock ∈ now.launched) (new : at' tid = none) :
    Connections { now with launched := now.launched.erase sock }
      (update at' tid (some ⟨.sock sock, .waiting⟩)) := by
  constructor
  case carried =>
    intro other up
    apply (connections.carried other up).update
    · grind -linarith
    · grind -linarith
  all_goals grind -linarith

theorem drop (placed : at' tid = some ⟨.sock sock, .waiting⟩) :
    Connections { now with connected := update now.connected sock false }
      (update at' tid (some ⟨.sock sock, .dropped⟩)) := by
  constructor
  case carried =>
    intro other up
    have apart : other ≠ sock := by
      rintro rfl
      simp at up
    have pre : now.connected other = true := by simpa [update_of_ne apart] using up
    apply (connections.carried other pre).update
    · exact .inl
    · grind -linarith
  all_goals grind -linarith

theorem report (placed : at' tid = some ⟨.sock sock, .dropped⟩) :
    Connections { now with notified := sock :: now.notified }
      (update at' tid (some ⟨.sock sock, .nothing⟩)) := by
  constructor
  case carried =>
    intro other up
    apply (connections.carried other up).update
    · exact .inl
    · grind -linarith
  all_goals grind -linarith

/-- A goroutine that has nothing to do with a connection enters. -/
theorem enter (new : at' tid = none) (foreign : ∀ sock, agent ≠ .sock sock) :
    Connections now (update at' tid (some ⟨agent, .nothing⟩)) := by
  constructor
  case carried =>
    intro other up
    apply (connections.carried other up).update
    · exact .inl
    · grind -linarith
  all_goals grind -linarith

theorem finish (placed : at' tid = some ⟨agent, .nothing⟩) :
    Connections now (update at' tid none) := by
  constructor
  case carried =>
    intro other up
    rcases connections.carried other up with listed | ⟨place, carrier, found, carries⟩
    · exact .inl listed
    · have apart : place ≠ tid := by grind -linarith
      exact .inr ⟨place, carrier, by rwa [update_of_ne apart], carries⟩
  all_goals grind -linarith

end

end Connections

/-! ## The operations of the code -/

/-- The operations that change where a connection is. -/
def wiring : Op P -> Bool
  | .dial | .publish _ _ | .run _ | .dropConnection _ | .readDisconnectedHandler _ => true
  | _ => false

section

variable {pre after : Shared P} {tid : Nat} {choice : Choice} {op : Op P}
  {ans : Res P op} {view : Nat -> Option Label} {label onward : Label}

/-- A connection comes up or goes down. -/
theorem wires_connected (s : Shared P) (sock : Nat) (changed : Socket) :
    (fun other => (update s.sockets sock changed other).connection) =
      update (wires s).connected sock changed.connection :=
  comp_update Socket.connection s.sockets sock changed

theorem wires_of_execute (exec : execute tid op choice pre = some (ans, after))
    (idle : wiring op = false) : wires after = wires pre := by
  have flag (sock : Nat) changed
      (same : changed.connection = (pre.sockets sock).connection) :
      (fun other => (update pre.sockets sock changed other).connection) =
        fun other => (pre.sockets other).connection := by
    rw [wires_connected, same]
    exact update_eq_self ..
  cases op with
  | dial | publish | run | dropConnection | readDisconnectedHandler => cases idle
  | dispatcher inner =>
    rcases execute_dispatcher exec with ⟨_, _, _, rfl⟩
    rfl
  | close sock =>
    rcases execute_close exec with rfl | ⟨closed, same, rfl⟩
    · rfl
    · simp [wires, flag sock closed same]
  | closeDone sock =>
    cases exec
    simp [wires, flag]
  | awaitTeardown sock =>
    have outcome : after = pre ∨ ∃ changed : Socket,
        changed.connection = (pre.sockets sock).connection ∧
        after = { pre with sockets := update pre.sockets sock changed } := by
      simp only [execute] at exec
      grind -linarith
    rcases outcome with rfl | ⟨changed, same, rfl⟩
    · rfl
    · simp [wires, flag sock changed same]
  | begins call | returns call =>
    cases exec
    cases call <;> rfl
  | _ =>
    have same : after.webSocket = pre.webSocket ∧ after.sockets = pre.sockets ∧
        after.made = pre.made ∧ after.launched = pre.launched ∧
        after.hist.notified = pre.hist.notified := by
      simp only [execute] at exec
      grind -linarith
    simp [wires, same]

theorem carry_of_shift {stage onward : Stage} (shift : Shift stage op ans onward)
    (idle : wiring op = false) : onward.carry = stage.carry := by
  cases shift with
  | dials | redials | fails | publishes | runs | reruns | drops | pauses | reports | ignores =>
    cases idle
  | _ => rfl

section

variable (connections : Connections (wires pre) (places view))
include connections

/-- One operation of a goroutine. -/
theorem Connections.execute (tagged : view tid = some label)
    (move : Move label op ans onward)
    (exec : execute tid op choice pre = some (ans, after)) :
    Connections (wires after) (places (update view tid (some onward))) := by
  have placed := places_some tagged
  rw [places_update]
  by_cases idle : wiring op = false
  · have same : onward.place = label.place := by
      simp [Label.place, agent_of_move move, carry_of_shift move.shift idle]
    rwa [wires_of_execute exec idle, map_some, same, ← placed, update_eq_self]
  · cases move with
    | dials agent stage sock ready =>
      obtain ⟨⟨⟩, _⟩ | ⟨⟨⟩, rfl⟩ := execute_dial exec
      have nothing : stage.carry = .nothing := by rcases ready with rfl | ⟨_, rfl⟩ <;> rfl
      simp only [wires, wires_connected]
      simp only [Label.place, nothing] at placed
      exact connections.dial placed
    | fails agent stage ready =>
      obtain ⟨_, rfl⟩ | ⟨⟨⟩, _⟩ := execute_dial exec
      have same : (⟨agent, stage.undialed, false⟩ : Label).place = Label.place ⟨agent, stage, false⟩ := by
        rcases ready with rfl | ⟨_, rfl⟩ <;> rfl
      rwa [map_some, same, ← placed, update_eq_self]
    | publishes agent sock began =>
      cases exec
      cases began with
      | _ => exact connections.publish placed
    | runs agent sock began =>
      cases exec
      have nothing : (if began.isSome = true then Stage.reviving else .idle).carry = .nothing := by
        cases began <;> rfl
      simp only [map_some, Label.place, nothing]
      exact connections.run placed
    | drops sock =>
      cases exec
      simp only [wires, wires_connected]
      exact connections.drop placed
    | picks sock handler =>
      cases exec
      have nothing : (Stage.picked pre.onDisconnected).carry = .nothing := by
        rcases pre.onDisconnected with _ | handler | handler <;> rfl
      simp only [map_some, Label.place, nothing]
      exact connections.report placed
    | _ => exact absurd rfl idle

/-- A new goroutine. -/
theorem Connections.enters {call : Routine P}
    (entered : ClientLifecycle.enter call pre = some after) (new : view tid = none) :
    Connections (wires after) (places (update view tid (some (firstLabel call)))) := by
  have absent : places view tid = none := by simp [places, new]
  rw [places_update]
  rcases enter_cases entered with ⟨sock, rfl, launched, rfl⟩ | ⟨routine, dispatcher, rfl, _, _, _, _, _, rfl⟩ |
    ⟨agents, waits, reconnects, rfl⟩
  · exact connections.writePump launched absent
  · exact connections.enter absent (by simp [firstLabel, agentOf])
  · have place : (firstLabel call).place = ⟨agentOf call, .nothing⟩ := by
      cases call with
      | writePump sock => exact absurd rfl waits
      | reconnecting began owner => exact absurd rfl (reconnects began owner)
      | _ => rfl
    rw [map_some, place]
    apply connections.enter absent
    intro sock served
    rw [served] at agents
    rcases agents with never | never
    · cases never
    · cases never

/-- A goroutine that ends. -/
theorem Connections.leaves (tagged : view tid = some label) (left : leave label) :
    Connections (wires pre) (places (update view tid none)) := by
  have placed := places_some tagged
  have nothing : label.place = ⟨label.agent, .nothing⟩ := by
    rcases left.2 with idle | ⟨_, preparing⟩
    · simp [Label.place, idle, Stage.carry]
    · simp [Label.place, preparing, Stage.carry]
  rw [places_update]
  exact connections.finish (placed.trans (congrArg some nothing))

end

theorem connections_initial (capacity : Nat) :
    Connections (wires (Shared.initial capacity : Shared P)) (places (fun _ => none)) := by
  constructor <;> simp [wires, places, Shared.initial, History.initial]

end

theorem connections_keeps (guard : Condition P) (capacity : Nat) :
    Keeps guard (.initial capacity) (fun s view => Connections (wires s) (places view)) where
  initially := connections_initial capacity
  enter := fun _ _ _ _ _ _ connections _ entered new => connections.enters entered new
  occur := by
    intro pre view event after connections arose
    rcases occur_dispatcher arose with ⟨_, _, rfl⟩
    exact connections
  execute := fun _ _ _ _ _ _ _ _ _ connections tagged move _ exec =>
    connections.execute tagged move exec
  finish := fun _ _ _ _ connections tagged left => connections.leaves tagged left

end ClientLifecycle
end OcppGo
