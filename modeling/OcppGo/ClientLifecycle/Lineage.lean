import OcppGo.ClientLifecycle.Cleanup

namespace OcppGo
namespace ClientLifecycle

open Function Interleaving Ocppj Option

/-!
# One connection after the other

A start dials a connection; when it is lost, its goroutine dials the next one.  As long as calls
do not overlap and a start begins only when every connection made so far has ended, there is at
most one connection at a time, in the hands of one goroutine, and it is the one the websocket
client knows.
-/

variable {P : Type}

/-- The websocket client is used through `ocppj.Client`, and its calls do not overlap. -/
def callsThroughClient (config : Configuration P) (routine : Routine P) : Prop :=
  callsAlone config routine ∧ agentOf routine ≠ .client
  deriving Decidable

/-- Every connection made so far has ended, with the reconnections that followed its loss. -/
def AllEnded (s : Shared P) : Prop := ∀ sock, sock < s.made -> sock ∈ s.hist.ended

instance (s : Shared P) : Decidable (AllEnded s) :=
  inferInstanceAs (Decidable (∀ sock, sock < s.made -> sock ∈ s.hist.ended))

/-- `Start` or `StartWithRetries` begins. -/
def Op.starts : Op P -> Bool
  | .begins .start => true
  | .begins .startWithRetries => true
  | _ => false

/-- A start begins only when every connection made so far has ended. -/
def startsAfterEnd (s : Shared P) (op : Op P) : Prop :=
  op.starts = true -> AllEnded s

namespace Lineage

/-- The goroutine is in charge of the connection, or of making one. -/
@[grind] def Stage.active : Stage -> Bool
  | .begun | .preparing | .dialed _ _ | .published _ _ | .waiting | .dropped | .pausing
  | .delivering _ | .reported | .down | .retrying _ | .attempting _ | .aborting _ => true
  | _ => false

/-- A start that has not handed its connection over. -/
@[grind] def Stage.starting : Stage -> Bool
  | .begun => true
  | .preparing => true
  | .dialed _ began => began.isNone
  | .published _ began => began.isNone
  | _ => false

structure Line where
  webSocket : Option Nat
  made : Nat
  launched : List Nat
  ended : List Nat

def line (s : Shared P) : Line := ⟨s.webSocket, s.made, s.launched, s.hist.ended⟩

structure Post where
  agent : Agent
  carry : Carry
  active : Bool
  deriving DecidableEq

def post (label : Label) : Post := ⟨label.agent, label.stage.carry, Stage.active label.stage⟩

def posts (view : Nat -> Option Label) (tid : Nat) : Option Post := (view tid).map post

theorem posts_some {view : Nat -> Option Label} {tid : Nat} {label : Label}
    (tagged : view tid = some label) : posts view tid = some (post label) := by
  simp [posts, tagged]

theorem posts_update (view : Nat -> Option Label) (tid : Nat) (label : Option Label) :
    posts (update view tid label) =
      update (posts view) tid (label.map post) :=
  comp_update (Option.map post) view tid label

/-- There is one connection at most. -/
@[grind cases] structure Single (now : Line) (at' : Nat -> Option Post) : Prop where
  carrying : ∀ tid post, at' tid = some post -> post.carry ≠ .nothing ->
    post.active = true
  once : ∀ tid other post post', at' tid = some post -> at' other = some post' ->
    post.active = true -> post'.active = true -> tid = other
  alone : ∀ tid post sock, sock ∈ now.launched -> at' tid = some post ->
    post.active = false
  launchedOne : ∀ sock other, sock ∈ now.launched -> other ∈ now.launched -> sock = other
  ended : ∀ sock, sock ∈ now.ended -> sock < now.made
  servedUnended : ∀ tid post sock, at' tid = some post -> post.active = true ->
    post.agent = .sock sock -> sock ∉ now.ended
  launchedUnended : ∀ sock, sock ∈ now.launched -> sock ∉ now.ended
  dialledUnended : ∀ tid post sock, at' tid = some post ->
    post.carry.sock = some sock -> sock ∉ now.ended
  /-- the websocket client knows the connection -/
  launchedNewest : ∀ sock, sock ∈ now.launched -> now.webSocket = some sock
  publishedNewest : ∀ tid post sock, at' tid = some post ->
    post.carry = .published sock -> now.webSocket = some sock
  waitingNewest : ∀ tid post sock, at' tid = some post -> post.carry = .waiting ->
    post.agent = .sock sock -> now.webSocket = some sock

namespace Single

variable {now : Line} {at' : Nat -> Option Post} {tid : Nat} {agent : Agent} {carry : Carry}
  {sock : Nat} {active active' : Bool}

section

variable (single : Single now at')
include single

/-- A start begins when everything has ended. -/
theorem begins (foreign : ∀ sock, agent ≠ .sock sock)
    (ended : ∀ sock, sock < now.made -> sock ∈ now.ended)
    (launched : ∀ sock, sock ∈ now.launched -> sock < now.made)
    (served : ∀ tid post, at' tid = some post -> post.active = true ->
      ∃ sock, sock < now.made ∧ post.agent = .sock sock) :
    Single now (update at' tid (some ⟨agent, .nothing, true⟩)) := by
  have nobody : ∀ tid post, at' tid = some post -> post.active = false := by
    intro tid post found
    cases busy : post.active with
    | false => rfl
    | true =>
      rcases served tid post found busy with ⟨sock, known, agent⟩
      exact absurd (ended sock known) (single.servedUnended tid post sock found busy agent)
  constructor <;> grind -linarith

theorem dial (placed : at' tid = some ⟨agent, .nothing, true⟩) :
    Single { now with made := now.made + 1 }
      (update at' tid (some ⟨agent, .dialed now.made, true⟩)) := by
  constructor <;> grind -linarith

theorem publish (placed : at' tid = some ⟨agent, .dialed sock, true⟩) :
    Single { now with webSocket := some sock }
      (update at' tid (some ⟨agent, .published sock, true⟩)) := by
  constructor <;> grind -linarith

theorem run (placed : at' tid = some ⟨agent, .published sock, true⟩) :
    Single { now with launched := sock :: now.launched }
      (update at' tid (some ⟨agent, .nothing, false⟩)) := by
  constructor <;> grind -linarith

theorem writePump (launched : sock ∈ now.launched) (distinct : now.launched.Nodup) :
    Single { now with launched := now.launched.erase sock }
      (update at' tid (some ⟨.sock sock, .waiting, true⟩)) := by
  constructor <;> grind -linarith

theorem drop (placed : at' tid = some ⟨.sock sock, .waiting, true⟩) :
    Single now (update at' tid (some ⟨.sock sock, .dropped, true⟩)) := by
  constructor <;> grind -linarith

theorem report (placed : at' tid = some ⟨.sock sock, .dropped, true⟩) :
    Single now (update at' tid (some ⟨.sock sock, .nothing, true⟩)) := by
  constructor <;> grind -linarith

/-- A goroutine goes on without a change to its connection. -/
theorem goesOn (placed : at' tid = some ⟨agent, carry, active⟩)
    (kept : active' = true -> active = true) (carries : carry ≠ .nothing -> active' = true) :
    Single now (update at' tid (some ⟨agent, carry, active'⟩)) := by
  constructor <;> grind -linarith

theorem ends (known : sock < now.made)
    (servesOnce : ∀ other post, at' other = some post -> post.agent = .sock sock ->
      other = tid)
    (undialled : ∀ other post, at' other = some post -> post.carry.sock ≠ some sock)
    (unlaunched : sock ∉ now.launched) :
    Single { now with ended := sock :: now.ended }
      (update at' tid (some ⟨.sock sock, .nothing, false⟩)) := by
  constructor <;> grind -linarith

theorem enter : Single now (update at' tid (some ⟨agent, .nothing, false⟩)) := by
  constructor <;> grind -linarith

theorem finish : Single now (update at' tid none) := by
  constructor <;> grind -linarith

end

end Single

/-! ## The operations of the code -/

/-- Who takes part: one call at a time, no direct call of the websocket client, and goroutines of
the dispatcher that keep to it. -/
structure Company (view : Nat -> Option Label) : Prop where
  one : OneCaller view
  client : ∀ tid label, view tid = some label -> label.agent ≠ .client
  dispatcher : ∀ tid label, view tid = some label -> label.agent = .dispatcher ->
    label.stage = .idle
  starters : ∀ tid label, view tid = some label ->
    Stage.starting label.stage = true -> label.agent = .caller

section

variable {pre after : Shared P} {view : Nat -> Option Label} {tid : Nat} {choice : Choice}
  {op : Op P} {ans : Res P op} {label onward : Label}

variable {stage : Stage}

theorem active_of_carry (carries : stage.carry ≠ .nothing) : Stage.active stage = true := by
  cases stage with
  | dialed | published | waiting | dropped => rfl
  | _ => exact absurd rfl carries

variable {onward' : Stage}

theorem idle_of_shift (shift : Shift stage op ans onward') (idle : stage = .idle) :
    onward' = .idle := by
  cases shift with
  | stays => exact idle
  | _ => cases idle

theorem starting_of_shift (shift : Shift stage op ans onward')
    (starting : Stage.starting onward' = true) :
    Stage.starting stage = true ∨ op.starts = true := by
  cases shift with
  | stays | publishes => exact .inl starting
  | startBegins | retriesBegin => exact .inr rfl
  | _ => first | exact .inl rfl | cases starting

theorem active_of_starting (starting : Stage.starting stage = true) :
    Lineage.Stage.active stage = true := by
  cases stage with
  | begun | preparing | dialed | published => rfl
  | _ => cases starting

/-- A start is a call of `ocppj.Client`. -/
theorem caller_of_starts (move : Move label op ans onward)
    (starts : op.starts = true) : label.agent = .caller := by
  cases move with
  | begins => rfl
  | _ => cases starts

section

variable (company : Company view)
include company

theorem Company.relabel {content : Option Label} (one : OneCaller (update view tid content))
    (fresh : ∀ label, content = some label ->
      label.agent ≠ .client ∧ (label.agent = .dispatcher -> label.stage = .idle) ∧
      (Stage.starting label.stage = true -> label.agent = .caller)) :
    Company (update view tid content) := by
  refine ⟨one, ?_, ?_, ?_⟩
  all_goals
    intro other label tagged
    rcases tagged_of_update tagged with ⟨_, added⟩ | ⟨_, known⟩
  · exact (fresh label added).1
  · exact company.client other label known
  · exact (fresh label added).2.1
  · exact company.dispatcher other label known
  · exact (fresh label added).2.2
  · exact company.starters other label known

theorem Company.execute (tagged : view tid = some label)
    (move : Move label op ans onward) :
    Company (update view tid (some onward)) := by
  have agent := agent_of_move move
  refine company.relabel (company.one.execute tagged agent) ?_
  rintro _ ⟨⟩
  rw [agent]
  refine ⟨company.client tid label tagged, ?_, ?_⟩
  · intro belongs
    exact idle_of_shift move.shift (company.dispatcher tid label tagged belongs)
  · intro starting
    rcases starting_of_shift move.shift starting with already | starts
    · exact company.starters tid label tagged already
    · exact caller_of_starts move starts

theorem Company.enter {config : Configuration P} {call : Routine P}
    (describes : Describes accord entry leave config view)
    (through : callsThroughClient config call) (entered : enter call config.shared = some after) :
    Company (update view tid (some (firstLabel call))) := by
  refine company.relabel (company.one.enter describes through.1 entered) ?_
  rintro _ ⟨⟩
  refine ⟨through.2, ?_, ?_⟩
  · intro belongs
    cases call with
    | dispatcher routine => rfl
    | reconnecting began owner => cases entered
    | _ => cases belongs
  · intro starting
    cases call with
    | wsStart | wsStartWithRetries => exact absurd rfl through.2
    | _ => cases starting

theorem Company.finish : Company (update view tid none) :=
  company.relabel company.one.finish nofun

end

/-- The operations that change who is in charge, or the list of ended connections. -/
def heading : Op P -> Bool
  | .begins _ => true
  | .ended _ => true
  | op => wiring op

theorem line_of_execute (exec : execute tid op choice pre = some (ans, after))
    (idle : heading op = false) : line after = line pre := by
  have unwired : wiring op = false := by
    cases op with
    | begins | ended => cases idle
    | _ => exact idle
  have wired := wires_of_execute exec unwired
  have ended := (execute_frame exec).ended (by rintro sock rfl; cases idle)
  have webSocket : after.webSocket = pre.webSocket := congrArg Wires.webSocket wired
  have made : after.made = pre.made := congrArg Wires.made wired
  have launched : after.launched = pre.launched := congrArg Wires.launched wired
  simp [line, ended, webSocket, made, launched]

/-- Nobody but a start comes into charge. -/
theorem active_of_shift (shift : Shift stage op ans onward')
    (idle : heading op = false) (active : Stage.active onward' = true) :
    Stage.active stage = true := by
  cases shift with
  | stays => exact active
  | startBegins | retriesBegin | stopBegins => cases idle
  | _ => first | rfl | cases active

section

variable (company : Company view) (connections : Connections (wires pre) (places view))
  (tagged : view tid = some label)
include company connections tagged

/-- When a call begins, only the goroutine of a connection can be in charge. -/
theorem served_of_active (caller : label.agent = .caller)
    (passive : Stage.active label.stage = false) {other : Nat}
    {post : Post} (found : posts view other = some post) (active : post.active = true) :
    ∃ sock, sock < pre.made ∧ post.agent = .sock sock := by
  rcases map_eq_some_iff.mp found with ⟨label', known, rfl⟩
  have serves := connections.serves other label'.place
  rcases label' with ⟨agent, stage, signals⟩
  cases agent with
  | client => exact absurd rfl (company.client other _ known)
  | dispatcher =>
    have idle : stage = .idle := company.dispatcher other _ known rfl
    subst idle
    cases active
  | caller =>
    have same := company.one tid other _ _ tagged known caller rfl
    subst same
    rw [tagged] at known
    cases known
    rw [show Stage.active stage = true from active] at passive
    cases passive
  | sock sock => exact ⟨sock, serves sock (places_some known) rfl, rfl⟩

/-- One operation of a goroutine. -/
theorem Single.execute (single : Single (line pre) (posts view))
    (move : Move label op ans onward) (admitted : startsAfterEnd pre op)
    (exec : execute tid op choice pre = some (ans, after)) :
    Single (line after) (posts (update view tid (some onward))) := by
  have placed := posts_some tagged
  have place (other : Nat) post (found : posts view other = some post) :
      places view other = some ⟨post.agent, post.carry⟩ := by
    rcases map_eq_some_iff.mp found with ⟨label, known, rfl⟩
    exact places_some known
  rw [posts_update]
  by_cases idle : heading op = false
  · have unwired : wiring op = false := by
      cases op with
      | begins | ended => cases idle
      | _ => exact idle
    rw [line_of_execute exec idle]
    have moved : post onward =
        ⟨label.agent, label.stage.carry, Stage.active onward.stage⟩ := by
      simp [post, agent_of_move move, carry_of_shift move.shift unwired]
    rw [map_some, moved]
    apply single.goesOn placed (active_of_shift move.shift idle)
    intro carries
    apply active_of_carry
    rwa [carry_of_shift move.shift unwired]
  · cases move with
    | begins call =>
      cases call with
      | stop =>
        cases exec
        exact single.goesOn placed nofun
          (fun carries => absurd rfl carries)
      | start | startWithRetries =>
        cases exec
        refine single.begins (by simp) (admitted rfl) connections.launched ?_
        intro other post found active
        exact served_of_active company connections tagged rfl rfl found active
    | ends sock stage atEnd =>
      cases exec
      have here := place tid _ placed
      refine single.ends (connections.serves tid _ sock here rfl) ?_ ?_ ?_
      · intro other post found agent
        exact connections.servesOnce other tid _ _ sock (place other post found) here agent rfl
      · intro other post found
        exact connections.servesNoDialled tid other _ _ sock here (place other post found) rfl
      · intro launched
        exact connections.launchedUnserved tid _ sock launched here rfl
    | dials agent stage sock ready =>
      obtain ⟨⟨⟩, _⟩ | ⟨⟨⟩, rfl⟩ := execute_dial exec
      have head : post ⟨agent, stage, false⟩ = ⟨agent, .nothing, true⟩ := by
        rcases ready with rfl | ⟨_, rfl⟩ <;> rfl
      exact single.dial (placed.trans (congrArg some head))
    | fails agent stage ready =>
      obtain ⟨_, rfl⟩ | ⟨⟨⟩, _⟩ := execute_dial exec
      have same : post ⟨agent, stage.undialed, false⟩ = post ⟨agent, stage, false⟩ := by
        rcases ready with rfl | ⟨_, rfl⟩ <;> rfl
      rwa [map_some, same, ← placed, update_eq_self]
    | publishes agent sock began =>
      cases exec
      cases began with
      | _ => exact single.publish placed
    | runs agent sock began =>
      cases exec
      cases began with
      | _ => exact single.run placed
    | drops sock =>
      cases exec
      exact single.drop placed
    | picks sock handler =>
      cases exec
      have head : post ⟨.sock sock, .picked pre.onDisconnected, false⟩ =
          ⟨.sock sock, .nothing, true⟩ := by
        rcases pre.onDisconnected with _ | handler | handler <;> rfl
      rw [map_some, head]
      exact single.report placed
    | _ => exact absurd rfl idle

end

section

variable {now : Line} (single : Single now (posts view)) (tagged : view tid = some label)
  (active : Stage.active label.stage = true)
include single tagged active

/-- One goroutine is in charge. -/
theorem Single.charge {other : Nat} {label' : Label} (tagged' : view other = some label')
    (active' : Stage.active label'.stage = true) : tid = other :=
  single.once tid other (post label) (post label') (posts_some tagged) (posts_some tagged')
    active active'

/-- While a connection waits for its goroutine, nobody is in charge. -/
theorem Single.unlaunched : now.launched = [] := by
  apply List.eq_nil_iff_forall_not_mem.mpr
  intro sock launched
  have passive := single.alone tid (post label) sock launched (posts_some tagged)
  rw [show (post label).active = true from active] at passive
  cases passive

end

/-- A new goroutine. -/
theorem Single.enters {call : Routine P} (single : Single (line pre) (posts view))
    (connections : Connections (wires pre) (places view)) (through : agentOf call ≠ .client)
    (entered : ClientLifecycle.enter call pre = some after) :
    Single (line after) (posts (update view tid (some (firstLabel call)))) := by
  rw [posts_update]
  rcases enter_cases entered with ⟨sock, rfl, launched, rfl⟩ |
    ⟨routine, dispatcher, rfl, _, _, _, _, _, rfl⟩ | ⟨agents, waits, reconnects, rfl⟩
  · exact single.writePump launched connections.launchedOnce
  · exact single.enter
  · have passive : post (firstLabel call) = ⟨agentOf call, .nothing, false⟩ := by
      cases call with
      | writePump sock => exact absurd rfl waits
      | reconnecting began owner => exact absurd rfl (reconnects began owner)
      | wsStart | wsStartWithRetries => exact absurd rfl through
      | _ => rfl
    rw [map_some, passive]
    exact single.enter

end

/-- Everything that holds as long as there is one connection at a time. -/
structure Succession (s : Shared P) (view : Nat -> Option Label) : Prop where
  connections : Connections (wires s) (places view)
  company : Company view
  single : Single (line s) (posts view)

theorem succession_keeps {guard : Condition P} (capacity : Nat)
    (calls : ∀ config call, guard.call config call -> callsThroughClient config call)
    (operations : ∀ s tid op, guard.op s tid op ->
      startsAfterEnd s op) : Keeps guard (.initial capacity) Succession where
  initially := by
    refine ⟨connections_initial capacity, ?_, ?_⟩
    · constructor <;> simp [OneCaller]
    · constructor <;> simp [line, posts, Shared.initial, History.initial]
  enter := by
    rintro config view tid call after describes ⟨connections, company, single⟩ admitted entered new
    have through := calls config call admitted
    exact ⟨connections.enters entered new, company.enter describes through entered,
      single.enters connections through.2 entered⟩
  occur := by
    rintro pre view event after ⟨connections, company, single⟩ arose
    rcases occur_dispatcher arose with ⟨_, _, rfl⟩
    exact ⟨connections, company, single⟩
  execute := by
    rintro pre view tid label op choice ans after onward
      ⟨connections, company, single⟩ tagged move admitted exec
    exact ⟨connections.execute tagged move exec, company.execute tagged move,
      single.execute company connections tagged move (operations _ _ _ admitted) exec⟩
  finish := by
    rintro pre view tid label ⟨connections, company, single⟩ tagged left
    refine ⟨connections.leaves tagged left, company.finish, ?_⟩
    rw [posts_update]
    exact single.finish

end Lineage

end ClientLifecycle
end OcppGo
