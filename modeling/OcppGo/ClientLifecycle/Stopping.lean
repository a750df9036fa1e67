import OcppGo.ClientLifecycle.PumpRest

namespace OcppGo
namespace ClientLifecycle

open Function Interleaving Ocppj

/-!
# No connection after `Stop`

`Stop` tells a running reconnection to give up, but does not wait for it.  When it is called while
no reconnection is going on, and none begins afterwards, no connection is up when `Stop` has
returned, and none comes up until the next start.
-/

variable {P : Type}

/-- The websocket client is used through `ocppj.Client`, whose calls do not overlap.  A start
begins only when the dispatcher is stopped and every connection made so far has ended.  `Stop`
begins only while no reconnection is going on, and none begins between a call of `Stop` and the
next start. -/
@[reducible] def stopsSettled : Condition P where
  call := callsThroughClient
  op s _ op :=
    match op with
    | .begins .stop => s.hist.runs = []
    | .begins _ => s.dispatcher.running = false ∧ AllEnded s
    | .reconnectionBegins => s.hist.stopCalled = false
    | _ => True

instance (s : Shared P) (tid : Nat) (op : Op P) :
    Decidable (stopsSettled.op s tid op) := by
  induction op using Op.casesOn with
  | begins call => rcases call <;> infer_instance
  | _ => infer_instance

/-- No connection is up. -/
def Disconnected (s : Shared P) : Prop := ∀ sock, (s.sockets sock).connection = false

namespace Stopping

/-- Inside a run of `handleReconnection`. -/
@[grind] def Stage.reconnecting : Stage -> Bool
  | .retrying _ | .attempting _ | .aborting _ => true
  | .dialed _ began => began.isSome
  | .published _ began => began.isSome
  | _ => false

/-- The goroutine may make a connection. -/
def Stage.makes (stage : Stage) : Bool := Lineage.Stage.starting stage || Stage.reconnecting stage

/-- `Stop` has seen a connection, or has not looked to the end. -/
@[grind] def Stage.unsettled : Stage -> Option Nat
  | .asked stop => some stop
  | .looking stop _ => some stop
  | .seen stop => some stop
  | .installed stop => some stop
  | _ => none

/-- `Stop` has seen that there is no connection, or has been told so. -/
@[grind] def Stage.past : Stage -> Bool
  | .idle => true
  | .absent _ => true
  | .released _ => true
  | _ => false

/-- What does not depend on the flags of `Stop`. -/
structure Unflagged (s : Shared P) (view : Nat -> Option Label) : Prop where
  running : ∀ tid label, view tid = some label ->
    Stage.reconnecting label.stage = true -> tid ∈ s.hist.runs
  own : ∀ tid label stop, view tid = some label ->
    Cleanup.Stage.stop label.stage = some stop -> label.agent = .caller ∧ stop = tid
  unclosed : ∀ tid label stop, view tid = some label ->
    Stage.unsettled label.stage = some stop -> (s.cleanupC stop).closed = false

/-- What holds once `Stop` has been called. -/
structure Halts (s : Shared P) (view : Nat -> Option Label) : Prop extends Unflagged s view where
  still : s.hist.stopCalled = true -> ∀ tid label, view tid = some label ->
    Stage.makes label.stage = false
  callers : s.hist.stopCalled = true -> ∀ tid label, view tid = some label ->
    label.agent = .caller -> label.stage ≠ .reviving ∧ label.stage ≠ .revived
  /-- the token of `Stop` tells that the connection is gone -/
  token : s.hist.stopCalled = true -> ∀ tid label stop, view tid = some label ->
    Stage.unsettled label.stage = some stop -> (s.cleanupC stop).token = true -> Disconnected s
  looking : s.hist.stopCalled = true -> ∀ tid label stop sock,
    view tid = some label -> label.stage = .looking stop sock -> s.webSocket = some sock
  stopped : s.hist.stopCalled = true -> s.hist.stopped = true -> Disconnected s
  past : s.hist.stopCalled = true -> ∀ tid label, view tid = some label ->
    label.agent = .caller -> Stage.past label.stage = true -> Disconnected s

section

variable {pre after : Shared P} {view : Nat -> Option Label} {tid : Nat} {choice : Choice}
  {op : Op P} {ans : Res P op} {label onward : Label} {stage onward' : Stage}

section

variable (exec : execute tid op choice pre = some (ans, after))
include exec

/-- A connection comes up through a dial. -/
theorem connected_of_execute (undialled : op ≠ .dial) (down : Disconnected pre) :
    Disconnected after := by
  cases op with
  | dial => exact absurd rfl undialled
  | dropConnection sock =>
    cases exec
    intro other
    have same := down other
    grind
  | publish sock reconnecting =>
    cases exec
    exact down
  | run sock =>
    cases exec
    exact down
  | readDisconnectedHandler sock =>
    cases exec
    exact down
  | _ =>
    intro other
    have same := congrArg (fun now => now.connected other) (wires_of_execute exec rfl)
    exact same.trans (down other)

/-- What happens to the channel of a `Stop`. -/
theorem cleanupC_cases (stop : Nat) :
    after.cleanupC stop = pre.cleanupC stop ∨
    (op = .makeCleanup ∧ stop = tid ∧ after.cleanupC stop = ⟨false, false⟩) ∨
    op = .closeCleanup stop ∨
    (op = .sendCleanup stop ∧
      (after.cleanupC stop).closed = (pre.cleanupC stop).closed) ∨
    op = .awaitCleanup stop := by
  cases op with
  | makeCleanup =>
    cases exec
    by_cases here : stop = tid
    · subst here
      exact .inr (.inl ⟨rfl, rfl, update_self ..⟩)
    · exact .inl (update_of_ne here ..)
  | closeCleanup other =>
    cases exec
    by_cases here : stop = other
    · exact .inr (.inr (.inl (here ▸ rfl)))
    · exact .inl (update_of_ne here ..)
  | sendCleanup other =>
    have sends := execute_sendCleanup exec
    subst sends
    by_cases here : stop = other
    · subst here
      exact .inr (.inr (.inr (.inl ⟨rfl, by simp⟩)))
    · exact .inl (update_of_ne here ..)
  | awaitCleanup other =>
    by_cases here : stop = other
    · exact .inr (.inr (.inr (.inr (here ▸ rfl))))
    · rcases execute_awaitCleanup exec with ⟨_, rfl⟩ | ⟨_, rfl⟩
      · exact .inl (update_of_ne here ..)
      · exact .inl rfl
  | dispatcher | close =>
    obtain ⟨_, _, rfl⟩ := execute_aside exec rfl
    exact .inl rfl
  | _ =>
    have same : after.cleanupC = pre.cleanupC := by
      simp only [execute] at exec
      grind
    exact .inl (congrFun same stop)

end

theorem makes_of_shift (shift : Shift stage op ans onward')
    (makes : Stage.makes onward' = true) :
    Stage.makes stage = true ∨ op.starts = true ∨ op = .reconnectionBegins := by
  cases shift with
  | stays => exact .inl makes
  | startBegins | retriesBegin => exact .inr (.inl rfl)
  | reconnects | retries => exact .inr (.inr rfl)
  | publishes sock began => cases began <;> exact .inl rfl
  | _ => first | exact .inl rfl | cases makes

theorem reconnecting_of_shift (shift : Shift stage op ans onward')
    (reconnecting : Stage.reconnecting onward' = true) :
    Stage.reconnecting stage = true ∨ op = .reconnectionBegins := by
  cases shift with
  | stays => exact .inl reconnecting
  | reconnects | retries => exact .inr rfl
  | publishes sock began => exact .inl reconnecting
  | _ => first | exact .inl rfl | cases reconnecting

theorem reconnecting_ongoing (move : Move label op ans onward)
    (reconnecting : Stage.reconnecting onward.stage = true) :
    (∀ sock, op ≠ .run sock) ∧
      ∀ began, op ≠ .reconnectionAborted began := by
  constructor
  · rintro sock rfl
    cases move with
    | runs agent sock began => cases began <;> cases reconnecting
  · rintro began rfl
    cases move with
    | aborts => cases reconnecting

/-- A goroutine that dials or publishes may make a connection. -/
theorem makes_of_wiring (move : Move label op ans onward) :
    (op = .dial -> Stage.makes label.stage = true) ∧
    (∀ sock reconnecting, op = .publish sock reconnecting ->
      Stage.makes label.stage = true) := by
  constructor
  · rintro rfl
    cases move with
    | dials agent stage sock ready => rcases ready with rfl | ⟨_, rfl⟩ <;> rfl
    | fails agent stage ready => rcases ready with rfl | ⟨_, rfl⟩ <;> rfl
  · rintro sock reconnecting rfl
    cases move with
    | publishes agent sock began => cases began <;> rfl

variable {stop : Nat}

theorem unsettled_of_shift (shift : Shift stage op ans onward')
    (unsettled : Stage.unsettled onward' = some stop) :
    Stage.unsettled stage = some stop ∨ op = .makeCleanup := by
  cases shift with
  | asks => exact .inr rfl
  | _ => first | exact .inl unsettled | cases unsettled

theorem stop_of_unsettled (unsettled : Stage.unsettled stage = some stop) :
    Cleanup.Stage.stop stage = some stop := by
  cases stage with
  | asked | looking | seen | installed => exact unsettled
  | _ => cases unsettled

/-- A `Stop` that closes its channel, or receives from it, has settled. -/
theorem settled_of_move (move : Move label op ans onward)
    (settles : op = .closeCleanup stop ∨ op = .awaitCleanup stop) :
    Cleanup.Stage.stop label.stage = some stop ∧ Stage.unsettled onward.stage = none := by
  rcases settles with rfl | rfl
  · cases move with
    | releases => exact ⟨rfl, rfl⟩
  · cases move with
    | awaitCleanup stop stage pending => rcases pending with rfl | rfl <;> exact ⟨rfl, rfl⟩

theorem revives_of_shift (shift : Shift stage op ans onward')
    (revives : onward' = .reviving ∨ onward' = .revived) :
    Stage.makes stage = true ∨ stage = .reviving ∨ stage = .revived := by
  cases shift with
  | stays => exact .inr revives
  | reruns => exact .inl rfl
  | resumes | unheard => exact .inr (.inl rfl)
  | _ => simp at revives

/-- `Stop` looks at the connection the websocket client knows. -/
theorem looking_of_shift {sock : Nat} (shift : Shift stage op ans onward')
    (looking : onward' = .looking stop sock)
    (exec : execute tid op choice pre = some (ans, after)) :
    stage = .looking stop sock ∨ pre.webSocket = some sock := by
  cases shift with
  | stays => exact .inl looking
  | finds =>
    cases looking
    simp only [execute, Option.some.injEq, Prod.mk.injEq] at exec
    exact .inr exec.1
  | _ => cases looking

section

variable (succession : Lineage.Succession pre view)
  (still : ∀ tid label, view tid = some label -> Stage.makes label.stage = false)
include succession still

/-- While nobody may make a connection, a connection that is up is the one the websocket client
knows. -/
theorem newest_of_connected {sock : Nat} (up : (pre.sockets sock).connection = true) :
    pre.webSocket = some sock ∧ (pre.launched ≠ [] ∨
      ∃ tid label, view tid = some label ∧ label.stage = .waiting) := by
  rcases succession.connections.carried sock up with listed | ⟨tid, place, placed, carries⟩
  · exact ⟨succession.single.launchedNewest sock listed, .inl (List.ne_nil_of_mem listed)⟩
  · rcases Option.map_eq_some_iff.mp placed with ⟨label, tagged, rfl⟩
    have unmade := still tid label tagged
    have newest := succession.single.waitingNewest tid (Lineage.post label) sock
      (Lineage.posts_some tagged)
    rcases label with ⟨agent, stage, signals⟩
    rcases carries with dialled | place
    · cases stage with
      | dialed other began => cases began <;> cases unmade
      | published other began => cases began <;> cases unmade
      | _ => cases dialled
    · cases stage with
      | waiting =>
        have served : agent = .sock sock := congrArg Place.agent place
        exact ⟨newest rfl served, .inr ⟨tid, _, tagged, rfl⟩⟩
      | _ => cases place

/-- While nobody may make a connection and somebody is in charge who is not waiting for a loss, no
connection is up. -/
theorem disconnected_of_charge (tagged : view tid = some label)
    (active : Lineage.Stage.active label.stage = true) (busy : label.stage ≠ .waiting)
    : Disconnected pre := by
  intro sock
  cases up : (pre.sockets sock).connection with
  | false => rfl
  | true =>
    have handed : PauseFlag.HandedOver pre view := (newest_of_connected succession still up).2
    exact absurd handed (PauseFlag.not_handedOver succession tagged active busy)

/-- While nobody may make a connection, none is up if the websocket client knows none. -/
theorem disconnected_of_webSocket (down : pre.isConnected = false) : Disconnected pre := by
  intro sock
  cases up : (pre.sockets sock).connection with
  | false => rfl
  | true =>
    have known := (newest_of_connected succession still up).1
    simp [Shared.isConnected, known, up] at down

end

/-! ## The invariant -/

section

variable (unflagged : Unflagged pre view) (tagged : view tid = some label)
  (move : Move label op ans onward)
include unflagged tagged move

/-- The channel of a `Stop` that has not settled is not closed, and nobody receives from it. -/
theorem Unflagged.unsettled {other : Nat} {label' : Label}
    (retagged : update view tid (some onward) other = some label') (mine : stop = other)
    (unsettled : Stage.unsettled label'.stage = some stop) :
    op ≠ .closeCleanup stop ∧ op ≠ .awaitCleanup stop := by
  have settling (settles : op = .closeCleanup stop ∨ op = .awaitCleanup stop) :
      False := by
    rcases settled_of_move move settles with ⟨belongs, settled⟩
    have here : other = tid := mine.symm.trans (unflagged.own tid label stop tagged belongs).2
    subst here
    rw [update_self] at retagged
    cases retagged
    rw [settled] at unsettled
    cases unsettled
  exact ⟨fun closes => settling (.inl closes), fun awaits => settling (.inr awaits)⟩

theorem Unflagged.execute (exec : execute tid op choice pre = some (ans, after)) :
    Unflagged after (update view tid (some onward)) := by
  have shift := move.shift
  have own : ∀ other label' stop, update view tid (some onward) other = some label' ->
      Cleanup.Stage.stop label'.stage = some stop -> label'.agent = .caller ∧ stop = other := by
    intro other label' stop retagged belongs
    rcases tagged_of_update retagged with ⟨rfl, ⟨⟩⟩ | ⟨_, known⟩
    · exact Cleanup.own_of_move move exec (fun stop => unflagged.own other label stop tagged)
        belongs
    · exact unflagged.own other label' stop known belongs
  refine ⟨?_, own, ?_⟩
  · intro other label' retagged reconnecting
    rcases tagged_of_update retagged with ⟨rfl, ⟨⟩⟩ | ⟨apart, known⟩
    · rcases reconnecting_of_shift shift reconnecting with already | rfl
      · exact (execute_frame exec).runs other (unflagged.running other label tagged already)
          (fun _ => reconnecting_ongoing move reconnecting)
      · cases exec
        simp
    · exact (execute_frame exec).runs other (unflagged.running other label' known reconnecting)
        (fun same => absurd same apart)
  · intro other label' stop retagged unsettled
    have mine := (own other label' stop retagged (stop_of_unsettled unsettled)).2
    have settling := unflagged.unsettled tagged move retagged mine unsettled
    have earlier (kept : (after.cleanupC stop).closed = (pre.cleanupC stop).closed)
        (unmade : op ≠ .makeCleanup) : (after.cleanupC stop).closed = false := by
      rw [kept]
      rcases tagged_of_update retagged with ⟨rfl, ⟨⟩⟩ | ⟨_, known⟩
      · rcases unsettled_of_shift shift unsettled with already | making
        · exact unflagged.unclosed other label stop tagged already
        · exact absurd making unmade
      · exact unflagged.unclosed other label' stop known unsettled
    rcases cleanupC_cases exec stop with same | ⟨_, _, fresh⟩ | closes | ⟨rfl, kept⟩ | awaits
    · rcases tagged_of_update retagged with ⟨here, ⟨⟩⟩ | ⟨_, known⟩
      · rcases unsettled_of_shift shift unsettled with already | rfl
        · rw [same]
          exact unflagged.unclosed tid label stop tagged already
        · cases exec
          rw [mine.trans here]
          simp
      · rw [same]
        exact unflagged.unclosed other label' stop known unsettled
    · rw [fresh]
    · exact absurd closes settling.1
    · exact earlier kept (by simp)
    · exact absurd awaits settling.2

end

/-- A connection that is not up stays so as long as nobody may make one. -/
theorem Halts.disconnected (halts : Halts pre view) (tagged : view tid = some label)
    (move : Move label op ans onward)
    (exec : execute tid op choice pre = some (ans, after))
    (stopCalled : pre.hist.stopCalled = true) (down : Disconnected pre) :
    Disconnected after := by
  apply connected_of_execute exec _ down
  intro dials
  have makes := (makes_of_wiring move).1 dials
  rw [halts.still stopCalled tid label tagged] at makes
  cases makes

/-- A call begins.  No other goroutine is in a call. -/
theorem Halts.begins (halts : Halts pre view) (company : Lineage.Company view) (call : CallKind)
    (tagged : view tid = some ⟨.caller, .fresh, false⟩)
    (quiet : call = .stop -> pre.hist.runs = [])
    (called : pre.hist.stopped = true -> pre.hist.stopCalled = true)
    (unflagged : Unflagged { pre with hist := pre.hist.begins tid call }
      (update view tid (some ⟨.caller, call.stage, false⟩))) :
    Halts { pre with hist := pre.hist.begins tid call }
      (update view tid (some ⟨.caller, call.stage, false⟩)) := by
  have alone (other : Nat) label
      (retagged : update view tid (some ⟨.caller, call.stage, false⟩) other = some label)
      (caller : label.agent = .caller) : label.stage = call.stage := by
    rcases tagged_of_update retagged with ⟨_, ⟨⟩⟩ | ⟨apart, known⟩
    · rfl
    · exact absurd (company.one other tid label _ known tagged caller rfl) apart
  cases call with
  | stop =>
    refine ⟨unflagged, ?_, ?_, ?_, ?_, ?_, ?_⟩
    · intro _ other label retagged
      cases starting : Lineage.Stage.starting label.stage with
      | true =>
        rcases tagged_of_update retagged with ⟨_, ⟨⟩⟩ | ⟨_, known⟩
        · cases starting
        · rw [alone other label retagged (company.starters other label known starting)] at starting
          cases starting
      | false =>
        cases reconnecting : Stage.reconnecting label.stage with
        | false => simp [Stage.makes, starting, reconnecting]
        | true =>
          have mem := unflagged.running other label retagged reconnecting
          rw [show (pre.hist.begins tid .stop).runs = [] from quiet rfl] at mem
          cases mem
    · intro _ other label retagged caller
      rw [alone other label retagged caller]
      simp [CallKind.stage]
    · intro _ other label stop retagged unsettled
      have caller := (unflagged.own other label stop retagged (stop_of_unsettled unsettled)).1
      rw [alone other label retagged caller] at unsettled
      cases unsettled
    · intro _ other label stop sock retagged looking
      have caller := (unflagged.own other label stop retagged (by rw [looking]; rfl)).1
      rw [alone other label retagged caller] at looking
      cases looking
    · intro _ stopped
      exact halts.stopped (called stopped) stopped
    · intro _ other label retagged caller past
      rw [alone other label retagged caller] at past
      cases past
  | start | startWithRetries =>
    refine ⟨unflagged, fun never => ?_, fun never => ?_, fun never => ?_,
      fun never => ?_, fun never => ?_, fun never => ?_⟩ <;> cases never

section

variable (halts : Halts pre view) (succession : Lineage.Succession pre view)
  (tagged : view tid = some label) (move : Move label op ans onward)
  (exec : execute tid op choice pre = some (ans, after))
include halts succession tagged move exec

/-- A call that is past its look at the connection knows that none is up. -/
theorem Halts.reachesPast
    (called : pre.hist.stopCalled = true) (caller : label.agent = .caller)
    (past : Stage.past onward.stage = true) : Disconnected pre := by
  have still := halts.still called
  have unmade := still tid label tagged
  have already := halts.past called tid label tagged caller
  have unrevived := halts.callers called tid label tagged caller
  have unsettled := halts.unclosed tid label
  have token := halts.token called tid label
  have looking := halts.looking called tid label
  rcases label with ⟨agent, stage, signals⟩
  cases move with
  | returns stage call success atEnd =>
    rcases atEnd with rfl | rfl
    · exact already rfl
    · cases unmade
  | finds agent stop sock =>
    cases exec
    apply disconnected_of_webSocket succession still
    cases known : pre.webSocket with
    | none => simp [Shared.isConnected, known]
    | some sock =>
      rw [known] at past
      cases past
  | looks agent stop sock connected =>
    cases exec
    apply disconnected_of_webSocket succession still
    have known := looking stop sock tagged rfl
    cases up : (pre.sockets sock).connection with
    | false => simp [Shared.isConnected, known, up]
    | true =>
      rw [up] at past
      cases past
  | runs agent sock began => cases began <;> cases unmade
  | concludes agent stage atEnd =>
    rcases atEnd with rfl | rfl | rfl
    · cases past
    · cases past
    · exact absurd rfl unrevived.2
  | aborts => cases unmade
  | ends => cases caller
  | awaitCleanup stop stage pending =>
    rcases pending with rfl | rfl
    · rcases execute_awaitCleanup exec with ⟨sent, _⟩ | ⟨closed, _⟩
      · exact token stop tagged rfl sent
      · rw [unsettled stop tagged rfl] at closed
        cases closed
    · exact already rfl
  | begins call => cases call <;> cases past
  | fails agent stage ready => rcases ready with rfl | ⟨_, rfl⟩ <;> cases past
  | picks => cases caller
  | readReconnectedHandler => exact absurd rfl unrevived.1
  | waits => cases unmade
  | _ => first | exact already past | cases past

/-- The other operations leave the flags alone, but for the return of `Stop`. -/
theorem Halts.goesOn (admitted : stopsSettled.op pre tid op)
    (going : ∀ call, op ≠ .begins call) :
    Halts after (update view tid (some onward)) := by
  have shift := move.shift
  have unflagged := halts.toUnflagged.execute tagged move exec
  have stays := halts.disconnected tagged move exec
  have frame := execute_frame exec
  refine ⟨unflagged, ?_, ?_, ?_, ?_, ?_, ?_⟩ <;> rw [frame.stopCalled going] <;> intro called
  · intro other label' retagged
    rcases tagged_of_update retagged with ⟨_, ⟨⟩⟩ | ⟨_, known⟩
    · cases makes : Stage.makes onward.stage with
      | false => rfl
      | true =>
        rcases makes_of_shift shift makes with already | starts | rfl
        · rw [halts.still called tid label tagged] at already
          cases already
        · cases op with
          | begins call => exact absurd rfl (going call)
          | _ => cases starts
        · rw [show pre.hist.stopCalled = false from admitted] at called
          cases called
    · exact halts.still called other label' known
  · intro other label' retagged caller
    rcases tagged_of_update retagged with ⟨_, ⟨⟩⟩ | ⟨_, known⟩
    · have unrevived := halts.callers called tid label tagged
        (by rwa [← agent_of_move move])
      rw [← not_or]
      intro revives
      rcases revives_of_shift shift revives with makes | revived
      · rw [halts.still called tid label tagged] at makes
        cases makes
      · exact not_or.mpr unrevived revived
    · exact halts.callers called other label' known caller
  · intro other label' stop retagged unsettled sent
    have mine := (unflagged.own other label' stop retagged (stop_of_unsettled unsettled)).2
    have settling := halts.toUnflagged.unsettled tagged move retagged mine unsettled
    apply stays called
    rcases cleanupC_cases exec stop with same | ⟨_, _, fresh⟩ | closes | ⟨rfl, _⟩ | awaits
    · rw [same] at sent
      rcases tagged_of_update retagged with ⟨here, ⟨⟩⟩ | ⟨_, known⟩
      · rcases unsettled_of_shift shift unsettled with already | rfl
        · exact halts.token called tid label stop tagged already sent
        · cases exec
          rw [mine.trans here] at same sent
          rw [← same] at sent
          simp at sent
      · exact halts.token called other label' stop known unsettled sent
    · rw [fresh] at sent
      cases sent
    · exact absurd closes settling.1
    · cases move with
      | delivers =>
        exact disconnected_of_charge succession (halts.still called) tagged rfl (by simp)
    · exact absurd awaits settling.2
  · intro other label' stop sock retagged looking
    have known : pre.webSocket = some sock := by
      rcases tagged_of_update retagged with ⟨_, ⟨⟩⟩ | ⟨_, known⟩
      · rcases looking_of_shift shift looking exec with already | found
        · exact halts.looking called tid label stop sock tagged already
        · exact found
      · exact halts.looking called other label' stop sock known looking
    rw [frame.webSocket, known]
    intro socket' reconnecting publishes
    have makes := (makes_of_wiring move).2 socket' reconnecting publishes
    rw [halts.still called tid label tagged] at makes
    cases makes
  · intro ret
    apply stays called
    by_cases returns : ∃ success, op = .returns .stop success
    · rcases returns with ⟨success, rfl⟩
      cases move with
      | returns stage _ _ atEnd =>
        exact halts.reachesPast succession tagged (.returns stage .stop success atEnd) exec
          called rfl rfl
    · rw [frame.stopped going fun success same => returns ⟨success, same⟩] at ret
      exact halts.stopped called ret
  · intro other label' retagged caller past
    apply stays called
    rcases tagged_of_update retagged with ⟨_, ⟨⟩⟩ | ⟨_, known⟩
    · exact halts.reachesPast succession tagged move exec called
        (by rwa [← agent_of_move move]) past
    · exact halts.past called other label' known caller past

end

/-- A label that says nothing about a connection is added, or a label goes. -/
theorem Halts.relabel {label : Option Label} (halts : Halts pre view)
    (connections : ∀ sock, (after.sockets sock).connection =
      (pre.sockets sock).connection)
    (same : after.webSocket = pre.webSocket ∧ after.cleanupC = pre.cleanupC ∧
      after.hist = pre.hist)
    (passive : ∀ new, label = some new -> Stage.makes new.stage = false ∧
      Cleanup.Stage.stop new.stage = none ∧
      (new.agent = .caller -> new.stage ≠ .reviving ∧ new.stage ≠ .revived ∧
        Stage.past new.stage = false)) : Halts after (update view tid label) := by
  rcases same with ⟨webSocket, cleanupC, hist⟩
  have down : Disconnected pre -> Disconnected after := by
    intro down sock
    rw [connections sock]
    exact down sock
  have unstopped (new : Label) (added : label = some new) : Stage.unsettled new.stage = none := by
    cases unsettled : Stage.unsettled new.stage with
    | none => rfl
    | some stop =>
      have belongs := stop_of_unsettled unsettled
      rw [(passive new added).2.1] at belongs
      cases belongs
  refine ⟨⟨?_, ?_, ?_⟩, ?_, ?_, ?_, ?_, ?_, ?_⟩
  · intro other label' retagged reconnecting
    rw [hist]
    rcases tagged_of_update retagged with ⟨_, added⟩ | ⟨_, known⟩
    · have unmade := (passive label' added).1
      simp [Stage.makes, reconnecting] at unmade
    · exact halts.running other label' known reconnecting
  · intro other label' stop retagged belongs
    rcases tagged_of_update retagged with ⟨_, added⟩ | ⟨_, known⟩
    · rw [(passive label' added).2.1] at belongs
      cases belongs
    · exact halts.own other label' stop known belongs
  · intro other label' stop retagged unsettled
    rw [cleanupC]
    rcases tagged_of_update retagged with ⟨_, added⟩ | ⟨_, known⟩
    · rw [unstopped label' added] at unsettled
      cases unsettled
    · exact halts.unclosed other label' stop known unsettled
  all_goals rw [hist]; intro called
  · intro other label' retagged
    rcases tagged_of_update retagged with ⟨_, added⟩ | ⟨_, known⟩
    · exact (passive label' added).1
    · exact halts.still called other label' known
  · intro other label' retagged caller
    rcases tagged_of_update retagged with ⟨_, added⟩ | ⟨_, known⟩
    · have unrevived := (passive label' added).2.2 caller
      exact ⟨unrevived.1, unrevived.2.1⟩
    · exact halts.callers called other label' known caller
  · intro other label' stop retagged unsettled sent
    rw [cleanupC] at sent
    rcases tagged_of_update retagged with ⟨_, added⟩ | ⟨_, known⟩
    · rw [unstopped label' added] at unsettled
      cases unsettled
    · exact down (halts.token called other label' stop known unsettled sent)
  · intro other label' stop sock retagged looking
    rw [webSocket]
    rcases tagged_of_update retagged with ⟨_, added⟩ | ⟨_, known⟩
    · have foreign := (passive label' added).2.1
      rw [looking] at foreign
      cases foreign
    · exact halts.looking called other label' stop sock known looking
  · intro ret
    exact down (halts.stopped called ret)
  · intro other label' retagged caller past
    rcases tagged_of_update retagged with ⟨_, added⟩ | ⟨_, known⟩
    · rw [((passive label' added).2.2 caller).2.2] at past
      cases past
    · exact down (halts.past called other label' known caller past)

/-- The condition, together with what is known of the flags of `Stop` in the states it reaches. -/
def stopsKnown : Condition P where
  call := stopsSettled.call
  op s tid op := stopsSettled.op s tid op ∧
    (s.hist.stopped = true -> s.hist.stopCalled = true)

theorem succession (capacity : Nat) :
    Keeps (stopsKnown : Condition P) (.initial capacity) Lineage.Succession := by
  refine Lineage.succession_keeps capacity (fun _ _ through => through) ?_
  intro s tid op admitted starts
  cases op with
  | begins call =>
    cases call with
    | stop => cases starts
    | start | startWithRetries => exact admitted.1.2
  | _ => cases starts

theorem descends (capacity : Nat) :
    Extends (stopsKnown : Condition P) (.initial capacity) Lineage.Succession Halts := by
  constructor
  case initially =>
    refine ⟨⟨?_, ?_, ?_⟩, ?_, ?_, ?_, ?_, ?_, ?_⟩ <;> simp [Shared.initial, History.initial]
  case enter =>
    intro config view tid call after _ succession halts through entered new
    have passive (label : Label) (added : some (firstLabel call) = some label) :
        Stage.makes label.stage = false ∧ Cleanup.Stage.stop label.stage = none ∧
        (label.agent = .caller -> label.stage ≠ .reviving ∧ label.stage ≠ .revived ∧
          Stage.past label.stage = false) := by
      cases added
      cases call with
      | wsStart | wsStartWithRetries | wsStop => exact absurd rfl through.2
      | reconnecting began owner => cases entered
      | start | startWithRetries | stop | writePump | dispatcher =>
        simp [firstLabel, stageOf, agentOf, Stage.makes, Lineage.Stage.starting,
          Stage.reconnecting, Cleanup.Stage.stop, Stage.past]
    rcases enter_cases entered with ⟨_, _, _, rfl⟩ | ⟨_, _, _, _, _, _, _, _, rfl⟩ | ⟨_, _, _, rfl⟩
    · exact halts.relabel (fun _ => rfl) ⟨rfl, rfl, rfl⟩ passive
    · exact halts.relabel (fun _ => rfl) ⟨rfl, rfl, rfl⟩ passive
    · exact halts.relabel (fun _ => rfl) ⟨rfl, rfl, rfl⟩ passive
  case occur =>
    intro pre view event after halts arose
    rcases occur_dispatcher arose with ⟨_, _, rfl⟩
    exact ⟨⟨halts.running, halts.own, halts.unclosed⟩, halts.still, halts.callers, halts.token,
      halts.looking, halts.stopped, halts.past⟩
  case execute =>
    intro pre view tid label op choice ans after onward succession halts tagged
      move admitted exec
    by_cases begins : ∃ call, op = .begins call
    · rcases begins with ⟨call, rfl⟩
      have unflagged := halts.toUnflagged.execute tagged move exec
      cases exec
      cases move with
      | begins call =>
        refine halts.begins succession.company call tagged ?_ admitted.2 unflagged
        rintro rfl
        exact admitted.1
    · exact halts.goesOn succession tagged move exec admitted.1
        (fun call same => begins ⟨call, same⟩)
  case finish =>
    intro pre view tid label _ halts tagged left
    exact halts.relabel (fun _ => rfl) ⟨rfl, rfl, rfl⟩ (by simp)

end

end Stopping

theorem disciplined_stopsSettled : PumpRest.Disciplined (stopsSettled : Condition P) where
  calls := fun _ _ through => through.1
  starts := by
    intro s tid call admitted starts
    cases call with
    | stop => exact absurd rfl starts
    | start | startWithRetries => exact admitted.1

/-- When `Stop` is called while no reconnection is going on and none begins afterwards, then, from
its return until the next start begins, no connection is up and no pump is running. -/
theorem stop_is_final {opts : Settings} {capacity : Nat} {config : Configuration P}
    (reached : (system opts).Reachable stopsSettled (.initial capacity) config)
    (stopped : config.shared.hist.stopped = true) :
    Disconnected config.shared ∧ PumpStopped config := by
  have known : (system opts).Reachable Stopping.stopsKnown (.initial capacity) config := by
    apply reached.refine
    · intro config call _ admitted
      exact admitted
    · intro config tid content op reached _ _ admitted
      exact ⟨admitted, fun stopped =>
        (pumpStopped_of_stopped disciplined_stopsSettled reached stopped).1⟩
  rcases pumpStopped_of_stopped disciplined_stopsSettled reached stopped with ⟨called, halted⟩
  rcases ((Stopping.descends capacity).keeps (Stopping.succession capacity)).reachable known with
    ⟨view, _, _, halts⟩
  exact ⟨halts.stopped called stopped, halted⟩

/-- A connection is lost, and the reconnection is about to dial when `Stop` is called.  `Stop`
returns, and then the dial succeeds. -/
theorem reconnected_after_stop :
    ∃ config, (system sampleOpts).Reachable .all (Shared.initial 10 : Shared Nat) config ∧
      config.shared.hist.stopped = true ∧ config.shared.hist.calls = [] ∧
      config.shared.isConnected = true :=
  System.exists_reachable_of_replay _
    (connecting 0 ++ launching 0 ++ dropping 1 0 true ++ pausing 1 ++ proceed 1 3 ++
      [.step 1 (.retry false)] ++ inspecting 2 ++ proceed 2 5 ++ stoppingDispatcher 2 ++ draining 3 ++
      operating 2 1 ++ proceed 2 3 ++ proceed 1 1 ++ [.step 1 (.dial true)] ++ proceed 1 1)
    (by decide +kernel)

/-- A client is started and stopped. -/
theorem stop_is_final_connected :
    ∃ config, (system sampleOpts).Reachable stopsSettled
        (Shared.initial 10 : Shared Nat) config ∧
      config.shared.hist.stopped = true ∧ Disconnected config.shared ∧ PumpStopped config :=
  System.exists_reachable_with
    (connecting 0 ++ launching 0 ++ inspecting 1 ++ proceed 1 6 ++ stoppingDispatcher 1 ++
      draining 2 ++ operating 1 1 ++ dropping 3 0 false ++ proceed 3 2 ++ proceed 1 2) (by decide +kernel)
    fun _ reached stopped => stop_is_final reached stopped

end ClientLifecycle
end OcppGo
