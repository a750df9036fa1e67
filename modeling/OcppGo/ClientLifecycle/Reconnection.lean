import OcppGo.ClientLifecycle.EarlyDrop

namespace OcppGo
namespace ClientLifecycle

open Function Interleaving Ocppj

/-!
# What aborts a reconnection

`Stop` of the websocket client leaves a token in `reconnectC`, whether or not a reconnection is
going on to receive it, and no start takes it out again.  A run of `handleReconnection` that
begins later then receives the token of a `Stop` that came before it.  A run that begins without
a token, and while no `Stop` is about to send one, is aborted only by a later `Stop`.
-/

variable {P : Type}

/-- Every run of `handleReconnection` that was aborted was aborted after a call of `Stop` that
was made during the run. -/
def AbortedByStop (s : Shared P) : Prop :=
  ∀ began ended, (began, ended) ∈ s.hist.aborted -> began < ended

instance (s : Shared P) : Decidable (AbortedByStop s) :=
  decidable_of_iff (∀ run, run ∈ s.hist.aborted -> run.1 < run.2)
    ⟨fun all began ended mem => all (began, ended) mem, fun all _ mem => all _ _ mem⟩

/-- A run of `handleReconnection` begins only when no token is in `reconnectC` and no `Stop` has
begun that has not signalled yet. -/
@[reducible] def reconnectsUnsignalled : Condition P where
  call _ _ := True
  op s _ op :=
    match op with
    | .reconnectionBegins => s.reconnectC ≠ some true ∧ s.hist.signalling = []
    | _ => True

instance (s : Shared P) (tid : Nat) (op : Op P) :
    Decidable (reconnectsUnsignalled.op s tid op) := by
  rcases op <;> infer_instance

namespace Reconnection

/-- The run of `handleReconnection` that the goroutine may still abort. -/
@[grind] def Stage.run : Stage -> Option Nat
  | .retrying began => some began
  | .attempting began => some began
  | .dialed _ began => began
  | _ => none

/-- A signal is there or on its way. -/
@[grind] def Signalled (s : Shared P) : Prop := s.reconnectC = some true ∨ s.hist.signalling ≠ []

@[grind cases] structure Concerned (s : Shared P) (view : Nat -> Option Label) : Prop where
  /-- a run knows how often `Stop` had been called -/
  counted : ∀ tid label began, view tid = some label ->
    Stage.run label.stage = some began -> began ≤ s.hist.stopCalls
  /-- a signal comes from a `Stop` that was called after every run began -/
  concerned : Signalled s -> ∀ tid label began, view tid = some label ->
    Stage.run label.stage = some began -> began < s.hist.stopCalls
  aborting : ∀ tid label began, view tid = some label ->
    label.stage = .aborting began -> began < s.hist.stopCalls
  signalling : ∀ tid label, view tid = some label -> label.signals = true ->
    tid ∈ s.hist.signalling
  aborted : AbortedByStop s

variable {onward : Label}

section

variable {pre after : Shared P} {view : Nat -> Option Label} {tid : Nat} {label : Label}

/-- What the invariant reads. -/
def concern (s : Shared P) : Option Bool × Nat × List Nat × List (Nat × Nat) :=
  (s.reconnectC, s.hist.stopCalls, s.hist.signalling, s.hist.aborted)

/-- A goroutine moves on inside its run, or leaves it. -/
theorem Concerned.update (concerned : Concerned pre view) (tagged : view tid = some label)
    (same : concern after = concern pre)
    (stays : ∀ began, Stage.run onward.stage = some began -> Stage.run label.stage = some began)
    (aborting : ∀ began, onward.stage = .aborting began -> label.stage = .aborting began)
    (signals : onward.signals = true -> label.signals = true) :
    Concerned after (update view tid (some onward)) := by
  have fields : after.reconnectC = pre.reconnectC ∧
      after.hist.stopCalls = pre.hist.stopCalls ∧
      after.hist.signalling = pre.hist.signalling ∧
      after.hist.aborted = pre.hist.aborted := by
    simpa [concern] using same
  obtain ⟨reconnectC, stopCalls, signalling, aborted⟩ := fields
  constructor <;> grind -linarith [AbortedByStop]

/-- The operations that have to do with signals and runs. -/
def concerns : Op P -> Bool
  | .makeReconnectC | .stopBegins | .signalReconnect | .reconnectionBegins | .awaitRetry
  | .reconnectionAborted _ => true
  | _ => false

variable {op : Op P} {ans : Res P op} (unconcerned : concerns op = false)
include unconcerned

theorem concern_of_execute {choice : Choice}
    (exec : execute tid op choice pre = some (ans, after)) :
    concern after = concern pre := by
  cases op with
  | makeReconnectC | stopBegins | signalReconnect | reconnectionBegins | awaitRetry
  | reconnectionAborted => cases unconcerned
  | dispatcher | close =>
    obtain ⟨_, _, rfl⟩ := execute_aside exec rfl
    rfl
  | begins call | returns call =>
    cases exec
    cases call <;> rfl
  | _ =>
    simp only [execute] at exec
    grind -linarith [concern]

/-- The other operations do not begin a run, and do not abort one. -/
theorem run_of_shift {stage onward : Stage} (shift : Shift stage op ans onward)
    {began : Nat} : (Stage.run onward = some began -> Stage.run stage = some began) ∧
      (onward = .aborting began -> stage = .aborting began) := by
  cases shift with
  | stays => exact ⟨id, id⟩
  | redials => exact ⟨id, nofun⟩
  | reconnects | retries | attempts | aborts | aborted => cases unconcerned
  | _ =>
    constructor
    · intro runs
      first | exact runs | cases runs
    · intro aborts
      cases aborts

theorem signals_of_move (move : Move label op ans onward) :
    onward.signals = label.signals := by
  cases move with
  | signals | stopBegins => cases unconcerned
  | _ => rfl

end

theorem Concerned.execute {pre after : Shared P} {view : Nat -> Option Label} {tid : Nat}
    {label : Label} {op : Op P} {choice : Choice} {ans : Res P op}
    (concerned : Concerned pre view) (tagged : view tid = some label)
    (move : Move label op ans onward)
    (admitted : reconnectsUnsignalled.op pre tid op)
    (exec : execute tid op choice pre = some (ans, after)) :
    Concerned after (Function.update view tid (some onward)) := by
  by_cases unconcerned : concerns op = false
  · apply concerned.update tagged (concern_of_execute unconcerned exec)
    · intro began runs
      exact (run_of_shift unconcerned move.shift).1 runs
    · intro began aborts
      exact (run_of_shift unconcerned move.shift).2 aborts
    · intro signals
      rwa [← signals_of_move unconcerned move]
  · cases move with
    | makeReconnectC agent stage ready =>
      cases exec
      have same : some (pre.reconnectC.getD false) = some true -> pre.reconnectC = some true := by
        cases pre.reconnectC with
        | none => intro never; cases never
        | some token => exact id
      constructor <;> grind -linarith [AbortedByStop]
    | stopBegins agent stage settled =>
      cases exec
      constructor <;> grind -linarith [AbortedByStop]
    | signals agent stage settled =>
      cases exec
      constructor <;> grind -linarith [AbortedByStop]
    | reconnectionBegins agent stage began lost =>
      cases exec
      have unsignalled : ¬ Signalled pre := by
        rintro (token | signalling)
        · exact admitted.1 token
        · exact signalling admitted.2
      constructor <;> grind -linarith [AbortedByStop]
    | waits agent began aborted =>
      have outcome : (aborted = false ∧ after = pre) ∨ (aborted = true ∧
          pre.reconnectC = some true ∧ after = { pre with reconnectC := some false }) := by
        simp only [ClientLifecycle.execute] at exec
        grind -linarith
      rcases outcome with ⟨rfl, rfl⟩ | ⟨rfl, token, rfl⟩
      · constructor <;> grind -linarith [AbortedByStop]
      · constructor <;> grind -linarith [AbortedByStop]
    | aborts agent began =>
      cases exec
      constructor <;> grind -linarith [AbortedByStop]
    | _ => exact absurd rfl unconcerned

theorem keeps (capacity : Nat) :
    Keeps (P := P) reconnectsUnsignalled (.initial capacity) Concerned := by
  constructor
  case initially =>
    constructor <;> simp [Shared.initial, History.initial, AbortedByStop]
  case enter =>
    intro config view tid call after _ concerned _ entered new
    have same : concern after = concern config.shared := by
      rcases enter_cases entered with ⟨_, _, _, rfl⟩ | ⟨_, _, _, _, _, _, _, _, rfl⟩ | ⟨_, _, _, rfl⟩
      · rfl
      · rfl
      · rfl
    have absent : Stage.run (firstLabel call).stage = none ∧
        (∀ began, (firstLabel call).stage ≠ .aborting began) := by
      cases call with
      | reconnecting began owner => cases entered
      | _ => simp [firstLabel, stageOf, Stage.run]
    have signals : (firstLabel call).signals = false := rfl
    simp only [concern, Prod.mk.injEq] at same
    obtain ⟨reconnectC, stopCalls, signalling, aborted⟩ := same
    constructor <;> grind -linarith [AbortedByStop]
  case occur =>
    intro pre view event after concerned arose
    rcases occur_dispatcher arose with ⟨_, _, rfl⟩
    exact ⟨concerned.counted, concerned.concerned, concerned.aborting, concerned.signalling,
      concerned.aborted⟩
  case execute =>
    intro pre view tid label op choice ans after onward concerned tagged move
      admitted exec
    exact concerned.execute tagged move admitted exec
  case finish =>
    intro pre view tid label concerned tagged left
    constructor <;> grind -linarith

end Reconnection

/-- As long as every run of `handleReconnection` begins without a signal, a run is aborted only
after a call of `Stop` that was made during the run. -/
theorem reconnection_aborted_by_stop (opts : Settings) (capacity : Nat)
    {config : Configuration P}
    (reached : (system opts).Reachable reconnectsUnsignalled (Shared.initial capacity) config) :
    AbortedByStop config.shared := by
  rcases (Reconnection.keeps capacity).reachable reached with ⟨view, _, concerned⟩
  exact concerned.aborted

section Schedules

/-- `Start` of the websocket client to its end. -/
def wsStarting (tid : Nat) : Schedule P :=
  [.call .wsStart, .step tid .proceed, .step tid (.dial true)] ++ proceed tid 3

/-- `Stop` of the websocket client to its end, on a connection. -/
def wsStopping (tid : Nat) : Schedule P := [.call .wsStop] ++ proceed tid 6

/-- A run of `handleReconnection` that is aborted right away. -/
def aborting (tid : Nat) : Schedule P := [.step tid (.retry true)] ++ proceed tid 1

end Schedules

/-- A connection is stopped and another one is started and lost.  The reconnection that then
begins is aborted by the signal of the `Stop` before the start. -/
theorem reconnection_aborted_by_earlier_stop :
    ∃ config, (system sampleOpts).Reachable .all (Shared.initial 10 : Shared Nat) config ∧
      config.shared.hist.aborted = [(1, 1)] ∧ ¬ AbortedByStop config.shared :=
  System.exists_reachable_of_replay _
    (wsStarting 0 ++ wsStopping 1 ++ dropping 2 0 false ++ proceed 2 3 ++ wsStarting 3 ++
      dropping 4 1 true ++ proceed 4 3 ++ aborting 4) (by decide +kernel)

/-- A `Stop` during the reconnection aborts it. -/
theorem reconnection_aborted_by_own_stop :
    ∃ config, (system sampleOpts).Reachable reconnectsUnsignalled
        (Shared.initial 10 : Shared Nat) config ∧
      config.shared.hist.aborted = [(0, 1)] ∧ AbortedByStop config.shared :=
  System.exists_reachable_with
    (wsStarting 0 ++ dropping 1 0 true ++ proceed 1 3 ++ [.call .wsStop] ++ proceed 2 5 ++
      aborting 1) (by decide +kernel)
    fun _ reached _ => reconnection_aborted_by_stop sampleOpts 10 reached

end ClientLifecycle
end OcppGo
