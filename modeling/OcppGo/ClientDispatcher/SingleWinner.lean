import OcppGo.ClientDispatcher.Ledger
import OcppGo.ClientDispatcher.Reading

namespace OcppGo
namespace ClientDispatcher

open Interleaving Ocppj List

variable {P : Type}

/-!
# Single-winner completion

A request can be finished by a reply, by a timeout, by its context, by a failed
write or by `Stop`.  Whichever comes first takes the entry out of the queue, and
only the one who did that reports.  The ledger gives this for every run.  That a
cancelled request is reported with its own payload needs the identifiers to be
fresh with respect to what the pump has read.
-/

/-- Every entry is reported at most once, under its own identifier and never
while it is in the queue. -/
structure SingleWinner (s : Shared P) : Prop where
  once : ∀ pushed, pushed ∈ s.hist.pushed ->
    (s.hist.notifications.filter
      (fun notification => notification.owner.num == pushed.num)).length ≤ 1
  own : ∀ notification, notification ∈ s.hist.notifications ->
    notification.owner ∈ s.hist.pushed ∧
      notification.requestID = notification.owner.uniqueId
  gone : ∀ notification, notification ∈ s.hist.notifications ->
    ∀ queued, queued ∈ s.requestQueue.elements -> queued.num ≠ notification.owner.num

/-- Every cancelled request is reported with its own payload. -/
def OwnPayload (s : Shared P) : Prop :=
  ∀ notification, notification ∈ s.hist.notifications ->
    ∀ err, notification.outcome = .canceled err ->
      notification.payload = notification.owner.payload

/-- Among distinct keys, at most one element has a given key. -/
theorem length_filter_key_le_one {α : Type} (items : List α) (key : α -> Nat)
    (distinct : (items.map key).Nodup) (value : Nat) :
    (items.filter (fun item => key item == value)).length ≤ 1 := by
  have counted : (items.map key).count value ≤ 1 := nodup_iff_count_le_one.mp distinct value
  rw [List.count, countP_map, countP_eq_length_filter] at counted
  simpa [Function.comp_def] using counted

namespace Ownership

/-- What the ledger says about reports. -/
theorem Invariant.singleWinner {lossless truthful : Prop} {s : Shared P} {view : Nat -> Option (Hand P)}
    (inv : Invariant lossless truthful s view) : SingleWinner s := by
  rcases inv.accounts with ⟨lost, sound, _⟩
  constructor
  · intro pushed _
    exact length_filter_key_le_one s.hist.notifications
      (fun notification => notification.owner.num) (sound.nodup .spent) pushed.num
  · intro notification mem
    have known := inv.reported notification mem
    exact ⟨known.1, known.2.symm⟩
  · intro notification mem queued present same
    have reported : notification.owner.num ∈ ledger s view lost .spent :=
      mem_map.mpr ⟨notification, mem, rfl⟩
    have waiting : notification.owner.num ∈ ledger s view lost .queue :=
      mem_map.mpr ⟨queued, present, same⟩
    cases sound.unique .queue .spent _ waiting reported

/-- At most one report for every entry, in every run whatsoever. -/
theorem singleWinner_of_reachable (opts : Settings) (capacity : Nat) (guard : Condition P)
    {config : Configuration P}
    (reached : (system opts).Reachable guard (Shared.initial capacity) config) :
    SingleWinner config.shared := by
  have free : (system opts).Reachable (undisturbed False False) (Shared.initial capacity) config := by
    apply reached.mono
    · intro _ _ _
      trivial
    · intro s tid op _
      cases op with
      | push num bundle => exact False.elim
      | ret num failure =>
        cases failure with
        | none => trivial
        | some error => exact False.elim
      | _ => trivial
  rcases (verified (fun never : False => never.elim) capacity).reachable free with
    ⟨view, _, inv⟩
  exact inv.singleWinner

end Ownership

/-- In every run every entry is reported at most once, under its own identifier
and only after it has left the queue.  In the runs whose pushes use fresh
identifiers a cancelled request is also reported with its own payload. -/
theorem completion_single_winner (opts : Settings) (capacity : Nat) (config : Configuration P) :
    ((system opts).Reachable .all (Shared.initial capacity) config ->
      SingleWinner config.shared) ∧
    ((system opts).Reachable Reading.freshIdentifiers (Shared.initial capacity) config ->
      SingleWinner config.shared ∧ OwnPayload config.shared) := by
  constructor
  · intro reached
    exact Ownership.singleWinner_of_reachable opts capacity .all reached
  · intro reached
    refine ⟨Ownership.singleWinner_of_reachable opts capacity _ reached, ?_⟩
    rcases (Reading.verified opts capacity).reachable reached with ⟨view, _, inv⟩
    exact inv.carried

section Schedules

abbrev Schedule (P : Type) := List (Action Choice (Routine P) Event)

def proceed (tid count : Nat) : Schedule P := List.replicate count (.step tid .proceed)

def receive (tid : Nat) (arm : Arm) : Schedule P := [.step tid (.arm arm)]

/-- `Start` to its end, and then its pump, the next goroutine, up to its first select. -/
def starting (tid : Nat) : Schedule P :=
  [.call .start] ++ proceed tid 6 ++ [.call .messagePump] ++ proceed (tid + 1) 4

/-- `SendRequest` to its end. -/
def sending (tid num : Nat) (bundle : RequestBundle P) : Schedule P :=
  [.call (.sendRequest num bundle)] ++ proceed tid 7

/-- The pump receives a request token and goes on to the write of the front. -/
def preparing (pump : Nat) : Schedule P := receive pump .request ++ proceed pump 6

/-- The pump receives a request token, writes the front and comes back to its select. -/
def dispatching (pump : Nat) : Schedule P :=
  preparing pump ++ [.step pump (.network none)] ++ proceed pump 5

/-- The answer to a pending request is handled to its end. -/
def answering (tid : Nat) (uniqueId : String) : Schedule P :=
  [.call (.ocppMessageHandler ⟨.callResult, uniqueId, true⟩)] ++ proceed tid 6

end Schedules

/-- A well-formed bundle without a context. -/
def sample (uniqueId : String) (payload : P) : RequestBundle P :=
  ⟨some ⟨uniqueId, "Heartbeat", some payload⟩, some [], none⟩

/-- A network and a callback are set, and requests time out. -/
def sampleOpts : Settings := ⟨true, true, 30, false⟩

/-- A push is admitted when no entry that is still to be reported has its
identifier, and the identifier is not empty. -/
@[reducible] def liveIdentifiers : Condition P where
  call _ _ := True
  op s _ op :=
    match op with
    | .push _ bundle => bundle.uniqueId ≠ "" ∧
        ∀ live, live ∈ s.hist.pushed ->
          live.num ∉ s.hist.notifications.map (fun notification => notification.owner.num) ->
          live.uniqueId ≠ bundle.uniqueId
    | _ => True

instance (s : Shared P) (tid : Nat) (op : Op P) :
    Decidable (liveIdentifiers.op s tid op) := by
  rcases op <;> infer_instance

theorem canceled_iff {outcome : Outcome} {claim : Prop} :
    (outcome ≠ .completed -> claim) <-> ∀ err, outcome = .canceled err -> claim := by
  cases outcome <;> simp

instance (s : Shared Nat) : Decidable (OwnPayload s) :=
  have (notification : Notification Nat) : Decidable (∀ err, notification.outcome =
      .canceled err -> notification.payload = notification.owner.payload) :=
    decidable_of_iff _ canceled_iff
  inferInstanceAs (Decidable (∀ notification, notification ∈ s.hist.notifications -> _))

/-- The request times out, and the pump has read its bundle when the answer
arrives after all.  The identifier is then used again before the pump completes
the request it has read. -/
def reusedIdentifier : Schedule Nat :=
  starting 0 ++ sending 2 0 (sample "1" 1) ++ dispatching 1 ++ [.occur .timerFires] ++
    receive 1 .timer ++ proceed 1 2 ++ answering 3 "1" ++ sending 4 1 (sample "1" 2) ++ proceed 1 4

/-- The second request is cancelled with the payload of the first. -/
theorem completion_foreign_payload :
    ∃ config, (system sampleOpts).Reachable liveIdentifiers
        (Shared.initial 10 : Shared Nat) config ∧ ¬ OwnPayload config.shared := by
  exact System.exists_reachable_of_replay _
    reusedIdentifier (by decide +kernel)

/-- A request that times out is reported once, with its payload. -/
theorem completion_single_winner_timeout :
    ∃ config, (system sampleOpts).Reachable Reading.freshIdentifiers
        (Shared.initial 10 : Shared Nat) config ∧
      config.shared.hist.notifications.length = 1 ∧
      SingleWinner config.shared ∧ OwnPayload config.shared :=
  System.exists_reachable_with
    (starting 0 ++ sending 2 0 (sample "1" 1) ++ dispatching 1 ++ [.occur .timerFires] ++
      receive 1 .timer ++ proceed 1 6) (by decide +kernel)
    fun config reached _ => (completion_single_winner sampleOpts 10 config).2 reached

end ClientDispatcher
end OcppGo
