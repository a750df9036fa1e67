import OcppGo.ClientDispatcher.Ownership

namespace OcppGo
namespace ClientDispatcher
namespace Ownership

open Function Interleaving Ocppj List

variable {P : Type}

/-!
# The ledger of a dispatcher

Every `SendRequest` call brings one item into existence, numbered by the call.
The item is with its caller until the push, then in the queue, then in the hand
of the goroutine that took it out, and finally among the reported ones.  Items
that never reach the end of this way are lost.
-/

inductive Place where
  | queue
  | hand (tid : Nat)
  | spent
  | lost
  deriving DecidableEq

def Hand.numbers (hand : Hand P) : List Nat :=
  hand.calling.toList ++ hand.owned.map Entry.num

/-- The items in the hand of a goroutine; an empty place has no hand. -/
def inHand (view : Nat -> Option (Hand P)) (tid : Nat) : List Nat :=
  match view tid with
  | some hand => hand.numbers
  | none => []

def ledger (s : Shared P) (view : Nat -> Option (Hand P)) (lost : List Nat) : Place -> List Nat
  | .queue => s.requestQueue.elements.map Entry.num
  | .hand tid => inHand view tid
  | .spent => s.hist.notifications.map (fun notification => notification.owner.num)
  | .lost => lost

theorem inHand_update_self (view : Nat -> Option (Hand P)) (tid : Nat) (hand : Hand P) :
    inHand (update view tid (some hand)) tid = hand.numbers := by
  simp [inHand]

theorem inHand_update_none (view : Nat -> Option (Hand P)) (tid : Nat) :
    inHand (update view tid none) tid = [] := by
  simp [inHand]

variable {other : Nat}

theorem inHand_update_of_ne (view : Nat -> Option (Hand P)) {tid : Nat}
    (apart : other ≠ tid) (label : Option (Hand P)) :
    inHand (update view tid label) other = inHand view other := by
  simp [inHand, update_of_ne apart]

/-- What stands in the ledger changes in the hand of one goroutine and where it is said to. -/
theorem ledger_elsewhere {s after : Shared P} {view : Nat -> Option (Hand P)} {tid : Nat}
    {content : Option (Hand P)} {lost left : List Nat} {place : Place}
    (held : place ≠ .hand tid)
    (queue : place = .queue -> after.requestQueue.elements = s.requestQueue.elements)
    (spent : place = .spent -> after.hist.notifications = s.hist.notifications)
    (gone : place = .lost -> left = lost) :
    ledger after (update view tid content) left place = ledger s view lost place := by
  cases place with
  | queue => exact congrArg _ (queue rfl)
  | hand other => exact inHand_update_of_ne view (fun same => held (by rw [same])) _
  | spent => exact congrArg _ (spent rfl)
  | lost => exact gone rfl

/-- What the history knows about the hand of a goroutine. -/
structure Grounded (hist : History P) (tid : Nat) (hand : Hand P) : Prop where
  owned : ∀ entry, entry ∈ hand.owned -> entry ∈ hist.pushed
  calling : ∀ num, hand.calling = some num ->
    (∀ entry, entry ∈ hist.pushed -> entry.num ≠ num) ∧ num ∉ hist.refused
  sent : ∀ num, hand.sent = some num ->
    ∃ entry, entry ∈ hist.pushed ∧ entry.num = num
  draining : hand.draining = true -> tid ∈ hist.draining

/-- The invariant of all runs.  Two regimes give more: `lossless`, and `truthful`,
under which an error is returned only for what will not be written any more. -/
structure Invariant (lossless truthful : Prop) (s : Shared P) (view : Nat -> Option (Hand P)) :
    Prop where
  accounts : ∃ lost, Sound (ledger s view lost) s.hist.calls ∧
    (lossless -> ∀ entry, entry ∈ s.hist.pushed -> entry.num ∉ lost)
  hands : ∀ tid hand, view tid = some hand -> Grounded s.hist tid hand
  queued : ∀ entry, entry ∈ s.requestQueue.elements -> entry ∈ s.hist.pushed
  distinct : (s.hist.pushed.map Entry.num).Nodup
  known : ∀ entry, entry ∈ s.hist.pushed -> entry.num < s.hist.calls
  denied : ∀ num, num ∈ s.hist.refused -> num < s.hist.calls
  reported : ∀ notification, notification ∈ s.hist.notifications ->
    notification.owner ∈ s.hist.pushed ∧
      notification.owner.uniqueId = notification.requestID
  accepted : ∀ num, num ∈ s.hist.accepted ->
    ∃ entry, entry ∈ s.hist.pushed ∧ entry.num = num
  wellFormed : lossless -> ∀ entry, entry ∈ s.hist.pushed ->
    entry.bundle.call.isSome = true
  drained : lossless -> s.hist.draining ≠ [] -> s.requestQueue.elements = []
  withdrawn : truthful -> ∀ num, num ∈ s.hist.refused ->
    (∀ entry, entry ∈ s.requestQueue.elements -> entry.num ≠ num) ∧
    (∀ bundle, bundle ∈ s.hist.writing -> bundle.2.num ≠ num)

/-- What the regimes ask of a step.  `lossless`: a bundle is pushed with a call and
not while a stop drain is between `DrainAll` and `Init`.  `truthful`: a call
returns an error only when its entry is neither in the queue nor about to be
written. -/
def undisturbed (lossless truthful : Prop) : Condition P where
  call _ _ := True
  op s _ op :=
    match op with
    | .push _ bundle => lossless -> bundle.call.isSome = true ∧ s.hist.draining = []
    | .ret num (some _) => truthful ->
        (∀ entry, entry ∈ s.requestQueue.elements -> entry.num ≠ num) ∧
        (∀ bundle, bundle ∈ s.hist.writing -> bundle.2.num ≠ num)
    | _ => True

variable {lossless truthful : Prop} {s after : Shared P} {view : Nat -> Option (Hand P)} {tid : Nat}
  {hand onward : Hand P}

namespace Invariant

section

variable (inv : Invariant lossless truthful s view)
include inv

/-- The invariant reads only a part of the state. -/
theorem congr (queue : after.requestQueue = s.requestQueue)
    (calls : after.hist.calls = s.hist.calls)
    (pushed : after.hist.pushed = s.hist.pushed)
    (notifications : after.hist.notifications = s.hist.notifications)
    (accepted : after.hist.accepted = s.hist.accepted)
    (refused : after.hist.refused = s.hist.refused)
    (draining : after.hist.draining = s.hist.draining)
    (writing : ∀ bundle, bundle ∈ after.hist.writing -> bundle ∈ s.hist.writing) :
    Invariant lossless truthful after view := by
  rcases inv with
    ⟨accounts, hands, queued, distinct, known, denied, reported, ret, wellFormed, drained,
      withdrawn⟩
  have same : ∀ lost, ledger after view lost = ledger s view lost := by
    intro lost
    funext place
    cases place with
    | queue => simp [ledger, queue]
    | hand tid => rfl
    | spent => simp [ledger, notifications]
    | lost => rfl
  refine ⟨?_, ?_, ?_, ?_, ?_, ?_, ?_, ?_, ?_, ?_, ?_⟩
  · simpa only [same, calls, pushed] using accounts
  · intro tid hand tagged
    rcases hands tid hand tagged with ⟨owned, calling, sent, drains⟩
    exact ⟨by rwa [pushed], by rwa [pushed, refused], by rwa [pushed], by rwa [draining]⟩
  · rwa [queue, pushed]
  · rwa [pushed]
  · rwa [pushed, calls]
  · rwa [refused, calls]
  · rwa [notifications, pushed]
  · rwa [accepted, pushed]
  · rwa [pushed]
  · rwa [draining, queue]
  · rw [refused, queue]
    intro truth num mem
    have pre := withdrawn truth num mem
    exact ⟨pre.1, fun bundle present => pre.2 bundle (writing bundle present)⟩

/-- Neither the queue nor the history changes. -/
theorem congr_history (queue : after.requestQueue = s.requestQueue)
    (hist : after.hist = s.hist) : Invariant lossless truthful after view :=
  inv.congr queue (by rw [hist]) (by rw [hist]) (by rw [hist]) (by rw [hist])
    (by rw [hist]) (by rw [hist]) (by rw [hist]; exact fun _ mem => mem)

/-- A label that is put back changes nothing. -/
theorem relabel (tagged : view tid = some hand) :
    Invariant lossless truthful s (update view tid (some hand)) := by
  have same : update view tid (some hand) = view := by
    rw [← tagged]
    exact update_eq_self tid view
  rwa [same]

end

theorem inHand_eq (tagged : view tid = some hand) : inHand view tid = hand.numbers := by
  simp [inHand, tagged]

/-- Two goroutines never have the same item. -/
theorem same_thread (inv : Invariant lossless truthful s view) (num : Nat)
    (here : num ∈ inHand view tid) (there : num ∈ inHand view other) : tid = other := by
  rcases inv.accounts with ⟨lost, sound, _⟩
  have same := sound.unique (.hand tid) (.hand other) num here there
  cases same
  rfl

end Invariant

/-- Only one goroutine's hand changes. -/
theorem grounded_update {hist : History P}
    (others : ∀ other label, other ≠ tid -> view other = some label ->
      Grounded hist other label)
    (own : Grounded hist tid onward) (other : Nat) (label : Hand P)
    (tagged : update view tid (some onward) other = some label) :
    Grounded hist other label := by
  by_cases same : other = tid
  · subst same
    rw [update_self] at tagged
    cases tagged
    exact own
  · rw [update_of_ne same] at tagged
    exact others other label same tagged

/-! ## The operations move items -/

variable {num : Nat}

variable {queue : FIFOClientQueue (Entry P)}

section

variable (inv : Invariant lossless truthful s view) (tagged : view tid = some hand)
include inv tagged

theorem push_invariant {bundle : RequestBundle P} (calling : hand.calling = some num)
    (clean : hand.owned = [])
    (admitted : lossless -> bundle.call.isSome = true ∧ s.hist.draining = [])
    (pushed : s.requestQueue.push ⟨num, s.gen, bundle⟩ = some queue) :
    Invariant lossless truthful { s with
        requestQueue := queue
        hist := { s.hist with
          pushed := s.hist.pushed ++ [⟨num, s.gen, bundle⟩] } }
      (update view tid (some { hand with calling := none, sent := some num })) := by
  have elements := (FIFOClientQueue.push_eq_some pushed).1
  have grounded := inv.hands tid hand tagged
  have mine : num ∈ inHand view tid := by
    rw [Invariant.inHand_eq tagged]
    simp [Hand.numbers, calling]
  rcases inv.accounts with ⟨lost, sound, kept⟩
  refine ⟨⟨lost, ?_, ?_⟩, ?_, ?_, ?_, ?_, inv.denied, ?_, ?_, ?_, ?_, ?_⟩
  · refine sound.transfer (.hand tid) .queue [num] (by simp) ?_ ?_ ?_
    · simp [ledger, Invariant.inHand_eq tagged, inHand_update_self, Hand.numbers, calling, clean]
    · simp [ledger, elements, perm_append_singleton]
    · intro place notSource notTarget
      exact ledger_elsewhere notSource (absurd · notTarget) (fun _ => rfl) fun _ => rfl
  · intro strict
    refine forall_mem_append.mpr ⟨kept strict, forall_mem_singleton.mpr fun gone => ?_⟩
    cases sound.unique (.hand tid) .lost num mine gone
  · apply grounded_update
    · intro other label apart known
      have old := inv.hands other label known
      refine ⟨?_, ?_, ?_, old.draining⟩
      · intro entry mem
        exact mem_append_left _ (old.owned entry mem)
      · intro otherNumber otherCalling
        have early := old.calling otherNumber otherCalling
        refine ⟨forall_mem_append.mpr ⟨early.1, forall_mem_singleton.mpr ?_⟩, early.2⟩
        rintro rfl
        refine apart (inv.same_thread _ ?_ mine)
        rw [Invariant.inHand_eq known]
        simp [Hand.numbers, otherCalling]
      · intro otherNumber otherSent
        rcases old.sent otherNumber otherSent with ⟨entry, mem, named⟩
        exact ⟨entry, mem_append_left _ mem, named⟩
    · refine ⟨?_, ?_, ?_, grounded.draining⟩
      · intro entry mem
        exact mem_append_left _ (grounded.owned entry mem)
      · exact nofun
      · rintro otherNumber same
        cases same
        exact ⟨_, mem_append_right _ (mem_singleton_self _), rfl⟩
  · intro entry mem
    rw [elements] at mem
    rcases mem_append.mp mem with pre | new
    · exact mem_append_left _ (inv.queued entry pre)
    · exact mem_append_right _ new
  · simp only [map_append, map_cons, map_nil]
    refine nodup_append.mpr ⟨inv.distinct, nodup_singleton _, ?_⟩
    intro earlier mem new single
    rcases mem_map.mp mem with ⟨entry, pre, rfl⟩
    rw [mem_singleton.mp single]
    exact (grounded.calling num calling).1 entry pre
  · exact forall_mem_append.mpr ⟨inv.known,
      forall_mem_singleton.mpr ((sound.listed num).mpr ⟨.hand tid, mine⟩)⟩
  · intro notification mem
    have old := inv.reported notification mem
    exact ⟨mem_append_left _ old.1, old.2⟩
  · intro other mem
    rcases inv.accepted other mem with ⟨entry, pre, named⟩
    exact ⟨entry, mem_append_left _ pre, named⟩
  · exact fun strict => forall_mem_append.mpr ⟨inv.wellFormed strict,
      forall_mem_singleton.mpr (admitted strict).1⟩
  · intro strict draining
    exact absurd (admitted strict).2 draining
  · intro truth refusedNumber mem
    have pre := inv.withdrawn truth refusedNumber mem
    refine ⟨?_, pre.2⟩
    rw [elements]
    refine forall_mem_append.mpr ⟨pre.1, forall_mem_singleton.mpr ?_⟩
    rintro rfl
    exact (grounded.calling num calling).2 mem

/-- A call that returns gives up what it has not pushed. -/
theorem giveUp_invariant :
    Invariant lossless truthful s (update view tid (some { hand with calling := none })) := by
  have grounded := inv.hands tid hand tagged
  rcases inv.accounts with ⟨lost, sound, kept⟩
  refine { inv with accounts := ⟨hand.calling.toList ++ lost, ?_, ?_⟩, hands := ?_ }
  · refine sound.transfer (.hand tid) .lost hand.calling.toList (by simp) ?_ ?_ ?_
    · simp [ledger, Invariant.inHand_eq tagged, inHand_update_self, Hand.numbers]
    · exact Perm.refl _
    · intro place notSource notTarget
      exact ledger_elsewhere notSource (fun _ => rfl) (fun _ => rfl) (absurd · notTarget)
  · intro strict entry mem
    rw [mem_append, not_or, Option.mem_toList]
    refine ⟨?_, kept strict entry mem⟩
    intro calling
    exact (grounded.calling entry.num calling).1 entry mem rfl
  · apply grounded_update
    · exact fun other label _ known => inv.hands other label known
    · exact { grounded with calling := nofun }

/-- A call that has given up or pushed its bundle is called by nobody else. -/
theorem called_once (mine : hand.calling = some num ∨ hand.sent = some num) {label : Hand P}
    (apart : other ≠ tid) (known : view other = some label) :
    label.calling ≠ some num := by
  intro calling
  rcases mine with also | sent
  · refine apart (inv.same_thread num ?_ ?_)
    · rw [Invariant.inHand_eq known]
      simp [Hand.numbers, calling]
    · rw [Invariant.inHand_eq tagged]
      simp [Hand.numbers, also]
  · rcases (inv.hands tid hand tagged).sent num sent with ⟨entry, mem, named⟩
    exact ((inv.hands other label known).calling num calling).1 entry mem named

end

theorem popIf_invariant {front : Entry P} {writing : List (Nat × Entry P)}
    (fewer : ∀ bundle, bundle ∈ writing -> bundle ∈ s.hist.writing)
    (inv : Invariant lossless truthful s view) (tagged : view tid = some hand)
    (elements : s.requestQueue.elements = front :: queue.elements) :
    Invariant lossless truthful
      { s with requestQueue := queue, hist := { s.hist with writing := writing } }
      (update view tid (some { hand with owned := front :: hand.owned })) := by
  have grounded := inv.hands tid hand tagged
  have queued := forall_mem_cons.mp (elements ▸ inv.queued)
  rcases inv.accounts with ⟨lost, sound, kept⟩
  refine { inv with
    accounts := ⟨lost, ?_, kept⟩, hands := ?_, queued := ?_, drained := ?_, withdrawn := ?_ }
  · refine sound.transfer .queue (.hand tid) [front.num] (by simp) ?_ ?_ ?_
    · simp [ledger, elements]
    · simp only [ledger, Invariant.inHand_eq tagged, inHand_update_self, Hand.numbers,
        map_cons]
      exact perm_middle
    · intro place notSource notTarget
      exact ledger_elsewhere notTarget (absurd · notSource) (fun _ => rfl) fun _ => rfl
  · apply grounded_update
    · exact fun other label _ known => { inv.hands other label known with }
    · refine ⟨?_, grounded.calling, grounded.sent, grounded.draining⟩
      exact forall_mem_cons.mpr ⟨queued.1, grounded.owned⟩
  · exact queued.2
  · intro strict draining
    have vacant := inv.drained strict draining
    rw [elements] at vacant
    cases vacant
  · intro truth num mem
    have pre := inv.withdrawn truth num mem
    rw [elements] at pre
    exact ⟨(forall_mem_cons.mp pre.1).2, fun bundle present => pre.2 bundle (fewer bundle present)⟩

section

variable (inv : Invariant lossless truthful s view) (tagged : view tid = some hand)
include inv tagged

theorem drainAll_invariant :
    Invariant lossless truthful { s with
        requestQueue := s.requestQueue.drainAll.2
        hist := { s.hist with draining := tid :: s.hist.draining } }
      (update view tid (some { hand with
        owned := s.requestQueue.elements.filter (fun entry => entry.bundle.call.isSome) ++ hand.owned
        draining := true })) := by
  have grounded := inv.hands tid hand tagged
  rcases inv.accounts with ⟨lost, sound, kept⟩
  -- bundles without a call are dropped, the others are taken
  let dropped := (s.requestQueue.elements.filter fun entry => !entry.bundle.call.isSome).map Entry.num
  let taken := (s.requestQueue.elements.filter fun entry => entry.bundle.call.isSome).map Entry.num
  have parts : (s.requestQueue.elements.map Entry.num).Perm (taken ++ dropped) := by
    have split := filter_append_perm (fun entry : Entry P => entry.bundle.call.isSome)
      s.requestQueue.elements
    rw [← map_append]
    exact (split.map Entry.num).symm
  have halfway : Sound (update (ledger s view (dropped ++ lost)) .queue taken)
      s.hist.calls := by
    refine sound.transfer .queue .lost dropped (by simp) ?_ ?_ ?_
    · rw [update_self]
      exact parts.trans perm_append_comm
    · rw [update_of_ne (by simp)]
      exact Perm.refl _
    · intro place notSource notTarget
      rw [update_of_ne notSource]
      cases place with
      | lost => exact absurd rfl notTarget
      | _ => rfl
  refine { inv with
    accounts := ⟨dropped ++ lost, ?_, ?_⟩, hands := ?_, queued := ?_, drained := ?_, withdrawn := ?_ }
  · refine halfway.transfer .queue (.hand tid) taken (by simp) ?_ ?_ ?_
    · rw [update_self]
      simp [ledger, FIFOClientQueue.drainAll]
    · rw [update_of_ne (by simp)]
      simp only [ledger, Invariant.inHand_eq tagged, inHand_update_self, Hand.numbers,
        map_append]
      exact (perm_append_comm_assoc _ _ _)
    · intro place notSource notTarget
      rw [update_of_ne notSource]
      exact ledger_elsewhere notTarget (absurd · notSource) (fun _ => rfl) fun _ => rfl
  · intro strict entry mem
    rw [mem_append, not_or]
    refine ⟨?_, kept strict entry mem⟩
    intro gone
    rcases mem_map.mp gone with ⟨other, dropping, _⟩
    rcases mem_filter.mp dropping with ⟨queued, missing⟩
    simp [inv.wellFormed strict other (inv.queued other queued)] at missing
  · apply grounded_update
    · intro other label _ known
      have old := inv.hands other label known
      exact { old with draining := fun drains => mem_cons_of_mem _ (old.draining drains) }
    · refine ⟨?_, grounded.calling, grounded.sent, fun _ => mem_cons_self⟩
      exact forall_mem_append.mpr
        ⟨fun entry new => inv.queued entry (mem_filter.mp new).1, grounded.owned⟩
  · exact nofun
  · exact fun _ _ => rfl
  · exact fun truth num mem => ⟨nofun, (inv.withdrawn truth num mem).2⟩

theorem init_invariant (draining : hand.draining = true) :
    Invariant lossless truthful { s with
        requestQueue := s.requestQueue.init
        hist := { s.hist with draining := s.hist.draining.erase tid } }
      (update view tid (some { hand with draining := false })) := by
  have grounded := inv.hands tid hand tagged
  have present : s.hist.draining ≠ [] := ne_nil_of_mem (grounded.draining draining)
  rcases inv.accounts with ⟨lost, sound, kept⟩
  refine { inv with
    accounts := ⟨s.requestQueue.elements.map Entry.num ++ lost, ?_, ?_⟩, hands := ?_
    queued := ?_, drained := ?_, withdrawn := ?_ }
  · refine sound.transfer .queue .lost (s.requestQueue.elements.map Entry.num) (by simp) ?_ ?_ ?_
    · simp [ledger]
    · exact Perm.refl _
    · intro place notSource notTarget
      by_cases own : place = .hand tid
      · subst own
        simp [ledger, Invariant.inHand_eq tagged, inHand_update_self, Hand.numbers]
      · exact ledger_elsewhere own (absurd · notSource) (fun _ => rfl) (absurd · notTarget)
  · intro strict entry mem
    rw [inv.drained strict present]
    exact kept strict entry mem
  · apply grounded_update
    · intro other label apart known
      have old := inv.hands other label known
      exact { old with
        draining := fun drains => (mem_erase_of_ne apart).mpr (old.draining drains) }
    · exact { grounded with draining := nofun }
  · exact nofun
  · exact fun _ _ => rfl
  · exact fun truth num mem => ⟨nofun, (inv.withdrawn truth num mem).2⟩

/-- A report, whatever it says, takes the first owned entry out of the hand. -/
theorem report_invariant {owner : Entry P} (first : hand.owned.head? = some owner)
    (notification : Notification P) (about : notification.owner = owner)
    (named : owner.uniqueId = notification.requestID) :
    Invariant lossless truthful { s with
        hist := { s.hist with
          notifications := s.hist.notifications ++ [notification] } }
      (update view tid (some { hand with owned := hand.owned.tail })) := by
  have grounded := inv.hands tid hand tagged
  have shape : hand.owned = owner :: hand.owned.tail := by
    cases found : hand.owned with
    | nil => rw [found] at first; cases first
    | cons front rest => rw [found] at first; cases first; rfl
  rcases inv.accounts with ⟨lost, sound, kept⟩
  refine { inv with accounts := ⟨lost, ?_, kept⟩, hands := ?_, reported := ?_ }
  · refine sound.transfer (.hand tid) .spent [owner.num] (by simp) ?_ ?_ ?_
    · simp only [ledger, Invariant.inHand_eq tagged, inHand_update_self, Hand.numbers]
      rw [shape, map_cons]
      exact perm_middle
    · simp [ledger, about]
    · intro place notSource notTarget
      exact ledger_elsewhere notSource (fun _ => rfl) (absurd · notTarget) fun _ => rfl
  · apply grounded_update
    · exact fun other label _ known => { inv.hands other label known with }
    · refine ⟨?_, grounded.calling, grounded.sent, grounded.draining⟩
      intro entry mem
      exact grounded.owned entry (mem_of_mem_tail mem)
  · refine forall_mem_append.mpr ⟨inv.reported, forall_mem_singleton.mpr ?_⟩
    rw [about]
    exact ⟨grounded.owned owner (shape ▸ mem_cons_self), named⟩

/-- A goroutine that ends takes what it still holds with it. -/
theorem finish_invariant (settled : Settled lossless hand) :
    Invariant lossless truthful s (update view tid none) := by
  have grounded := inv.hands tid hand tagged
  rcases inv.accounts with ⟨lost, sound, kept⟩
  refine { inv with accounts := ⟨hand.numbers ++ lost, ?_, ?_⟩, hands := ?_ }
  · refine sound.transfer (.hand tid) .lost hand.numbers (by simp) ?_ ?_ ?_
    · simp [ledger, Invariant.inHand_eq tagged, inHand_update_none]
    · exact Perm.refl _
    · intro place notSource notTarget
      exact ledger_elsewhere notSource (fun _ => rfl) (fun _ => rfl) (absurd · notTarget)
  · intro strict entry mem
    rw [mem_append, not_or]
    refine ⟨?_, kept strict entry mem⟩
    rw [Hand.numbers, settled strict, map_nil, append_nil, Option.mem_toList]
    intro calling
    exact (grounded.calling entry.num calling).1 entry mem rfl
  · intro other label known
    by_cases same : other = tid
    · subst same
      rw [update_self] at known
      cases known
    · rw [update_of_ne same] at known
      exact inv.hands other label known

end

/-- A new goroutine; a `SendRequest` call brings the next item. -/
theorem enter_invariant {routine : Routine P} (inv : Invariant lossless truthful s view)
    (entered : enter routine s = some after) (vacant : view tid = none) :
    ∃ state, entry lossless routine state ∧
      Invariant lossless truthful after (update view tid (some state)) := by
  have emptyHanded : ∀ label : Hand P, label.calling = none -> label.owned = [] ->
      label.sent = none -> label.draining = false -> after.requestQueue = s.requestQueue ->
      after.hist = s.hist ->
      Invariant lossless truthful after (update view tid (some label)) := by
    intro label calling owned sent draining queue hist
    rcases inv.accounts with ⟨lost, sound, kept⟩
    have retagged : Invariant lossless truthful s (update view tid (some label)) := by
      refine { inv with accounts := ⟨lost, sound.congr ?_, kept⟩, hands := ?_ }
      · intro place
        by_cases own : place = .hand tid
        · subst own
          simp [ledger, inHand, vacant, Hand.numbers, calling, owned]
        · exact ledger_elsewhere own (fun _ => rfl) (fun _ => rfl) fun _ => rfl
      · apply grounded_update
        · exact fun other known _ tagged => inv.hands other known tagged
        · exact ⟨by simp [owned], by simp [calling], by simp [sent], by simp [draining]⟩
    exact retagged.congr_history queue hist
  rcases enter_cases entered with ⟨num, req, rfl, next, rfl⟩ | ⟨rfl, _, rfl⟩ | ⟨_, rfl⟩
  · refine ⟨⟨some num, none, [], false⟩, ⟨rfl, rfl⟩, ?_⟩
    rcases inv.accounts with ⟨lost, sound, kept⟩
    refine { inv with
      accounts := ⟨lost, ?_, kept⟩, hands := ?_
      known := fun entry mem => Nat.lt_succ_of_lt (inv.known entry mem)
      denied := fun num mem => Nat.lt_succ_of_lt (inv.denied num mem) }
    · refine sound.create (.hand tid) ?_ ?_
      · simp [ledger, inHand, vacant, Hand.numbers, next]
      · intro place notTarget
        exact ledger_elsewhere notTarget (fun _ => rfl) (fun _ => rfl) fun _ => rfl
    · apply grounded_update
      · exact fun other known _ tagged => { inv.hands other known tagged with }
      · refine ⟨by simp, ?_, by simp, by simp⟩
        intro other same
        rw [← Option.some.inj same, next]
        constructor
        · intro entry mem
          exact Nat.ne_of_lt (inv.known entry mem)
        · intro mem
          exact Nat.lt_irrefl _ (inv.denied _ mem)
  · exact ⟨_, fun _ => rfl, emptyHanded ⟨none, none, [], false⟩ rfl rfl rfl rfl rfl rfl⟩
  · refine ⟨⟨none, none, [], false⟩, ?_, emptyHanded _ rfl rfl rfl rfl rfl rfl⟩
    cases routine with
    | sendRequest =>
      simp only [enter] at entered
      grind
    | pumpLoop => cases entered
    | _ => exact fun _ => rfl

/-! ## The invariant holds in every run -/

theorem initial_invariant (capacity : Nat) :
    Invariant lossless truthful (Shared.initial capacity : Shared P) (fun _ => none) := by
  have nowhere : ∀ place, ledger (Shared.initial capacity : Shared P) (fun _ => none) [] place = [] := by
    intro place
    cases place with
    | _ => rfl
  refine ⟨⟨[], ⟨?_, ?_, ?_⟩, ?_⟩, ?_, ?_, ?_, ?_, ?_, ?_, ?_, ?_, ?_, ?_⟩
  · intro place
    rw [nowhere]
    exact nodup_nil
  · intro place other item mem
    rw [nowhere] at mem
    cases mem
  · intro item
    constructor
    · intro never
      cases never
    · rintro ⟨place, mem⟩
      rw [nowhere] at mem
      cases mem
  all_goals simp [Shared.initial, History.initial]

/-- Whoever reads the front of the queue in order to write it reads an entry whose
call has not been refused. -/
theorem peek_invariant {front : Entry P} {held : List (Nat × Entry P)} (site : Site)
    (inv : Invariant lossless truthful s view) (found : s.requestQueue.peek = some front) :
    Invariant lossless truthful { s with
      hist := { s.hist with
        held := held
        writing := if site = .dispatch then (tid, front) :: s.hist.writing
          else s.hist.writing } } view := by
  have waiting : front ∈ s.requestQueue.elements := mem_of_mem_head? found
  refine { inv with hands := ?_, withdrawn := ?_ }
  · exact fun other label known => { inv.hands other label known with }
  · intro truth num mem
    have pre := inv.withdrawn truth num mem
    refine ⟨pre.1, ?_⟩
    by_cases dispatching : site = .dispatch
    · rw [if_pos dispatching]
      exact forall_mem_cons.mpr ⟨pre.1 front waiting, pre.2⟩
    · rw [if_neg dispatching]
      exact pre.2

section

variable (inv : Invariant lossless truthful s view) (tagged : view tid = some hand)
include inv tagged

theorem accepted_invariant (sent : hand.sent = some num) :
    Invariant lossless truthful { s with
        hist := { s.hist with accepted := s.hist.accepted ++ [num] } }
      (update view tid (some { hand with calling := none })) := by
  have stands := giveUp_invariant inv tagged
  refine { stands with hands := ?_, accepted := ?_ }
  · exact fun other label known => { stands.hands other label known with }
  · exact forall_mem_append.mpr ⟨stands.accepted,
      forall_mem_singleton.mpr ((inv.hands tid hand tagged).sent num sent)⟩

theorem refused_invariant (mine : hand.calling = some num ∨ hand.sent = some num)
    (admitted : truthful -> (∀ entry, entry ∈ s.requestQueue.elements -> entry.num ≠
      num) ∧ (∀ bundle, bundle ∈ s.hist.writing -> bundle.2.num ≠ num)) :
    Invariant lossless truthful { s with
        hist := { s.hist with refused := s.hist.refused ++ [num] } }
      (update view tid (some { hand with calling := none })) := by
  have grounded := inv.hands tid hand tagged
  have stands := giveUp_invariant inv tagged
  refine { stands with hands := ?_, denied := ?_, withdrawn := ?_ }
  · apply grounded_update
    · intro other label apart known
      have old := inv.hands other label known
      refine ⟨old.owned, ?_, old.sent, old.draining⟩
      intro otherNumber calling
      have early := old.calling otherNumber calling
      refine ⟨early.1, ?_⟩
      rw [mem_append, not_or, mem_singleton]
      refine ⟨early.2, ?_⟩
      rintro rfl
      exact called_once inv tagged mine apart known calling
    · exact { grounded with calling := nofun }
  · refine forall_mem_append.mpr ⟨stands.denied, forall_mem_singleton.mpr ?_⟩
    rcases mine with calling | sent
    · rcases inv.accounts with ⟨lost, sound, _⟩
      refine (sound.listed num).mpr ⟨.hand tid, ?_⟩
      simp [ledger, Invariant.inHand_eq tagged, Hand.numbers, calling]
    · rcases grounded.sent num sent with ⟨entry, pushed, rfl⟩
      exact inv.known entry pushed
  · exact fun truth => forall_mem_append.mpr ⟨stands.withdrawn truth,
      forall_mem_singleton.mpr (admitted truth)⟩

theorem execute_invariant {op : Op P} {choice : Choice} {ans : Res P op}
    (allowed : (accord lossless).allowed op hand)
    (admitted : (undisturbed lossless truthful).op s tid op)
    (exec : execute tid op choice s = some (ans, after)) :
    ∃ onward, (accord lossless).next op hand ans onward ∧
      Invariant lossless truthful after (update view tid (some onward)) := by
  have stands := inv.relabel tagged
  cases op with
  | push num bundle =>
    simp only [execute] at exec
    split at exec
    · rename_i queue pushed
      cases exec
      exact ⟨_, rfl, push_invariant inv tagged allowed.2.1 allowed.2.2 admitted pushed⟩
    · cases exec
      exact ⟨hand, rfl, stands⟩
  | popIf site requestId =>
    simp only [execute] at exec
    split at exec
    · rename_i front queue popped
      cases exec
      rcases FIFOClientQueue.popIf_eq_some popped with ⟨elements, matched⟩
      exact ⟨_, ⟨matched, rfl⟩, popIf_invariant (fun _ => mem_of_mem_without) inv tagged elements⟩
    · cases exec
      exact ⟨hand, rfl, stands.congr rfl rfl rfl rfl rfl rfl rfl fun _ => mem_of_mem_without⟩
  | drainAll =>
    cases exec
    refine ⟨_, ⟨?_, rfl⟩, drainAll_invariant inv tagged⟩
    intro strict entry mem
    exact inv.wellFormed strict entry (inv.queued entry mem)
  | init =>
    cases exec
    exact ⟨_, rfl, init_invariant inv tagged allowed.2⟩
  | onRequestCancel owner requestID request err =>
    cases exec
    exact ⟨_, rfl, report_invariant inv tagged allowed.2.1 _ rfl allowed.2.2⟩
  | completed owner requestID =>
    cases exec
    exact ⟨_, rfl, report_invariant inv tagged allowed.2.1 _ rfl allowed.2.2⟩
  | ret num failure =>
    cases exec
    cases failure with
    | none => exact ⟨_, rfl, accepted_invariant inv tagged allowed.2⟩
    | some error => exact ⟨_, rfl, refused_invariant inv tagged allowed.2 admitted⟩
  | peek site =>
    simp only [execute] at exec
    split at exec
    · rename_i front found
      cases exec
      exact ⟨hand, rfl, peek_invariant site stands found⟩
    · cases exec
      exact ⟨hand, rfl, stands⟩
  | assignStarted =>
    cases exec
    exact ⟨hand, rfl, stands.congr rfl rfl rfl rfl rfl rfl rfl fun _ mem => mem⟩
  | retain kept =>
    cases exec
    exact ⟨hand, rfl, stands.congr rfl rfl rfl rfl rfl rfl rfl fun _ => mem_of_mem_without⟩
  | write written data =>
    simp only [execute] at exec
    split at exec
    · cases exec
      exact ⟨hand, rfl, stands.congr rfl rfl rfl rfl rfl rfl rfl fun _ => mem_of_mem_without⟩
    · cases exec
  | select reqCh pendingDone =>
    obtain ⟨_, _, _, _, rfl⟩ := execute_select_frame exec
    exact ⟨hand, rfl, stands.congr rfl rfl rfl rfl rfl rfl rfl fun _ mem => mem⟩
  | _ =>
    rcases execute_quiet exec rfl with ⟨queue, hist⟩
    exact ⟨hand, rfl, stands.congr_history queue hist⟩

end

theorem occur_invariant {event : Event} (inv : Invariant lossless truthful s view)
    (arose : occur event s = some after) : Invariant lossless truthful after view := by
  rcases occur_frame arose with ⟨queue, hist⟩
  exact inv.congr_history queue hist

/-- The dispatcher keeps the ledger in every run. -/
theorem verified {opts : Settings} (callback : lossless -> opts.onRequestCancel = true)
    (capacity : Nat) :
    Verified (system opts) (undisturbed lossless truthful) (Shared.initial capacity : Shared P)
      (accord lossless) (entry lossless) (Settled lossless) (Invariant lossless truthful) where
  body := obeys_body callback
  initially := initial_invariant capacity
  enter _ _ _ _ _ _ inv entered vacant := enter_invariant inv entered vacant
  occur _ _ _ _ inv arose := occur_invariant inv arose
  execute _ _ _ _ _ _ _ _ inv tagged allowed admitted exec :=
    execute_invariant inv tagged allowed admitted exec
  finish _ _ _ _ inv tagged settled := finish_invariant inv tagged settled

end Ownership
end ClientDispatcher
end OcppGo
