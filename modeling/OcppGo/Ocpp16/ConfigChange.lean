import OcppGo.Ocpp16.ConfigManager

namespace OcppGo
namespace Ocpp16
namespace ConfigManager

open Ocppj OcppGo.Sequential List

/-!
# Changing one key of the configuration

`updateKeyLocked` has eight courses, and `Course` lists them with the state each
one leaves.  The status of `OnChangeConfiguration` is read off the error of the
course, and compared here with the table in its documentation.
-/

variable {ω : Type}

/-- The store has an entry with the key. -/
def ManagerV16.Knows (mgr : ManagerV16 ω) (key : Key) : Prop :=
  ∃ entry, entry ∈ mgr.ocppConfig.keys ∧ entry.key = key

variable {keys : List ConfigurationKey} {key : Key}

theorem findKeyIndex_eq_none :
    findKeyIndex keys key = none <-> ¬ ∃ entry, entry ∈ keys ∧ entry.key = key := by
  induction keys with
  | nil => simp [findKeyIndex]
  | cons entry rest ih =>
    by_cases same : entry.key = key
    · simp [findKeyIndex, same]
    · simpa [findKeyIndex, same] using ih

variable {entry : ConfigurationKey} {index : Nat}

section

variable (found : findKeyIndex keys key = some (entry, index))
include found

/-- The entry that is found stands behind entries with other keys. -/
@[elab_as_elim] theorem found_induction {motive : List ConfigurationKey -> Nat -> Prop}
    (here : ∀ rest, entry.key = key -> motive (entry :: rest) 0)
    (later : ∀ head rest index, head.key ≠ key -> motive rest index ->
      motive (head :: rest) (index + 1)) :
    motive keys index := by
  induction keys generalizing index with
  | nil => cases found
  | cons head rest ih =>
    by_cases same : head.key = key
    · simp only [findKeyIndex, same, if_true, Option.some.injEq, Prod.mk.injEq] at found
      obtain ⟨rfl, rfl⟩ := found
      exact here rest same
    · simp only [findKeyIndex, same, if_false, Option.map_eq_some_iff] at found
      obtain ⟨inner, below, pair⟩ := found
      obtain ⟨rfl, rfl⟩ := Prod.mk.inj pair
      exact later head rest inner.2 same (ih below)

theorem mem_of_findKeyIndex : entry ∈ keys ∧ entry.key = key := by
  refine found_induction found (fun rest same => ⟨mem_cons_self, same⟩) ?_
  exact fun head rest index other below => ⟨mem_cons_of_mem _ below.1, below.2⟩

end

theorem Knows.of_find {mgr : ManagerV16 ω} {found : ConfigurationKey × Nat}
    (lookup : findKeyIndex mgr.ocppConfig.keys key = some found) : mgr.Knows key :=
  ⟨found.1, mem_of_findKeyIndex lookup⟩

/-- Writing the value an entry already has. -/
theorem modify_found (found : findKeyIndex keys key = some (entry, index)) (value : Value) :
    (keys.modify index fun old => { old with value }).modify index
      (fun old => { old with value := entry.value }) = keys := by
  refine found_induction found (fun rest _ => by simp) fun head rest index _ below => ?_
  simpa using below

/-- Rolling an applied value back gives the manager there was before. -/
theorem ManagerV16.setValue_restored {mgr : ManagerV16 ω}
    (found : findKeyIndex mgr.ocppConfig.keys key = some (entry, index)) (value : Value) :
    (mgr.setValue index value).setValue index entry.value = mgr := by
  unfold ManagerV16.setValue
  simp only [modify_found found value]

/-! ## The courses of an update -/

/-- The custom validator; without one every value is accepted. -/
def ManagerV16.judge (mgr : ManagerV16 ω) (key : Key) (value : Value) : Callback ω Bool :=
  match mgr.keyValidator with
  | none => pure true
  | some validator => validator key value

/-- The handler of the key; without one nothing happens. -/
def ManagerV16.react (mgr : ManagerV16 ω) (key : Key) (value : Value) :
    Callback ω (Option ConfigError) :=
  match mgr.onUpdateHandlers.lookup key with
  | none => pure none
  | some handler => handler value

/-- How an update of `key` in `state` may end. -/
inductive Course (state : State ω) (key : Key) (value : Value) :
    EStateM.Result Panic (State ω) (Option ConfigError) -> Prop
  | emptyKey (empty : key = "") : Course state key value (.ok (some .keyCannotBeEmpty) state)
  | validatorPanics {panic : Panic} {outside : Outside ω} (named : key ≠ "")
      (judged : state.mgr.judge key value state.outside = .error panic outside) :
      Course state key value (.error panic { state with outside })
  | refused {outside : Outside ω} (named : key ≠ "")
      (judged : state.mgr.judge key value state.outside = .ok false outside) :
      Course state key value (.ok (some (.keyValidationFailed key)) { state with outside })
  | unknown {outside : Outside ω} (named : key ≠ "")
      (judged : state.mgr.judge key value state.outside = .ok true outside)
      (missing : findKeyIndex state.mgr.ocppConfig.keys key = none) :
      Course state key value (.ok (some .keyNotFound) { state with outside })
  | readOnly {outside : Outside ω} {entry : ConfigurationKey} {index : Nat} (named : key ≠ "")
      (judged : state.mgr.judge key value state.outside = .ok true outside)
      (found : findKeyIndex state.mgr.ocppConfig.keys key = some (entry, index))
      (locked : entry.readonly = true) :
      Course state key value (.ok (some .readOnly) { state with outside })
  | applied {outside later : Outside ω} {entry : ConfigurationKey} {index : Nat}
      (named : key ≠ "")
      (judged : state.mgr.judge key value state.outside = .ok true outside)
      (found : findKeyIndex state.mgr.ocppConfig.keys key = some (entry, index))
      (writable : entry.readonly = false)
      (reacted : state.mgr.react key value outside = .ok none later) :
      Course state key value (.ok none ⟨state.mgr.setValue index value, later⟩)
  | handlerFails {outside later : Outside ω} {entry : ConfigurationKey} {index : Nat}
      {err : ConfigError} (named : key ≠ "")
      (judged : state.mgr.judge key value state.outside = .ok true outside)
      (found : findKeyIndex state.mgr.ocppConfig.keys key = some (entry, index))
      (writable : entry.readonly = false)
      (reacted : state.mgr.react key value outside = .ok (some err) later) :
      Course state key value (.ok (some err) { state with outside := later })
  | handlerPanics {outside later : Outside ω} {entry : ConfigurationKey} {index : Nat}
      {panic : Panic} (named : key ≠ "")
      (judged : state.mgr.judge key value state.outside = .ok true outside)
      (found : findKeyIndex state.mgr.ocppConfig.keys key = some (entry, index))
      (writable : entry.readonly = false)
      (reacted : state.mgr.react key value outside = .error panic later) :
      Course state key value (.error panic { state with outside := later })

/-- What validation makes of the verdict of the validator. -/
def verdict (state : State ω) (key : Key) : EStateM.Result Panic (Outside ω) Bool ->
    EStateM.Result Panic (State ω) (Option ConfigError)
  | .ok true outside => .ok none { state with outside }
  | .ok false outside => .ok (some (.keyValidationFailed key)) { state with outside }
  | .error panic outside => .error panic { state with outside }

theorem validateKeyLocked_run (state : State ω) (key : Key) (value : Value) :
    validateKeyLocked key value state =
      verdict state key (state.mgr.judge key value state.outside) := by
  unfold validateKeyLocked ManagerV16.judge
  rw [get_bind]
  cases state.mgr.keyValidator with
  | none => rfl
  | some validator =>
    dsimp only
    cases judged : validator key value state.outside with
    | error panic outside =>
      exact bind_error (by simp [consult, judged])
    | ok accepts outside =>
      rw [bind_ok (show consult (validator key value) state = .ok accepts { state with outside }
        by simp [consult, judged])]
      cases accepts with
      | _ => rfl

/-- What running the handler on an applied value makes of its reaction. -/
def reaction (state : State ω) (index : Nat) (origValue : Value) :
    EStateM.Result Panic (Outside ω) (Option ConfigError) ->
      EStateM.Result Panic (State ω) (Option ConfigError)
  | .ok none outside => .ok none { state with outside }
  | .ok (some err) outside => .ok (some err) ⟨state.mgr.setValue index origValue, outside⟩
  | .error panic outside => .error panic ⟨state.mgr.setValue index origValue, outside⟩

theorem runHandlerLocked_run (state : State ω) (handler : OnUpdateHandler ω) (value : Value)
    (index : Nat) (origValue : Value) :
    runHandlerLocked handler value index origValue state =
      reaction state index origValue (handler value state.outside) := by
  unfold runHandlerLocked
  show EStateM.tryCatch _ _ state = _
  cases reacted : handler value state.outside with
  | error panic outside =>
    unfold EStateM.tryCatch
    rw [bind_error (show consult (handler value) state = .error panic { state with outside }
      by simp [consult, reacted])]
    rfl
  | ok result outside =>
    unfold EStateM.tryCatch
    rw [bind_ok (show consult (handler value) state = .ok result { state with outside }
      by simp [consult, reacted])]
    cases result with
    | _ => rfl

theorem updateKeyLocked_course (state : State ω) (key : Key) (value : Value) :
    Course state key value (updateKeyLocked key value state) := by
  unfold updateKeyLocked
  by_cases empty : key = ""
  · rw [if_pos empty]
    exact .emptyKey empty
  · rw [if_neg empty]
    have validated := validateKeyLocked_run state key value
    cases judged : state.mgr.judge key value state.outside with
    | error panic outside =>
      rw [judged] at validated
      rw [bind_error validated]
      exact .validatorPanics empty judged
    | ok accepts outside =>
      rw [judged] at validated
      cases accepts with
      | false =>
        rw [bind_ok validated]
        exact .refused empty judged
      | true =>
        rw [bind_ok validated]
        dsimp only
        rw [get_bind]
        dsimp only
        cases found : findKeyIndex state.mgr.ocppConfig.keys key with
        | none => exact .unknown empty judged found
        | some pair =>
          obtain ⟨entry, index⟩ := pair
          dsimp only
          cases locked : entry.readonly with
          | true => exact .readOnly empty judged found locked
          | false =>
            rw [if_neg (by simp)]
            rw [bind_ok (show modifyManager _ _ = .ok _ _ from rfl)]
            have restored := ManagerV16.setValue_restored found value
            cases registered : state.mgr.onUpdateHandlers.lookup key with
            | none =>
              refine .applied empty judged found locked ?_
              simp only [ManagerV16.react, registered]
              rfl
            | some handler =>
              dsimp only
              rw [runHandlerLocked_run]
              have reacts : state.mgr.react key value = handler value := by
                simp [ManagerV16.react, registered]
              -- the reaction of the handler decides which of the last courses it is
              cases reacted : handler value outside with
              | error panic later =>
                simp only [reaction, restored]
                exact .handlerPanics empty judged found locked (reacts ▸ reacted)
              | ok result later =>
                cases result with
                | none =>
                  exact .applied empty judged found locked (reacts ▸ reacted)
                | some err =>
                  simp only [reaction, restored]
                  exact .handlerFails empty judged found locked (reacts ▸ reacted)

/-- The courses exclude each other. -/
theorem Course.eq {state : State ω} {key : Key} {value : Value}
    {result : EStateM.Result Panic (State ω) (Option ConfigError)}
    (course : Course state key value result) : updateKeyLocked key value state = result := by
  have taken := updateKeyLocked_course state key value
  generalize updateKeyLocked key value state = other at taken
  cases course <;> cases taken <;> simp_all

/-! ## The status of a change -/

/-- The pointer `OnChangeConfiguration` makes of the value of a request. -/
def State.fresh (state : State ω) : Value := .shared state.outside.cells.length

/-- The outside once that pointer exists. -/
def State.handed (state : State ω) (request : ChangeConfigurationRequest) : Outside ω :=
  { state.outside with cells := state.outside.cells ++ [request.value] }

/-- The custom validator accepts the change and leaves the outside as given. -/
def State.Permits (state : State ω) (request : ChangeConfigurationRequest)
    (outside : Outside ω) : Prop :=
  state.mgr.judge request.key state.fresh (state.handed request) = .ok true outside

/-- The change reaches the handler of its key: the key is not empty, the validator
accepts, and the first entry with the key is writable. -/
def State.Reaches (state : State ω) (request : ChangeConfigurationRequest) (index : Nat)
    (outside : Outside ω) : Prop :=
  request.key ≠ "" ∧ state.Permits request outside ∧
    ∃ entry, findKeyIndex state.mgr.ocppConfig.keys request.key = some (entry, index) ∧
      entry.readonly = false

/-- The change reaches the handler of its key, which returns nil. -/
def State.Applies (state : State ω) (request : ChangeConfigurationRequest) : Prop :=
  ∃ index outside later, state.Reaches request index outside ∧
    state.mgr.react request.key state.fresh outside = .ok none later

/-- The change reaches the handler of its key, which panics. -/
def State.HandlerPanics (state : State ω) (request : ChangeConfigurationRequest)
    (panic : Panic) : Prop :=
  ∃ index outside later, state.Reaches request index outside ∧
    state.mgr.react request.key state.fresh outside = .error panic later

/-- The validator panics on the change. -/
def State.ValidatorPanics (state : State ω) (request : ChangeConfigurationRequest)
    (panic : Panic) : Prop :=
  ∃ outside, state.mgr.judge request.key state.fresh (state.handed request) =
    .error panic outside

/-- Set the value of the first entry with the key. -/
def setFirst (key : Key) (text : String) :
    List (String × Bool × Option String) -> List (String × Bool × Option String)
  | [] => []
  | entry :: rest =>
    if entry.1 = key then (entry.1, entry.2.1, some text) :: rest
    else entry :: setFirst key text rest

/-- The callbacks of a change have written through none of the pointers the store
holds, nor through the one that was made for the change. -/
def State.Unwritten (state : State ω) (request : ChangeConfigurationRequest)
    (after : State ω) : Prop :=
  (∀ entry, entry ∈ state.mgr.ocppConfig.keys ->
    entry.value.load after.outside.cells = entry.value.load state.outside.cells) ∧
  state.fresh.load after.outside.cells = some request.value

/-- What a change leaves behind: the store differs in the first entry with the key
when the change applies, and not at all when it does not. -/
structure Leaves (state : State ω) (request : ChangeConfigurationRequest)
    (after : State ω) : Prop where
  applied : state.Applies request -> ∃ index outside, state.Reaches request index outside ∧
    after.mgr = state.mgr.setValue index state.fresh
  otherwise : ¬ state.Applies request -> after.mgr = state.mgr
  seen : state.Unwritten request after ->
    (state.Applies request ->
      getConfiguration after = setFirst request.key request.value (getConfiguration state)) ∧
    (¬ state.Applies request -> getConfiguration after = getConfiguration state)

/-- The first entry with a key is the one `setFirst` sets. -/
theorem map_seen_modify {value : Value} {text : String} {cells : List String}
    (found : findKeyIndex keys key = some (entry, index)) (loaded : value.load cells = some text) :
    (keys.modify index fun old => { old with value }).map (ConfigurationKey.seen cells) =
      setFirst key text (keys.map (ConfigurationKey.seen cells)) := by
  refine found_induction found (fun rest same => ?_) fun head rest index other below => ?_
  · simp [setFirst, ConfigurationKey.seen, same, loaded]
  · simpa [setFirst, ConfigurationKey.seen, other] using below

variable {state after : State ω} {request : ChangeConfigurationRequest}

/-- Cells nobody wrote to read as before. -/
theorem State.Unwritten.map_seen (unwritten : state.Unwritten request after) :
    state.mgr.ocppConfig.keys.map (ConfigurationKey.seen after.outside.cells) =
      getConfiguration state := by
  refine map_congr_left ?_
  intro entry mem
  simp [ConfigurationKey.seen, unwritten.1 entry mem]

variable {outside : Outside ω}

theorem State.Permits.unique {other : Outside ω} (first : state.Permits request outside)
    (second : state.Permits request other) : outside = other := by
  unfold State.Permits at first second
  rw [first] at second
  exact (EStateM.Result.ok.inj second).2

theorem Leaves.of_applied {later : Outside ω} (reaches : state.Reaches request index outside)
    (reacted : state.mgr.react request.key state.fresh outside = .ok none later)
    (same : after.mgr = state.mgr.setValue index state.fresh) :
    Leaves state request after := by
  have applies : state.Applies request := ⟨index, outside, later, reaches, reacted⟩
  refine ⟨fun _ => ⟨index, outside, reaches, same⟩, fun not => absurd applies not, ?_⟩
  intro unwritten
  refine ⟨fun _ => ?_, fun not => absurd applies not⟩
  obtain ⟨-, -, entry, found, -⟩ := reaches
  unfold getConfiguration
  rw [same, ManagerV16.setValue, map_seen_modify found unwritten.2, unwritten.map_seen]
  rfl

theorem Leaves.of_not_applied (not : ¬ state.Applies request)
    (same : after.mgr = state.mgr) : Leaves state request after := by
  refine ⟨fun applies => absurd applies not, fun _ => same, ?_⟩
  intro unwritten
  refine ⟨fun applies => absurd applies not, fun _ => ?_⟩
  have kept := unwritten.map_seen
  unfold getConfiguration at kept ⊢
  rw [same, kept]

/-- What `OnChangeConfiguration` makes of the result of the update. -/
def ans (key : Key) : EStateM.Result Panic (State ω) (Option ConfigError) ->
    EStateM.Result Panic (State ω) ConfigurationStatus
  | .ok (some err) after => .ok (if err.isKeyNotFound then .notSupported else .rejected) after
  | .ok none after =>
    .ok (if containsKey after.mgr.rebootRequiredKeys key then .rebootRequired else .accepted)
      after
  | .error panic after => .error panic after

theorem onChangeConfiguration_run (state : State ω) (request : ChangeConfigurationRequest) :
    onChangeConfiguration (some request) state =
      ans request.key
        (updateKeyLocked request.key state.fresh ⟨state.mgr, state.handed request⟩) := by
  unfold onChangeConfiguration
  dsimp only
  rw [bind_ok (show allocate request.value state =
    .ok state.fresh ⟨state.mgr, state.handed request⟩ from rfl)]
  cases updated : updateKeyLocked request.key state.fresh ⟨state.mgr, state.handed request⟩ with
  | error panic after => exact bind_error updated
  | ok result after =>
    rw [bind_ok updated]
    cases result with
    | _ => rfl

theorem State.Reaches.unique {other : Nat} {elsewhere : Outside ω}
    (first : state.Reaches request index outside) (second : state.Reaches request other elsewhere) :
    outside = elsewhere :=
  first.2.1.unique second.2.1

section

variable (reaches : state.Reaches request index outside)
include reaches

theorem State.Reaches.knows : state.mgr.Knows request.key := by
  obtain ⟨-, -, entry, found, -⟩ := reaches
  exact Knows.of_find found

/-- A change that the handler answers otherwise does not apply. -/
theorem State.Reaches.not_applies
    (reacted : ∀ later, state.mgr.react request.key state.fresh outside ≠ .ok none later) :
    ¬ state.Applies request := by
  rintro ⟨other, elsewhere, later, again, applied⟩
  rw [again.unique reaches] at applied
  exact reacted later applied

theorem State.Reaches.not_panics {later : Outside ω} {result : Option ConfigError}
    (reacted : state.mgr.react request.key state.fresh outside = .ok result later)
    (panic : Panic) : ¬ state.HandlerPanics request panic := by
  rintro ⟨other, elsewhere, final, again, panicked⟩
  rw [again.unique reaches, reacted] at panicked
  cases panicked

end

/-- The change ends before any handler is called. -/
def State.Unreached (state : State ω) (request : ChangeConfigurationRequest) : Prop :=
  ∀ index outside, ¬ state.Reaches request index outside

theorem State.Unreached.not_applies (unreached : state.Unreached request) :
    ¬ state.Applies request := by
  rintro ⟨index, outside, later, reaches, -⟩
  exact unreached index outside reaches

theorem State.Unreached.not_panics (unreached : state.Unreached request) (panic : Panic) :
    ¬ state.HandlerPanics request panic := by
  rintro ⟨index, outside, later, reaches, -⟩
  exact unreached index outside reaches

/-- A change whose validator does not accept reaches no handler. -/
theorem State.Unreached.of_judged {result : EStateM.Result Panic (Outside ω) Bool}
    (judged : state.mgr.judge request.key state.fresh (state.handed request) = result)
    (unaccepted : ∀ outside, result ≠ .ok true outside) : state.Unreached request :=
  fun _ outside reaches => unaccepted outside (judged.symm.trans reaches.2.1)

/-- The answer to a change, as the documentation of `OnChangeConfiguration` has it. -/
structure Reported (state : State ω) (request : ChangeConfigurationRequest)
    (result : EStateM.Result Panic (State ω) ConfigurationStatus) : Prop where
  ret : ∀ status after, result = .ok status after ->
    (status = .notSupported <-> request.key ≠ "" ∧ ¬ state.mgr.Knows request.key) ∧
    (status = .rebootRequired <->
      state.Applies request ∧ request.key ∈ state.mgr.rebootRequiredKeys) ∧
    (status = .accepted <->
      state.Applies request ∧ request.key ∉ state.mgr.rebootRequiredKeys) ∧
    Leaves state request after
  panicked : ∀ panic after, result = .error panic after ->
    after.mgr = state.mgr ∧
      (state.ValidatorPanics request panic ∨ state.HandlerPanics request panic)
  propagates : ∀ panic, state.HandlerPanics request panic ->
    ∃ after, result = .error panic after

/-- A refused change is answered `Rejected` and leaves the manager as it was. -/
theorem Reported.of_rejected (notApplies : ¬ state.Applies request)
    (notPanics : ∀ panic, ¬ state.HandlerPanics request panic)
    (known : ¬ (request.key ≠ "" ∧ ¬ state.mgr.Knows request.key))
    (same : after.mgr = state.mgr) : Reported state request (.ok .rejected after) := by
  refine ⟨?_, by simp, fun panic panics => absurd panics (notPanics panic)⟩
  intro status reached ret
  obtain ⟨rfl, rfl⟩ := EStateM.Result.ok.inj ret
  refine ⟨?_, by simp [notApplies], by simp [notApplies], .of_not_applied notApplies same⟩
  simp only [reduceCtorEq, false_iff]
  exact known

/-- The error of the update tells unknown keys from others: the validator, which is asked before
the key is looked up, does not refuse an unknown one, and the handler does not return an error that
says that the key is unknown. -/
structure State.Telling (state : State ω) (request : ChangeConfigurationRequest) : Prop where
  unrefused : request.key ≠ "" -> ¬ state.mgr.Knows request.key -> ∀ outside,
    state.mgr.judge request.key state.fresh (state.handed request) ≠ .ok false outside
  unmistaken : ∀ index outside err later, state.Reaches request index outside ->
    state.mgr.react request.key state.fresh outside = .ok (some err) later ->
    err.isKeyNotFound = false

/-- The status is right only if the error tells. -/
theorem Reported.telling
    (reported : Reported state request (onChangeConfiguration (some request) state)) :
    state.Telling request := by
  rw [onChangeConfiguration_run] at reported
  constructor
  · intro named absent outside refused
    rw [Course.eq (.refused named refused)] at reported
    have status := (reported.ret _ _ rfl).1.mpr ⟨named, absent⟩
    cases status
  · intro index outside err later reaches reacted
    have way := reaches
    obtain ⟨named, judged, entry, found, writable⟩ := way
    have failed : Course ⟨state.mgr, state.handed request⟩ request.key state.fresh _ :=
      .handlerFails named judged found writable reacted
    rw [failed.eq] at reported
    rw [Bool.eq_false_iff]
    intro mistaken
    exact ((reported.ret _ _ rfl).1.mp (by simp [mistaken])).2 reaches.knows

theorem State.Telling.reported (telling : state.Telling request) :
    Reported state request (onChangeConfiguration (some request) state) := by
  rw [onChangeConfiguration_run]
  have course := updateKeyLocked_course ⟨state.mgr, state.handed request⟩ request.key state.fresh
  generalize updateKeyLocked request.key state.fresh ⟨state.mgr, state.handed request⟩ = result
    at course
  cases course with
  | emptyKey empty =>
    have unreached : state.Unreached request := fun _ _ reaches => reaches.1 empty
    exact .of_rejected unreached.not_applies unreached.not_panics (fun named => named.1 empty) rfl
  | @validatorPanics panic outside named judged =>
    have unreached : state.Unreached request := .of_judged judged (by simp)
    refine ⟨by simp [ans], ?_, fun other panics => absurd panics (unreached.not_panics other)⟩
    intro other after panicked
    obtain ⟨rfl, rfl⟩ := EStateM.Result.error.inj panicked
    exact ⟨rfl, .inl ⟨outside, judged⟩⟩
  | @refused outside named judged =>
    have unreached : state.Unreached request := .of_judged judged (by simp)
    refine .of_rejected unreached.not_applies unreached.not_panics ?_ rfl
    exact fun unknown => telling.unrefused named unknown.2 outside judged
  | @unknown outside named judged missing =>
    have absent : ¬ state.mgr.Knows request.key := findKeyIndex_eq_none.mp missing
    have unreached : state.Unreached request := fun _ _ reaches => absent reaches.knows
    refine ⟨?_, by simp [ans], fun panic panics => absurd panics (unreached.not_panics panic)⟩
    intro status after ret
    obtain ⟨rfl, rfl⟩ := EStateM.Result.ok.inj ret
    refine ⟨?_, ?_, ?_, .of_not_applied unreached.not_applies rfl⟩
    · simp [ConfigError.isKeyNotFound, named, absent]
    · simp [ConfigError.isKeyNotFound, unreached.not_applies]
    · simp [ConfigError.isKeyNotFound, unreached.not_applies]
  | @readOnly outside entry index named judged found locked =>
    have unreached : state.Unreached request := by
      rintro other elsewhere ⟨-, -, first, again, writable⟩
      dsimp only at found
      rw [found] at again
      obtain ⟨rfl, -⟩ := Prod.mk.inj (Option.some.inj again)
      rw [locked] at writable
      cases writable
    refine .of_rejected unreached.not_applies unreached.not_panics ?_ rfl
    exact fun unknown => unknown.2 (Knows.of_find found)
  | @applied outside later entry index named judged found writable reacted =>
    have reaches : state.Reaches request index outside := ⟨named, judged, entry, found, writable⟩
    have applies : state.Applies request := ⟨index, outside, later, reaches, reacted⟩
    refine ⟨?_, by simp [ans],
      fun panic panics => absurd panics (reaches.not_panics reacted panic)⟩
    intro status after ret
    obtain ⟨rfl, rfl⟩ := EStateM.Result.ok.inj ret
    refine ⟨?_, ?_, ?_, .of_applied reaches reacted rfl⟩
    · simp only [reaches.knows, not_true, and_false, iff_false]
      split
      · simp
      · simp
    · simp [applies, ManagerV16.setValue, containsKey]
    · simp [applies, ManagerV16.setValue, containsKey]
  | @handlerFails outside later entry index err named judged found writable reacted =>
    have reaches : state.Reaches request index outside := ⟨named, judged, entry, found, writable⟩
    have rejected : err.isKeyNotFound = false := telling.unmistaken _ _ _ _ reaches reacted
    have status : ans request.key (.ok (some err) ⟨state.mgr, later⟩) =
        .ok .rejected ⟨state.mgr, later⟩ := by
      simp [ans, rejected]
    rw [status]
    refine .of_rejected (reaches.not_applies ?_) (reaches.not_panics reacted)
      (fun unknown => unknown.2 reaches.knows) rfl
    intro other ret
    rw [reacted] at ret
    cases ret
  | @handlerPanics outside later entry index panic named judged found writable reacted =>
    have reaches : state.Reaches request index outside := ⟨named, judged, entry, found, writable⟩
    refine ⟨by simp [ans], ?_, ?_⟩
    · intro other after panicked
      obtain ⟨rfl, rfl⟩ := EStateM.Result.error.inj panicked
      exact ⟨rfl, .inr ⟨index, outside, later, reaches, reacted⟩⟩
    · rintro other ⟨place, elsewhere, final, again, panicked⟩
      rw [again.unique reaches] at panicked
      dsimp only at reacted
      rw [reacted] at panicked
      obtain ⟨rfl, -⟩ := EStateM.Result.error.inj panicked
      exact ⟨_, rfl⟩

/-- `OnChangeConfiguration` answers as its documentation has it and leaves the store accordingly,
exactly if the error of the update tells unknown keys from others. -/
theorem change_configuration_reported (state : State ω) (request : ChangeConfigurationRequest) :
    Reported state request (onChangeConfiguration (some request) state) <->
      state.Telling request :=
  ⟨Reported.telling, State.Telling.reported⟩

/-- A store with one writable key and a manager with the given callbacks. -/
def singleKey (validator : Option (KeyValidator Unit))
    (handlers : List (Key × OnUpdateHandler Unit)) : State Unit :=
  { mgr :=
      { ocppConfig := ⟨1, [⟨"HeartbeatInterval", false, .own "60"⟩]⟩
        mandatoryKeys := []
        rebootRequiredKeys := ["HeartbeatInterval"]
        keyValidator := validator
        onUpdateHandlers := handlers }
    outside := ⟨[], ()⟩ }

/-- An unknown key that the validator refuses is answered `Rejected`, and a known
key whose handler returns `ErrKeyNotFound` is answered `NotSupported`. -/
theorem change_configuration_misreported :
    (let state := singleKey (some fun _ _ => pure false) []
     ¬ state.mgr.Knows "NoSuchKey" ∧
       outcome (onChangeConfiguration (some ⟨"NoSuchKey", "1"⟩) state) = .ok .rejected) ∧
    (let state := singleKey none [("HeartbeatInterval", fun _ => pure (some .keyNotFound))]
     state.mgr.Knows "HeartbeatInterval" ∧
       outcome (onChangeConfiguration (some ⟨"HeartbeatInterval", "1"⟩) state) =
         .ok .notSupported) := by
  refine ⟨⟨?_, rfl⟩, ⟨?_, rfl⟩⟩
  · exact findKeyIndex_eq_none.mp rfl
  · exact ⟨_, mem_cons_self, rfl⟩

theorem change_configuration_reported_single :
    (let state := singleKey (some fun key _ => pure (key != "BlinkRepeat"))
      [("HeartbeatInterval", fun _ => pure (some .readOnly))]
     Reported state ⟨"HeartbeatInterval", "1"⟩
      (onChangeConfiguration (some ⟨"HeartbeatInterval", "1"⟩) state)) := by
  refine (change_configuration_reported _ _).mpr ⟨?_, ?_⟩
  · intro _ unknown outside judged
    exact unknown ⟨_, mem_cons_self, rfl⟩
  · intro index outside err later reaches reacted
    obtain ⟨same, -⟩ := EStateM.Result.ok.inj
      (show EStateM.Result.ok (some ConfigError.readOnly) outside = .ok (some err) later from reacted)
    rw [← Option.some.inj same]
    rfl

end ConfigManager
end Ocpp16
end OcppGo
