import OcppGo.Ocpp16.ConfigChange

namespace OcppGo
namespace Ocpp16
namespace ConfigManager

open Ocppj OcppGo.Sequential List

/-!
# The configuration over the life of a manager

A life of a manager is a sequence of calls of its exported methods.  Between two
calls the outside may do anything, and write through every pointer it shares with
the store.  A call that fails or panics leaves the state it has reached.
-/

variable {ω : Type}

/-- A call of an exported method that may change the manager, or a step of the
outside. -/
inductive Call (ω : Type) where
  | setConfiguration (configuration : Config)
  | setMandatoryKeys (keys : List Key)
  | setRebootRequiredKeys (keys : List Key)
  | registerCustomKeyValidator (validator : Option (KeyValidator ω))
  | validateKey (key : Key) (value : Option Nat)
  | updateKey (key : Key) (value : Option Nat)
  | onChangeConfiguration (request : Option ChangeConfigurationRequest)
  | onUpdateKey (key : Key) (handler : Option (OnUpdateHandler ω))
  | elsewhere (outside : Outside ω)

/-- The state a call leaves, whether it returns or panics. -/
def Call.run (state : State ω) : Call ω -> State ω
  | .setConfiguration configuration => final (ConfigManager.setConfiguration configuration state)
  | .setMandatoryKeys keys => final (ConfigManager.setMandatoryKeys keys state)
  | .setRebootRequiredKeys keys => final (ConfigManager.setRebootRequiredKeys keys state)
  | .registerCustomKeyValidator validator =>
    final (ConfigManager.registerCustomKeyValidator validator state)
  | .validateKey key value => final (validateKeyLocked key (Value.given value) state)
  | .updateKey key value => final (ConfigManager.updateKey key value state)
  | .onChangeConfiguration request => final (ConfigManager.onChangeConfiguration request state)
  | .onUpdateKey key handler => final (ConfigManager.onUpdateKey key handler state)
  | .elsewhere outside => { state with outside }

def runCalls (state : State ω) (calls : List (Call ω)) : State ω := calls.foldl Call.run state

/-- A call of `SetConfiguration`. -/
def Call.Replaces : Call ω -> Prop
  | .setConfiguration _ => True
  | _ => False

/-- The keys that `SetMandatoryKeys` was given since the last `SetConfiguration`
that succeeded. -/
def Call.late (state : State ω) (late : List Key) : Call ω -> List Key
  | .setConfiguration configuration =>
    if (configuration.validate state.mgr.mandatoryKeys).isNone then [] else late
  | .setMandatoryKeys keys => late ++ keys
  | _ => late

def lateKeys : State ω -> List Key -> List (Call ω) -> List Key
  | _, late, [] => late
  | state, late, call :: rest => lateKeys (call.run state) (call.late state late) rest

variable {key : Key}

variable {keys : List ConfigurationKey}

theorem getElem?_of_findKeyIndex {entry : ConfigurationKey} {index : Nat}
    (found : findKeyIndex keys key = some (entry, index)) : keys[index]? = some entry := by
  refine found_induction found (fun rest _ => by simp) fun head rest index _ below => ?_
  simpa using below

/-- Writing a value changes no name, so lookups find the same indices. -/
theorem findKeyIndex_modify (keys : List ConfigurationKey) (key : Key) (index : Nat)
    (value : Value) :
    findKeyIndex (keys.modify index fun old => { old with value }) key =
      (findKeyIndex keys key).map fun found =>
        (if found.2 = index then { found.1 with value } else found.1, found.2) := by
  induction keys generalizing index with
  | nil => cases index with
    | zero => rfl
    | succ index => rfl
  | cons head rest ih =>
    cases index with
    | zero =>
      by_cases same : head.key = key
      · simp [findKeyIndex, same]
      · simp [findKeyIndex, same, Option.map_map, Function.comp_def]
    | succ index =>
      by_cases same : head.key = key
      · simp [findKeyIndex, same]
      · simp [findKeyIndex, same, ih, Option.map_map, Function.comp_def]

/-- The name and the flag of an entry. -/
def ConfigurationKey.label (entry : ConfigurationKey) : String × Bool := (entry.key, entry.readonly)

theorem map_label_modify (keys : List ConfigurationKey) (index : Nat) (value : Value) :
    (keys.modify index fun old => { old with value }).map ConfigurationKey.label =
      keys.map ConfigurationKey.label := by
  induction keys generalizing index with
  | nil => cases index with
    | zero => rfl
    | succ index => rfl
  | cons head rest ih =>
    cases index with
    | zero => simp [ConfigurationKey.label]
    | succ index => simp [ih]

/-- The values of read-only entries are the manager's own. -/
def Sealed (keys : List ConfigurationKey) : Prop :=
  ∀ entry, entry ∈ keys -> entry.readonly = true ->
    ∀ cells other, entry.value.load cells = entry.value.load other

theorem Sealed.deepCopyKeys (cells : List String) (keys : List ConfigurationKey) :
    Sealed (deepCopyKeys cells keys) := by
  intro entry mem _
  obtain ⟨original, -, rfl⟩ := mem_map.mp mem
  intro first second
  simp only [deepCopyKey, Value.copied]
  cases original.value.load cells with
  | _ => rfl

/-! ## What a call other than `SetConfiguration` does to the store -/

/-- The stores are the same, or a writable first entry has a new value. -/
inductive Edited (pre : List ConfigurationKey) : List ConfigurationKey -> Prop
  | same : Edited pre pre
  | written {key : Key} {entry : ConfigurationKey} {index : Nat} {value : Value}
      (found : findKeyIndex pre key = some (entry, index))
      (writable : entry.readonly = false) :
      Edited pre (pre.modify index fun old => { old with value })

namespace Edited

variable {pre after : List ConfigurationKey}

variable (edited : Edited pre after)
include edited

theorem labels : after.map ConfigurationKey.label = pre.map ConfigurationKey.label := by
  cases edited with
  | same => rfl
  | written => exact map_label_modify _ _ _

/-- A read-only first entry stays as it is. -/
theorem locked {entry : ConfigurationKey} {index : Nat}
    (found : findKeyIndex pre key = some (entry, index)) (readonly : entry.readonly = true) :
    findKeyIndex after key = some (entry, index) := by
  cases edited with
  | same => exact found
  | @written writtenKey other place value foundOther writable =>
    have apart : index ≠ place := by
      rintro rfl
      have twice := (getElem?_of_findKeyIndex found).symm.trans
        (getElem?_of_findKeyIndex foundOther)
      rw [Option.some.inj twice, writable] at readonly
      cases readonly
    rw [findKeyIndex_modify, found]
    simp [apart]

theorem keepsSealed (isSealed : Sealed pre) : Sealed after := by
  cases edited with
  | same => exact isSealed
  | @written key entry index value found writable =>
    intro changed mem readonly
    obtain ⟨place, at_place⟩ := mem_iff_getElem?.mp mem
    rw [getElem?_modify] at at_place
    obtain ⟨old, at_old, rfl⟩ := Option.map_eq_some_iff.mp at_place
    by_cases same : index = place
    · -- the entry that was written is not read-only
      rw [← same, getElem?_of_findKeyIndex found] at at_old
      simp only [same, if_true, ← Option.some.inj at_old, writable] at readonly
      cases readonly
    · simp only [same, if_false] at readonly ⊢
      exact isSealed old (mem_of_getElem? at_old) readonly

end Edited

/-- What a call other than `SetConfiguration` may do to the manager. -/
structure Mild (pre after : State ω) (added : List Key) : Prop where
  edited : Edited pre.mgr.ocppConfig.keys after.mgr.ocppConfig.keys
  mandatory : after.mgr.mandatoryKeys = added.foldl addMandatoryKey pre.mgr.mandatoryKeys

variable {state : State ω}

theorem Course.mild {value : Value} {result : EStateM.Result Panic (State ω) (Option ConfigError)}
    (course : Course state key value result) : Mild state (final result) [] := by
  cases course with
  | emptyKey => exact ⟨.same, rfl⟩
  | validatorPanics => exact ⟨.same, rfl⟩
  | refused => exact ⟨.same, rfl⟩
  | unknown => exact ⟨.same, rfl⟩
  | readOnly => exact ⟨.same, rfl⟩
  | applied _ _ found writable => exact ⟨.written found writable, rfl⟩
  | _ => exact ⟨.same, rfl⟩

theorem final_answer (key : Key) (result : EStateM.Result Panic (State ω) (Option ConfigError)) :
    final (ans key result) = final result := by
  cases result with
  | error panic after => rfl
  | ok value after =>
    cases value with
    | _ => rfl

theorem final_verdict (state : State ω) (key : Key)
    (result : EStateM.Result Panic (Outside ω) Bool) :
    (final (verdict state key result)).mgr = state.mgr := by
  cases result with
  | error panic outside => rfl
  | ok accepts outside =>
    cases accepts with
    | _ => rfl

/-- The keys a call makes mandatory. -/
def Call.added : Call ω -> List Key
  | .setMandatoryKeys keys => keys
  | _ => []

theorem onUpdateKey_mild (state : State ω) (key : Key) (handler : Option (OnUpdateHandler ω)) :
    Mild state (final (onUpdateKey key handler state)) [] := by
  unfold onUpdateKey
  by_cases empty : key = ""
  · rw [if_pos empty]
    exact ⟨.same, rfl⟩
  · rw [if_neg empty]
    cases handler with
    | none => exact ⟨.same, rfl⟩
    | some handler =>
      dsimp only
      rw [get_bind]
      cases state.mgr.ocppConfig.getConfigurationValue key with
      | _ => exact ⟨.same, rfl⟩

theorem Call.mild (state : State ω) (call : Call ω) (keeps : ¬ call.Replaces) :
    Mild state (call.run state) call.added := by
  cases call with
  | setConfiguration configuration => exact absurd trivial keeps
  | setMandatoryKeys keys => exact ⟨.same, rfl⟩
  | setRebootRequiredKeys keys => exact ⟨.same, rfl⟩
  | registerCustomKeyValidator validator => exact ⟨.same, rfl⟩
  | validateKey key value =>
    have kept := final_verdict state key
      (state.mgr.judge key (Value.given value) state.outside)
    rw [← validateKeyLocked_run] at kept
    exact ⟨by rw [Call.run, kept]; exact .same, by rw [Call.run, kept]; rfl⟩
  | updateKey key value => exact (updateKeyLocked_course state key (Value.given value)).mild
  | onChangeConfiguration request =>
    cases request with
    | none => exact ⟨.same, rfl⟩
    | some request =>
      have kept := (updateKeyLocked_course ⟨state.mgr, state.handed request⟩ request.key
        state.fresh).mild
      rw [Call.run, onChangeConfiguration_run, final_answer]
      exact ⟨kept.edited, kept.mandatory⟩
  | onUpdateKey key handler => exact onUpdateKey_mild state key handler
  | elsewhere outside => exact ⟨.same, rfl⟩

theorem Config.validate_eq_none {config : Config} {mandatoryKeys : List Key} :
    config.validate mandatoryKeys = none <->
      ∀ key, key ∈ mandatoryKeys -> ∃ entry, entry ∈ config.keys ∧ entry.key = key := by
  unfold Config.validate
  have complete : (mandatoryKeys.filter fun key => (findKeyIndex config.keys key).isNone) = [] <->
      ∀ key, key ∈ mandatoryKeys -> ∃ entry, entry ∈ config.keys ∧ entry.key = key := by
    simp only [filter_eq_nil_iff, Option.isNone_iff_eq_none, findKeyIndex_eq_none, not_not]
  rw [← complete]
  split
  · simp_all
  · simp_all

/-- The names of a copy are those of the original. -/
theorem exists_mem_deepCopyKeys {cells : List String} :
    (∃ entry, entry ∈ deepCopyKeys cells keys ∧ entry.key = key) <->
      ∃ entry, entry ∈ keys ∧ entry.key = key := by
  simp [deepCopyKeys, deepCopyKey]

theorem setConfiguration_run (state : State ω) (configuration : Config) :
    final (setConfiguration configuration state) =
      if (configuration.validate state.mgr.mandatoryKeys).isNone then
        { state with mgr :=
            { state.mgr with
              ocppConfig := deepCopyConfig state.outside.cells configuration } }
      else state := by
  unfold setConfiguration
  rw [get_bind]
  cases configuration.validate state.mgr.mandatoryKeys with
  | _ => rfl

/-- The invariant of a life: the keys that are mandatory and not in the store were
made mandatory since the store was last replaced, and read-only values are the
manager's own. -/
structure Kept (state : State ω) (late : List Key) : Prop where
  present : ∀ key, key ∈ state.mgr.mandatoryKeys ->
    state.mgr.Knows key ∨ key ∈ late
  isSealed : Sealed state.mgr.ocppConfig.keys

theorem knows_iff_label {mgr : ManagerV16 ω} :
    mgr.Knows key <->
      ∃ flag, (key, flag) ∈ mgr.ocppConfig.keys.map ConfigurationKey.label := by
  simp only [ManagerV16.Knows, mem_map, ConfigurationKey.label, Prod.mk.injEq]
  constructor
  · rintro ⟨entry, mem, same⟩
    exact ⟨entry.readonly, entry, mem, same, rfl⟩
  · rintro ⟨flag, entry, mem, same, -⟩
    exact ⟨entry, mem, same⟩

theorem mem_addMandatoryKeys {added keys : List Key} :
    key ∈ added.foldl addMandatoryKey keys <-> key ∈ keys ∨ key ∈ added := by
  induction added generalizing keys with
  | nil => simp
  | cons first rest ih =>
    rw [foldl_cons, ih, addMandatoryKey]
    split
    · rename_i contained
      have mem : first ∈ keys := by simpa [containsKey] using contained
      simp only [mem_cons]
      constructor
      · rintro (old | new)
        · exact .inl old
        · exact .inr (.inr new)
      · rintro (old | rfl | new)
        · exact .inl old
        · exact .inl mem
        · exact .inr new
    · simp [or_assoc]

variable {late : List Key}

theorem Kept.mild {pre after : State ω} {added : List Key} (kept : Kept pre late)
    (mild : Mild pre after added) : Kept after (late ++ added) := by
  refine ⟨?_, mild.edited.keepsSealed kept.isSealed⟩
  intro key mem
  rw [mild.mandatory, mem_addMandatoryKeys] at mem
  rcases mem with old | new
  · rcases kept.present key old with known | isLate
    · left
      rw [knows_iff_label] at known ⊢
      rwa [mild.edited.labels]
    · exact .inr (mem_append_left _ isLate)
  · exact .inr (mem_append_right _ new)

theorem Call.late_of_keeps {call : Call ω} (keeps : ¬ call.Replaces) :
    call.late state late = late ++ call.added := by
  cases call with
  | setConfiguration configuration => exact absurd trivial keeps
  | setMandatoryKeys keys => rfl
  | _ => exact (append_nil late).symm

/-- One call keeps the invariant. -/
theorem Kept.step (kept : Kept state late) (call : Call ω) :
    Kept (call.run state) (call.late state late) := by
  by_cases replaces : call.Replaces
  · cases call with
    | setConfiguration configuration =>
      rw [Call.run, setConfiguration_run, Call.late]
      split
      · rename_i valid
        refine ⟨?_, Sealed.deepCopyKeys _ _⟩
        intro key mem
        have found := Config.validate_eq_none.mp (Option.isNone_iff_eq_none.mp valid) key mem
        exact .inl (exists_mem_deepCopyKeys.mpr found)
      · exact kept
    | _ => cases replaces
  · rw [Call.late_of_keeps replaces]
    exact kept.mild (call.mild state replaces)

/-- A whole life keeps the invariant. -/
theorem Kept.run (kept : Kept state late) (calls : List (Call ω)) :
    Kept (runCalls state calls) (lateKeys state late calls) := by
  induction calls generalizing state late with
  | nil => exact kept
  | cons call rest ih => exact ih (kept.step call)

theorem Kept.created {outside : Outside ω} {configuration : Config} {profiles : List String}
    {mgr : ManagerV16 ω}
    (created : newManagerV16 outside.cells configuration profiles = .ok mgr) :
    Kept ⟨mgr, outside⟩ [] := by
  unfold newManagerV16 at created
  split at created
  · cases created
  · rename_i valid
    cases created
    refine ⟨?_, Sealed.deepCopyKeys _ _⟩
    intro key mem
    exact .inl (exists_mem_deepCopyKeys.mpr (Config.validate_eq_none.mp valid key mem))

/-- Calls other than `SetConfiguration` keep all names, all flags and the read-only
first entries. -/
structure Stable (pre after : State ω) : Prop where
  labels : after.mgr.ocppConfig.keys.map ConfigurationKey.label =
    pre.mgr.ocppConfig.keys.map ConfigurationKey.label
  locked : ∀ key entry index,
    findKeyIndex pre.mgr.ocppConfig.keys key = some (entry, index) ->
    entry.readonly = true -> findKeyIndex after.mgr.ocppConfig.keys key = some (entry, index)

theorem Stable.trans {first second third : State ω} (early : Stable first second)
    (late : Stable second third) : Stable first third := by
  refine ⟨late.labels.trans early.labels, ?_⟩
  intro key entry index found readonly
  exact late.locked key entry index (early.locked key entry index found readonly) readonly

theorem Stable.run (state : State ω) (calls : List (Call ω))
    (keeps : ∀ call, call ∈ calls -> ¬ call.Replaces) :
    Stable state (runCalls state calls) := by
  induction calls generalizing state with
  | nil => exact ⟨rfl, fun _ _ _ found _ => found⟩
  | cons call rest ih =>
    have edited := (call.mild state (keeps call mem_cons_self)).edited
    have first : Stable state (call.run state) :=
      ⟨edited.labels, fun _ _ _ found readonly => edited.locked found readonly⟩
    exact first.trans (ih (call.run state) fun other mem =>
      keeps other (mem_cons_of_mem _ mem))

/-! ## Reading the store -/

/-- The value a report has for a key: that of the first entry with the key. -/
def GetConfigurationConfirmation.valueOf (report : GetConfigurationConfirmation) (key : Key) :
    Option (Option String) :=
  (report.configurationKey.find? fun entry => entry.1 = key).map fun entry => entry.2.2

/-- The entry of the store that a lookup finds, as the outside sees it. -/
def lookUp (state : State ω) (key : Key) : Option (String × Bool × Option String) :=
  (findKeyIndex state.mgr.ocppConfig.keys key).map fun found =>
    found.1.seen state.outside.cells

theorem lookUp_name {entry : String × Bool × Option String} (found : lookUp state key = some entry)
    : entry.1 = key := by
  obtain ⟨pair, lookup, rfl⟩ := Option.map_eq_some_iff.mp found
  exact (mem_of_findKeyIndex lookup).2

theorem find_seen (cells : List String) (keys : List ConfigurationKey) (key : Key) :
    (keys.map (ConfigurationKey.seen cells)).find? (fun entry => entry.1 = key) =
      (findKeyIndex keys key).map fun found => found.1.seen cells := by
  induction keys with
  | nil => rfl
  | cons head rest ih =>
    by_cases same : head.key = key
    · simp [findKeyIndex, ConfigurationKey.seen, same]
    · simp only [map_cons, findKeyIndex, same, if_false, Option.map_map]
      rw [find?_cons_of_neg (by simp [ConfigurationKey.seen, same]), ih]
      rfl

theorem report_keys (state : State ω) (keys : List String) (report : GetConfigurationConfirmation) :
    (keys.foldl (reportKey state) report).configurationKey =
      report.configurationKey ++ keys.filterMap (lookUp state) := by
  induction keys generalizing report with
  | nil => simp
  | cons key rest ih =>
    rw [foldl_cons, ih, reportKey, filterMap_cons, lookUp]
    cases findKeyIndex state.mgr.ocppConfig.keys key with
    | none => rfl
    | some found => simp

theorem find_filterMap (state : State ω) (keys : List String) (key : Key) (asked : key ∈ keys) :
    (keys.filterMap (lookUp state)).find? (fun entry => entry.1 = key) = lookUp state key := by
  induction keys with
  | nil => cases asked
  | cons first rest ih =>
    rw [filterMap_cons]
    by_cases later : key ∈ rest
    · cases found : lookUp state first with
      | none => exact ih later
      | some entry =>
        by_cases same : entry.1 = key
        · simp [same, ← found, ← lookUp_name found]
        · simpa [same] using ih later
    · have same : first = key := ((mem_cons.mp asked).resolve_right later).symm
      subst same
      cases found : lookUp state first with
      | none =>
        refine find?_eq_none.mpr ?_
        intro entry mem
        obtain ⟨other, requested, lookup⟩ := mem_filterMap.mp mem
        simp only [decide_eq_true_eq]
        intro name
        exact later (name ▸ lookUp_name lookup ▸ requested)
      | some entry => simp [lookUp_name found]

/-- A request for everything, or for some keys among which this one is, is answered
with the value `GetConfigurationValue` returns. -/
theorem valueOf_onGetConfiguration (state : State ω) (keys : List String) (key : Key)
    (asked : keys = [] ∨ key ∈ keys) :
    (onGetConfiguration state (some keys)).valueOf key =
      (getConfigurationValue state key).toOption := by
  have target : (getConfigurationValue state key).toOption =
      (lookUp state key).map fun entry => entry.2.2 := by
    unfold getConfigurationValue Config.getConfigurationValue lookUp
    cases findKeyIndex state.mgr.ocppConfig.keys key with
    | _ => rfl
  rw [target, GetConfigurationConfirmation.valueOf]
  cases keys with
  | nil =>
    simp only [onGetConfiguration, getConfiguration]
    rw [find_seen, lookUp]
  | cons first rest =>
    have requested : key ∈ first :: rest := asked.resolve_left (by simp)
    rw [onGetConfiguration, report_keys, nil_append, find_filterMap _ _ _ requested]
    simp

/-- Over every run: a mandatory key is in the store unless it was made mandatory too late, entries
keep their names and flags and read-only ones their values until the store is replaced, and
`OnGetConfiguration` reports the values `GetConfigurationValue` returns. -/
theorem configuration_life {outside : Outside ω} {configuration : Config} {profiles : List String}
    {mgr : ManagerV16 ω}
    (created : newManagerV16 outside.cells configuration profiles = .ok mgr)
    (calls : List (Call ω)) :
    let reached := runCalls ⟨mgr, outside⟩ calls
    (∀ key, key ∈ getMandatoryKeys reached ->
      reached.mgr.Knows key ∨ key ∈ lateKeys ⟨mgr, outside⟩ [] calls) ∧
    (∀ more, (∀ call, call ∈ more -> ¬ call.Replaces) ->
      let later := runCalls reached more
      later.mgr.ocppConfig.keys.map ConfigurationKey.label =
        reached.mgr.ocppConfig.keys.map ConfigurationKey.label ∧
      ∀ key entry index,
        findKeyIndex reached.mgr.ocppConfig.keys key = some (entry, index) ->
        entry.readonly = true ->
        getConfigurationValue later key = getConfigurationValue reached key) ∧
    (∀ keys key, keys = [] ∨ key ∈ keys ->
      (onGetConfiguration reached (some keys)).valueOf key =
        (getConfigurationValue reached key).toOption) := by
  intro reached
  have kept : Kept reached (lateKeys ⟨mgr, outside⟩ [] calls) :=
    (Kept.created created).run calls
  refine ⟨kept.present, ?_, fun keys key => valueOf_onGetConfiguration reached keys key⟩
  intro more keeps later
  have stable : Stable reached later := Stable.run reached more keeps
  refine ⟨stable.labels, ?_⟩
  intro key entry index found readonly
  -- the entry is still there, and its value is not shared with the outside
  have again := stable.locked key entry index found readonly
  have unshared := kept.isSealed entry (mem_of_findKeyIndex found).1 readonly
  simp only [getConfigurationValue, Config.getConfigurationValue, found, again]
  rw [unshared later.outside.cells reached.outside.cells]

/-- `SetMandatoryKeys` takes a key that is not in the store. -/
theorem mandatory_key_missing :
    ∃ mgr : ManagerV16 Unit,
      newManagerV16 [] ⟨1, []⟩ [] = .ok mgr ∧
      (let reached := runCalls ⟨mgr, ⟨[], ()⟩⟩ [.setMandatoryKeys ["A"]]
       "A" ∈ getMandatoryKeys reached ∧ ¬ reached.mgr.Knows "A") := by
  refine ⟨_, rfl, mem_cons_self, ?_⟩
  exact findKeyIndex_eq_none.mp rfl

theorem configuration_life_firmware :
    let configuration : Config := ⟨1, [⟨"SupportedFileTransferProtocols", true, .own "FTP"⟩]⟩
    ∃ mgr : ManagerV16 Unit,
      newManagerV16 [] configuration ["FirmwareManagement"] = .ok mgr ∧
      getConfigurationValue
        (runCalls ⟨mgr, ⟨[], ()⟩⟩
          [.updateKey "SupportedFileTransferProtocols" none, .elsewhere ⟨["HTTP"], ()⟩])
        "SupportedFileTransferProtocols" = .ok (some "FTP") := by
  refine ⟨_, rfl, ?_⟩
  have life := @configuration_life Unit ⟨[], ()⟩
    ⟨1, [⟨"SupportedFileTransferProtocols", true, .own "FTP"⟩]⟩ ["FirmwareManagement"] _ rfl []
  refine ((life.2.1 _ ?_).2 "SupportedFileTransferProtocols" _ 0 rfl rfl).trans rfl
  intro call mem
  simp only [mem_cons, not_mem_nil, or_false] at mem
  rcases mem with rfl | rfl
  · exact id
  · exact id

end ConfigManager
end Ocpp16
end OcppGo
