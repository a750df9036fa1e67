import OcppGo.Ocppj.Message
import OcppGo.Sequential.Emission

namespace OcppGo
namespace Ocpp16
namespace ConfigManager

open Ocppj

/-!
# The OCPP 1.6 configuration manager

Every exported method of `ManagerV16` runs under one lock, so a call is one
program over the state of the manager and of what lies outside of it.  Custom
validators and update handlers are arbitrary programs over the outside alone: the
lock is not reentrant, and a callback that calls the manager never returns.

A value of the store is a `*string`.  The manager hands out copies only, so a
value it has copied in is its own.  A pointer that a caller gave to `UpdateKey`,
or that a callback has seen, stays shared with the outside, which may write
through it at any time.
-/

abbrev Key := String

/-- A `*string` held by the store. -/
inductive Value where
  | null
  | own (text : String)
  | shared (cell : Nat)
  deriving DecidableEq

/-- What lies outside of the manager: the strings it has pointers to, and the
rest of the program. -/
structure Outside (ω : Type) where
  cells : List String
  rest : ω

/-- Dereferencing, with nil as `none`. -/
def Value.load (cells : List String) : Value -> Option String
  | .null => none
  | .own text => some text
  | .shared cell => some (cells.getD cell "")

/-- The pointer a caller passes. -/
def Value.given : Option Nat -> Value
  | none => .null
  | some cell => .shared cell

/-- `core.ConfigurationKey`. -/
structure ConfigurationKey where
  key : String
  readonly : Bool
  value : Value
  deriving DecidableEq

structure Config where
  version : Int
  keys : List ConfigurationKey
  deriving DecidableEq

/-- The first entry with the key, and its index. -/
def findKeyIndex : List ConfigurationKey -> Key -> Option (ConfigurationKey × Nat)
  | [], _ => none
  | entry :: rest, key =>
    if entry.key = key then some (entry, 0)
    else (findKeyIndex rest key).map fun found => (found.1, found.2 + 1)

/-- `ptr(*k.Value)` for a value that is not nil. -/
def Value.copied (cells : List String) (value : Value) : Value :=
  match value.load cells with
  | none => .null
  | some text => .own text

def deepCopyKey (cells : List String) (entry : ConfigurationKey) : ConfigurationKey :=
  { entry with value := entry.value.copied cells }

def deepCopyKeys (cells : List String) (keys : List ConfigurationKey) : List ConfigurationKey :=
  keys.map (deepCopyKey cells)

def deepCopyConfig (cells : List String) (config : Config) : Config :=
  { config with keys := deepCopyKeys cells config.keys }

def containsKey (keys : List Key) (key : Key) : Bool := keys.contains key

/-- A non-nil error.  A handler may return any of them, and errors of its own
that wrap `ErrKeyNotFound`. -/
inductive ConfigError where
  | keyNotFound
  | readOnly
  | keyCannotBeEmpty
  | nilHandler
  | keyValidationFailed (key : Key)
  | missingMandatoryKeys (missing : List Key)
  | custom (text : String) (wrapsKeyNotFound : Bool)
  deriving DecidableEq

def ConfigError.error : ConfigError -> String
  | .keyNotFound => "key not found"
  | .readOnly => "attribute is read-only"
  | .keyCannotBeEmpty => "key cannot be empty"
  | .nilHandler => "update handler cannot be nil"
  | .keyValidationFailed key => "key validation failed for key " ++ key
  | .missingMandatoryKeys missing => "missing mandatory keys: " ++ ", ".intercalate missing
  | .custom text _ => text

/-- `errors.Is(err, ErrKeyNotFound)`. -/
def ConfigError.isKeyNotFound : ConfigError -> Bool
  | .keyNotFound => true
  | .custom _ wrapsKeyNotFound => wrapsKeyNotFound
  | _ => false

/-- `Config.Validate`; nil is `none`. -/
def Config.validate (config : Config) (mandatoryKeys : List Key) : Option ConfigError :=
  match mandatoryKeys.filter fun key => (findKeyIndex config.keys key).isNone with
  | [] => none
  | missing => some (.missingMandatoryKeys missing)

/-- `Config.GetConfigurationValue`. -/
def Config.getConfigurationValue (config : Config) (key : Key) : Except ConfigError Value :=
  match findKeyIndex config.keys key with
  | none => .error .keyNotFound
  | some (item, _) => .ok item.value

def mandatoryCoreKeys : List Key :=
  ["AuthorizeRemoteTxRequests", "ClockAlignedDataInterval", "ConnectionTimeOut",
    "GetConfigurationMaxKeys", "HeartbeatInterval", "LocalPreAuthorize", "MeterValuesAlignedData",
    "MeterValuesSampledData", "MeterValueSampleInterval", "NumberOfConnectors", "ResetRetries",
    "ConnectorPhaseRotation", "StopTransactionOnEVSideDisconnect", "StopTransactionOnInvalidId",
    "StopTxnAlignedData", "StopTxnSampledData", "SupportedFeatureProfiles",
    "TransactionMessageAttempts", "TransactionMessageRetryInterval",
    "UnlockConnectorOnEVSideDisconnect"]

def mandatoryLocalAuthKeys : List Key :=
  ["LocalAuthListEnabled", "LocalAuthListMaxLength", "SendLocalListMaxLength"]

def mandatorySmartChargingKeys : List Key :=
  ["MaxChargingProfilesInstalled", "ChargingScheduleMaxPeriods",
    "ChargingScheduleAllowedChargingRateUnit", "ChargeProfileMaxStackLevel"]

def mandatoryFirmwareKeys : List Key := ["SupportedFileTransferProtocols"]

def mandatoryISO15118Keys : List Key := ["ISO15118PnCEnabled", "ContractValidationOffline"]

/-- One turn of the loop of `GetMandatoryKeysForProfile`. -/
def mandatoryKeysOf (profile : String) : List Key :=
  if profile = "Core" then mandatoryCoreKeys
  else if profile = "SmartCharging" then mandatorySmartChargingKeys
  else if profile = "LocalAuthListManagement" then mandatoryLocalAuthKeys
  else if profile = "FirmwareManagement" then mandatoryFirmwareKeys
  else if profile = "ISO15118" then mandatoryISO15118Keys
  else []

def getMandatoryKeysForProfile (profiles : List String) : List Key :=
  profiles.flatMap mandatoryKeysOf

/-! ## The manager -/

/-- A callback of the consumer: it may panic, and change anything outside. -/
abbrev Callback (ω α : Type) := EStateM Panic (Outside ω) α

abbrev KeyValidator (ω : Type) := Key -> Value -> Callback ω Bool

abbrev OnUpdateHandler (ω : Type) := Value -> Callback ω (Option ConfigError)

structure ManagerV16 (ω : Type) where
  ocppConfig : Config
  mandatoryKeys : List Key
  rebootRequiredKeys : List Key
  keyValidator : Option (KeyValidator ω)
  /-- the map from keys to handlers; the first entry of a key counts -/
  onUpdateHandlers : List (Key × OnUpdateHandler ω)

structure State (ω : Type) where
  mgr : ManagerV16 ω
  outside : Outside ω

/-- Code that runs while the lock is held. -/
abbrev Locked (ω α : Type) := EStateM Panic (State ω) α

/-- `core.ConfigurationStatus`. -/
inductive ConfigurationStatus where
  | accepted
  | rejected
  | rebootRequired
  | notSupported
  deriving DecidableEq

structure ChangeConfigurationRequest where
  key : String
  value : String

/-- `core.GetConfigurationConfirmation`, with the values copied out. -/
structure GetConfigurationConfirmation where
  configurationKey : List (String × Bool × Option String)
  unknownKey : List String
  deriving DecidableEq

section Methods

variable {ω : Type}

def newManagerV16 (cells : List String) (defaultConfiguration : Config) (profiles : List String) :
    Except ConfigError (ManagerV16 ω) :=
  match defaultConfiguration.validate (getMandatoryKeysForProfile profiles) with
  | some err => .error err
  | none => .ok
      { ocppConfig := deepCopyConfig cells defaultConfiguration
        mandatoryKeys := getMandatoryKeysForProfile profiles
        rebootRequiredKeys := []
        keyValidator := none
        onUpdateHandlers := [] }

/-- Run a callback. -/
def consult {α : Type} (callback : Callback ω α) : Locked ω α := fun state =>
  match callback state.outside with
  | .ok value outside => .ok value { state with outside }
  | .error panic outside => .error panic { state with outside }

def modifyManager (change : ManagerV16 ω -> ManagerV16 ω) : Locked ω Unit :=
  modify fun state => { state with mgr := change state.mgr }

def setConfiguration (configuration : Config) : Locked ω (Option ConfigError) := do
  let state <- get
  match configuration.validate state.mgr.mandatoryKeys with
  | some err => return some err
  | none =>
    modifyManager fun mgr =>
      { mgr with ocppConfig := deepCopyConfig state.outside.cells configuration }
    return none

def registerCustomKeyValidator (validator : Option (KeyValidator ω)) : Locked ω Unit :=
  modifyManager fun mgr => { mgr with keyValidator := validator }

def getMandatoryKeys (state : State ω) : List Key := state.mgr.mandatoryKeys

/-- One turn of the loop of `SetMandatoryKeys`. -/
def addMandatoryKey (keys : List Key) (key : Key) : List Key :=
  if containsKey keys key then keys else keys ++ [key]

def setMandatoryKeys (mandatoryKeys : List Key) : Locked ω (Option ConfigError) := do
  modifyManager fun mgr =>
    { mgr with mandatoryKeys := mandatoryKeys.foldl addMandatoryKey mgr.mandatoryKeys }
  return none

def setRebootRequiredKeys (keys : List Key) : Locked ω Unit :=
  modifyManager fun mgr => { mgr with rebootRequiredKeys := keys }

def validateKeyLocked (key : Key) (value : Value) : Locked ω (Option ConfigError) := do
  match (<- get).mgr.keyValidator with
  | none => return none
  | some validator =>
    if <- consult (validator key value) then return none
    else return some (.keyValidationFailed key)

/-- `m.ocppConfig.Keys[index].Value = value` -/
def ManagerV16.setValue (mgr : ManagerV16 ω) (index : Nat) (value : Value) : ManagerV16 ω :=
  { mgr with ocppConfig :=
      { mgr.ocppConfig with
        keys := mgr.ocppConfig.keys.modify index fun entry => { entry with value } } }

def runHandlerLocked (handler : OnUpdateHandler ω) (value : Value) (index : Nat)
    (origValue : Value) : Locked ω (Option ConfigError) :=
  tryCatch
    (do
      match <- consult (handler value) with
      | some err =>
        modifyManager fun mgr => mgr.setValue index origValue
        return some err
      | none => return none)
    (fun panic => do
      modifyManager fun mgr => mgr.setValue index origValue
      throw panic)

def updateKeyLocked (key : Key) (value : Value) : Locked ω (Option ConfigError) := do
  if key = "" then return some .keyCannotBeEmpty
  else
    match <- validateKeyLocked key value with
    | some err => return some err
    | none =>
      let mgr := (<- get).mgr
      match findKeyIndex mgr.ocppConfig.keys key with
      | none => return some .keyNotFound
      | some (original, index) =>
        if original.readonly then return some .readOnly
        else
          modifyManager fun mgr => mgr.setValue index value
          match mgr.onUpdateHandlers.lookup key with
          | some handler => runHandlerLocked handler value index original.value
          | none => return none

def updateKey (key : Key) (value : Option Nat) : Locked ω (Option ConfigError) :=
  updateKeyLocked key (Value.given value)

def getConfigurationValue (state : State ω) (key : Key) : Except ConfigError (Option String) :=
  match state.mgr.ocppConfig.getConfigurationValue key with
  | .error err => .error err
  | .ok value => .ok (value.load state.outside.cells)

def onUpdateKey (key : Key) (handler : Option (OnUpdateHandler ω)) :
    Locked ω (Option ConfigError) := do
  if key = "" then return some .keyCannotBeEmpty
  else
    match handler with
    | none => return some .nilHandler
    | some handler =>
      match (<- get).mgr.ocppConfig.getConfigurationValue key with
      | .error err => return some err
      | .ok _ =>
        modifyManager fun mgr =>
          { mgr with onUpdateHandlers := (key, handler) :: mgr.onUpdateHandlers }
        return none

/-- An entry as the outside sees it. -/
def ConfigurationKey.seen (cells : List String) (entry : ConfigurationKey) :
    String × Bool × Option String :=
  (entry.key, entry.readonly, entry.value.load cells)

/-- The store as the outside sees it, which is what `GetConfiguration` returns. -/
def getConfiguration (state : State ω) : List (String × Bool × Option String) :=
  state.mgr.ocppConfig.keys.map (ConfigurationKey.seen state.outside.cells)

/-- One turn of the loop of `OnGetConfiguration`. -/
def reportKey (state : State ω) (report : GetConfigurationConfirmation) (key : String) :
    GetConfigurationConfirmation :=
  match findKeyIndex state.mgr.ocppConfig.keys key with
  | none => { report with unknownKey := report.unknownKey ++ [key] }
  | some (item, _) =>
    { report with
      configurationKey := report.configurationKey ++ [item.seen state.outside.cells] }

/-- `OnGetConfiguration`; the request is its list of keys. -/
def onGetConfiguration (state : State ω) (request : Option (List String)) :
    GetConfigurationConfirmation :=
  match request with
  | none => ⟨[], []⟩
  | some [] => ⟨getConfiguration state, []⟩
  | some keys => keys.foldl (reportKey state) ⟨[], []⟩

/-- `ptr(text)` for a pointer that callbacks will see. -/
def allocate (text : String) : Locked ω Value := fun state =>
  .ok (.shared state.outside.cells.length)
    { state with outside := { state.outside with cells := state.outside.cells ++ [text] } }

def onChangeConfiguration (request : Option ChangeConfigurationRequest) :
    Locked ω ConfigurationStatus := do
  match request with
  | none => return .rejected
  | some request =>
    let value <- allocate request.value
    match <- updateKeyLocked request.key value with
    | some err => return if err.isKeyNotFound then .notSupported else .rejected
    | none =>
      return if containsKey (<- get).mgr.rebootRequiredKeys request.key then .rebootRequired
        else .accepted

end Methods

end ConfigManager
end Ocpp16
end OcppGo
