import SolarFlowEms.Migration.ConfigEntries
import SolarFlowEms.Runtime.RuntimeDevices

/-!
# The migration of entries that ask for control

Each entry that asks for control is looked at on its own: it is left alone, its model is pinned, a
topic that is not needed is removed, or its control is switched off.  The migrated config is
validated before anything is changed, and the migration is refused where it would not be valid.
-/

namespace SolarFlowEms.Migration

open Python Documents Mqtt Discovery
open SolarFlowEms.Runtime (dictPop)

/-! ### Changes -/

inductive Action where
  | pinProfile
  | disableControl
  | normalizeWriteTopic
deriving DecidableEq

/-- A planned change of an entry. -/
structure Change where
  action : Action
  hardwareProfile : Option String
  powerWriteProfile : Option String
  code : String
deriving DecidableEq

section

variable (texts : NameTexts)

/-- `_field_value` of the hints to a model, with the source of each. -/
def modelHints (device : PyValue) : List (PyValue × String) :=
  [(field device "product", "full_report"), (field device "model", "retained_metadata"),
    (mqttField device "product", "cloud_device_list")]

def modelResolution (device : PyValue) : HardwareProfileResolution :=
  resolveHardwareProfileEvidence ((modelHints device).filterMap fun hint =>
    (hint.1.str?.filter fun text => pyStrip text ≠ "").map fun text =>
      makeHardwareProfileEvidence texts hint.2 text)

/-- `_intended_model`: the profile and what named it. -/
def intendedModel (device : PyValue) : Option String × Option String :=
  match pinnedProfile texts device with
  | some _ => (zendureMqttHardwareProfile device, zendureMqttHardwareProfile device)
  | none =>
    let resolution := modelResolution texts device
    (resolution.profileId, resolution.sourceValue)

def addressingComplete (device : PyValue) (profileBacked : Bool) : Bool :=
  zendureMqttControlAddressability texts device profileBacked = .ready

def isCustomEscapeHatch (device : PyValue) : Bool :=
  resolveWriteProtocol texts (zendureMqttWriteProtocol device) = some customPropertiesWrite

def customWriteAlreadySafe (device : PyValue) : Bool :=
  isCustomEscapeHatch texts device &&
    ((zendureMqttWriteTopic device).any fun topic => !publishTopicInvalid topic) &&
    addressingComplete texts device false

def alreadySafe (device : PyValue) (source : Option BrokerSource) : Bool :=
  match pinnedProfile texts device with
  | none => customWriteAlreadySafe texts device
  | some profile =>
    (capabilityFor texts device ((zendureMqttHardwareProfile device).getD "") source).supported &&
      addressingComplete texts device true &&
      (zendureMqttPowerWriteProfile device).all
        (· = PowerWriteProfile.code profile.powerWriteProfile) &&
      !Config.truthy (mqttField device "write_protocol")

def obsoleteWriteTopic (device : PyValue) : Option String :=
  if zendureMqttProductKey device = none then none else zendureMqttWriteTopic device

/-- `_contradicting_nested_write_profile`, as far as there is one. -/
def contradictsNested (device : PyValue) (writeProfile : String) : Bool :=
  (mqttField device "power_write_profile").str?.any fun text =>
    pyStrip text ≠ "" ∧ pyStrip text ≠ writeProfile

/-- `_contradicting_write_profiles`, as far as there are some: at the top and under `mqtt`. -/
def contradictingWriteProfiles (device : PyValue) : Bool × Bool :=
  match pinnedProfile texts device with
  | none => (false, false)
  | some profile =>
    let expected := PowerWriteProfile.code profile.powerWriteProfile
    match rawText (field device "power_write_profile") with
    | some stored =>
      if stored = expected then (false, false) else (true, contradictsNested device expected)
    | none => (false, contradictsNested device expected)

def disableChange (device : PyValue) (code : String) (keepIdentity : Bool) : Change where
  action := .disableControl
  hardwareProfile := if keepIdentity then zendureMqttHardwareProfile device else none
  powerWriteProfile := none
  code

/-- The change of an entry that is not safe and whose model is known. -/
def planModel (device : PyValue) (source : Option BrokerSource) (profileId : String)
    (namedBy : Option String) : Option Change :=
  let cap := capabilityFor texts device profileId source
  if !cap.supported && cap.modelSupported && cap.transportSupported then
    some (disableChange device "zendure_mqtt_control_disabled_broker_source" true)
  else if !cap.modelSupported && namedBy = zendureMqttHardwareProfile device then
    some (disableChange device "zendure_mqtt_control_disabled_read_only_model" true)
  else if cap.supported then
    if addressingComplete texts device true then
      some ⟨.pinProfile, some profileId, cap.writeProfile.map PowerWriteProfile.code,
        "zendure_mqtt_control_model_pinned"⟩
    else some (disableChange device "zendure_mqtt_control_disabled_unaddressable" false)
  else none

/-- The change of an entry that is not safe. -/
def planUnsafe (device : PyValue) (source : Option BrokerSource) : Change :=
  let model := intendedModel texts device
  match model.1.bind fun profileId => planModel texts device source profileId model.2 with
  | some change => change
  | none =>
    if isCustomEscapeHatch texts device then
      disableChange device "zendure_mqtt_control_disabled_unaddressable" false
    else disableChange device "zendure_mqtt_control_disabled_unknown_model" false

def planDevice (device : PyValue) (source : Option BrokerSource) : Option Change :=
  if !isControlZendureMqttDeviceConfig texts device then none
  else if alreadySafe texts device source then
    if obsoleteWriteTopic device = none then none
    else some ⟨.normalizeWriteTopic, zendureMqttHardwareProfile device, none,
      "zendure_mqtt_control_write_topic_normalized"⟩
  else some (planUnsafe texts device source)

/-! ### Applying a change -/

/-- A change of the entries under `mqtt`, where it is an object. -/
def changeMqtt (change : Entries → Entries) (device : Entries) : Entries :=
  match getValue device "mqtt" with
  | .dict mqtt => dictSet device "mqtt" (.dict (change mqtt))
  | _ => device

def popIf (condition : Bool) (key : String) (entries : Entries) : Entries :=
  if condition then dictPop entries key else entries

def applyPin (change : Change) (device : Entries) : Entries :=
  let pinned := dictSet (dictSet device "hardware_profile" (ofText change.hardwareProfile))
    "power_write_profile" (ofText change.powerWriteProfile)
  changeMqtt (fun mqtt =>
    popIf (obsoleteWriteTopic (.dict pinned)).isSome "write_topic"
      (popIf (contradictsNested (.dict pinned) (change.powerWriteProfile.getD ""))
        "power_write_profile" (dictPop mqtt "write_protocol"))) pinned
where
  ofText : Option String → PyValue
    | some text => .str text
    | none => .none

def dropModelKeys (entries : Entries) : Entries :=
  ["hardware_profile", "power_write_profile"].foldl (fun entries key =>
    popIf (!(getValue entries key).isNone) key entries) entries

def withoutWrites (device : Entries) : Entries :=
  match getValue device "capabilities" with
  | .dict capabilities =>
    dictSet device "capabilities" (.dict (dictSet capabilities "write_output_limit" (.bool false)))
  | _ => device

def applyDisable (change : Change) (device : Entries) : Entries :=
  let disabled := withoutWrites device
  match change.hardwareProfile with
  | none =>
    changeMqtt (fun mqtt => dictPop (dropModelKeys mqtt) "write_protocol") (dropModelKeys disabled)
  | some _ =>
    let contradicting := contradictingWriteProfiles texts (.dict disabled)
    changeMqtt (fun mqtt =>
      dictPop (popIf contradicting.2 "power_write_profile" mqtt) "write_protocol")
      (popIf contradicting.1 "power_write_profile" disabled)

def applyChange (device : Entries) (change : Change) : Entries :=
  match change.action with
  | .normalizeWriteTopic => changeMqtt (dictPop · "write_topic") device
  | .pinProfile => applyPin change device
  | .disableControl => applyDisable texts change device

/-! ### The config -/

def iterDevices (config : PyValue) : List PyValue := (field config "devices").list?.getD []

/-- One entry with its planned change applied. -/
def migrateDevice (sources : List (String × String)) (device : PyValue) : PyValue :=
  match device, planDevice texts device (zendureMqttEffectiveBrokerSource texts device sources) with
  | .dict entries, some change => .dict (applyChange texts entries change)
  | _, _ => device

/-- The config with every entry migrated. -/
def migrated (config : PyValue) : PyValue :=
  match config with
  | .dict entries =>
    match getValue entries "devices" with
    | .list devices =>
      .dict (dictSet entries "devices"
        (.list (devices.map (migrateDevice texts (brokerSourcesFromConfig texts config)))))
    | _ => config
  | _ => config

def migrationValidationCodes : List String :=
  ["control_not_requested", "write_target_missing", "mqtt_device_id_missing",
    "hardware_profile_missing", "hardware_profile_unknown", "hardware_profile_deferred",
    "transport_incompatible", "transport_write_not_implemented", "operation_unsupported",
    "write_protocol_unsupported", "write_topic_required", "write_topic_invalid",
    "power_write_profile_mismatch", "broker_source_unknown", "broker_source_write_unverified"]

def isMigrationError (issue : Issue) : Bool :=
  issue.severity = .error && issue.code ∈ migrationValidationCodes

def migrationContext (config : PyValue) : BrokerContext where
  knownBrokerRefs := none
  brokersDefined := false
  brokerSources := brokerSourcesFromConfig texts config

/-- `validate_zendure_mqtt_control_configs`, with the index of each issue. -/
def validateZendureMqttControlConfigs (config : PyValue) : List (ℕ × Issue) :=
  (iterDevices config).zipIdx.flatMap fun device =>
    if isControlZendureMqttDeviceConfig texts device.1 && configEntryEnabled device.1 then
      ((validateZendureMqttControlDeviceConfig texts device.1
        (migrationContext texts config)).filter isMigrationError).map (device.2, ·)
    else []

/-- `migrate_zendure_mqtt_control_configs`: the errors that refuse it, or the config with the planned
changes applied. -/
def migrateZendureMqttControlConfigs (config : PyValue) :
    Except (List (ℕ × Issue)) (PyValue × List (ℕ × Change)) :=
  match validateZendureMqttControlConfigs texts (migrated texts config) with
  | [] => .ok (migrated texts config, (iterDevices config).zipIdx.filterMap fun device =>
      (planDevice texts device.1 (zendureMqttEffectiveBrokerSource texts device.1
        (brokerSourcesFromConfig texts config))).map (device.2, ·))
  | errors => .error errors

end

end SolarFlowEms.Migration
