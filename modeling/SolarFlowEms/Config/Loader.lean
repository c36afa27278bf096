import SolarFlowEms.Config.Placeholders

/-!
# Loading a configuration

A process reads its configuration once: the startup upgrade may rewrite the file, the runtime
defaults fill what it lacks, safe mode is forced on a configuration that is not set up, and what
is left sets the process's own settings.  The sections that neither a write gate nor the grid
meter depends on are not loaded here; they can only make a load fail.
-/

namespace SolarFlowEms.Config

open Python Documents Fallible

/-! ### Defaults -/

def outputControlDefaults : Entries :=
  [("load_deadband_w", .int 5), ("target_deadband_w", .int 5), ("filter_enabled", .bool true),
    ("filter_method", .str "median_ema"), ("median_window", .int 2),
    ("ema_alpha", .float (.finite 0.85)), ("sign_change_fast_response_enabled", .bool true),
    ("sign_change_threshold_w", .int 50), ("sign_change_filter_reset_factor", .float (.finite 1)),
    ("ramp_enabled", .bool true), ("ramp_up_w_per_cycle", .int 500),
    ("ramp_down_w_per_cycle", .int 300), ("device_ramp_enabled", .bool true),
    ("device_ramp_up_w_per_cycle", .int 400), ("device_ramp_down_w_per_cycle", .int 200),
    ("large_import_bypass_w", .int 600), ("large_export_bypass_w", .int 600),
    ("bypass_ramp_multiplier", .float (.finite 1.5)), ("telemetry_max_age_seconds", .int 10),
    ("stale_telemetry_ramp_factor", .float (.finite 0.5))]

def configUpgradeDefaults : Entries :=
  [("on_startup", .str "check"), ("backup_before_apply", .bool true),
    ("backup_failure_policy", .str "continue_without_upgrade")]

/-- The system section of `default_safe_config`. -/
def defaultSafeSystem : Entries :=
  [("enabled", .bool true), ("dry_run", .bool true), ("simulation_mode", .bool true),
    ("allow_hardware_writes", .bool false), ("allow_mqtt_local_control_writes", .bool false),
    ("allow_mqtt_zendure_control_writes", .bool false),
    ("allow_state_reconciliation_writes", .bool false), ("reconcile_smart_mode", .bool true),
    ("max_total_power", .int 800), ("max_device_power", .int 800), ("deadband", .int 2),
    ("runtime_state_path", .str "runtime-state.json"), ("min_output_limit", .int 0),
    ("loop_interval", .int 5), ("output_control", .dict outputControlDefaults),
    ("soc_reconcile_interval", .int 0), ("log_level", .str "debug"),
    ("redistribute_clamped_power", .bool true), ("pv_kwp_weighting", .bool true),
    ("pv_charge_balance_enabled", .bool true), ("pv_charge_balance_deadband_percent", .int 5),
    ("pv_charge_balance_full_bias_percent", .int 15),
    ("pv_charge_balance_strength", .float (.finite 1)), ("battery_kwh_weighting", .bool true)]

def releaseWriteGateDefaults : List (String × Bool) :=
  [("allow_hardware_writes", true), ("allow_mqtt_local_control_writes", true),
    ("allow_mqtt_zendure_control_writes", true)]

/-- The system section of `default_runtime_config`: no simulation, and the release's gates. -/
def defaultRuntimeSystem : Entries :=
  releaseWriteGateDefaults.foldl (fun system gate => dictSet system gate.1 (.bool gate.2))
    (dictSet defaultSafeSystem "simulation_mode" (.bool false))

def defaultSections (system : Entries) : Entries :=
  [("config_schema_version", .int latestConfigSchemaVersion), ("system", .dict system),
    ("config_upgrade", .dict configUpgradeDefaults), ("devices", .list []),
    ("zendure_mqtt", .dict []), ("grid_meter", .dict [("type", .str "shelly"), ("ip", .str "")]),
    ("shelly", .dict [("ip", .str "")])]

def defaultSafeConfig : Entries := defaultSections defaultSafeSystem

def defaultRuntimeConfig : Entries := defaultSections defaultRuntimeSystem

section

variable (texts : LoaderTexts)

/-- The old meter block, of a configuration that has no grid meter and an address in it. -/
def legacyShellyIp (config : Entries) : Option String :=
  match dictGet config "grid_meter", getValue config "shelly" with
  | none, .dict legacyShelly =>
    let ip := getValue legacyShelly "ip"
    if truthy ip then some (texts.str ip) else none
  | _, _ => none

def applyRuntimeConfigDefaults (config : Entries) : Entries :=
  let merged := mergeDict defaultRuntimeConfig config
  match legacyShellyIp texts config with
  | some ip => dictSet merged "grid_meter" (.dict [("type", .str "shelly"), ("ip", .str ip)])
  | none => merged

/-- A stored configuration as it is loaded: with the runtime defaults, and safe where it must
be. -/
def asLoaded (config : Entries) : Entries :=
  applyTemplatePlaceholderSafety texts (applyRuntimeConfigDefaults texts config)

/-! ### The startup upgrade -/

inductive UpgradeMode where
  | disabled
  | check
  | apply
deriving DecidableEq

structure ConfigUpgradeConfig where
  onStartup : UpgradeMode
  backupBeforeApply : Bool

def upgradeModeOf (word : String) : UpgradeMode :=
  if word = "disabled" then .disabled else if word = "apply" then .apply else .check

def normalizeConfigUpgradeConfig (config : Entries) : ConfigUpgradeConfig :=
  let merged := config.foldl (fun merged entry => dictSet merged entry.1 entry.2)
    configUpgradeDefaults
  { onStartup := upgradeModeOf (pyStrip (texts.str (getValue merged "on_startup"))).toLower
    backupBeforeApply := safeBool texts (getValue merged "backup_before_apply") true }

/-- What the upgrade meets: the template, where it can be read, and whether the backup and the
file are written. -/
structure UpgradeSurroundings where
  template : Option Entries
  backedUp : Bool
  written : Bool

inductive StartupUpgrade where
  | kept
  | rewritten (config : Entries)

def performStartupConfigUpgrade (surroundings : UpgradeSurroundings) (config : Entries) :
    Loaded StartupUpgrade :=
  let upgradeConfig := normalizeConfigUpgradeConfig texts
    (((getValue config "config_upgrade").dict?).getD [])
  match upgradeConfig.onStartup, surroundings.template with
  | .disabled, _ => .ok .kept
  | _, none => .ok .kept
  | mode, some template =>
    match buildConfigUpgradePlan texts.toConfigTexts template config with
    | .error (.refused _) => .ok .kept
    | .error failure => .error (.upgrade failure)
    | .ok plan =>
      if !plan.changed || mode = .check then .ok .kept
      else if upgradeConfig.backupBeforeApply && !surroundings.backedUp then .ok .kept
      else if surroundings.written then .ok (.rewritten plan.upgradedConfig)
      else .error .writeFailed

variable {surroundings : UpgradeSurroundings} {config system : Entries} {value : PyValue}

/-- **Only a start that is told to apply the upgrade rewrites the file.** -/
theorem performStartupConfigUpgrade_kept {outcome : StartupUpgrade}
    (hmode : (normalizeConfigUpgradeConfig texts
      (((getValue config "config_upgrade").dict?).getD [])).onStartup ≠ .apply)
    (h : performStartupConfigUpgrade texts surroundings config = .ok outcome) :
    outcome = .kept := by
  simp only [performStartupConfigUpgrade] at h
  split at h
  · exact (Except.ok.inj h).symm
  · exact (Except.ok.inj h).symm
  · split at h
    · exact (Except.ok.inj h).symm
    · cases h
    · next plan hplan =>
      split_ifs at h with hidle hbackup hwritten
      · exact (Except.ok.inj h).symm
      · exact (Except.ok.inj h).symm
      · exfalso
        cases honStartup : (normalizeConfigUpgradeConfig texts
          (((getValue config "config_upgrade").dict?).getD [])).onStartup with
        | disabled | check => simp_all
        | apply => exact hmode honStartup

theorem performStartupConfigUpgrade_rewritten
    {template upgraded : Entries} (htemplate : surroundings.template = some template)
    (h : performStartupConfigUpgrade texts surroundings config = .ok (.rewritten upgraded)) :
    ∃ plan, buildConfigUpgradePlan texts.toConfigTexts template config = .ok plan ∧
      upgraded = plan.upgradedConfig := by
  simp only [performStartupConfigUpgrade, htemplate] at h
  split at h
  · cases Except.ok.inj h
  · cases Except.ok.inj h
  · next found _ =>
    obtain rfl := Option.some.inj found
    split at h
    · cases Except.ok.inj h
    · cases h
    · next plan hplan =>
      split_ifs at h
      · cases Except.ok.inj h
      · cases Except.ok.inj h
      · exact ⟨plan, hplan, (StartupUpgrade.rewritten.inj (Except.ok.inj h)).symm⟩

/-! ### The load -/

structure Arguments where
  dryRun : Bool
  simulate : Bool
  replay : Bool
  selfTest : Bool

/-- A start without options of the command line. -/
def Arguments.plain : Arguments := ⟨false, false, false, false⟩

def loadConfig (arguments : Arguments) (surroundings : UpgradeSurroundings) :
    Option Entries → Loaded Entries
  | none =>
    if arguments.simulate || arguments.replay || arguments.selfTest then .ok defaultSafeConfig
    else .error .noConfiguration
  | some config => do
    match ← performStartupConfigUpgrade texts surroundings config with
    | .kept => return asLoaded texts config
    | .rewritten upgraded => return asLoaded texts upgraded

/-! ### Control flags -/

inductive ControlFlag where
  | enabled
  | dryRun
  | simulationMode
  | allowHardwareWrites
  | allowMqttLocalControlWrites
  | allowMqttZendureControlWrites
  | allowStateReconciliationWrites
  | reconcileSmartMode
deriving DecidableEq

def ControlFlag.key : ControlFlag → String
  | .enabled => "enabled"
  | .dryRun => "dry_run"
  | .simulationMode => "simulation_mode"
  | .allowHardwareWrites => "allow_hardware_writes"
  | .allowMqttLocalControlWrites => "allow_mqtt_local_control_writes"
  | .allowMqttZendureControlWrites => "allow_mqtt_zendure_control_writes"
  | .allowStateReconciliationWrites => "allow_state_reconciliation_writes"
  | .reconcileSmartMode => "reconcile_smart_mode"

def controlFlagBlockingSide (flag : ControlFlag) : Bool := flag = .dryRun

def controlFlagDefault (flag : ControlFlag) : Bool := truthy (getValue defaultRuntimeSystem flag.key)

def controlFlagsInvalidForceDryRun : List ControlFlag := [.simulationMode]

/-- A flag that is missing, or a real JSON boolean. -/
def controlFlagIsValid (system : PyValue) (flag : ControlFlag) : Bool :=
  match system with
  | .dict entries =>
    match dictGet entries flag.key with
    | none => true
    | some (.bool _) => true
    | some _ => false
  | _ => true

/-- A control flag as the process holds it: what is no boolean is on the blocking side. -/
def runtimeControlFlag (system : PyValue) (flag : ControlFlag) : Bool :=
  match system.dict?.bind fun entries => dictGet entries flag.key with
  | some .none => controlFlagBlockingSide flag
  | found =>
    match optionalJsonBool texts (found.getD .none) flag.key (controlFlagDefault flag) with
    | .ok b => b
    | .error _ => controlFlagBlockingSide flag

/-! ### The grid meter -/

def gridMeterTextKeys : List String :=
  ["ip", "url", "power_path", "host", "username", "password", "topic", "payload_format",
    "value_path"]

/-- What a meter that is read over MQTT has beside its block only by mistake. -/
def gridMeterStaleKeys : List String :=
  ["ip", "url", "power_path", "channels", "host", "port", "tls", "tls_insecure", "username",
    "password", "topic", "payload_format", "value_path", "max_age_seconds"]

def normalizedChannel (item : PyValue) : Loaded PyValue :=
  let value := (pyStrip (texts.str item)).toLower
  if value = "" then .error (.valueError "grid_meter.channels must not contain empty values")
  else .ok (.str value)

def normalizeChannels (meter : Entries) : Loaded Entries :=
  match dictGet meter "channels" with
  | none => .ok meter
  | some .none => .ok meter
  | some (.list items) => do
    let channels ← items.mapM (normalizedChannel texts)
    return dictSet meter "channels" (.list channels)
  | some _ => .error (.valueError "grid_meter.channels must be a list")

/-- The connection of a meter that is read over MQTT replaces what stands beside it. -/
def withMqttSettings (config meter : Entries) (meterType : String) : Loaded Entries :=
  if meterType ∈ mqttGridMeterTypes then do
    let resolved ← resolveGridMeterMqttSettings texts config
    let mqtt ← normalizeMqttGridMeterSettings texts
      [("type", .str meterType), ("mqtt", .dict resolved)] meterType
    return (dictSet meter "mqtt" (.dict mqtt)).filter fun entry => entry.1 ∉ gridMeterStaleKeys
  else .ok meter

/-- `str(type).strip().lower()`, of a meter that may not name it. -/
def meterTypeOf (meter : Entries) : String :=
  (pyStrip (texts.str ((dictGet meter "type").getD (.str "shelly")))).toLower

/-- The grid meter that the process reads. -/
def gridMeterConfig (config : Entries) : Loaded Entries :=
  match getValue config "grid_meter" with
  | .dict configured => do
    let meterType := meterTypeOf texts configured
    let meter := gridMeterTextKeys.foldl (stringify texts)
      (dictSet configured "type" (.str meterType))
    normalizeChannels texts (← withMqttSettings texts config meter meterType)
  | _ =>
    let legacyShelly := ((getValue config "shelly").dict?).getD []
    .ok [("type", .str "shelly"),
      ("ip", .str (texts.str ((dictGet legacyShelly "ip").getD (.str ""))))]

/-! ### What a process holds -/

structure Settings where
  systemEnabled : Bool
  maxTotalPower : PyValue
  maxDevicePower : PyValue
  deadband : PyValue
  loopInterval : PyValue
  outputControl : Entries
  minOutputLimit : ℤ
  dryRun : Bool
  simulationMode : Bool
  allowHardwareWrites : Bool
  allowMqttLocalControlWrites : Bool
  allowMqttZendureControlWrites : Bool
  allowStateReconciliationWrites : Bool
  reconcileSmartMode : Bool
  logLevel : String
  gridMeter : Entries

/-- The system section, of which a load reads keys. -/
def systemEntries : PyValue → Loaded Entries
  | .dict system => .ok system
  | _ => .error .typeError

/-- `system[key]`. -/
def required (system : Entries) (key : String) : Loaded PyValue :=
  match dictGet system key with
  | some value => .ok value
  | none => .error (.keyError key)

/-- `{**defaults, **values}`. -/
def overlay (defaults : Entries) : PyValue → Loaded Entries
  | .dict values => .ok (values.foldl (fun merged entry => dictSet merged entry.1 entry.2) defaults)
  | _ => .error .typeError

/-- `max(0, int(value))`, and 0 for a value that is no number. -/
def minOutputLimitOf (value : PyValue) : Loaded ℤ :=
  match value with
  | .bool b => .ok (if b then 1 else 0)
  | .int z => .ok (max 0 z)
  | .float (.finite q) => .ok (max 0 (q.num.tdiv q.den))
  | .float .nan => .ok 0
  | .float _ => .error .overflowError
  | .str s => .ok (max 0 ((texts.int s).getD 0))
  | _ => .ok 0

/-- `value.lower()`. -/
def lowered : PyValue → Loaded String
  | .str s => .ok s.toLower
  | _ => .error .attributeError

/-- The settings that a loaded configuration sets. -/
def settingsOf (arguments : Arguments) (config : Entries) : Loaded Settings := do
  let systemSection := getValue config "system"
  let flag := runtimeControlFlag texts systemSection
  let system ← systemEntries systemSection
  let maxTotalPower ← required system "max_total_power"
  let maxDevicePower ← required system "max_device_power"
  let deadband ← required system "deadband"
  let loopInterval ← required system "loop_interval"
  let outputControl ← overlay outputControlDefaults
    ((dictGet system "output_control").getD (.dict []))
  let minOutputLimit ← minOutputLimitOf texts ((dictGet system "min_output_limit").getD (.int 0))
  let logLevel ← lowered ((dictGet system "log_level").getD (.str "info"))
  let gridMeter ← gridMeterConfig texts config
  return {
    systemEnabled := flag .enabled
    maxTotalPower := maxTotalPower
    maxDevicePower := maxDevicePower
    deadband := deadband
    loopInterval := loopInterval
    outputControl := outputControl
    minOutputLimit := minOutputLimit
    dryRun := flag .dryRun || arguments.dryRun ||
      !controlFlagsInvalidForceDryRun.all (controlFlagIsValid systemSection)
    simulationMode := flag .simulationMode || arguments.simulate
    allowHardwareWrites := flag .allowHardwareWrites
    allowMqttLocalControlWrites := flag .allowMqttLocalControlWrites
    allowMqttZendureControlWrites := flag .allowMqttZendureControlWrites
    allowStateReconciliationWrites := flag .allowStateReconciliationWrites
    reconcileSmartMode := flag .reconcileSmartMode
    logLevel := if arguments.simulate || arguments.replay then "debug" else logLevel
    gridMeter := gridMeter }

def initializeProcess (arguments : Arguments) (surroundings : UpgradeSurroundings)
    (stored : Option Entries) : Loaded Settings := do
  settingsOf texts arguments (← loadConfig texts arguments surroundings stored)

/-! ### What the meter depends on -/

theorem resolveGridMeterMqttSettings_eq_ok {resolved : Entries} {ref : String}
    (h : resolveGridMeterMqttSettings texts config = .ok resolved)
    (href : brokerRef? (gridMeterMqttSettings (((getValue config "grid_meter").dict?).getD [])) =
      some ref) :
    ∃ connection, zendureMqttBrokerConnection texts config ref = .ok (some connection) := by
  rw [resolveGridMeterMqttSettings, href, resolveBrokerRef] at h
  split_ifs at h
  obtain ⟨found, hfound, h⟩ := bind_eq_ok.mp h
  cases found with
  | none => cases h
  | some connection => exact ⟨connection, hfound⟩

theorem gridMeterConfig_congr {config' : Entries}
    (hmeter : getValue config "grid_meter" = getValue config' "grid_meter")
    (hshelly : getValue config "shelly" = getValue config' "shelly")
    (hbrokers : getValue config "zendure_mqtt" = getValue config' "zendure_mqtt") :
    gridMeterConfig texts config = gridMeterConfig texts config' := by
  have hconnection : zendureMqttBrokerConnection texts config =
      zendureMqttBrokerConnection texts config' := by
    funext ref
    rw [zendureMqttBrokerConnection, zendureMqttBrokerConnection, getEffectiveMqttBrokerProfile,
      getEffectiveMqttBrokerProfile, iterEffectiveMqttBrokerProfiles,
      iterEffectiveMqttBrokerProfiles, hbrokers]
  have hresolve : resolveGridMeterMqttSettings texts config =
      resolveGridMeterMqttSettings texts config' := by
    rw [resolveGridMeterMqttSettings, resolveGridMeterMqttSettings, hmeter]
    cases brokerRef? (gridMeterMqttSettings (((getValue config' "grid_meter").dict?).getD [])) with
    | none => rfl
    | some ref => rw [resolveBrokerRef, resolveBrokerRef, hconnection]
  have hmqtt : withMqttSettings texts config = withMqttSettings texts config' := by
    funext meter meterType
    rw [withMqttSettings, withMqttSettings, hresolve]
  rw [gridMeterConfig, gridMeterConfig, hmeter, hshelly, hmqtt]

theorem gridMeterConfig_asLoaded (config : Entries) :
    gridMeterConfig texts (asLoaded texts config) =
      gridMeterConfig texts (applyRuntimeConfigDefaults texts config) := by
  apply gridMeterConfig_congr
  · exact getValue_applyTemplatePlaceholderSafety texts _ (by decide)
  · exact getValue_applyTemplatePlaceholderSafety texts _ (by decide)
  · exact getValue_applyTemplatePlaceholderSafety texts _ (by decide)

/-! ### What the settings say of the configuration -/

theorem systemEntries_eq_ok (h : systemEntries value = .ok system) : value = .dict system := by
  cases value with
  | dict entries => rw [Except.ok.inj h]
  | none | bool b | int z | float x | str s | list items => cases h

theorem required_eq_ok {key : String}
    (h : required system key = .ok value) : dictGet system key = some value := by
  rw [required] at h
  cases hget : dictGet system key with
  | none =>
    rw [hget] at h
    cases h
  | some found =>
    rw [hget] at h
    exact congrArg some (Except.ok.inj h)

/-- The settings of a configuration with this system section. -/
structure Settings.ReadFrom (arguments : Arguments) (config system : Entries)
    (settings : Settings) : Prop where
  systemSection : getValue config "system" = .dict system
  maxTotalPower : dictGet system "max_total_power" = some settings.maxTotalPower
  enabled : settings.systemEnabled = runtimeControlFlag texts (.dict system) .enabled
  dryRun : settings.dryRun = (runtimeControlFlag texts (.dict system) .dryRun ||
    arguments.dryRun || !controlFlagsInvalidForceDryRun.all (controlFlagIsValid (.dict system)))
  simulationMode : settings.simulationMode =
    (runtimeControlFlag texts (.dict system) .simulationMode || arguments.simulate)
  hardwareWrites : settings.allowHardwareWrites =
    runtimeControlFlag texts (.dict system) .allowHardwareWrites
  mqttLocalWrites : settings.allowMqttLocalControlWrites =
    runtimeControlFlag texts (.dict system) .allowMqttLocalControlWrites
  mqttZendureWrites : settings.allowMqttZendureControlWrites =
    runtimeControlFlag texts (.dict system) .allowMqttZendureControlWrites
  reconciliationWrites : settings.allowStateReconciliationWrites =
    runtimeControlFlag texts (.dict system) .allowStateReconciliationWrites
  gridMeter : gridMeterConfig texts config = .ok settings.gridMeter

theorem settingsOf_eq_ok {arguments : Arguments} {settings : Settings}
    (h : settingsOf texts arguments config = .ok settings) :
    ∃ system, settings.ReadFrom texts arguments config system := by
  rw [settingsOf] at h
  obtain ⟨system, hsystem, h⟩ := bind_eq_ok.mp h
  have hsection : getValue config "system" = .dict system := systemEntries_eq_ok hsystem
  obtain ⟨maxTotalPower, hpower, h⟩ := bind_eq_ok.mp h
  obtain ⟨maxDevicePower, -, h⟩ := bind_eq_ok.mp h
  obtain ⟨deadband, -, h⟩ := bind_eq_ok.mp h
  obtain ⟨loopInterval, -, h⟩ := bind_eq_ok.mp h
  obtain ⟨outputControl, -, h⟩ := bind_eq_ok.mp h
  obtain ⟨minOutputLimit, -, h⟩ := bind_eq_ok.mp h
  obtain ⟨logLevel, -, h⟩ := bind_eq_ok.mp h
  obtain ⟨gridMeter, hmeter, h⟩ := bind_eq_ok.mp h
  rw [hsection] at h
  obtain rfl := Except.ok.inj h
  exact ⟨system, hsection, required_eq_ok hpower, rfl, rfl, rfl, rfl, rfl, rfl, rfl, hmeter⟩

end

end SolarFlowEms.Config
