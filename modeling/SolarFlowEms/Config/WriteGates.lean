import SolarFlowEms.Config.Loader

/-!
# The write gates, in the process and from the file

The control loop asks the gate of a device's transport before it writes.  The admin, which loads
no configuration of its own, derives from the stored file what that gate would answer.  Both use
one policy; what they give to it is read by two pieces of code.  Here the two readings are shown to
be one: on every stored configuration that a process loads as it is, the projection reports the
flags that the process holds and the decisions that its gates make.
-/

namespace SolarFlowEms.Config

open Python Documents Fallible

/-! ### The policy -/

structure WriteGateDecision where
  allowed : Bool
  transport : String
  gateName : String
  gateEnabled : Bool
  blockedBy : List String
deriving DecidableEq

/-- The transport of a gate, and the flag that opens it. -/
def controlGateTransport (controlGate : String) : Option (String × ControlFlag) :=
  if controlGate = "api" then some ("http", .allowHardwareWrites)
  else if controlGate = "mqtt_local" then some ("mqtt_local", .allowMqttLocalControlWrites)
  else if controlGate = "mqtt_zendure" then some ("mqtt_zendure", .allowMqttZendureControlWrites)
  else none

def evaluateWriteGate (controlGate : String) (dryRun simulationMode replay : Bool)
    (gateValues : ControlFlag → Bool) : WriteGateDecision :=
  match controlGateTransport controlGate with
  | none => ⟨false, "unknown", "unknown_control_gate", false, ["unknown_control_gate"]⟩
  | some (transport, gate) =>
    let blocked := (if dryRun then ["dry_run"] else []) ++
      (if simulationMode then ["simulation_mode"] else []) ++
      (if replay then ["replay_mode"] else []) ++
      if gateValues gate then [] else [gate.key]
    ⟨blocked.isEmpty, transport, gate.key, gateValues gate, blocked⟩

theorem evaluateWriteGate_allowed_iff (controlGate : String) (dryRun simulationMode replay : Bool)
    (gateValues : ControlFlag → Bool) :
    (evaluateWriteGate controlGate dryRun simulationMode replay gateValues).allowed = true ↔
      ∃ transport gate, controlGateTransport controlGate = some (transport, gate) ∧
        gateValues gate = true ∧ dryRun = false ∧ simulationMode = false ∧ replay = false := by
  rw [evaluateWriteGate]
  cases hgate : controlGateTransport controlGate with
  | none => simp
  | some found =>
    obtain ⟨transport, gate⟩ := found
    cases dryRun <;> cases simulationMode <;> cases replay <;> cases gateValues gate <;> simp_all

/-! ### In the process -/

def Settings.gateValue (settings : Settings) : ControlFlag → Bool
  | .enabled => settings.systemEnabled
  | .dryRun => settings.dryRun
  | .simulationMode => settings.simulationMode
  | .allowHardwareWrites => settings.allowHardwareWrites
  | .allowMqttLocalControlWrites => settings.allowMqttLocalControlWrites
  | .allowMqttZendureControlWrites => settings.allowMqttZendureControlWrites
  | .allowStateReconciliationWrites => settings.allowStateReconciliationWrites
  | .reconcileSmartMode => settings.reconcileSmartMode

def Settings.resolveWriteGate (settings : Settings) (arguments : Arguments)
    (controlGate : String) : WriteGateDecision :=
  evaluateWriteGate controlGate settings.dryRun settings.simulationMode arguments.replay
    settings.gateValue

/-- The flags that say how much the process controls. -/
structure ControlFlags where
  enabled : Bool
  dryRun : Bool
  simulationMode : Bool
  allowStateReconciliationWrites : Bool
deriving DecidableEq

def Settings.controlFlags (settings : Settings) : ControlFlags where
  enabled := settings.systemEnabled
  dryRun := settings.dryRun
  simulationMode := settings.simulationMode
  allowStateReconciliationWrites := settings.allowStateReconciliationWrites

/-! ### From the file -/

section

variable (texts : LoaderTexts)

def projectedFlag (system : Entries) (flag : ControlFlag) (default onInvalid : Bool) : Bool :=
  match dictGet system flag.key with
  | some .none => onInvalid
  | found =>
    match optionalJsonBool texts (found.getD .none) flag.key default with
    | .ok b => b
    | .error _ => onInvalid

/-- The stored value as a process loads it; what is no object stays what it is. -/
def projectedConfig : PyValue → PyValue
  | .dict config => .dict (asLoaded texts config)
  | other => other

/-- The system section of the loaded value, and whether there is one. -/
def projectedSystem (config : PyValue) : Entries × Bool :=
  match (projectedConfig texts config).dict?.map fun config => getValue config "system" with
  | some (.dict system) => (system, true)
  | _ => ([], false)

/-- What a release gate's flag is without a value: open where the section can be read. -/
def releaseDefault (flag : ControlFlag) : Bool :=
  (releaseWriteGateDefaults.lookup flag.key).getD false

def resolveConfigWriteGate (config : PyValue) (controlGate : String) : WriteGateDecision :=
  let (system, readable) := projectedSystem texts config
  let forcedDryRun := !controlFlagsInvalidForceDryRun.all (controlFlagIsValid (.dict system))
  evaluateWriteGate controlGate
    (forcedDryRun || projectedFlag texts system .dryRun (controlFlagDefault .dryRun) true)
    (projectedFlag texts system .simulationMode (controlFlagDefault .simulationMode)
      (controlFlagBlockingSide .simulationMode))
    false
    fun gate => projectedFlag texts system gate (readable && releaseDefault gate) false

def configControlFlags (config : PyValue) : ControlFlags :=
  let (system, readable) := projectedSystem texts config
  let flag (name : ControlFlag) : Bool := projectedFlag texts system name
    (if readable then controlFlagDefault name else name = .enabled) (controlFlagBlockingSide name)
  let valid := controlFlagsInvalidForceDryRun.all (controlFlagIsValid (.dict system))
  { enabled := flag .enabled
    dryRun := if valid then flag .dryRun else true
    simulationMode := flag .simulationMode
    allowStateReconciliationWrites := flag .allowStateReconciliationWrites }

/-! ### The two readings -/

/-- **A projected flag is the flag that the process holds**, its default and its blocking side
given. -/
theorem projectedFlag_eq (system : Entries) (flag : ControlFlag) :
    projectedFlag texts system flag (controlFlagDefault flag) (controlFlagBlockingSide flag) =
      runtimeControlFlag texts (.dict system) flag :=
  rfl

variable {controlGate transport : String} {gate : ControlFlag} {config : Entries}
  {settings : Settings}

theorem releaseDefault_eq (h : controlGateTransport controlGate = some (transport, gate)) :
    releaseDefault gate = controlFlagDefault gate ∧ controlFlagBlockingSide gate = false := by
  rw [controlGateTransport] at h
  split_ifs at h
  all_goals
    obtain ⟨rfl, rfl⟩ := Prod.mk.inj (Option.some.inj h)
    decide

theorem evaluateWriteGate_congr {gateValues gateValues' : ControlFlag → Bool}
    (h : ∀ transport gate, controlGateTransport controlGate = some (transport, gate) →
      gateValues gate = gateValues' gate) (dryRun simulationMode replay : Bool) :
    evaluateWriteGate controlGate dryRun simulationMode replay gateValues =
      evaluateWriteGate controlGate dryRun simulationMode replay gateValues' := by
  rw [evaluateWriteGate, evaluateWriteGate]
  cases hgate : controlGateTransport controlGate with
  | none => rfl
  | some found =>
    obtain ⟨transport, gate⟩ := found
    dsimp only
    rw [h transport gate hgate]

theorem Settings.ReadFrom.gateValue {arguments : Arguments} {system : Entries}
    (h : settings.ReadFrom texts arguments config system)
    (hgate : controlGateTransport controlGate = some (transport, gate)) :
    settings.gateValue gate = runtimeControlFlag texts (.dict system) gate := by
  rw [controlGateTransport] at hgate
  split_ifs at hgate
  all_goals obtain ⟨-, rfl⟩ := Prod.mk.inj (Option.some.inj hgate)
  · exact h.hardwareWrites
  · exact h.mqttLocalWrites
  · exact h.mqttZendureWrites

theorem initializeProcess_kept {arguments : Arguments} {surroundings : UpgradeSurroundings}
    (hkept : performStartupConfigUpgrade texts surroundings config = .ok .kept)
    (hload : initializeProcess texts arguments surroundings (some config) = .ok settings) :
    settingsOf texts arguments (asLoaded texts config) = .ok settings := by
  rw [initializeProcess, loadConfig, hkept] at hload
  exact hload

/-- **The projection is what runs.**  For every stored configuration that a process loads without
options of the command line and without rewriting it, the decision that the projection derives for
a gate, with its reasons, is the one that the process's gate makes, and the projected flags are the
ones that the process holds. -/
theorem projection_is_what_runs (surroundings : UpgradeSurroundings) (config : Entries)
    (settings : Settings)
    (hkept : performStartupConfigUpgrade texts surroundings config = .ok .kept)
    (hload : initializeProcess texts .plain surroundings (some config) = .ok settings) :
    (∀ controlGate, resolveConfigWriteGate texts (.dict config) controlGate =
      settings.resolveWriteGate .plain controlGate) ∧
    configControlFlags texts (.dict config) = settings.controlFlags := by
  obtain ⟨system, hread⟩ := settingsOf_eq_ok texts (initializeProcess_kept texts hkept hload)
  have hprojected : projectedSystem texts (.dict config) = (system, true) := by
    rw [projectedSystem, projectedConfig]
    show (match some (getValue (asLoaded texts config) "system") with
      | some (.dict system) => (system, true)
      | _ => ([], false)) = _
    rw [hread.systemSection]
  have hdryRun : settings.dryRun = (runtimeControlFlag texts (.dict system) .dryRun ||
      !controlFlagsInvalidForceDryRun.all (controlFlagIsValid (.dict system))) := by
    rw [hread.dryRun]
    exact congrArg (· || _) (Bool.or_false _)
  have hsimulation : settings.simulationMode =
      runtimeControlFlag texts (.dict system) .simulationMode :=
    hread.simulationMode.trans (Bool.or_false _)
  constructor
  · intro controlGate
    rw [resolveConfigWriteGate, hprojected, Settings.resolveWriteGate, hdryRun, hsimulation,
      Bool.or_comm]
    refine evaluateWriteGate_congr (fun transport gate hgate => ?_) _ _ _
    obtain ⟨hdefault, hblocking⟩ := releaseDefault_eq hgate
    rw [hread.gateValue texts hgate, Bool.true_and, hdefault, ← hblocking]
    exact projectedFlag_eq texts system gate
  · rw [Settings.controlFlags, hread.enabled, hdryRun, hsimulation, hread.reconciliationWrites]
    simp only [configControlFlags, hprojected, if_true, projectedFlag_eq]
    cases controlFlagsInvalidForceDryRun.all (controlFlagIsValid (.dict system)) <;> simp

/-- **A configuration that is not set up controls nothing.**  While a field still holds a
template's value, no gate of the process that loads it lets a write pass, whatever the options of
its command line. -/
theorem held_writes_nothing (arguments : Arguments) (surroundings : UpgradeSurroundings)
    (config : Entries) (settings : Settings)
    (hheld : templatePlaceholderPaths texts (applyRuntimeConfigDefaults texts config) ≠ [])
    (hkept : performStartupConfigUpgrade texts surroundings config = .ok .kept)
    (hload : initializeProcess texts arguments surroundings (some config) = .ok settings) :
    settings.systemEnabled = false ∧ settings.dryRun = true ∧
      ∀ controlGate, (settings.resolveWriteGate arguments controlGate).allowed = false := by
  obtain ⟨system, hread⟩ := settingsOf_eq_ok texts (initializeProcess_kept texts hkept hload)
  have hforced : ∃ before, system = forceSafeMode before := by
    have hsystem := hread.systemSection
    rw [asLoaded, applyTemplatePlaceholderSafety, if_neg (by simpa using hheld), getValue,
      dictGet_dictSet, if_pos rfl] at hsystem
    exact ⟨_, (PyValue.dict.inj hsystem).symm⟩
  obtain ⟨before, rfl⟩ := hforced
  have hforcedFlag (flag : ControlFlag) (b : Bool) (hflag : safeModeFlags.lookup flag.key = some b) :
      runtimeControlFlag texts (.dict (forceSafeMode before)) flag = b := by
    have hget : dictGet (forceSafeMode before) flag.key = some (.bool b) := by
      rw [dictGet_forceSafeMode, hflag]
      rfl
    show (match dictGet (forceSafeMode before) flag.key with
      | some .none => controlFlagBlockingSide flag
      | found =>
        match optionalJsonBool texts (found.getD .none) flag.key (controlFlagDefault flag) with
        | .ok b => b
        | .error _ => controlFlagBlockingSide flag) = b
    rw [hget]
    rfl
  have hdry : settings.dryRun = true := by
    rw [hread.dryRun, hforcedFlag .dryRun true rfl, Bool.true_or, Bool.true_or]
  refine ⟨hread.enabled.trans (hforcedFlag .enabled false rfl), hdry, fun controlGate => ?_⟩
  rw [Bool.eq_false_iff]
  intro hallowed
  rw [Settings.resolveWriteGate, evaluateWriteGate_allowed_iff] at hallowed
  obtain ⟨-, -, -, -, hnot, -⟩ := hallowed
  rw [hdry] at hnot
  cases hnot

end

/-! ### One start -/

/-- Texts of the values that the start below holds. -/
def plainLoaderTexts : LoaderTexts where
  str v := v.str?.getD ""
  repr v := v.str?.getD ""
  int _ := none
  str_str := getD_str?_str
  float _ := none
  ipAddress text := if text = "192.168.1.20" then some (.v4 3232235796) else
    if text = "192.168.1.30" then some (.v4 3232235806) else none
  urlHostname text := some (String.ofList (text.toList.drop 2)).toLower

def sampleStored : Entries :=
  [("config_schema_version", .int 3),
    ("system", .dict [("dry_run", .bool false), ("allow_hardware_writes", .str "false")]),
    ("devices", .list [.dict [("ip", .str "192.168.1.20"), ("sn", .str "HOA1")]]),
    ("grid_meter", .dict [("type", .str "shelly"), ("ip", .str "192.168.1.30")])]

def sampleSurroundings : UpgradeSurroundings where
  template := some [("system", .dict [("enabled", .bool true)]), ("devices", .list [])]
  backedUp := true
  written := true

/-- One gate is written as a word and is closed; the other two are open. -/
theorem projection_is_what_runs_sample :
    ∃ settings, initializeProcess plainLoaderTexts .plain sampleSurroundings (some sampleStored) =
        .ok settings ∧
      (∀ controlGate, resolveConfigWriteGate plainLoaderTexts (.dict sampleStored) controlGate =
        settings.resolveWriteGate .plain controlGate) ∧
      configControlFlags plainLoaderTexts (.dict sampleStored) = settings.controlFlags ∧
      settings.resolveWriteGate .plain "api" =
        ⟨false, "http", "allow_hardware_writes", false, ["allow_hardware_writes"]⟩ ∧
      settings.resolveWriteGate .plain "mqtt_local" =
        ⟨true, "mqtt_local", "allow_mqtt_local_control_writes", true, []⟩ := by
  have hload : (initializeProcess plainLoaderTexts .plain sampleSurroundings
      (some sampleStored)).isOk = true := by
    decide +kernel
  obtain ⟨settings, hsettings⟩ : ∃ settings, initializeProcess plainLoaderTexts .plain
      sampleSurroundings (some sampleStored) = .ok settings := by
    cases h : initializeProcess plainLoaderTexts .plain sampleSurroundings (some sampleStored) with
    | ok settings => exact ⟨settings, rfl⟩
    | error failure =>
      rw [h] at hload
      cases hload
  have hkept : performStartupConfigUpgrade plainLoaderTexts sampleSurroundings sampleStored =
      .ok .kept := by
    obtain ⟨loaded, hloaded, -⟩ := bind_eq_ok.mp hsettings
    obtain ⟨outcome, houtcome, -⟩ := bind_eq_ok.mp hloaded
    rw [houtcome]
    exact congrArg _ (performStartupConfigUpgrade_kept plainLoaderTexts (by decide +kernel) houtcome)
  obtain ⟨hgates, hflags⟩ := projection_is_what_runs plainLoaderTexts sampleSurroundings
    sampleStored settings hkept hsettings
  refine ⟨settings, hsettings, hgates, hflags, ?_, ?_⟩
  · rw [← hgates]
    decide +kernel
  · rw [← hgates]
    decide +kernel

/-- The same configuration with a serial that nobody has entered. -/
def sampleUnfinished : Entries :=
  dictSet sampleStored "devices"
    (.list [.dict [("ip", .str "192.168.1.20"), ("sn", .str "your_sn")]])

/-- A start that is simulated from the command line. -/
def simulated : Arguments := { Arguments.plain with simulate := true }

theorem held_writes_nothing_unfinished :
    ∃ settings, initializeProcess plainLoaderTexts simulated sampleSurroundings
        (some sampleUnfinished) = .ok settings ∧
      settings.systemEnabled = false ∧ settings.dryRun = true ∧
      ∀ controlGate, (settings.resolveWriteGate simulated controlGate).allowed = false := by
  cases hload : initializeProcess plainLoaderTexts simulated sampleSurroundings
    (some sampleUnfinished) with
  | error failure =>
    have hok : (initializeProcess plainLoaderTexts simulated sampleSurroundings
        (some sampleUnfinished)).isOk = true := by decide +kernel
    rw [hload] at hok
    cases hok
  | ok settings =>
    obtain ⟨loaded, hloaded, -⟩ := bind_eq_ok.mp hload
    obtain ⟨outcome, houtcome, -⟩ := bind_eq_ok.mp hloaded
    obtain rfl := performStartupConfigUpgrade_kept plainLoaderTexts (by decide +kernel) houtcome
    exact ⟨settings, rfl, held_writes_nothing plainLoaderTexts simulated sampleSurroundings
      sampleUnfinished settings (by decide +kernel) houtcome hload⟩

end SolarFlowEms.Config
