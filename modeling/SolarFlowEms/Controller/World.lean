import SolarFlowEms.ChargeDirection
import SolarFlowEms.DeviceRamp
import SolarFlowEms.FullChargeAssist
import SolarFlowEms.Mqtt.DeviceClient

/-!
# The controller and what it works on

What the control loop keeps between cycles, what one cycle brings to it, and what has been handed
to the transports.  A transport is only what it answers: its record of a charge and the state of
its exits may differ at every moment at which a cycle reads them, and every write has an answer of
its own.  Nothing is assumed about either.

A cycle may also stop anywhere, so it is given by its steps, as the full-charge assist's part is.
-/

namespace SolarFlowEms.Controller

open Interrupted Models PowerDirection
open Mqtt.ClientState (ChargeExit)

/-! ### Settings -/

/-- A report of a fetch, with the field that only the capabilities read. -/
structure FetchedReport extends DeviceReport where
  dcStatus : ℤ
deriving DecidableEq

/-- The report of a device that has none. -/
def zeroDeviceState : FetchedReport where
  soc := 0
  minSoc := 0
  maxSoc := 0
  solar := 0
  output := 0
  packIn := 0
  outputLimit := 0
  socLimit := 0
  packNum := none
  acMode := .int 0
  acStatus := .int 0
  inputLimitW := .int 0
  gridInput := .int 0
  acModeReported := false
  solar1 := 0
  solar2 := 0
  solar3 := 0
  solar4 := 0
  packOut := 0
  smartMode := 0
  gridOffMode := 0
  chargeMaxLimitW := none
  socStatus := 0
  batteryCalibrationTime := none
  minSocReported := false
  maxSocReported := false
  smartModeReported := false
  gridOffModeReported := false
  inputLimitReported := false
  settingProperties := []
  dcStatus := 0

/-- One device's configuration and runtime state, after their defaults. -/
structure DeviceSettings where
  dev : ControlledDevice
  config : DeviceConfig
  enabled : Bool
  acChargeEnabled : Bool
  acDischargeEnabled : Bool
  modelSupportsCharge : Bool
  ratedChargePowerW : ℤ
  maxChargePowerW : ℤ
  chargeBoundedByMaxPower : Bool
  /-- The stored role, stripped and in lower case; empty where none is stored. -/
  runtimeRole : String
  runtimeRoleReason : String
  acChargePowerW : Option ℤ
  offgridSocketMode : Option OffgridSocketMode
deriving DecidableEq

/-- How the load is filtered and the total is moved. -/
structure TotalControl where
  filterEnabled : Bool
  medianWindow : ℕ
  medianEma : Bool
  emaAlpha : ℚ
  signChangeFastResponseEnabled : Bool
  signChangeThresholdW : ℚ
  signChangeFilterResetFactor : ℚ
  loadDeadbandW : ℚ
  targetDeadbandW : ℚ
  rampEnabled : Bool
  rampUpWPerCycle : ℚ
  rampDownWPerCycle : ℚ
  staleTelemetryRampFactor : ℚ
  telemetryMaxAgeSeconds : ℚ
deriving DecidableEq

/-- The settings that a cycle reads.  Device names are distinct, which the start-up check
enforces. -/
structure Settings (n : ℕ) where
  gates : ControlGates
  enabled : Bool
  maxTotalPower : ℕ
  minOutputLimit : ℕ
  deadband : ℚ
  acChargeControlEnabled : Bool
  maxTotalChargePowerW : ℕ
  chargeDirection : ChargeDirection.ChargeDirectionSettings
  deviceRamp : DeviceRamp.OutputControl
  total : TotalControl
  /-- What `calculate_targets` returns for the devices, the maximum and a requested total.  Its
  weights and shares are binary floats, so it is a parameter. -/
  calculateTargets : (Fin n → Models.Device) → ℚ → ℚ → Fin n → ℚ
  assist : AssistConfig
  socReconcileInterval : ℤ
  reconcileSmartMode : Bool
  /-- How long a charge record waits before it sends an exit again. -/
  resendAfterS : ℚ
  device : Fin n → DeviceSettings
  names_distinct : Function.Injective fun i => (device i).dev.name

/-! ### What a cycle brings -/

/-- What a transport answers about the charge on its record and about its exits. -/
structure TransportView where
  chargeCommanded : Bool
  chargeExitPending : Bool
  foundExitPending : Bool
  foundChargeLeft : Bool
  foundExitExhausted : Bool
deriving DecidableEq

/-- Where a cycle reads the transports and the clock. -/
inductive Moment where
  | start
  | claims
  | confirm
  | exits
  | eligibility
  | direction
  | idleExit
  | idlePark
  | apply
  | release
deriving DecidableEq

/-- What became of a target that was handed over: withheld, answered well or not, or never
delivered. -/
inductive TargetAnswer where
  | withheld
  | accepted
  | refused
  | undelivered
deriving DecidableEq

def TargetAnswer.written : TargetAnswer → Bool
  | .withheld | .accepted => true
  | .refused | .undelivered => false

/-- The writers of properties. -/
inductive PropertyWriter where
  | assistHold
  | assistRestore
  | assistStart
  | acModeIntent
  | acChargePower
  | socLimits
  | deviceModes
  | runtimeDeviceState
  | deviceSettings
deriving DecidableEq

/-- What the environment answers in one cycle. -/
structure Readings (n : ℕ) where
  view : Moment → Fin n → TransportView
  now : Moment → Fin n → ℚ
  directionNow : ℚ
  /-- The wall clock when the total asks how old the reports are. -/
  telemetryNow : ℚ
  /-- The clock when a cycle that ran through gives the assist its AC input back. -/
  reentryNow : ℚ
  propertyAnswer : PropertyWriter → Fin n → PropertyAnswer
  targetAnswer : Moment → Fin n → TargetAnswer

/-- The health that a meter client tracks. -/
structure MeterHealth where
  attempted : Bool
  staleUsed : Bool
  ageSeconds : Option ℚ
deriving DecidableEq

/-- The properties of the inverter's own settings. -/
inductive SettingProperty where
  | lampSwitch
  | fanmode
  | fanspeed
  | buzzerSwitch
  | autoHeat
deriving DecidableEq

def SettingProperty.name : SettingProperty → String
  | .lampSwitch => "lampSwitch"
  | .fanmode => "Fanmode"
  | .fanspeed => "Fanspeed"
  | .buzzerSwitch => "buzzerSwitch"
  | .autoHeat => "autoHeat"

/-- What one cycle brings. -/
structure CycleInput (n : ℕ) where
  settings : Settings n
  now : DateTime
  fetchedAt : ℚ
  load : ℚ
  meter : Option MeterHealth
  reports : Fin n → Option FetchedReport
  /-- The devices that winter keeps from exporting. -/
  winterHeld : Fin n → Bool
  /-- The `minSoc` that winter plans, where it plans one. -/
  winterMinSoc : Fin n → Option ℤ
  /-- The settings of the inverter itself that are due, with what they change. -/
  dueSettings : Fin n → List (List (SettingProperty × ℤ))
  readings : Readings n

/-! ### What the controller keeps -/

/-- The assist's grid charge on one device, on a transport's charge record. -/
structure FullChargeAssistCharge where
  record : ChargeRecord
  exits : ℕ
deriving DecidableEq

/-- The controller's memory. -/
structure Memory (n : ℕ) where
  runtimeIntents : Fin n → Option DeviceRuntimeIntent
  controlEnabled : Option Bool
  deviceOnline : Fin n → Bool
  lastStates : Fin n → Option FetchedReport
  lastSeen : Fin n → Option ℚ
  acInputWatched : Fin n → Bool
  chargesBeingLeft : Fin n → Bool
  fullChargeAssistCharges : Fin n → Option FullChargeAssistCharge
  commandedDeviceTargets : DeviceRamp.CommandedTargets n
  commandedTotalW : Option ℚ
  filteredLoadW : Option ℚ
  desiredTotalW : Option ℚ
  loadHistory : List ℚ
  gridMeterHolding : Bool
  chargeDirection : ChargeDirection.ChargeDirectionState
  chargeCapacityW : ℤ
  deviceChargeLimits : Fin n → ℤ
  nightMinSocIdleActive : Bool
  nightMinSocIdleParked : Fin n → Bool
  socReconcileCounter : ℤ
  cycleFailures : ℕ
  cyclesThroughSinceRelease : Option ℕ
  assistReentries : List ℚ

/-! ### What was handed to a transport -/

/-- A write: properties, or a target with the shape of the exit that it names. -/
inductive Write where
  | properties (values : List (String × ℤ))
  | target (targetW : ℤ) (chargeExit : Option ChargeExit)
deriving DecidableEq

/-- What the controller has on record of a device when it hands over a write: a charge of its
own, the assist's charge, or an AC input found after a start that is still owed its exit. -/
structure OnRecord where
  emsCharge : Bool
  assistCharge : Bool
  foundExit : Bool
deriving DecidableEq

/-- A write that was handed to the transport of a device, with what was on record then. -/
structure Handed (n : ℕ) where
  device : Fin n
  write : Write
  onRecord : OnRecord
deriving DecidableEq

/-- The controller, the assist's store, and what was handed over, the latest first. -/
structure World (n : ℕ) (Text : Type) where
  memory : Memory n
  assist : AssistWorld Text
  handed : List (Handed n)

/-! ### Switches, gates and records -/

variable {n : ℕ} {Text : Type}

namespace Settings

variable (settings : Settings n) (i : Fin n)

/-- `cfg.resolve_device_write_gate(dev).allowed`. -/
def writeGateAllowed : Bool := settings.gates.writeAllowed (settings.device i).dev.controlGate

/-- `cfg.state_reconciliation_writes_allowed`. -/
def stateGateAllowed : Bool :=
  settings.gates.stateReconciliationWritesAllowed (settings.device i).dev.controlGate

/-- Whether the feature, the device's own switch and its model let it charge. -/
def chargePermitted : Bool :=
  settings.acChargeControlEnabled && (settings.device i).acChargeEnabled &&
    (settings.device i).modelSupportsCharge

end Settings

namespace Memory

variable (settings : Settings n) (m : Memory n) (view : TransportView) (i : Fin n)

/-- An operator switch takes the device from the EMS. -/
def controlSwitchedOff : Bool :=
  m.controlEnabled = some false || !(settings.device i).enabled

def deviceStateWritesAllowed : Bool :=
  !m.controlSwitchedOff settings i && settings.stateGateAllowed i

/-- Whether this EMS is charging the device, by its own record. -/
def chargeCommandedByEms : Bool :=
  ((m.commandedDeviceTargets i).getD 0 < 0 && !m.controlSwitchedOff settings i) ||
    view.chargeCommanded

/-- Whether the EMS can tell that AC input on the device is not its own charge. -/
def acInputAttributable : Bool :=
  m.acInputWatched i || (m.fullChargeAssistCharges i).isSome || !settings.chargePermitted i

/-- The exit for an AC input nobody can attribute. -/
def unprovenChargeExit : Option ChargeExit :=
  match m.runtimeIntents i with
  | none => none
  | some intent => if intent.reason = unprovenChargeReason then some .toOutput else none

/-- Whether the assist's charge is on record, its exit still owed. -/
def fullChargeAssistChargeHeld : Bool :=
  match m.fullChargeAssistCharges i with
  | none => false
  | some charge => charge.record.isOpen && charge.exits < foundExitAttemptsMax

def onRecord : OnRecord where
  emsCharge := m.chargeCommandedByEms settings view i
  assistCharge := m.fullChargeAssistChargeHeld i
  foundExit := (m.unprovenChargeExit i).isSome

/-- Whoever owns the AC mode leaves the device commandable. -/
def deviceOutputControlAllowed : Bool :=
  match m.runtimeIntents i with
  | none => true
  | some intent => intent.outputControlAllowed

/-- Reachable and switched on. -/
def deviceActive : Bool := m.deviceOnline i && (settings.device i).enabled

def deviceCommandable : Bool := m.deviceActive settings i && m.deviceOutputControlAllowed i

def deviceMaySupply : Bool :=
  m.deviceCommandable settings i && (settings.device i).acDischargeEnabled

def chargesReturnedAfterFailedCycles : Bool := 3 ≤ m.cycleFailures

def assistAcInputWithheld : Bool :=
  m.chargesReturnedAfterFailedCycles || m.cyclesThroughSinceRelease.isSome

/-- Whether the exit owed to the device is out and its resend window still open. -/
def chargeExitPending : Bool :=
  if view.chargeCommanded then view.chargeExitPending else view.foundExitPending

def stateOf : FetchedReport := (m.lastStates i).getD zeroDeviceState

def resetOutputControlState : Memory n :=
  { m with
    commandedTotalW := none
    filteredLoadW := none
    desiredTotalW := none
    loadHistory := []
    commandedDeviceTargets := fun _ => none }

/-- The charge direction starts afresh, its hourly entries kept. -/
def resetChargeDirection : Memory n :=
  { m with
    chargeDirection := ⟨false, [], m.chargeDirection.entries⟩
    chargeCapacityW := 0
    deviceChargeLimits := fun _ => 0 }

/-- The exit to an unattributed AC input that the gate withheld settles it. -/
def noteUnprovenChargeExit (targetW : ℚ) (answer : TargetAnswer) : Memory n :=
  if answer = .withheld && 0 ≤ targetW && (m.unprovenChargeExit i).isSome then
    { m with acInputWatched := Function.update m.acInputWatched i true }
  else m

end Memory

namespace World

variable (input : CycleInput n) (w : World n Text) (i : Fin n)

def row : Row Text := w.assist.row (input.settings.device i).dev.name

def remember (f : Memory n → Memory n) : World n Text := { w with memory := f w.memory }

/-- Hand a write to the device's transport. -/
def hand (moment : Moment) (write : Write) : World n Text :=
  { w with
    handed := ⟨i, write, w.memory.onRecord input.settings (input.readings.view moment i) i⟩ ::
      w.handed }

/-- `set_output_limit`: a target behind its gate. -/
def setOutputLimit (moment : Moment) (value : ℚ) (chargeExit : Option ChargeExit) :
    World n Text × TargetAnswer :=
  if !input.settings.writeGateAllowed i then (w, .withheld)
  else (w.hand input i moment (.target (Number.float value).truncate chargeExit),
    input.readings.targetAnswer moment i)

/-- What a reconciler handed over goes to the transport. -/
def handProperties (moment : Moment) (reconciled : Reconciled) : World n Text :=
  match reconciled.handed with
  | none => w
  | some values => w.hand input i moment (.properties values)

end World

end SolarFlowEms.Controller
