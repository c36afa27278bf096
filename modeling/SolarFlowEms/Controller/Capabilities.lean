import SolarFlowEms.Controller.ChargeExits
import SolarFlowEms.Models

/-!
# What the devices may do in a cycle

The capabilities that a report shows, less what claims, operator and winter take away; and which
devices may charge, with their ceilings.
-/

namespace SolarFlowEms.Controller

open Finset Models PowerDirection

variable {n : ℕ} {Text : Type}

/-- `safe_int(value, 0, minimum=0)`. -/
def wholeWatts (value : ℚ) : ℤ := max 0 (Number.float value).truncate

/-! ### Capabilities -/

structure Capabilities extends DeviceCapabilities where
  canCharge : Bool
  exportHeld : Bool
deriving DecidableEq

/-- The capabilities that the firmware's telemetry shows. -/
def detectCapabilities (state : FetchedReport) : Capabilities where
  canCharge := state.socLimit ≠ 1
  canDischarge :=
    state.socLimit ≠ 2 && (state.dcStatus ≠ 0 || 0 < state.packIn || 0 < state.output)
  canExport :=
    (0 < state.solar || 0 < state.output || 0 < state.outputLimit || state.acStatus.value ≠ 0) ||
      (state.socLimit ≠ 2 && !(state.dcStatus = 0 && state.acStatus.value = 0))
  exportHeld := false

namespace World

variable (input : CycleInput n) (w : World n Text) (i : Fin n)

/-- A device that a claim or the operator keeps from feeding out. -/
def intentFilteredCapabilities (capability : Capabilities) : Capabilities :=
  if w.memory.deviceOutputControlAllowed i && (input.settings.device i).acDischargeEnabled then
    capability
  else { capability with canDischarge := false, canExport := false, exportHeld := false }

/-- A device that winter keeps from exporting. -/
def winterFilteredCapabilities (capability : Capabilities) : Capabilities :=
  if input.winterHeld i && capability.canExport && w.memory.deviceOnline i then
    { capability with canDischarge := false, canExport := false, exportHeld := true }
  else capability

def capabilities : Capabilities :=
  w.winterFilteredCapabilities input i
    (w.intentFilteredCapabilities input i (detectCapabilities (w.memory.stateOf i)))

/-- PV power that the device reports, whichever field its firmware fills. -/
def pvPower (state : FetchedReport) : ℚ :=
  max state.solar
    (max 0 state.solar1 + max 0 state.solar2 + max 0 state.solar3 + max 0 state.solar4)

/-- Whether any active device can serve a positive load. -/
def hasOutputControlExportCapacity : Bool :=
  decide (∃ i, w.memory.deviceMaySupply input.settings i = true ∧
    (w.capabilities input i).exportHeld = false ∧
    (0 < pvPower (w.memory.stateOf i) ∨ (w.capabilities input i).canDischarge = true ∨
      0 < (w.memory.stateOf i).output))

/-- Which devices may hold the exclusive PV-first claim. -/
def claimEligibleDevice : Bool :=
  let gates := input.settings.gates
  let gated := fun j => gates.gateEnabled (input.settings.device j).dev.controlGate
  if gates.dryRun || gates.simulationMode || gates.replay || !decide (∃ j, gated j = true) then
    w.memory.deviceMaySupply input.settings i
  else w.memory.deviceMaySupply input.settings i && gated i

end World

/-! ### Charging -/

/-- The absorbable energy of a device in weighted units. -/
def chargeHeadroomWeight (state : FetchedReport) (config : DeviceConfig)
    (capability : Capabilities) : ℚ :=
  if !capability.canCharge then 0
  else if state.packNum.getD 0 = 0 then 0
  else if state.maxSoc ≤ 0 then 0
  else
    let headroomPercent := max 0 (state.maxSoc - state.soc)
    if headroomPercent ≤ 0 then 0
    else max 0 (getDeviceBatteryKwh (some config) * headroomPercent / 100)

def ownDrainMarginW : ℤ := 60

/-- The pack discharges for a reason other than this EMS. -/
def packDrainedFromOutside (state : FetchedReport) : Bool :=
  let packIn := wholeWatts state.packIn
  let output := wholeWatts state.output
  if packIn ≤ 0 then false
  else !(0 < wholeWatts state.outputLimit && 0 < output && packIn ≤ output + ownDrainMarginW)

/-- The highest AC charge power of a device: a reported ceiling of 0 refuses, an explicit setting
is capped by the ceiling, and without a report the rating is the ceiling. -/
def resolveMaxChargePowerW (explicit rated : ℤ) (reported : Option ℤ) : ℤ :=
  let ceiling := max 0 (reported.getD rated)
  if reported.isSome && ceiling ≤ 0 then 0
  else if 0 < explicit then if 0 < ceiling then min explicit ceiling else explicit
  else ceiling

def deviceChargeCeilingW (device : DeviceSettings) (state : FetchedReport) : ℤ :=
  let ceiling :=
    resolveMaxChargePowerW device.maxChargePowerW device.ratedChargePowerW state.chargeMaxLimitW
  if device.chargeBoundedByMaxPower && 0 < device.config.maxPower then
    min ceiling device.config.maxPower
  else ceiling

namespace World

variable (input : CycleInput n) (w : World n Text) (i : Fin n)

/-- Every permission for a charge of one device, and whether it can absorb anything. -/
def deviceChargeAllowed : Bool :=
  input.settings.chargePermitted i && w.memory.deviceActive input.settings i &&
    (w.capabilities input i).canCharge && w.memory.deviceOutputControlAllowed i &&
    !w.fullChargeAssistHoldsDirection input i &&
    0 < chargeHeadroomWeight (w.memory.stateOf i) (input.settings.device i).config
      (w.capabilities input i) &&
    (w.memory.chargeCommandedByEms input.settings (input.readings.view .eligibility i) i ||
      !packDrainedFromOutside (w.memory.stateOf i))

/-- The ceiling of a device's charge in this cycle, 0 where it may not charge. -/
def chargeCeilingW : ℤ :=
  if w.deviceChargeAllowed input i then
    deviceChargeCeilingW (input.settings.device i) (w.memory.stateOf i)
  else 0

/-- What the chargeable devices can take, held to the installation's cap. -/
def usableChargeCapacityW (settings : Settings n) (m : Memory n) : ℤ :=
  min settings.maxTotalChargePowerW (max 0 m.chargeCapacityW)

/-- Settle how much each device may charge. -/
def resolveChargeLimits : World n Text :=
  w.remember fun m =>
    { m with
      deviceChargeLimits := w.chargeCeilingW input
      chargeCapacityW := ∑ i, w.chargeCeilingW input i }

/-- Which devices may charge, once the limits are settled: none where their capacity cannot
outlast the exit. -/
def chargeable : Bool :=
  decide (0 < w.memory.deviceChargeLimits i) &&
    decide (input.settings.chargeDirection.stopW < usableChargeCapacityW input.settings w.memory)

/-- The output that vanishes once the chargeable devices switch direction. -/
def releasableOutputW : ℤ :=
  ∑ i, if w.chargeable input i then wholeWatts (w.memory.stateOf i).output else 0

end World

/-! ### The grid meter -/

namespace CycleInput

variable (input : CycleInput n)

/-- The meter serves its last value. -/
def staleUsed : Bool :=
  match input.meter with
  | none => false
  | some health => health.staleUsed

/-- The load is a measurement, or held for no longer than the telemetry may be old. -/
def gridMeterReadingIsFresh : Bool :=
  match input.meter with
  | none => true
  | some health =>
    if !health.attempted || !health.staleUsed then true
    else
      match health.ageSeconds with
      | none => false
      | some age =>
        0 < input.settings.total.telemetryMaxAgeSeconds &&
          age ≤ input.settings.total.telemetryMaxAgeSeconds

end CycleInput

namespace Memory

variable (input : CycleInput n) (m : Memory n)

/-- Hold the commanded total while the meter serves its last value. -/
def updateGridMeterHolding : Memory n :=
  if input.staleUsed ≠ m.gridMeterHolding then
    { m with
      loadHistory := []
      filteredLoadW := none
      gridMeterHolding := input.staleUsed }
  else m

end Memory

end SolarFlowEms.Controller
