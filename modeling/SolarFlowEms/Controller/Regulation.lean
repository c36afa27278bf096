import SolarFlowEms.Controller.Capabilities
import SolarFlowEms.TargetControl.Allocation
import SolarFlowEms.Library.RoundHalfEven

/-!
# The total and the charge decision of a cycle

The meter's load is filtered and integrated into a commanded total, limited by a deadband and a
ramp; while the meter serves its last value the total is held.  The charge direction is decided on
it, and a charge is shared out over the devices that may take one.  While a charge is left, the
total is sized by what the house draws instead.
-/

namespace SolarFlowEms.Controller

open Finset Models PowerDirection RoundHalfEven TargetControl

variable {n : ℕ} {Text : Type}

/-! ### The filtered load -/

/-- The middle of the sorted values, or between the two middle ones. -/
def median (values : List ℚ) : ℚ :=
  let sorted := values.insertionSort (· ≤ ·)
  let mid := sorted.length / 2
  if sorted.length % 2 = 1 then sorted.getD mid 0
  else (sorted.getD (mid - 1) 0 + sorted.getD mid 0) / 2

namespace Memory

variable (control : TotalControl) (m : Memory n)

/-- A load and a filtered load that point in opposite directions. -/
def signChanged (rawLoad filtered : ℚ) : Bool :=
  control.signChangeFastResponseEnabled &&
    ((rawLoad ≤ -control.signChangeThresholdW && 0 < filtered) ||
      (control.signChangeThresholdW ≤ rawLoad && filtered < 0))

def filterOutputControlLoad (rawLoad : ℚ) : Memory n × ℚ :=
  if !control.filterEnabled then (m, rawLoad)
  else
    let history := (m.loadHistory ++ [rawLoad]).rtake control.medianWindow
    if !control.medianEma then ({ m with loadHistory := history }, rawLoad)
    else
      let alpha := min 1 control.emaAlpha
      let normal :=
        match m.filteredLoadW with
        | none => median history
        | some previous => alpha * median history + (1 - alpha) * previous
      let resetFactor := min 1 control.signChangeFilterResetFactor
      let filtered :=
        if signChanged control rawLoad normal then
          resetFactor * rawLoad + (1 - resetFactor) * normal
        else normal
      ({ m with loadHistory := history, filteredLoadW := some filtered }, filtered)

end Memory

/-! ### The commanded total -/

namespace World

variable (input : CycleInput n) (w : World n Text)

/-- Start from the observed output when control is switched back on.  A charge still on the record
of a device in control carries on. -/
def noteControlEnabled : World n Text :=
  w.remember fun m =>
    let m :=
      if input.settings.enabled && m.controlEnabled = some false then
        if decide (∃ i, (input.readings.view .start i).chargeCommanded = true ∧
            (input.settings.device i).enabled = true) then
          m.resetOutputControlState
        else m.resetOutputControlState.resetChargeDirection
      else m
    { m with controlEnabled := some input.settings.enabled }

/-- The lower bound of the signed total. -/
def commandedTotalFloorW : ℚ :=
  if !w.memory.chargeDirection.charging then 0
  else -usableChargeCapacityW input.settings w.memory

/-- What the devices of a charge that the EMS commands draw. -/
def chargeDrawW : ℤ :=
  ∑ i, if w.memory.chargeCommandedByEms input.settings (input.readings.view .direction i) i then
    (w.memory.stateOf i).gridInputPower
  else 0

/-- Seed the total from what the devices are doing. -/
def initializeCommandedTotal : World n Text :=
  let limitTotal := ∑ i,
    if 0 < (w.memory.stateOf i).outputLimit then (w.memory.stateOf i).outputLimit else 0
  let output := ∑ i, (w.memory.stateOf i).output
  let initial :=
    if w.memory.chargeDirection.charging then output - w.chargeDrawW input
    else if 0 < limitTotal then limitTotal
    else output
  w.remember fun m =>
    { m with
      commandedTotalW := some
        (max (w.commandedTotalFloorW input) (min input.settings.maxTotalPower initial)) }

/-- A device that answered at all did so longer ago than the telemetry may be old. -/
def answeredTooLongAgo (i : Fin n) : Bool :=
  match w.memory.lastSeen i with
  | none => false
  | some seen =>
    seen ≠ 0 && input.settings.total.telemetryMaxAgeSeconds < input.readings.telemetryNow - seen

def telemetryStale : Bool :=
  decide (input.settings.total.telemetryMaxAgeSeconds ≤ 0) ||
    decide (∃ i, w.answeredTooLongAgo input i = true)

end World

namespace CycleInput

variable (input : CycleInput n)

def outputControlBypassActive : Bool :=
  input.settings.deviceRamp.largeImportBypassW ≤ input.load ∨
    input.load ≤ -input.settings.deviceRamp.largeExportBypassW

/-- The limit of one move of the total. -/
def totalRampLimit (stale : Bool) (commanded delta : ℚ) : ℚ :=
  let total := input.settings.total
  let limit :=
    (if 0 < delta then total.rampUpWPerCycle else total.rampDownWPerCycle) *
      if input.outputControlBypassActive then input.settings.deviceRamp.bypassRampMultiplier else 1
  if !stale then limit
  else
    let staleLimit := limit * total.staleTelemetryRampFactor
    if commanded < 0 ∧ 0 < delta then max staleLimit (min limit (-commanded)) else staleLimit

/-- The move of the total towards what is desired; a limit of 0 is none. -/
def rampTotal (stale : Bool) (commanded desired : ℚ) : ℚ :=
  let total := input.settings.total
  let delta := desired - commanded
  let limited := 0 < if 0 < delta then total.rampUpWPerCycle else total.rampDownWPerCycle
  let limit := input.totalRampLimit stale commanded delta
  if limited ∧ limit < |delta| then if 0 < delta then commanded + limit else commanded - limit
  else desired

end CycleInput

namespace World

variable (input : CycleInput n) (w : World n Text)

/-- How many devices may supply the house, each at its standby output. -/
def standbyTotalW : ℚ :=
  input.settings.minOutputLimit *
    #{i : Fin n | w.memory.deviceMaySupply input.settings i = true}

/-- Integrate the filtered load into the commanded total. -/
def stabilizedTotalTarget : World n Text :=
  let total := input.settings.total
  let maxPower : ℚ := input.settings.maxTotalPower
  let w := if w.memory.commandedTotalW.isNone then w.initializeCommandedTotal input else w
  let (memory, filteredLoad) := w.memory.filterOutputControlLoad total input.load
  let w := w.remember fun _ => memory
  let noExport := decide (0 < input.load) && !w.hasOutputControlExportCapacity input &&
    decide (0 ≤ w.memory.commandedTotalW.getD 0)
  let commanded :=
    if noExport then min (w.memory.commandedTotalW.getD 0) (w.standbyTotalW input)
    else w.memory.commandedTotalW.getD 0
  let loadHeld := noExport || decide (|filteredLoad| ≤ total.loadDeadbandW)
  let floor := w.commandedTotalFloorW input
  let wanted :=
    max floor (min maxPower (if loadHeld then commanded else commanded + filteredLoad))
  let targetHeld := !loadHeld && decide (|wanted - commanded| ≤ total.targetDeadbandW)
  let desired := if targetHeld then commanded else wanted
  let ramped :=
    if !(loadHeld || targetHeld) && total.rampEnabled && decide (desired ≠ commanded) then
      input.rampTotal (w.telemetryStale input) commanded desired
    else desired
  w.remember fun m =>
    { m with
      desiredTotalW := some desired
      commandedTotalW := some (max floor (min maxPower ramped)) }

/-- The total of the cycle before a charge is decided: held while the meter serves its last
value. -/
def settleTotal : World n Text × ℚ :=
  if w.memory.gridMeterHolding then
    let w := if w.memory.commandedTotalW.isNone then w.initializeCommandedTotal input else w
    (w, min (w.memory.commandedTotalW.getD 0) input.settings.maxTotalPower)
  else
    let w := w.stabilizedTotalTarget input
    (w, w.memory.commandedTotalW.getD 0)

/-! ### The charge decision -/

/-- Decide the charge direction of this cycle; a reading that the meter holds is no entry
observation. -/
def takeChargeDecision (commandedTotalW desiredTotalW filteredLoadW : ℚ) : World n Text :=
  let filteredLoadW := if w.memory.gridMeterHolding then 0 else filteredLoadW
  let decision := ChargeDirection.decideChargeDirection w.memory.chargeDirection
    { chargingPossible :=
        decide (∃ i, w.chargeable input i = true) && input.gridMeterReadingIsFresh
      commandedTotalW := commandedTotalW
      desiredTotalW := desiredTotalW
      filteredLoadW := filteredLoadW + max 0 (w.releasableOutputW input)
      now := input.readings.directionNow }
    input.settings.chargeDirection
  w.remember fun m => { m with chargeDirection := decision.state }

end World

/-! ### Leaving a charge -/

namespace World

variable (input : CycleInput n) (w : World n Text) (i : Fin n)

/-- The EMS ends its charge of the device, or owes it the exit to an AC input found at start. -/
def endsACharge : Bool :=
  w.memory.chargeCommandedByEms input.settings (input.readings.view .direction i) i ||
    (w.memory.unprovenChargeExit i).isSome

/-- The device is first seen out of the charge it was leaving. -/
def leftACharge : Bool :=
  w.memory.deviceOnline i && !w.endsACharge input i && w.memory.chargesBeingLeft i &&
    !((w.memory.stateOf i).settlingOutOfCharge && 0 < (w.memory.stateOf i).gridInput.truncate)

def leavesACharge : Bool :=
  w.memory.deviceOnline i &&
    (w.endsACharge input i || (w.memory.chargesBeingLeft i && !w.leftACharge input i))

/-- Remember which devices are leaving a charge. -/
def devicesLeavingACharge : World n Text :=
  w.remember fun m =>
    { m with
      chargesBeingLeft := fun i =>
        if m.deviceOnline i then w.leavesACharge input i else m.chargesBeingLeft i }

def leavingDrawW : ℤ :=
  ∑ i, if w.leavesACharge input i then (w.memory.stateOf i).gridInputPower else 0

def deriveHouseLoadW (inverterOutputW gridPowerW inverterChargeW : ℚ) : ℚ :=
  max 0 (inverterOutputW - inverterChargeW + gridPowerW)

/-- Size the discharge total by what the house draws while a charge is left. -/
def dischargeTotalLeavingACharge (total : ℚ) : World n Text × ℚ :=
  if w.memory.gridMeterHolding then (w, total)
  else
    let w' := w.devicesLeavingACharge input
    if !decide (∃ i, w.leavesACharge input i = true ∨ w.leftACharge input i = true) then (w', total)
    else
      let house := deriveHouseLoadW (∑ i, (w.memory.stateOf i).output) input.load
        (w.leavingDrawW input)
      let sized :=
        if w.hasOutputControlExportCapacity input then house else min house (w.standbyTotalW input)
      let sized := min (input.settings.maxTotalPower : ℚ) sized
      (w'.remember fun m =>
        { m with commandedTotalW := some sized, loadHistory := [], filteredLoadW := none }, sized)

end World

/-! ### Sharing out a charge -/

def minDeviceChargeW : ℚ := 50

/-- The share below which a device gives up its place; a device that charges keeps its own until
half of it. -/
def minimumShareW (chargingNow : Bool) : ℚ :=
  if chargingNow then minDeviceChargeW / 2 else minDeviceChargeW

/-- The smallest share that is too small to take, the first of equals. -/
def smallestUnusable (chargingNow : Fin n → Bool) (allocation : Fin n → ℚ) : Option (Fin n) :=
  ((List.finRange n).filter fun i =>
    0 < allocation i && allocation i < minimumShareW (chargingNow i)).argmin allocation

/-- Drop the smallest unusable share and share out again, until every share is worth taking or
one device is left.  Every round takes a weight, so one round for each device is enough. -/
def concentrate (total : ℚ) (limits : Fin n → ℚ) (chargingNow : Fin n → Bool) :
    ℕ → (Fin n → ℚ) → (Fin n → ℚ)
  | 0, weights => weightedLimitedAllocation total weights limits
  | fuel + 1, weights =>
    let allocation := weightedLimitedAllocation total weights limits
    if #{i | 0 < allocation i} ≤ 1 then allocation
    else
      match smallestUnusable chargingNow allocation with
      | none => allocation
      | some smallest =>
        concentrate total limits chargingNow fuel (Function.update weights smallest 0)

namespace World

variable (input : CycleInput n) (w : World n Text)

/-- Split a charge into signed targets of the devices that may take one. -/
def allocateChargeTargets (totalChargeW : ℚ) : Fin n → ℤ := fun i =>
  -roundHalfEven (concentrate (max 0 totalChargeW)
    (fun i => if w.chargeable input i then max 0 (w.memory.deviceChargeLimits i : ℚ) else 0)
    (fun i =>
      w.memory.chargeCommandedByEms input.settings (input.readings.view .direction i) i)
    n
    (fun i =>
      if w.chargeable input i then
        chargeHeadroomWeight (w.memory.stateOf i) (input.settings.device i).config
          (w.capabilities input i)
      else 0) i)

end World

end SolarFlowEms.Controller
