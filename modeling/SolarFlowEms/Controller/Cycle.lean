import SolarFlowEms.Controller.Regulation

/-!
# A cycle of the controller

One cycle reads the meter and the devices, lets the assist and the claims work, reconciles, ends
the charges that nobody supervises any more, and then either parks the devices for the night or
sizes a total, shares it out and writes the targets.  The loop survives a cycle that raises: what
came before stands, and failures in a row return the EMS's charges.  A stop returns them as well.
-/

namespace SolarFlowEms.Controller

open Interrupted Models PowerDirection TargetControl

variable {n : ℕ} {Text : Type}

/-! ### The night idle -/

namespace World

variable (input : CycleInput n) (w : World n Text) (i : Fin n)

/-- No PV, no flow, and a battery that cannot deliver. -/
def stateIsStrictNightMinSocIdle (state : FetchedReport) : Bool :=
  state.solar = 0 && state.solar1 = 0 && state.solar2 = 0 && state.solar3 = 0 &&
    state.solar4 = 0 && state.packIn = 0 && state.packOut = 0 && state.output = 0 &&
    (state.batteryPresence = .absent || state.soc ≤ state.minSoc || state.socLimit = 2)

/-- The idle is left, the output control starting afresh. -/
def leaveNightIdle : World n Text :=
  w.remember fun m =>
    { if m.nightMinSocIdleActive then m.resetOutputControlState else m with
      nightMinSocIdleActive := false
      nightMinSocIdleParked := fun _ => false }

/-- The idle is left where it was on; otherwise nothing changes. -/
def endNightIdle : World n Text :=
  if w.memory.nightMinSocIdleActive then w.leaveNightIdle else w

def enterNightIdle : World n Text :=
  w.remember fun m =>
    { m with
      nightMinSocIdleActive := true
      nightMinSocIdleParked :=
        if m.nightMinSocIdleActive then m.nightMinSocIdleParked else fun _ => false }

/-- Whether the cycle idles, with what that does to the idle's state. -/
def updateNightMinSocIdleState : World n Text × Bool :=
  let supplies := w.memory.deviceMaySupply input.settings
  if !input.settings.enabled || input.settings.minOutputLimit = 0 ||
      !decide (∃ i, supplies i = true) then
    (w.leaveNightIdle, false)
  else if w.memory.nightMinSocIdleActive &&
      decide (∃ i, supplies i = true ∧ 0 < pvPower (w.memory.stateOf i)) then
    (w.leaveNightIdle, false)
  else if w.memory.chargeDirection.charging then (w.endNightIdle, false)
  else if decide (∀ i, supplies i = true →
      stateIsStrictNightMinSocIdle (w.memory.stateOf i) = true) then
    (w.enterNightIdle, true)
  else (w.endNightIdle, false)

/-- Write the exit owed to a commandable device that the idle never parks. -/
def endChargeTheNightIdleDoesNotPark (i : Fin n) (w : World n Text) : World n Text :=
  let view := input.readings.view .idleExit i
  let chargeExit := w.memory.unprovenChargeExit i
  if w.memory.deviceMaySupply input.settings i || !w.memory.deviceCommandable input.settings i then w
  else if !view.chargeCommanded && chargeExit.isNone then w
  else if Memory.chargeExitPending view then w
  else
    let written := w.setOutputLimit input i .idleExit 0 chargeExit
    written.1.remember (·.noteUnprovenChargeExit i 0 written.2)

def park (i : Fin n) : World n Text :=
  w.remember fun m =>
    { m with nightMinSocIdleParked := Function.update m.nightMinSocIdleParked i true }

/-- Park a device once at the standby output, or end its charge by the same write. -/
def applyNightMinSocIdleControl (i : Fin n) (w : World n Text) : World n Text :=
  let view := input.readings.view .idlePark i
  let chargeExit := w.memory.unprovenChargeExit i
  let exitOwed := view.chargeCommanded || chargeExit.isSome
  let minOutputLimit : ℚ := input.settings.minOutputLimit
  if !w.memory.deviceMaySupply input.settings i then w
  else if exitOwed && Memory.chargeExitPending view then w
  else if !exitOwed && w.memory.nightMinSocIdleParked i then w
  else if !exitOwed && (w.memory.stateOf i).outputLimit = minOutputLimit then w.park i
  else
    let written := w.setOutputLimit input i .idlePark minOutputLimit chargeExit
    let w := written.1.remember (·.noteUnprovenChargeExit i minOutputLimit written.2)
    if written.2.written && !view.chargeCommanded then w.park i else w

/-- The exits of the night idle, then the parking. -/
def parkDevices : Steps (World n Text) :=
  (Steps.forEach (fun i => Steps.once (endChargeTheNightIdleDoesNotPark input i))
      (List.finRange n)).andThen
    (Steps.forEach (fun i => Steps.once (applyNightMinSocIdleControl input i)) (List.finRange n))

/-- The cycle of the night idle: the charge decision, then the writes. -/
def nightIdle : Steps (World n Text) :=
  (Steps.once fun w => w.takeChargeDecision input 0 input.load input.load).andThen
    (parkDevices input)

end World

/-! ### Targets -/

namespace World

variable (input : CycleInput n) (w : World n Text)

/-- A device as the target calculation reads it. -/
def allocationDevice (i : Fin n) : Models.Device where
  state := (w.memory.stateOf i).toDeviceState
  config := some (input.settings.device i).config
  capabilities := some (w.capabilities input i).toDeviceCapabilities
  commandable := w.claimEligibleDevice input i

/-- The cycle of the device ramp and the gates on the targets. -/
def rampCycle (targets : Fin n → ℚ) : DeviceRamp.Cycle n where
  control := input.settings.deviceRamp
  rawLoad := input.load
  charging := w.memory.chargeDirection.charging
  enabled := input.settings.enabled
  minOutputLimit := input.settings.minOutputLimit
  device i :=
    { online := w.memory.deviceOnline i
      enabled := (input.settings.device i).enabled
      intentAllowsCommand := w.memory.deviceOutputControlAllowed i
      acDischargeEnabled := (input.settings.device i).acDischargeEnabled
      maxPower := (input.settings.device i).config.maxPower
      chargeLimit := w.memory.deviceChargeLimits i }
  targets := targets

/-- The targets before the ramp: a charge shared out, or an output. -/
def allocatedTargets (total : ℚ) (i : Fin n) : ℚ :=
  if w.memory.chargeDirection.charging ∧ total < 0 then w.allocateChargeTargets input (-total) i
  else
    input.settings.calculateTargets (w.allocationDevice input) input.settings.maxTotalPower
      (max 0 total) i

/-- Size the total and decide the charge. -/
def decideTotal : World n Text × ℚ :=
  let settled := w.settleTotal input
  let w := settled.1.takeChargeDecision input settled.2
    (settled.1.memory.desiredTotalW.getD settled.2) (settled.1.memory.filteredLoadW.getD 0)
  if w.memory.chargeDirection.charging then (w, settled.2)
  else w.dischargeTotalLeavingACharge input settled.2

/-- The targets that are written, the commanded ones remembered. -/
def rampTargets (total : ℚ) : World n Text × (Fin n → ℚ) :=
  let cycle := w.rampCycle input (w.allocatedTargets input total)
  (w.remember fun m =>
    { m with
      commandedDeviceTargets :=
        DeviceRamp.step m.commandedDeviceTargets (.controlCycle cycle) },
    cycle.effectiveControlTargets w.memory.commandedDeviceTargets)

/-- A non-negative write to the device would end a charge that it shows. -/
def writeCanEndACharge (i : Fin n) : Bool :=
  !(input.settings.device i).dev.supportsStateReconciliation ||
    w.memory.chargeCommandedByEms input.settings (input.readings.view .apply i) i ||
    (w.memory.unprovenChargeExit i).isSome

/-- What the device draws of a charge that a write can end. -/
def chargeReference (i : Fin n) : ℤ :=
  let state := w.memory.stateOf i
  if w.writeCanEndACharge input i && !state.settlingOutOfCharge then
    if state.gridInputPower = 0 && state.acMode.truncate = acModeInput then state.inputLimit
    else state.gridInputPower
  else 0

/-- What a target is measured against, on its signed axis. -/
def deadbandReference (i : Fin n) : ℚ :=
  let state := w.memory.stateOf i
  if 0 < w.chargeReference input i then -w.chargeReference input i
  else if 0 < state.outputLimit then state.outputLimit
  else state.output

/-- Write the target of one device, unless the cycle skips it. -/
def applyTarget (target : Fin n → ℚ) (i : Fin n) (w : World n Text) : World n Text :=
  let chargeExit := w.memory.unprovenChargeExit i
  if !input.settings.enabled || !w.memory.deviceCommandable input.settings i then w
  else if chargeExit.isNone && |target i - w.deadbandReference input i| < input.settings.deadband then
    w
  else
    let written := w.setOutputLimit input i .apply (target i) chargeExit
    written.1.remember (·.noteUnprovenChargeExit i (target i) written.2)

/-- The states from the decided total on: the ramped targets, and their writes. -/
def applyTargets (decided : World n Text) (ramped : World n Text × (Fin n → ℚ)) :
    List (World n Text) :=
  decided :: ramped.1 ::
    Steps.forEach (fun i => Steps.once (applyTarget input ramped.2 i)) (List.finRange n) ramped.1

def regulateTargets : Steps (World n Text) := fun w =>
  let decided := w.decideTotal input
  applyTargets input decided.1 (decided.1.rampTargets input decided.2)

def regulate : Steps (World n Text) := fun w =>
  let idle := w.updateNightMinSocIdleState input
  idle.1 :: if idle.2 then nightIdle input idle.1 else regulateTargets input idle.1

end World

/-! ### One cycle -/

namespace World

variable (input : CycleInput n) [DecidableEq Text] (texts : TimeTexts Text)

/-- The reports of the fetch. -/
def fetchStates (w : World n Text) : World n Text :=
  w.remember fun m =>
    { m with
      deviceOnline := fun i => (input.reports i).isSome
      lastStates := fun i => (input.reports i).or (m.lastStates i)
      lastSeen := fun i => if (input.reports i).isSome then some input.fetchedAt else m.lastSeen i }

/-- Record the assist's switch. -/
def noteFeature (w : World n Text) : World n Text :=
  { w with
    assist :=
      { w.assist with
        store := w.assist.store.setFeatureEnabledState input.settings.assist.enabled } }

/-- Every device has the default claim before the claims are resolved. -/
def resetClaims (w : World n Text) : World n Text :=
  w.remember fun m =>
    { m with
      runtimeIntents := fun i =>
        some (acOutputIntent (input.settings.device i).dev.name "ac_output" priorityDefault) }

/-- The meter, the switches, the reports and the assist's switch. -/
def readCycle : Steps (World n Text) :=
  (Steps.once (·.remember (Memory.updateGridMeterHolding input))).andThen
    ((Steps.once (noteControlEnabled input)).andThen
      ((Steps.once (fetchStates input)).andThen (Steps.once (noteFeature input))))

/-- The assist and the claims. -/
def claimDevices (transition : FeatureTransition)
    (previous : Fin n → Option DeviceRuntimeIntent) : Steps (World n Text) :=
  (Steps.forEach (processFullChargeAssist input texts transition) (List.finRange n)).andThen
    ((Steps.once (resetClaims input)).andThen
      (Steps.forEach (claimDevice input texts transition previous) (List.finRange n)))

/-- The SoC window, the modes, and the charges that nobody supervises. -/
def reconcileDevices : Steps (World n Text) :=
  (reconcileSocLimits input).andThen
    ((Steps.forEach (applyRuntimeDevice input) (List.finRange n)).andThen
      (Steps.forEach (endChargeOnDisable input) (List.finRange n)))

/-- What comes before the regulation: claims, reconcilers, and which devices may charge. -/
def prepareDevices (transition : FeatureTransition)
    (previous : Fin n → Option DeviceRuntimeIntent) : Steps (World n Text) :=
  (claimDevices input texts transition previous).andThen
    ((reconcileDevices input).andThen (Steps.once (resolveChargeLimits input)))

/-- **One cycle.** -/
def runOnce : Steps (World n Text) := fun w =>
  let transition :=
    fullChargeAssistFeatureTransition input.settings.assist.enabled w.assist.store.featureEnabled
  ((readCycle input).andThen
    ((prepareDevices input texts transition w.memory.runtimeIntents).andThen (regulate input))) w

def fullChargeAssistTakesAcInput (w : World n Text) : Bool :=
  input.settings.assist.enableAcChargeMode &&
    decide (∃ i, w.row input i .fullChargeAssistActive = true)

/-- Give a running assist its AC input back, within the hourly entry limit. -/
def endAssistAcInputWithhold (w : World n Text) : World n Text :=
  if w.fullChargeAssistTakesAcInput input then
    let now := input.readings.reentryNow
    let allowed := ChargeDirection.chargeEntriesWithinLimit w.memory.assistReentries now
      input.settings.chargeDirection
    if !allowed.2 then w.remember fun m => { m with assistReentries := allowed.1 }
    else
      w.remember fun m =>
        { m with assistReentries := allowed.1 ++ [now], cyclesThroughSinceRelease := none }
  else w.remember fun m => { m with cyclesThroughSinceRelease := none }

/-- A cycle ran through. -/
def cycleRanThrough (w : World n Text) : World n Text :=
  let w := w.remember fun m =>
    { m with
      cycleFailures := 0
      cyclesThroughSinceRelease := m.cyclesThroughSinceRelease.map (· + 1) }
  match w.memory.cyclesThroughSinceRelease with
  | none => w
  | some cycles => if 3 ≤ cycles then w.endAssistAcInputWithhold input else w

/-- A cycle failed: from the third failure in a row the charges are returned. -/
def cycleFailed : Steps (World n Text) := fun w =>
  let w := w.remember fun m => { m with cycleFailures := m.cycleFailures + 1 }
  w :: if w.memory.chargesReturnedAfterFailedCycles then
      ((releaseChargingDevices input true).andThen
        (Steps.once (·.remember fun m => { m with cyclesThroughSinceRelease := some 0 }))) w
    else
      [w.remember fun m =>
        { m with cyclesThroughSinceRelease := m.cyclesThroughSinceRelease.map fun _ => 0 }]

/-- A cycle of the loop that survives an exception, which a number of steps in cuts it short. -/
def runGuarded (raisesAfter : Option ℕ) : Steps (World n Text) :=
  match raisesAfter with
  | none => (runOnce input texts).andThen (Steps.once (cycleRanThrough input))
  | some count =>
    Steps.andThen (fun w => (runOnce input texts w).take count) (cycleFailed input)

end World

/-! ### Runs -/

/-- What the process does: a cycle outside the guarded loop, a guarded one, or the release at
its stop. -/
inductive Event (n : ℕ) where
  | cycle (input : CycleInput n)
  | guarded (input : CycleInput n) (raisesAfter : Option ℕ)
  | stop (input : CycleInput n)

namespace Event

variable [DecidableEq Text] (texts : TimeTexts Text)

def input : Event n → CycleInput n
  | .cycle input | .guarded input _ | .stop input => input

/-- The states that an event passes through. -/
def steps : Event n → Steps (World n Text)
  | .cycle input => World.runOnce input texts
  | .guarded input raisesAfter => World.runGuarded input texts raisesAfter
  | .stop input => World.releaseChargingDevices input false

end Event

namespace World

variable [DecidableEq Text] (texts : TimeTexts Text)

def cleared (w : World n Text) : World n Text := { w with handed := [] }

/-- The world after an event, whose writes it lists. -/
def step (w : World n Text) (event : Event n) : World n Text :=
  (event.steps texts).final w.cleared

end World

end SolarFlowEms.Controller
