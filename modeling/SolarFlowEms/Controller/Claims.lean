import SolarFlowEms.Controller.World

/-!
# Claims and reconcilers of a cycle

The assist works on every device that answered, then the claims on each device are resolved, and
the winner's `acMode` and charge power are reconciled against the report.  The SoC window, the
modes, the off-grid socket and the settings of the inverter follow.
-/

namespace SolarFlowEms.Controller

open Interrupted Models PowerDirection

variable {n : ℕ} {Text : Type}

/-! ### The assist's part -/

namespace AssistEvents

/-- The properties that an event of the assist handed over. -/
def handed : AssistEvent Text → Option (List (String × ℤ))
  | .noted _ _ => none
  | .socLimits _ _ _ reconciled => reconciled.handed
  | .acMode _ reconciled => reconciled.handed

end AssistEvents

namespace World

variable (input : CycleInput n) (w : World n Text) (i : Fin n)

/-- The world after some steps of the assist on a device: what they handed over went to its
transport. -/
def withAssist (moment : Moment) (after : AssistWorld Text) : World n Text :=
  { w with
    assist := after
    handed := ((after.log.take (after.log.length - w.assist.log.length)).filterMap
      AssistEvents.handed).map (fun values => ⟨i, .properties values,
        w.memory.onRecord input.settings (input.readings.view moment i) i⟩) ++ w.handed }

def liftAssist (moment : Moment) (steps : Steps (AssistWorld Text)) : Steps (World n Text) :=
  fun w => (steps w.assist).map (w.withAssist input i moment)

/-- What the assist goes by for a device. -/
def assistVisit (transition : FeatureTransition) (report : DeviceReport)
    (intent : DeviceRuntimeIntent) : AssistVisit where
  dev := (input.settings.device i).dev
  report := report
  writesAllowed := w.memory.deviceStateWritesAllowed input.settings i
  acInputWithheld := w.memory.assistAcInputWithheld
  chargeOnRecord := (w.memory.fullChargeAssistCharges i).map (·.record.isOpen)
  holdAnswer := input.readings.propertyAnswer .assistHold i
  restoreAnswer := input.readings.propertyAnswer .assistRestore i
  startAnswer := input.readings.propertyAnswer .assistStart i
  intent := intent
  acModeAnswer := input.readings.propertyAnswer .acModeIntent i
  observedCharge := (w.memory.fullChargeAssistCharges i).map fun charge =>
    ⟨charge.record.isOpen, charge.exits,
      charge.record.exitWindowPassed (input.readings.now .confirm i)⟩
  now := input.now
  config := input.settings.assist
  transition := transition

/-- What keeps the assist from writing what it needs, by the last report. -/
def fullChargeAssistHeldBy : Option AssistVisit.HeldBy :=
  let visit := w.assistVisit input i ⟨false, false, false⟩ (w.memory.stateOf i).toDeviceReport
    (acOutputIntent (input.settings.device i).dev.name "ac_output" priorityDefault)
  match w.memory.lastStates i with
  | some _ => visit.heldBy (w.row input i)
  | none =>
    if !visit.dev.supportsStateReconciliation then
      some .transportStateReconciliationUnsupported
    else if !visit.writesAllowed then some .stateWritesNotAllowed
    else none

/-- The running assist can write nothing for a report without a field it needs. -/
def fullChargeAssistStandsDown : Bool :=
  w.row input i .fullChargeAssistActive &&
    w.fullChargeAssistHeldBy input i = some .fieldsNotReported

/-- The running assist holds the direction only: it stands down, its charge open on record. -/
def fullChargeAssistHoldsDirection : Bool :=
  (match w.memory.fullChargeAssistCharges i with
  | none => false
  | some charge => charge.record.isOpen) && w.fullChargeAssistStandsDown input i

def fullChargeAssistAcChargeMode : Bool :=
  input.settings.assist.enableAcChargeMode && !w.memory.assistAcInputWithheld

/-- The `acMode` that a claim of the assist asks back. -/
def restoreAcMode : Option ℤ :=
  if w.row input i .acModeRestorePending && !w.memory.chargesReturnedAfterFailedCycles then
    some acModeOutput
  else none

/-- The assist's claim, `below` being the best of the others. -/
def fullChargeAssistIntent (below : Option DeviceRuntimeIntent) : Option DeviceRuntimeIntent :=
  let name := (input.settings.device i).dev.name
  let row := w.row input i
  if !row .hasBattery then none
  else if row .fullChargeAssistActive then
    if w.fullChargeAssistHoldsDirection input i then
      some {
        device := name
        role := .acInput
        reason := fullChargeAssistReason
        desiredAcMode := none
        outputControlAllowed :=
          match below with
          | none => true
          | some other => other.outputControlAllowed
        priority := priorityMaintenance
        setpointW := none
        operatorRole := false }
    else if (w.fullChargeAssistHeldBy input i).isSome then none
    else if w.fullChargeAssistAcChargeMode input then
      some (acInputIntent name fullChargeAssistReason
        (some (max 0 input.settings.assist.acChargePower)) priorityMaintenance)
    else
      some {
        device := name
        role := .acOutput
        reason := fullChargeAssistReason
        desiredAcMode := w.restoreAcMode input i
        outputControlAllowed := false
        priority := priorityMaintenance
        setpointW := none
        operatorRole := false }
  else if (row .acModeRestorePending || (row .restorePending &&
      match w.memory.lastStates i with
      | none => true
      | some report => report.maxSocReported)) &&
      w.memory.deviceStateWritesAllowed input.settings i then
    some {
      device := name
      role := .acOutput
      reason := fullChargeAssistRestoreReason
      desiredAcMode := w.restoreAcMode input i
      outputControlAllowed := false
      priority := priorityMaintenance
      setpointW := none
      operatorRole := false }
  else none

end World

/-! ### Claims -/

/-- The claim of the role in runtime state, the default `ac_output` without one. -/
def getDeviceRuntimeIntent (device : DeviceSettings) : DeviceRuntimeIntent :=
  let role := if device.runtimeRole = "" then "ac_output" else device.runtimeRole
  let reason :=
    if device.runtimeRoleReason ≠ "" then device.runtimeRoleReason
    else if role = "normal_output" ∨ role = "ac_output" then "ac_output"
    else "runtime_state"
  match runtimeIntentFromRole device.dev.name role reason with
  | none => acOutputIntent device.dev.name "invalid_runtime_role_fallback" priorityDefault
  | some intent =>
    { intent with
      operatorRole := device.runtimeRole ≠ ""
      setpointW := if intent.role = .acInput then device.acChargePowerW else intent.setpointW }

namespace World

variable (input : CycleInput n) (w : World n Text) (i : Fin n)

/-- The winning claim: the operator's or the default, the assist's, the regulator's, an observed
one. -/
def resolveDeviceClaims (regulator observed : Option DeviceRuntimeIntent) :
    Option DeviceRuntimeIntent :=
  let runtime := some (getDeviceRuntimeIntent (input.settings.device i))
  let below := resolveDeviceIntent [runtime, regulator, observed]
  resolveDeviceIntent [runtime, w.fullChargeAssistIntent input i below, regulator, observed]

def regulatorIntent : Option DeviceRuntimeIntent :=
  regulatorChargeIntent (input.settings.device i).dev.name
    (w.memory.chargeCommandedByEms input.settings (input.readings.view .claims i) i)

/-- The claim on a device that did not answer: an observed charge is carried over. -/
def unansweredDeviceIntent (previous : Option DeviceRuntimeIntent) :
    Option DeviceRuntimeIntent :=
  w.resolveDeviceClaims input i (w.regulatorIntent input i)
    (previous.filter fun intent =>
      intent.reason = firmwareChargeReason || intent.reason = unprovenChargeReason)

/-- The claim on an AC input that the EMS did not command. -/
def uncommandedIntent (report : FetchedReport) : Option DeviceRuntimeIntent :=
  firmwareChargeIntent (input.settings.device i).dev.name report.toDeviceReport
    (w.memory.chargeCommandedByEms input.settings (input.readings.view .claims i) i)
    (w.memory.acInputAttributable input.settings i)

end World

namespace Memory

variable (m : Memory n) (i : Fin n)

def watch : Memory n := { m with acInputWatched := Function.update m.acInputWatched i true }

/-- Settle the one exit to an AC input found after a start, by the device's report. -/
def settleFoundAcInputExit (view : TransportView) (report : FetchedReport) : Memory n :=
  if m.acInputWatched i then m
  else if view.foundChargeLeft then m.watch i
  else if view.foundExitExhausted && report.foundInAcInput then m.watch i
  else m

/-- Remember whether the EMS can tell who put a device into AC input. -/
def noteAcInputProvenance (uncommanded intent : Option DeviceRuntimeIntent) : Memory n :=
  let heldByClaim :=
    match intent with
    | none => false
    | some winner => uncommanded ≠ intent && winner.role = .acInput
  match uncommanded with
  | none => m.watch i
  | some observed =>
    if observed.reason ≠ unprovenChargeReason || heldByClaim then m.watch i else m

/-- The confirmation of the assist's restore reads the record first. -/
def observeFullChargeAssistCharge (report : FetchedReport) : Memory n :=
  match m.fullChargeAssistCharges i with
  | none => m
  | some charge =>
    { m with
      fullChargeAssistCharges := Function.update m.fullChargeAssistCharges i
        (some { charge with
          record := charge.record.observe report.toDirectionReport
            (report.inputLimitW.value ≠ 0) }) }

def releaseFullChargeAssistCharge : Memory n :=
  match m.fullChargeAssistCharges i with
  | none => m
  | some charge =>
    { m with
      fullChargeAssistCharges := Function.update m.fullChargeAssistCharges i
        (some { charge with record := charge.record.release }) }

end Memory

namespace World

variable (input : CycleInput n) [DecidableEq Text] (texts : TimeTexts Text)

/-- Settle the exit of a found AC input and resolve the claims on a device that answered. -/
def claim (i : Fin n) (report : FetchedReport) (w : World n Text) : World n Text :=
  let w := w.remember (·.settleFoundAcInputExit i (input.readings.view .claims i) report)
  let uncommanded := w.uncommandedIntent input i report
  let intent := w.resolveDeviceClaims input i (w.regulatorIntent input i) uncommanded
  w.remember fun m =>
    { m.noteAcInputProvenance i uncommanded intent with
      runtimeIntents := Function.update m.runtimeIntents i intent }

/-- The claim of a device in this cycle; every device has one once it was resolved. -/
def intentOf (i : Fin n) (w : World n Text) : DeviceRuntimeIntent :=
  (w.memory.runtimeIntents i).getD
    (acOutputIntent (input.settings.device i).dev.name "ac_output" priorityDefault)

/-- The restore waits for the exits of its record. -/
def restoreOnRecord (i : Fin n) (report : FetchedReport) (w : World n Text) : Bool :=
  let intent := w.intentOf input i
  intent.desiredAcMode = some acModeOutput &&
    (intent.reason = fullChargeAssistReason || intent.reason = fullChargeAssistRestoreReason) &&
    w.row input i .acModeRestorePending &&
    (input.settings.device i).dev.supportsStateReconciliation && !report.acModeKnown

/-- The confirmation of a restore over an unknown mode reads the record. -/
def observeRestore (i : Fin n) (report : FetchedReport) (w : World n Text) : World n Text :=
  if w.restoreOnRecord input i report then w.remember (·.observeFullChargeAssistCharge i report)
  else w

/-- Settle the restore, and leave to the device a charge that its exits did not end. -/
def confirmFullChargeAssistAcRestore (i : Fin n) (report : FetchedReport)
    (transition : FeatureTransition) : Steps (World n Text) := fun w =>
  let visit := w.assistVisit input i transition report.toDeviceReport (w.intentOf input i)
  let left := w.restoreOnRecord input i report && visit.acModeRestoreSettled &&
    visit.chargeOnRecord = some true
  let w' := if left then w.remember (·.releaseFullChargeAssistCharge i) else w
  w' :: liftAssist input i .confirm (visit.confirmAcRestore texts) w'

/-- Write `acMode` under the claim that won. -/
def reconcileAcModeIntent (i : Fin n) (report : FetchedReport) (transition : FeatureTransition) :
    Steps (World n Text) := fun w =>
  let visit := w.assistVisit input i transition report.toDeviceReport (w.intentOf input i)
  liftAssist input i .claims
    ((Steps.once fun a => a.did (.acMode visit.toDeviceVisit visit.reconciledAcMode)).andThen
      (Steps.once (visit.updateAcPending texts visit.reconciledAcMode.ok))) w

def reconcileAcChargePower (i : Fin n) (report : FetchedReport) (w : World n Text) :
    World n Text :=
  w.handProperties input i .claims
    (reconcileRuntimeAcChargePower (input.settings.device i).dev
      (w.memory.deviceStateWritesAllowed input.settings i) report.toDeviceReport
      (w.intentOf input i) (input.readings.propertyAnswer .acChargePower i))

/-- The claims on one device and what is reconciled from them; `previous` are the claims of the
cycle before. -/
def claimDevice (transition : FeatureTransition) (previous : Fin n → Option DeviceRuntimeIntent)
    (i : Fin n) : Steps (World n Text) :=
  match input.reports i with
  | none => Steps.once fun w =>
    w.remember fun m =>
      { m with
        runtimeIntents := Function.update m.runtimeIntents i
          (w.unansweredDeviceIntent input i (previous i)) }
  | some report =>
    (Steps.once (claim input i report)).andThen
      ((reconcileAcModeIntent input texts i report transition).andThen
        ((Steps.once (observeRestore input i report)).andThen
          ((confirmFullChargeAssistAcRestore input texts i report transition).andThen
            (Steps.once (reconcileAcChargePower input i report)))))

/-- The assist's visit of one device. -/
def processFullChargeAssist (transition : FeatureTransition) (i : Fin n) : Steps (World n Text) :=
  match input.reports i with
  | none => Steps.skip
  | some report => fun w =>
    liftAssist input i .claims
      ((w.assistVisit input i transition report.toDeviceReport
        (w.intentOf input i)).processBatteryFullChargeAssist texts) w

/-! ### The SoC window, the modes and the settings -/

/-- The SoC window and the modes of one device. -/
def reconcileDeviceStateLimits (i : Fin n) : Steps (World n Text) :=
  match input.reports i with
  | none => Steps.skip
  | some report =>
    (Steps.once fun w =>
      w.handProperties input i .claims
        (applySocLimits (input.settings.device i).dev
          (w.memory.deviceStateWritesAllowed input.settings i) report.toDeviceReport
          (input.readings.propertyAnswer .socLimits i) (input.winterMinSoc i)
          (if w.row input i .fullChargeAssistActive then some 100 else none))).andThen
      (Steps.once fun w =>
        w.handProperties input i .claims
          (applyDeviceModes (input.settings.device i).dev
            (w.memory.deviceStateWritesAllowed input.settings i) report.toDeviceReport
            (input.readings.propertyAnswer .deviceModes i) input.settings.reconcileSmartMode))

/-- The counter of the SoC reconcile, and whether this cycle reconciles. -/
def countSocReconcile (w : World n Text) : World n Text × Bool :=
  if 0 < input.settings.socReconcileInterval && !input.settings.gates.simulationMode &&
      !input.settings.gates.replay then
    if input.settings.socReconcileInterval ≤ w.memory.socReconcileCounter + 1 then
      (w.remember fun m => { m with socReconcileCounter := 0 }, true)
    else
      (w.remember fun m => { m with socReconcileCounter := m.socReconcileCounter + 1 }, false)
  else (w, false)

def reconcileSocLimits : Steps (World n Text) := fun w =>
  let counted := w.countSocReconcile input
  counted.1 ::
    if counted.2 then
      Steps.forEach (reconcileDeviceStateLimits input) (List.finRange n) counted.1
    else []

/-- One setting of the inverter that is due. -/
def applyDeviceSetting (i : Fin n) (changes : List (SettingProperty × ℤ)) (w : World n Text) :
    World n Text :=
  w.handProperties input i .claims
    (if (input.settings.device i).dev.supportsStateReconciliation then
      handOver (w.memory.deviceStateWritesAllowed input.settings i)
        (changes.map fun change => (change.1.name, change.2)) true
    else .nothing true)

/-- The off-grid socket and the settings of one device. -/
def applyRuntimeDevice (i : Fin n) : Steps (World n Text) :=
  match input.reports i with
  | none => Steps.skip
  | some report =>
    (Steps.once fun w =>
      w.handProperties input i .claims
        (applyRuntimeDeviceState (input.settings.device i).dev
          (w.memory.deviceStateWritesAllowed input.settings i) report.toDeviceReport
          (input.readings.propertyAnswer .runtimeDeviceState i)
          (input.settings.device i).offgridSocketMode)).andThen
      (Steps.forEach (fun changes => Steps.once (applyDeviceSetting input i changes))
        (input.dueSettings i))

end World

end SolarFlowEms.Controller
