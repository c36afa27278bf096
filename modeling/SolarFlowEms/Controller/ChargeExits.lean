import SolarFlowEms.Controller.Claims

/-!
# Ending charges

Where control or a device is switched off, or a claim takes the device, the charge that the EMS
stops supervising is ended by one command.  The assist's charge is on a record of the controller's
own, which reads every fresh report and owes the exit as a transport's record does.  After failed
cycles, and when the EMS stops, the charges on record are released.
-/

namespace SolarFlowEms.Controller

open Interrupted Models PowerDirection
open Mqtt.ClientState (ChargeExit)

variable {n : ℕ} {Text : Type}

namespace Memory

variable (settings : Settings n) (m : Memory n) (i : Fin n)

/-- A fresh report goes to the assist's record; a charge that only grid draw shows is left to the
device once its exits are spent. -/
def readFullChargeAssistCharge (now : ℚ) (report : FetchedReport) : Memory n :=
  let m := m.observeFullChargeAssistCharge i report
  match m.fullChargeAssistCharges i with
  | none => m
  | some charge => if charge.record.exitExhausted now then m.releaseFullChargeAssistCharge i else m

def setFullChargeAssistCharge (charge : FullChargeAssistCharge) : Memory n :=
  { m with
    fullChargeAssistCharges := Function.update m.fullChargeAssistCharges i (some charge) }

/-- Count an exit that reached the transport. -/
def noteFullChargeAssistExit (now : ℚ) (answer : TargetAnswer) : Memory n :=
  if answer = .undelivered then m
  else
    match m.fullChargeAssistCharges i with
    | none => m
    | some charge =>
      m.setFullChargeAssistCharge i ⟨charge.record.exitSent now none, charge.exits + 1⟩

def freshReport : Option FetchedReport := if m.deviceOnline i then m.lastStates i else none

end Memory

namespace World

variable (input : CycleInput n) (w : World n Text) (i : Fin n)

/-- The charge of the assist that the EMS holds: its setpoint, and whether it is being restored. -/
def fullChargeAssistHeld : Option (ℤ × Bool) :=
  if !w.memory.deviceStateWritesAllowed input.settings i then none
  else if !w.row input i .acModeRestorePending then none
  else
    match w.fullChargeAssistIntent input i none with
    | none => none
    | some intent =>
      if intent.desiredAcMode = some acModeOutput then
        some (max 0 input.settings.assist.acChargePower, true)
      else if intent.reason = fullChargeAssistReason then
        intent.setpointW.map fun setpointW => (setpointW, false)
      else none

def newFullChargeAssistCharge (setpointW : ℤ) : FullChargeAssistCharge :=
  ⟨(ChargeRecord.new input.settings.resendAfterS).chargeSent setpointW, 0⟩

/-- The record of the assist's charge while control is on, and whether its exit is due now. -/
def holdFullChargeAssistCharge (now : ℚ) : World n Text × Bool :=
  let charge := w.memory.fullChargeAssistCharges i
  if charge.isSome && w.memory.chargesReturnedAfterFailedCycles then (w, false)
  else
    match w.fullChargeAssistHeld input i with
    | none =>
      if charge.isSome && !w.fullChargeAssistStandsDown input i then
        (w.remember (·.releaseFullChargeAssistCharge i), false)
      else (w, false)
    | some (setpointW, restoring) =>
      let held := charge.getD (newFullChargeAssistCharge input setpointW)
      match w.memory.freshReport i with
      | none => (w.remember (·.setFullChargeAssistCharge i held), false)
      | some report =>
        let held :=
          if charge.isNone then
            { held with
              record := held.record.observe report.toDirectionReport
                (report.inputLimitW.value ≠ 0) }
          else held
        if !report.acModeKnown then
          (w.remember (·.setFullChargeAssistCharge i held),
            restoring && held.exits < foundExitAttemptsMax && held.record.exitDue now)
        else if restoring then
          (w.remember (·.setFullChargeAssistCharge i ⟨held.record.exitSent now none, 0⟩), false)
        else (w.remember (·.setFullChargeAssistCharge i ⟨held.record.chargeSent setpointW, 0⟩), false)

/-- The assist's record reads the report of a device that answered. -/
def readChargeRecord : World n Text :=
  match w.memory.freshReport i with
  | none => w
  | some report =>
    w.remember (·.readFullChargeAssistCharge i (input.readings.now .exits i) report)

/-- The record owes an exit now to a device that answered. -/
def chargeRecordExitDue : Bool :=
  match w.memory.fullChargeAssistCharges i with
  | none => false
  | some charge =>
    (w.memory.freshReport i).isSome && charge.exits < foundExitAttemptsMax &&
      charge.record.exitDue (input.readings.now .exits i)

/-- Whether the assist's own grid charge is owed its exit now. -/
def fullChargeAssistExitDue : World n Text × Bool :=
  if !(input.settings.device i).dev.supportsStateReconciliation then (w, false)
  else
    let w := w.readChargeRecord input i
    if !w.memory.controlSwitchedOff input.settings i then
      w.holdFullChargeAssistCharge input i (input.readings.now .exits i)
    else (w, w.chargeRecordExitDue input i)

/-- The exit to idle that ends the assist's charge. -/
def endFullChargeAssistCharge : World n Text :=
  let written := w.setOutputLimit input i .exits 0 (some .final)
  written.1.remember
    (·.noteFullChargeAssistExit i (input.readings.now .exits i) written.2)

/-- The claim that holds the device commands a charge power and can write it. -/
def claimTakesTheCharge : Bool :=
  match w.memory.runtimeIntents i with
  | none => false
  | some intent =>
    !intent.outputControlAllowed && intent.setpointW.isSome &&
      (input.settings.device i).dev.supportsStateReconciliation &&
      w.memory.deviceStateWritesAllowed input.settings i

/-- Somebody took the device from the regulator this cycle. -/
def chargeSupervisionEnded : Bool :=
  !input.settings.enabled || !(input.settings.device i).enabled ||
    match w.memory.runtimeIntents i with
    | none => false
    | some intent => !intent.outputControlAllowed

/-- The exit for a claim that keeps the device in AC input. -/
def claimChargeExit : Option ChargeExit :=
  match w.memory.runtimeIntents i with
  | none => none
  | some intent =>
    if !intent.outputControlAllowed && intent.role = .acInput &&
        (input.settings.device i).dev.supportsStateReconciliation then some .inInput
    else none

/-- The exit of a charge on the transport's record, or of one found after a start. -/
def endChargeOnRecord : World n Text :=
  let view := input.readings.view .exits i
  let chargeExit := w.memory.unprovenChargeExit i
  if !view.chargeCommanded && chargeExit.isNone then w
  else if !w.memory.deviceOnline i then w
  else if w.claimTakesTheCharge input i then w
  else if !w.chargeSupervisionEnded input i || Memory.chargeExitPending view then w
  else
    let written := w.setOutputLimit input i .exits 0
      (chargeExit <|> w.claimChargeExit input i)
    written.1.remember (·.noteUnprovenChargeExit i 0 written.2)

def endChargeOnDisable (i : Fin n) : Steps (World n Text) := fun w =>
  let due := w.fullChargeAssistExitDue input i
  [due.1, if due.2 then due.1.endFullChargeAssistCharge input i else due.1.endChargeOnRecord input i]

/-! ### Releasing charges -/

/-- A release that is not the last command goes out once per resend window. -/
def chargeReleaseDue (regulator : Bool) : Bool :=
  let view := input.readings.view .release i
  if !w.memory.deviceOnline i then false
  else if view.chargeCommanded then !Memory.chargeExitPending view
  else if regulator then true
  else
    match w.memory.fullChargeAssistCharges i with
    | none => false
    | some charge => charge.record.exitDue (input.readings.now .release i)

/-- Send the device the release if one of the EMS's records holds a charge on it. -/
def releaseChargingDevice (afterFailedCycles : Bool) (i : Fin n) (w : World n Text) :
    World n Text :=
  let regulator :=
    w.memory.chargeCommandedByEms input.settings (input.readings.view .release i) i
  let assist := w.memory.fullChargeAssistChargeHeld i
  if !regulator && !assist then w
  else if afterFailedCycles && !w.chargeReleaseDue input i regulator then w
  else
    let written := w.setOutputLimit input i .release 0 (some .final)
    written.1.remember fun m =>
      let m :=
        if assist then m.noteFullChargeAssistExit i (input.readings.now .release i) written.2
        else m
      { m with
        commandedDeviceTargets := Function.update m.commandedDeviceTargets i (some 0) }

/-- Release every charge on record, after failed cycles or as the last command. -/
def releaseChargingDevices (afterFailedCycles : Bool) : Steps (World n Text) :=
  (Steps.forEach (fun i => Steps.once (releaseChargingDevice input afterFailedCycles i))
    (List.finRange n)).andThen (Steps.once (·.remember Memory.resetChargeDirection))

end World

end SolarFlowEms.Controller
