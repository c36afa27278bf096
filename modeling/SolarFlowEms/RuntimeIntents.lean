import SolarFlowEms.DeviceReport
import SolarFlowEms.Models

/-!
# Claims on a device

Several sources want to own a device's AC mode in the same cycle: the operator's role or the
default, the full-charge assist, the regulator, and a charge that the EMS did not command.  They
are candidates, not writers; the ladder of priorities picks one, and of two with the same priority
the earlier.
-/

namespace SolarFlowEms

open Models PowerDirection

inductive DeviceRuntimeRole where
  | acOutput
  | acInput
deriving DecidableEq

/-- One source's claim on a device for a cycle.  Without a setpoint it owns the device and
commands no power. -/
structure DeviceRuntimeIntent where
  device : String
  role : DeviceRuntimeRole
  reason : String
  desiredAcMode : Option ℤ
  outputControlAllowed : Bool
  priority : ℕ
  setpointW : Option ℤ
  operatorRole : Bool
deriving DecidableEq

def priorityDefault : ℕ := 0
def priorityFirmwareObserved : ℕ := 50
def priorityRegulator : ℕ := 100
def priorityOperatorPark : ℕ := 150
def priorityMaintenance : ℕ := 200

def firmwareChargeReason : String := "firmware_owned_charge"
def unprovenChargeReason : String := "unproven_charge"
def regulatorChargeReason : String := "ac_charge_regulator"
def fullChargeAssistReason : String := "battery_full_charge_assist"
def fullChargeAssistRestoreReason : String := "battery_full_charge_assist_restore"

def acOutputIntent (device reason : String) (priority : ℕ) : DeviceRuntimeIntent where
  device := device
  role := .acOutput
  reason := reason
  desiredAcMode := some acModeOutput
  outputControlAllowed := true
  priority := priority
  setpointW := none
  operatorRole := false

def acInputIntent (device reason : String) (setpointW : Option ℤ) (priority : ℕ) :
    DeviceRuntimeIntent where
  device := device
  role := .acInput
  reason := reason
  desiredAcMode := some acModeInput
  outputControlAllowed := false
  priority := priority
  setpointW := setpointW
  operatorRole := false

/-- The claim of a role; an unknown role has none.  The role is the stored text, stripped and in
lower case. -/
def runtimeIntentFromRole (device role reason : String) : Option DeviceRuntimeIntent :=
  if role = "normal_output" ∨ role = "ac_output" then
    some (acOutputIntent device reason priorityDefault)
  else if role = "ac_input_charge" ∨ role = "reserved" ∨ role = "ac_input" then
    some (acInputIntent device reason none priorityOperatorPark)
  else none

/-- A report shows an AC charge at the battery's floor. -/
def isFloorCharge (report : DeviceReport) : Bool :=
  (report.acStatus.truncate = acStatusCharging || 0 < report.inputLimitW.truncate) &&
    report.acMode.truncate = acModeInput &&
    deriveSocRuntimeState report.toDeviceState = .socEmpty

/-- A claim that stands the reconciler down. -/
def observedIntent (device reason : String) (outputControlAllowed : Bool) (priority : ℕ) :
    DeviceRuntimeIntent where
  device := device
  role := .acInput
  reason := reason
  desiredAcMode := none
  outputControlAllowed := outputControlAllowed
  priority := priority
  setpointW := none
  operatorRole := false

/-- The claim on an AC input that the EMS did not command: one nobody can attribute, or a
watched charge at the floor. -/
def firmwareChargeIntent (device : String) (report : DeviceReport)
    (emsCommandedCharge watched : Bool) : Option DeviceRuntimeIntent :=
  if emsCommandedCharge then none
  else if !watched then
    if report.foundInAcInput then
      some (observedIntent device unprovenChargeReason true priorityFirmwareObserved)
    else none
  else if isFloorCharge report then
    some (observedIntent device firmwareChargeReason false priorityFirmwareObserved)
  else none

/-- The claim of the regulator on a device that it charges: the power command owns the
direction. -/
def regulatorChargeIntent (device : String) (emsCommandedCharge : Bool) :
    Option DeviceRuntimeIntent :=
  if emsCommandedCharge then
    some (observedIntent device regulatorChargeReason true priorityRegulator)
  else none

/-- The better of the claim so far and one more candidate. -/
def betterIntent (winner : Option DeviceRuntimeIntent) :
    Option DeviceRuntimeIntent → Option DeviceRuntimeIntent
  | none => winner
  | some candidate =>
    match winner with
    | none => some candidate
    | some current => if current.priority < candidate.priority then some candidate else some current

/-- The candidate with the highest priority, the earliest of equals. -/
def resolveDeviceIntent (candidates : List (Option DeviceRuntimeIntent)) :
    Option DeviceRuntimeIntent :=
  candidates.foldl betterIntent none

end SolarFlowEms
