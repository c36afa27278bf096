import SolarFlowEms.Models
import SolarFlowEms.PowerDirection

/-!
# One device report, as the controller reads it

The values of a report, with a flag for each field that a reconciler writes: where the report
carried no usable value the field reads 0, which is not a state that the device is in.  Modes and
setpoints are kept as the numbers that the report carried, since some readers ask for an integer
and others take what it truncates to.
-/

namespace SolarFlowEms

open Models PowerDirection

/-- `int(float(value))`, as `safe_int` reads a number: towards zero. -/
def PowerDirection.Number.truncate : Number → ℤ
  | .int z => z
  | .float q => q.num.tdiv q.den

structure DeviceReport extends DeviceState, DirectionReport where
  solar1 : ℚ
  solar2 : ℚ
  solar3 : ℚ
  solar4 : ℚ
  packOut : ℚ
  smartMode : ℤ
  gridOffMode : ℤ
  chargeMaxLimitW : Option ℤ
  socStatus : ℤ
  batteryCalibrationTime : Option ℤ
  minSocReported : Bool
  maxSocReported : Bool
  smartModeReported : Bool
  gridOffModeReported : Bool
  inputLimitReported : Bool
  settingProperties : List (String × ℤ)
deriving DecidableEq

def acModeInput : ℤ := 1

def acModeOutput : ℤ := 2

def acStatusCharging : ℤ := 2

namespace DeviceReport

variable (report : DeviceReport)

/-- `safe_int(report.input_limit_w, 0, minimum=0)`. -/
def inputLimit : ℤ := max 0 report.inputLimitW.truncate

/-- `safe_int(report.grid_input, 0, minimum=0)`. -/
def gridInputPower : ℤ := max 0 report.gridInput.truncate

/-- The report shows `acMode` as 1 or 2. -/
def acModeKnown : Bool :=
  report.acModeReported &&
    (report.acMode.truncate = acModeInput || report.acMode.truncate = acModeOutput)

/-- An exit is taken and the current of the charge still runs down. -/
def settlingOutOfCharge : Bool :=
  report.acMode.value = acModeOutput && report.inputLimitW.value = 0

def foundInAcInput : Bool :=
  inAcInputDirection report.toDirectionReport && !report.settlingOutOfCharge

def batteryPresence : BatteryPresence := Models.batteryPresence report.toDeviceState

end DeviceReport

end SolarFlowEms
