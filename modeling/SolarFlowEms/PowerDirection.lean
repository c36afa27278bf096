import Mathlib.Algebra.Order.Ring.Rat

/-!
# Power direction

The controller commands one signed target for a device: positive feeds in, negative
charges from AC, zero idles.  What follows from the sign, when a new target must not wait
behind the one a device was last sent, and what a report says about the direction the
device is in.
-/

namespace SolarFlowEms.PowerDirection

inductive Operation where
  | discharge
  | idle
  | charge
deriving DecidableEq

def operationForTarget (targetW : ℤ) : Operation :=
  if 0 < targetW then .discharge else if targetW < 0 then .charge else .idle

/-- A target that must not wait behind `previousW`: a full stop, a change of direction,
or a reduction of output by the margin and by more than the tolerance. -/
def safetyReduction (previousW targetW : ℤ) (marginW toleranceW : ℤ) : Bool :=
  if targetW = previousW then false
  else if targetW = 0 then true
  else if decide (targetW < 0) ≠ decide (previousW < 0) then true
  else if targetW < 0 ∨ previousW ≤ targetW then false
  else
    let reduction := previousW - targetW
    marginW ≤ reduction && toleranceW < reduction

/-- **A stop never waits**, unless the device was already stopped. -/
@[simp] theorem safetyReduction_zero (previousW marginW toleranceW : ℤ) :
    safetyReduction previousW 0 marginW toleranceW = decide (previousW ≠ 0) := by
  unfold safetyReduction
  by_cases h : previousW = 0
  · simp [h]
  · simp [h, Ne.symm h]

/-! ### What a report says -/

/-- A number of a report: JSON writes integers and floats. -/
inductive Number where
  | int (z : ℤ)
  | float (q : ℚ)
deriving DecidableEq

def Number.value : Number → ℚ
  | .int z => z
  | .float q => q

/-- The fields of a report the direction is read from; a field it does not carry is 0. -/
structure DirectionReport where
  acMode : Number
  acStatus : Number
  inputLimitW : Number
  gridInput : Number
  acModeReported : Bool
deriving DecidableEq

/-- Only an `int` shows a direction here. -/
def inAcInputDirection (report : DirectionReport) : Bool :=
  report.acMode = .int 1 || report.acStatus = .int 2

def outOfCharge (report : DirectionReport) : Bool :=
  if !inAcInputDirection report then
    (report.acModeReported && report.acMode.value = 2) || report.gridInput.value = 0
  else
    report.acStatus.value ≠ 2 && report.inputLimitW.value = 0 && report.gridInput.value = 0

end SolarFlowEms.PowerDirection
