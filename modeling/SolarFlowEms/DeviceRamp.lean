import Mathlib.Algebra.Order.Group.MinMax
import SolarFlowEms.Library.Run
import Mathlib.Algebra.BigOperators.Ring.Finset
import Mathlib.Algebra.Order.BigOperators.Group.Finset
import Mathlib.Data.Fin.VecNotation
import Mathlib.Tactic.Linarith

/-!
# The device ramp and the output cap

`apply_device_ramp` limits how far each device's target moves in one cycle, and
`effective_control_targets` gates what is left of it before it is written.  The raw
targets of a cycle keep to the system maximum together, and so did the commanded targets
before; the ramp nevertheless moves every device on its own, rising ones by one step and
falling ones by another, and nothing clamps the sum again.

Here is one control cycle as a step on the commanded targets, with what happens to them
between cycles, over exact rationals.  Devices are numbered: their names are distinct, which the
start-up check enforces.

* `cap_kept_along_run` - the written targets keep to the maximum in runs whose cycles make room for
  their rises; `shiftRun_exceeds_maximum` is a run that does not.
* `steady_target_reached` - a target that cycles keep steering to is reached.
-/

namespace SolarFlowEms.DeviceRamp

open Finset Run

variable {n : ℕ}

/-- The output-control settings the ramp reads, after their defaults and lower bounds. -/
structure OutputControl where
  deviceRampEnabled : Bool
  deviceRampUpWPerCycle : ℚ
  deviceRampDownWPerCycle : ℚ
  bypassRampMultiplier : ℚ
  largeImportBypassW : ℚ
  largeExportBypassW : ℚ
  up_nonneg : 0 ≤ deviceRampUpWPerCycle
  down_nonneg : 0 ≤ deviceRampDownWPerCycle
  one_le_multiplier : 1 ≤ bypassRampMultiplier

/-- What the controller knows about one device in one cycle. -/
structure DeviceCycle where
  online : Bool
  enabled : Bool
  intentAllowsCommand : Bool
  acDischargeEnabled : Bool
  maxPower : ℚ
  chargeLimit : ℚ

/-- One control cycle: the raw targets and everything else its target path reads. -/
structure Cycle (n : ℕ) where
  control : OutputControl
  rawLoad : ℚ
  charging : Bool
  enabled : Bool
  minOutputLimit : ℚ
  device : Fin n → DeviceCycle
  targets : Fin n → ℚ

/-- `commanded_device_targets`: absent until a first target. -/
abbrev CommandedTargets (n : ℕ) := Fin n → Option ℚ

namespace Cycle

variable (cycle : Cycle n)

def outputControlBypassActive : Bool :=
  cycle.control.largeImportBypassW ≤ cycle.rawLoad ∨
    cycle.rawLoad ≤ -cycle.control.largeExportBypassW

def multiplier : ℚ :=
  if cycle.outputControlBypassActive then cycle.control.bypassRampMultiplier else 1

def upLimit : ℚ := cycle.control.deviceRampUpWPerCycle * cycle.multiplier

def downLimit : ℚ := cycle.control.deviceRampDownWPerCycle * cycle.multiplier

def deviceOutputControlAllowed (i : Fin n) : Bool := (cycle.device i).intentAllowsCommand

/-- `device_command_block_reason` names no reason. -/
def deviceCommandable (i : Fin n) : Bool :=
  (cycle.device i).online && (cycle.device i).enabled && cycle.deviceOutputControlAllowed i

def deviceMayDischarge (i : Fin n) : Bool := (cycle.device i).acDischargeEnabled

def deviceChargeFloorW (i : Fin n) : ℚ :=
  if !cycle.charging then 0 else -max 0 (cycle.device i).chargeLimit

/-- The target the ramp starts from: out of the charge direction a charge counts as zero. -/
def rampStart (previous : ℚ) : ℚ :=
  if previous < 0 ∧ cycle.charging = false then 0 else previous

/-- The move towards the target, at most the limit of its direction; no limit is 0. -/
def rampedMove (previous target : ℚ) : ℚ :=
  let delta := target - previous
  let limit := if 0 < delta then cycle.upLimit else cycle.downLimit
  if 0 < limit ∧ limit < |delta| then
    if 0 < delta then previous + limit else previous - limit
  else target

/-- One device's turn in `apply_device_ramp`. -/
def rampDevice (commanded : CommandedTargets n) (i : Fin n) : ℚ :=
  let target := cycle.targets i
  if !cycle.control.deviceRampEnabled then
    if !cycle.deviceOutputControlAllowed i then 0 else target
  else if !cycle.deviceOutputControlAllowed i then 0
  else
    match commanded i with
    | none => target
    | some previous =>
      max (cycle.deviceChargeFloorW i)
        (min (cycle.device i).maxPower (cycle.rampedMove (cycle.rampStart previous) target))

/-- `apply_device_ramp`; the commanded targets become the ramped ones. -/
def applyDeviceRamp (commanded : CommandedTargets n) : Fin n → ℚ := cycle.rampDevice commanded

/-- One device's turn in `effective_control_targets`. -/
def effectiveTarget (target : ℚ) (i : Fin n) : ℚ :=
  if !cycle.enabled || !cycle.deviceCommandable i then 0
  else if target < 0 ∧ cycle.deviceChargeFloorW i < 0 then max (cycle.deviceChargeFloorW i) target
  else if !cycle.deviceMayDischarge i then 0
  else
    let target := if 0 < cycle.minOutputLimit then max target cycle.minOutputLimit else target
    max 0 (min (cycle.device i).maxPower target)

/-- The targets that are written: the gates on the ramped targets. -/
def effectiveControlTargets (commanded : CommandedTargets n) : Fin n → ℚ := fun i =>
  cycle.effectiveTarget (cycle.applyDeviceRamp commanded i) i

end Cycle

/-- What happens to the commanded targets: a control cycle, the reset after a blocked
operating state, and the release of a device's charge. -/
inductive Event (n : ℕ) where
  | controlCycle (cycle : Cycle n)
  | resetOutputControlState
  | releaseCharge (i : Fin n)

def step (commanded : CommandedTargets n) : Event n → CommandedTargets n
  | .controlCycle cycle => fun i => some (cycle.applyDeviceRamp commanded i)
  | .resetOutputControlState => fun _ => none
  | .releaseCharge i => Function.update commanded i (some 0)

/-- The sum of the targets commanded before; a device without one commands nothing. -/
def commandedTotal (commanded : CommandedTargets n) : ℚ := ∑ i, (commanded i).getD 0

/-! ### What a ramped device delivers -/

namespace Cycle

variable (cycle : Cycle n) (commanded : CommandedTargets n)

/-- A target that rises, at most one step up; a step of 0 is no limit. -/
def stepUp (limit previous target : ℚ) : ℚ :=
  if 0 < limit then min target (previous + limit) else target

def stepDown (limit previous target : ℚ) : ℚ :=
  if 0 < limit then max target (previous - limit) else target

/-- The device is written in this cycle, and may feed in. -/
def feeds (i : Fin n) : Bool :=
  cycle.enabled && cycle.deviceCommandable i && cycle.deviceMayDischarge i

/-- The ramp leaves the target alone: it is off, or there is nothing to start from. -/
def unramped (i : Fin n) : Bool :=
  !cycle.control.deviceRampEnabled || (commanded i).isNone

/-- What the ramp starts from; a target that it leaves alone counts as reached. -/
def start (i : Fin n) : ℚ :=
  if cycle.unramped commanded i then cycle.targets i else cycle.rampStart ((commanded i).getD 0)

/-- **What a device is ramped to deliver**: at most one step from where it starts, within its
maximum. -/
def rampedOutput (i : Fin n) : ℚ :=
  max 0 (min (cycle.device i).maxPower
    (if cycle.start commanded i < cycle.targets i then
      stepUp cycle.upLimit (cycle.start commanded i) (cycle.targets i)
    else stepDown cycle.downLimit (cycle.start commanded i) (cycle.targets i)))

/-- How far one downward step leaves a device above its raw target. -/
def lag (i : Fin n) : ℚ :=
  if 0 < cycle.downLimit then
    max 0 (cycle.start commanded i - cycle.downLimit - cycle.targets i)
  else 0

/-- What a falling device gives up in one downward step. -/
def givesUp (i : Fin n) : ℚ :=
  if 0 < cycle.downLimit then min cycle.downLimit (cycle.start commanded i - cycle.targets i)
  else cycle.start commanded i - cycle.targets i

/-- **A cycle makes room for its rises**, over the devices that feed in: the maximum has room for
the lag of the falling ones beside the raw targets, or beside what was commanded before for a whole
upward step of each rising one, less what the falling ones give up. -/
inductive MakesRoom (maximum : ℚ) : Prop where
  | lagFits (h : ∑ i with cycle.feeds i, cycle.lag commanded i ≤
      maximum - ∑ i with cycle.feeds i, cycle.targets i)
  | stepsFit (hup : 0 < cycle.upLimit)
      (h : ∑ i with cycle.feeds i, (if cycle.start commanded i < cycle.targets i then cycle.upLimit
          else -cycle.givesUp commanded i) ≤
        maximum - ∑ i with cycle.feeds i, max 0 (cycle.start commanded i))

def RawWithin (maximum : ℚ) : Prop :=
  (∀ i, 0 ≤ cycle.targets i) ∧ ∑ i, cycle.targets i ≤ maximum

theorem deviceChargeFloorW_nonpos (i : Fin n) : cycle.deviceChargeFloorW i ≤ 0 := by
  unfold deviceChargeFloorW
  split_ifs with hcharging
  · exact le_rfl
  · exact neg_nonpos.mpr (le_max_left _ _)

theorem rampedMove_eq (previous target : ℚ) :
    cycle.rampedMove previous target =
      if previous < target then stepUp cycle.upLimit previous target
      else stepDown cycle.downLimit previous target := by
  unfold rampedMove stepUp stepDown
  by_cases hrise : previous < target
  · have hdelta : 0 < target - previous := sub_pos.mpr hrise
    simp only [if_pos hrise, if_pos hdelta, abs_of_pos hdelta]
    by_cases hlimit : 0 < cycle.upLimit
    · rw [if_pos hlimit]
      split_ifs with hfar
      · rw [min_eq_right (by linarith [hfar.2])]
      · rw [min_eq_left]
        have hnear := not_lt.mp fun h => hfar ⟨hlimit, h⟩
        linarith
    · rw [if_neg fun h => hlimit h.1, if_neg hlimit]
  · have hdelta : ¬0 < target - previous := fun h => hrise (sub_pos.mp h)
    simp only [if_neg hrise, if_neg hdelta, abs_of_nonpos (not_lt.mp hdelta)]
    by_cases hlimit : 0 < cycle.downLimit
    · rw [if_pos hlimit]
      split_ifs with hfar
      · rw [max_eq_right (by linarith [hfar.2])]
      · rw [max_eq_left]
        have hnear := not_lt.mp fun h => hfar ⟨hlimit, h⟩
        linarith
    · rw [if_neg fun h => hlimit h.1, if_neg hlimit]

theorem clamp_ramped {floor maxPower value : ℚ} (hfloor : floor ≤ 0) :
    max 0 (min maxPower (max floor (min maxPower value))) = max 0 (min maxPower value) := by
  rcases le_total floor (min maxPower value) with hle | hle
  · rw [max_eq_right hle, ← min_assoc, min_self]
  · rw [max_eq_left hle, max_eq_left ((min_le_right _ _).trans hfloor),
      max_eq_left (hle.trans hfloor)]

theorem rampedOutput_nonneg (i : Fin n) : 0 ≤ cycle.rampedOutput commanded i := le_max_left _ _

theorem stepDown_self {limit : ℚ} (target : ℚ) : stepDown limit target target = target := by
  rw [stepDown]
  split_ifs with hlimit
  · exact max_eq_left (by linarith)
  · rfl

theorem clamp_rampDevice {i : Fin n} (hallowed : cycle.deviceOutputControlAllowed i = true) :
    max 0 (min (cycle.device i).maxPower (cycle.rampDevice commanded i))
      = cycle.rampedOutput commanded i := by
  unfold rampDevice rampedOutput start unramped
  cases hramp : cycle.control.deviceRampEnabled with
  | false => simp [hallowed, stepDown_self]
  | true =>
    cases hprevious : commanded i with
    | none => simp [hallowed, stepDown_self]
    | some previous =>
      simp only [hallowed, Bool.not_true, Bool.false_eq_true, if_false, Option.isNone_some,
        Bool.or_self, Option.getD_some]
      rw [clamp_ramped (cycle.deviceChargeFloorW_nonpos i), rampedMove_eq]

theorem deviceOutputControlAllowed_of_commandable {i : Fin n}
    (h : cycle.deviceCommandable i = true) : cycle.deviceOutputControlAllowed i = true := by
  unfold deviceCommandable at h
  exact (Bool.and_eq_true_iff.mp h).2

/-- The device is still charging: a negative target, and a floor that permits it. -/
def StillCharges (i : Fin n) : Prop :=
  cycle.applyDeviceRamp commanded i < 0 ∧ cycle.deviceChargeFloorW i < 0

/-- **A device that feeds in is written its ramped output**, any other device nothing. -/
theorem effectiveControlTargets_eq (hmin : cycle.minOutputLimit = 0) {i : Fin n}
    (hcharge : ¬cycle.StillCharges commanded i) :
    cycle.effectiveControlTargets commanded i
      = if cycle.feeds i then cycle.rampedOutput commanded i else 0 := by
  show cycle.effectiveTarget (cycle.applyDeviceRamp commanded i) i = _
  unfold StillCharges at hcharge
  unfold effectiveTarget feeds
  by_cases hwritten : (cycle.enabled && cycle.deviceCommandable i) = true
  · have hcommandable := (Bool.and_eq_true_iff.mp hwritten).2
    have hallowed := cycle.deviceOutputControlAllowed_of_commandable hcommandable
    have hgate : (!cycle.enabled || !cycle.deviceCommandable i) = false := by
      rw [← Bool.not_and, hwritten, Bool.not_true]
    rw [hgate, if_neg Bool.false_ne_true, if_neg hcharge, hwritten, Bool.true_and]
    cases hdischarge : cycle.deviceMayDischarge i with
    | false => rfl
    | true =>
      simp only [Bool.not_true, Bool.false_eq_true, if_false, hmin, lt_irrefl, if_true]
      exact cycle.clamp_rampDevice commanded hallowed
  · have hgate : (!cycle.enabled || !cycle.deviceCommandable i) = true := by
      rw [← Bool.not_and, Bool.eq_false_iff.mpr hwritten, Bool.not_false]
    rw [hgate, if_pos rfl, Bool.eq_false_iff.mpr hwritten, Bool.false_and,
      if_neg Bool.false_ne_true]

theorem effectiveControlTargets_nonpos {i : Fin n} (hcharge : cycle.StillCharges commanded i) :
    cycle.effectiveControlTargets commanded i ≤ 0 := by
  show cycle.effectiveTarget (cycle.applyDeviceRamp commanded i) i ≤ 0
  unfold StillCharges at hcharge
  unfold effectiveTarget
  by_cases hgate : (!cycle.enabled || !cycle.deviceCommandable i) = true
  · rw [if_pos hgate]
  · rw [if_neg hgate, if_pos hcharge]
    exact max_le (cycle.deviceChargeFloorW_nonpos i) hcharge.1.le

theorem effectiveControlTargets_le (hmin : cycle.minOutputLimit = 0) (i : Fin n) :
    cycle.effectiveControlTargets commanded i
      ≤ if cycle.feeds i then cycle.rampedOutput commanded i else 0 := by
  by_cases hcharge : cycle.StillCharges commanded i
  · refine (cycle.effectiveControlTargets_nonpos commanded hcharge).trans ?_
    split_ifs with hfeeds
    · exact cycle.rampedOutput_nonneg commanded i
    · exact le_rfl
  · exact (cycle.effectiveControlTargets_eq commanded hmin hcharge).le

/-! ### One cycle -/

theorem stepDown_eq_add_lag (i : Fin n) :
    stepDown cycle.downLimit (cycle.start commanded i) (cycle.targets i) =
      cycle.targets i + cycle.lag commanded i := by
  rw [stepDown, lag]
  split_ifs
  · rw [← max_add_add_left, add_zero, add_sub_cancel]
  · rw [add_zero]

theorem stepDown_eq_sub_givesUp (i : Fin n) :
    stepDown cycle.downLimit (cycle.start commanded i) (cycle.targets i) =
      cycle.start commanded i - cycle.givesUp commanded i := by
  rw [stepDown, givesUp]
  split_ifs
  · rcases le_total cycle.downLimit (cycle.start commanded i - cycle.targets i) with hle | hle
    · rw [min_eq_left hle, max_eq_right (by linarith)]
    · rw [min_eq_right hle, max_eq_left (by linarith), sub_sub_cancel]
  · rw [sub_sub_cancel]

theorem lag_nonneg (i : Fin n) : 0 ≤ cycle.lag commanded i := by
  rw [lag]
  split_ifs
  · exact le_max_left _ _
  · exact le_rfl

theorem rampedOutput_le_lag {i : Fin n} (hraw : 0 ≤ cycle.targets i) :
    cycle.rampedOutput commanded i ≤ cycle.targets i + cycle.lag commanded i := by
  have hlag := cycle.lag_nonneg commanded i
  refine max_le (by linarith) ((min_le_right _ _).trans ?_)
  rw [stepDown_eq_add_lag, stepUp]
  split_ifs
  · exact (min_le_left _ _).trans (by linarith)
  · linarith
  · exact le_rfl

theorem rampedOutput_le_step {i : Fin n} (hraw : 0 ≤ cycle.targets i) (hup : 0 < cycle.upLimit) :
    cycle.rampedOutput commanded i ≤ max 0 (cycle.start commanded i) +
      if cycle.start commanded i < cycle.targets i then cycle.upLimit
      else -cycle.givesUp commanded i := by
  have hzero := le_max_left 0 (cycle.start commanded i)
  have hstart := le_max_right 0 (cycle.start commanded i)
  rw [rampedOutput, stepDown_eq_sub_givesUp, stepUp, if_pos hup]
  split_ifs with hrise
  · exact max_le (by linarith) ((min_le_right _ _).trans ((min_le_right _ _).trans (by linarith)))
  · have hkept := cycle.stepDown_eq_sub_givesUp commanded i
    rw [stepDown_eq_add_lag] at hkept
    have hlag := cycle.lag_nonneg commanded i
    exact max_le (by linarith) ((min_le_right _ _).trans (by linarith))

theorem sum_effectiveControlTargets_le {maximum : ℚ} (hmin : cycle.minOutputLimit = 0)
    (hraw : cycle.RawWithin maximum) (hroom : cycle.MakesRoom commanded maximum) :
    ∑ i, cycle.effectiveControlTargets commanded i ≤ maximum := by
  refine (sum_le_sum fun i _ => cycle.effectiveControlTargets_le commanded hmin i).trans ?_
  rw [← sum_filter]
  cases hroom with
  | lagFits h =>
    refine (sum_le_sum fun i _ => cycle.rampedOutput_le_lag commanded (hraw.1 i)).trans ?_
    rw [sum_add_distrib]
    linarith
  | stepsFit hup h =>
    refine (sum_le_sum fun i _ => cycle.rampedOutput_le_step commanded (hraw.1 i) hup).trans ?_
    rw [sum_add_distrib]
    linarith

end Cycle

/-! ### Runs of control cycles -/

/-- What the cap assumes of a cycle: no minimum output, and both the targets commanded
before and the raw ones within the maximum. -/
def CapAssumed (maximum : ℚ) (commanded : CommandedTargets n) (cycle : Cycle n) : Prop :=
  cycle.minOutputLimit = 0 ∧ commandedTotal commanded ≤ maximum ∧ cycle.RawWithin maximum

/-- The cap in one step of a run: what a cycle writes keeps to the maximum. -/
def CapKept (maximum : ℚ) (commanded : CommandedTargets n) : Event n → Prop
  | .controlCycle cycle => CapAssumed maximum commanded cycle →
      ∑ i, cycle.effectiveControlTargets commanded i ≤ maximum
  | .resetOutputControlState => True
  | .releaseCharge _ => True

/-- In one step of a run a cycle makes room for its rises. -/
def RoomMade (maximum : ℚ) (commanded : CommandedTargets n) : Event n → Prop
  | .controlCycle cycle => CapAssumed maximum commanded cycle → cycle.MakesRoom commanded maximum
  | .resetOutputControlState => True
  | .releaseCharge _ => True

/-- **The cap across ramping.**  In every run of control cycles, resets and charge releases whose
cycles make room for their rises, every cycle writes at most the maximum. -/
theorem cap_kept_along_run (maximum : ℚ) (commanded : CommandedTargets n)
    (events : List (Event n)) (hroom : EveryStep step (RoomMade maximum) commanded events) :
    EveryStep step (CapKept maximum) commanded events := by
  refine hroom.mono fun commanded event hstep => ?_
  cases event with
  | controlCycle cycle =>
    intro hassumed
    exact cycle.sum_effectiveControlTargets_le commanded hassumed.1 hassumed.2.2 (hstep hassumed)
  | resetOutputControlState => trivial
  | releaseCharge i => trivial

/-! ### A run over the cap -/

/-- The default ramp: 250 W up and 400 W down in a cycle. -/
def defaultOutputControl : OutputControl where
  deviceRampEnabled := true
  deviceRampUpWPerCycle := 250
  deviceRampDownWPerCycle := 400
  bypassRampMultiplier := 3 / 2
  largeImportBypassW := 600
  largeExportBypassW := 500
  up_nonneg := by decide
  down_nonneg := by decide
  one_le_multiplier := by decide +kernel

/-- A cycle over three devices of 800 W that may all be commanded. -/
def plainCycle (targets : Fin 3 → ℚ) : Cycle 3 where
  control := defaultOutputControl
  rawLoad := 0
  charging := false
  enabled := true
  minOutputLimit := 0
  device := fun _ => ⟨true, true, true, true, 800, 0⟩
  targets := targets

/-- The whole output moves from the first device to the other two. -/
def shiftRun : List (Event 3) :=
  [.controlCycle (plainCycle ![800, 0, 0]), .controlCycle (plainCycle ![0, 400, 400])]

/-- With 800 W to share, the second cycle writes 400, 250 and 250 W. -/
theorem shiftRun_exceeds_maximum :
    ¬EveryStep step (CapKept 800) (fun _ => none) shiftRun := by
  intro hkept
  have hsecond := hkept.2.1 ⟨rfl, by decide +kernel, by decide +kernel, by decide +kernel⟩
  exact absurd hsecond (by decide +kernel)

/-- A run that makes room: the output moves to one other device, which rises by 250 W of the 400 W
that the first gives up. -/
theorem cap_kept_along_run_shift :
    EveryStep step (CapKept 800) (fun _ => none)
      [.controlCycle (plainCycle ![800, 0, 0]), .controlCycle (plainCycle ![0, 800, 0])] :=
  cap_kept_along_run 800 (fun _ => none) _
    ⟨fun _ => .lagFits (by decide +kernel),
      fun _ => .stepsFit (by decide +kernel) (by decide +kernel), trivial⟩

/-! ### A steady target is reached -/

/-- The cycle steers a device to a target that its bounds allow: it may be commanded, and where a
ramp limits its moves it still moves by the pace. -/
structure Cycle.Steers (cycle : Cycle n) (i : Fin n) (target pace : ℚ) : Prop where
  allowed : cycle.deviceOutputControlAllowed i = true
  aims : cycle.targets i = target
  floor_le : cycle.deviceChargeFloorW i ≤ target
  le_maxPower : target ≤ (cycle.device i).maxPower
  up : 0 < cycle.upLimit → pace ≤ cycle.upLimit
  down : 0 < cycle.downLimit → pace ≤ cycle.downLimit

namespace Cycle.Steers

variable {cycle : Cycle n} {i : Fin n} {target pace : ℚ}

section

variable (h : cycle.Steers i target pace)
include h

theorem abs_rampedMove_sub_le (previous : ℚ) :
    |cycle.rampedMove previous target - target| ≤ max 0 (|previous - target| - pace) := by
  rw [rampedMove_eq, abs_sub_comm previous]
  split_ifs with hrise
  · rw [stepUp]
    split_ifs with hlimit
    · rcases min_choice target (previous + cycle.upLimit) with heq | heq
      · rw [heq, sub_self, abs_zero]
        exact le_max_left _ _
      · have hle : previous + cycle.upLimit ≤ target := heq ▸ min_le_left _ _
        rw [heq, abs_of_nonpos (sub_nonpos.mpr hle), abs_of_pos (sub_pos.mpr hrise)]
        exact le_max_of_le_right (by linarith [h.up hlimit])
    · rw [sub_self, abs_zero]
      exact le_max_left _ _
  · rw [stepDown]
    split_ifs with hlimit
    · rcases max_choice target (previous - cycle.downLimit) with heq | heq
      · rw [heq, sub_self, abs_zero]
        exact le_max_left _ _
      · have hle : target ≤ previous - cycle.downLimit := heq ▸ le_max_left _ _
        rw [heq, abs_of_nonneg (sub_nonneg.mpr hle),
          abs_of_nonpos (sub_nonpos.mpr (not_lt.mp hrise))]
        exact le_max_of_le_right (by linarith [h.down hlimit])
    · rw [sub_self, abs_zero]
      exact le_max_left _ _

theorem abs_rampStart_sub_le (previous : ℚ) :
    |cycle.rampStart previous - target| ≤ |previous - target| := by
  rw [rampStart]
  split_ifs with hstart
  · have hfloor : 0 ≤ target := by
      have := h.floor_le
      rwa [deviceChargeFloorW, hstart.2] at this
    rw [abs_of_nonpos (by linarith), abs_of_nonpos (by linarith [hstart.1])]
    linarith [hstart.1]
  · exact le_rfl

theorem abs_clamp_sub_le (value : ℚ) :
    |max (cycle.deviceChargeFloorW i) (min (cycle.device i).maxPower value) - target| ≤
      |value - target| := by
  have hclamp := abs_max_sub_max_le_abs (min value (cycle.device i).maxPower)
    (min target (cycle.device i).maxPower) (cycle.deviceChargeFloorW i)
  rw [min_eq_left h.le_maxPower, max_eq_left h.floor_le, max_comm, min_comm] at hclamp
  have hmin := abs_min_sub_min_le_max (cycle.device i).maxPower value (cycle.device i).maxPower target
  rw [min_eq_right h.le_maxPower, sub_self, abs_zero, max_eq_right (abs_nonneg _)] at hmin
  exact hclamp.trans hmin

/-- **One cycle brings the device nearer by its pace**, or all the way. -/
theorem abs_rampDevice_sub_le {commanded : CommandedTargets n}
    {previous : ℚ} (hprevious : commanded i = some previous) :
    |cycle.rampDevice commanded i - target| ≤ max 0 (|previous - target| - pace) := by
  rw [rampDevice, h.allowed, h.aims, hprevious]
  cases cycle.control.deviceRampEnabled with
  | false => simp
  | true =>
    refine (h.abs_clamp_sub_le _).trans ((h.abs_rampedMove_sub_le _).trans ?_)
    exact max_le_max_left 0 (sub_le_sub_right (h.abs_rampStart_sub_le previous) pace)

theorem rampDevice_of_none {commanded : CommandedTargets n}
    (hprevious : commanded i = none) : cycle.rampDevice commanded i = target := by
  rw [rampDevice, h.allowed, h.aims, hprevious]
  cases cycle.control.deviceRampEnabled <;> rfl

end

end Cycle.Steers

theorem run_of_near {i : Fin n} {target pace : ℚ} (hpace : 0 ≤ pace) {cycles : List (Cycle n)}
    (hsteers : ∀ cycle ∈ cycles, cycle.Steers i target pace) {commanded : CommandedTargets n}
    {previous : ℚ} (hprevious : commanded i = some previous)
    (hway : |previous - target| ≤ cycles.length * pace) :
    run step commanded (cycles.map .controlCycle) i = some target := by
  induction cycles generalizing commanded previous with
  | nil =>
    have hzero : previous - target = 0 := abs_nonpos_iff.mp (by simpa using hway)
    rw [← sub_eq_zero.mp hzero]
    exact hprevious
  | cons cycle cycles ih =>
    have hnear := (hsteers cycle List.mem_cons_self).abs_rampDevice_sub_le hprevious
    refine ih (fun c hc => hsteers c (List.mem_cons_of_mem cycle hc)) rfl (hnear.trans ?_)
    rw [List.length_cons, Nat.cast_succ] at hway
    exact max_le (by positivity) (by linarith)

/-- **A steady target is reached.**  Where cycles steer a device to one target, each by a pace or
more, what is commanded has come to the target as soon as the paces make up the way, whatever the
cycles differ in besides; and at once where nothing was commanded before.  Arithmetic is exact
here: over floats ten paces of 10.3 W come to 102.99999999999999 W. -/
theorem steady_target_reached (i : Fin n) (target pace : ℚ) (cycles : List (Cycle n))
    (commanded : CommandedTargets n) (hpace : 0 ≤ pace) (hne : cycles ≠ [])
    (hsteers : ∀ cycle ∈ cycles, cycle.Steers i target pace)
    (hway : ∀ previous, commanded i = some previous →
      |previous - target| ≤ cycles.length * pace) :
    run step commanded (cycles.map .controlCycle) i = some target := by
  cases hprevious : commanded i with
  | some previous => exact run_of_near hpace hsteers hprevious (hway previous hprevious)
  | none =>
    obtain ⟨cycle, rest, rfl⟩ := List.exists_cons_of_ne_nil hne
    have hfirst := (hsteers cycle List.mem_cons_self).rampDevice_of_none hprevious
    refine run_of_near hpace (fun c hc => hsteers c (List.mem_cons_of_mem cycle hc))
      (congrArg some hfirst) ?_
    rw [sub_self, abs_zero]
    positivity

theorem steady_target_reached_risen :
    run step (fun _ => some 0) ((List.replicate 3 (plainCycle ![600, 0, 0])).map .controlCycle) 0 =
      some 600 := by
  refine steady_target_reached 0 600 250 (List.replicate 3 (plainCycle ![600, 0, 0]))
    (fun _ => some 0) (by decide) (by decide) (fun cycle hcycle => ?_) fun previous hprevious => ?_
  · rw [List.eq_of_mem_replicate hcycle]
    exact ⟨rfl, rfl, by decide +kernel, by decide +kernel, fun _ => by decide +kernel,
      fun _ => by decide +kernel⟩
  · rw [← Option.some.inj hprevious]
    decide +kernel

end SolarFlowEms.DeviceRamp
