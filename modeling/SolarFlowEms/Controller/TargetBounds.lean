import SolarFlowEms.Controller.Cycle

/-!
# What the ramp and the gates leave of a target

A charge that is left is left at once: whatever a device was commanded before and whatever it is
to do now, no target is written below zero in a cycle that does not charge.  In a cycle that does,
a target is written below zero only for a device that may charge, and never below its ceiling.
-/

namespace SolarFlowEms.DeviceRamp.Cycle

variable {n : ℕ} (cycle : Cycle n) (commanded : CommandedTargets n) (i : Fin n)

theorem deviceChargeFloorW_of_not_charging (h : cycle.charging = false) :
    cycle.deviceChargeFloorW i = 0 := by
  rw [deviceChargeFloorW, h]
  rfl

theorem neg_max_le_deviceChargeFloorW :
    -max 0 (cycle.device i).chargeLimit ≤ cycle.deviceChargeFloorW i := by
  rw [deviceChargeFloorW]
  split_ifs
  · exact neg_nonpos.mpr (le_max_left _ _)
  · exact le_rfl

theorem deviceChargeFloorW_le_effectiveTarget (target : ℚ) :
    cycle.deviceChargeFloorW i ≤ cycle.effectiveTarget target i := by
  have hfloor := cycle.deviceChargeFloorW_nonpos i
  rw [effectiveTarget]
  split_ifs
  · exact hfloor
  · exact le_max_left _ _
  · exact hfloor
  · exact hfloor.trans (le_max_left _ _)
  · exact hfloor.trans (le_max_left _ _)

theorem applyDeviceRamp_nonneg (h : cycle.charging = false) (htarget : 0 ≤ cycle.targets i) :
    0 ≤ cycle.applyDeviceRamp commanded i := by
  show 0 ≤ cycle.rampDevice commanded i
  unfold rampDevice
  dsimp only
  split_ifs
  · exact le_rfl
  · exact htarget
  · exact le_rfl
  · split
    · exact htarget
    · rw [cycle.deviceChargeFloorW_of_not_charging i h]
      exact le_max_left _ _

end SolarFlowEms.DeviceRamp.Cycle

namespace SolarFlowEms.Controller

open PowerDirection

variable {n : ℕ} {Text : Type}

/-! ### The ceilings -/

theorem resolveMaxChargePowerW_nonneg (explicit rated : ℤ) (reported : Option ℤ) :
    0 ≤ resolveMaxChargePowerW explicit rated reported := by
  rw [resolveMaxChargePowerW]
  have hceiling : 0 ≤ max 0 (reported.getD rated) := le_max_left _ _
  split_ifs
  · exact le_rfl
  · omega
  · omega
  · exact hceiling

theorem deviceChargeCeilingW_nonneg (device : DeviceSettings) (state : FetchedReport) :
    0 ≤ deviceChargeCeilingW device state := by
  have hmax := resolveMaxChargePowerW_nonneg device.maxChargePowerW device.ratedChargePowerW
    state.chargeMaxLimitW
  rw [deviceChargeCeilingW]
  split_ifs
  · omega
  · exact hmax

namespace World

variable (input : CycleInput n) (w : World n Text)

theorem chargeCeilingW_le (i : Fin n) :
    w.chargeCeilingW input i ≤
      deviceChargeCeilingW (input.settings.device i) (w.memory.stateOf i) := by
  rw [chargeCeilingW]
  split_ifs
  · exact le_rfl
  · exact deviceChargeCeilingW_nonneg _ _

/-! ### What the decision of a cycle leaves alone -/

def boundsOf (m : Memory n) : (Fin n → Option FetchedReport) × (Fin n → ℤ) :=
  (m.lastStates, m.deviceChargeLimits)

theorem chargeBounds_initializeCommandedTotal :
    boundsOf (w.initializeCommandedTotal input).memory =
      boundsOf w.memory := rfl

theorem chargeBounds_filter (control : TotalControl) (m : Memory n) (rawLoad : ℚ) :
    boundsOf (m.filterOutputControlLoad control rawLoad).1 =
      boundsOf m := by
  unfold Controller.Memory.filterOutputControlLoad
  dsimp only
  split_ifs <;> rfl

theorem chargeBounds_stabilizedTotalTarget :
    boundsOf (w.stabilizedTotalTarget input).memory = boundsOf w.memory := by
  unfold stabilizedTotalTarget
  dsimp only
  refine (chargeBounds_filter input.settings.total _ input.load).trans ?_
  split_ifs
  · exact chargeBounds_initializeCommandedTotal input w
  · rfl

theorem chargeBounds_settleTotal :
    boundsOf (w.settleTotal input).1.memory = boundsOf w.memory := by
  unfold settleTotal
  dsimp only
  split_ifs
  · exact chargeBounds_initializeCommandedTotal input w
  · rfl
  · exact chargeBounds_stabilizedTotalTarget input w

theorem chargeBounds_decideTotal :
    boundsOf (w.decideTotal input).1.memory = boundsOf w.memory := by
  have hsettled := chargeBounds_settleTotal input w
  unfold decideTotal dischargeTotalLeavingACharge
  dsimp only
  split_ifs <;> exact hsettled

theorem chargeBounds_leaveNightIdle :
    boundsOf w.leaveNightIdle.memory = boundsOf w.memory := by
  cases hactive : w.memory.nightMinSocIdleActive <;>
    simp [leaveNightIdle, remember, boundsOf, hactive,
      Controller.Memory.resetOutputControlState]

theorem chargeBounds_endNightIdle :
    boundsOf w.endNightIdle.memory = boundsOf w.memory := by
  unfold endNightIdle
  split_ifs
  · exact chargeBounds_leaveNightIdle w
  · rfl

theorem chargeBounds_updateNightMinSocIdleState :
    boundsOf (w.updateNightMinSocIdleState input).1.memory =
      boundsOf w.memory := by
  unfold updateNightMinSocIdleState
  dsimp only
  split_ifs
  · exact chargeBounds_leaveNightIdle w
  · exact chargeBounds_leaveNightIdle w
  · exact chargeBounds_endNightIdle w
  · rfl
  · exact chargeBounds_endNightIdle w

/-! ### Every target of a cycle -/

/-- The state in which a cycle ramps its targets: the charges settled, the total and the direction
decided. -/
def decided : World n Text :=
  (((w.resolveChargeLimits input).updateNightMinSocIdleState input).1.decideTotal input).1

theorem chargeBounds_decided :
    boundsOf (w.decided input).memory =
      (w.memory.lastStates, w.chargeCeilingW input) :=
  (chargeBounds_decideTotal input _).trans (chargeBounds_updateNightMinSocIdleState input _)

theorem stateOf_decided (i : Fin n) : (w.decided input).memory.stateOf i = w.memory.stateOf i := by
  have hstates : (w.decided input).memory.lastStates = w.memory.lastStates :=
    congrArg Prod.fst (chargeBounds_decided input w)
  rw [Controller.Memory.stateOf, hstates]
  rfl

theorem deviceChargeLimits_decided (i : Fin n) :
    (w.decided input).memory.deviceChargeLimits i = w.chargeCeilingW input i :=
  congrFun (congrArg Prod.snd (chargeBounds_decided input w)) i

/-- **A charge is left at once, and never taken beyond a ceiling.**  For every target commanded
before and every raw target, no device is written a negative target in a cycle that does not
charge, none whose limit is 0 in one that does, and none a target below its ceiling. -/
theorem effectiveControlTargets_bounds (commanded : DeviceRamp.CommandedTargets n)
    (targets : Fin n → ℚ) (i : Fin n) :
    let decided := w.decided input
    let cycle := decided.rampCycle input targets
    let target := cycle.effectiveControlTargets commanded i
    (decided.memory.chargeDirection.charging = false →
        0 ≤ target ∧ (0 ≤ targets i → 0 ≤ cycle.applyDeviceRamp commanded i)) ∧
      (decided.memory.deviceChargeLimits i = 0 → 0 ≤ target) ∧
      -(deviceChargeCeilingW (input.settings.device i) (decided.memory.stateOf i) : ℚ) ≤ target := by
  intro decided cycle target
  have hfloor : cycle.deviceChargeFloorW i ≤ target :=
    cycle.deviceChargeFloorW_le_effectiveTarget i _
  have hlimit := (cycle.neg_max_le_deviceChargeFloorW i).trans hfloor
  refine ⟨fun hcharging => ?_, fun hnone => ?_, ?_⟩
  · have hzero := cycle.deviceChargeFloorW_of_not_charging i hcharging
    exact ⟨hzero ▸ hfloor, cycle.applyDeviceRamp_nonneg commanded i hcharging⟩
  · have hlimit' : -max 0 ((decided.memory.deviceChargeLimits i : ℤ) : ℚ) ≤ target := hlimit
    simpa [hnone] using hlimit'
  · have hceiling : decided.memory.deviceChargeLimits i ≤
        deviceChargeCeilingW (input.settings.device i) (decided.memory.stateOf i) := by
      rw [deviceChargeLimits_decided, stateOf_decided]
      exact w.chargeCeilingW_le input i
    have hceiling' : (cycle.device i).chargeLimit ≤
        (deviceChargeCeilingW (input.settings.device i) (decided.memory.stateOf i) : ℚ) :=
      Int.cast_le.mpr hceiling
    refine le_trans (neg_le_neg (max_le ?_ hceiling')) hlimit
    exact_mod_cast deviceChargeCeilingW_nonneg _ _

end World

end SolarFlowEms.Controller
