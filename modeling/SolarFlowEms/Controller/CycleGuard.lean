import SolarFlowEms.Controller.Cycle

/-!
# What a cycle leaves of the count of failed cycles

The guarded loop counts failed cycles and the cycles that ran through since the charges were
returned, and keeps when a running assist got its AC input back.  Nothing inside a cycle touches
these, and neither does the release of the charges.

* `Guarded.liftAssist`, `guarded_releaseChargingDevices`, `guarded_regulate` - the steps of a cycle
* `guarded_runOnce` - a whole cycle leaves the count as it was
-/

namespace SolarFlowEms.Controller

open Interrupted Steps

variable {n : ℕ} {Text : Type}

/-- What the guarded loop keeps. -/
structure CycleGuard where
  cycleFailures : ℕ
  cyclesThroughSinceRelease : Option ℕ
  assistReentries : List ℚ
deriving DecidableEq

/-- What a memory holds of it. -/
def Memory.guard (m : Memory n) : CycleGuard :=
  ⟨m.cycleFailures, m.cyclesThroughSinceRelease, m.assistReentries⟩

namespace Memory

variable (m : Memory n) (i : Fin n)

/-- Settling an exit that was found counts no cycle. -/
@[simp] theorem guard_settleFoundAcInputExit (view : TransportView) (report : FetchedReport) :
    (m.settleFoundAcInputExit i view report).guard = m.guard := by
  unfold settleFoundAcInputExit
  split_ifs <;> rfl

@[simp] theorem guard_noteAcInputProvenance (uncommanded intent : Option DeviceRuntimeIntent) :
    (m.noteAcInputProvenance i uncommanded intent).guard = m.guard := by
  unfold noteAcInputProvenance
  dsimp only
  split
  · rfl
  · split_ifs <;> rfl

/-- Nor does what a report shows of a charge. -/
@[simp] theorem guard_observeFullChargeAssistCharge (report : FetchedReport) :
    (m.observeFullChargeAssistCharge i report).guard = m.guard := by
  unfold observeFullChargeAssistCharge
  split <;> rfl

@[simp] theorem guard_releaseFullChargeAssistCharge :
    (m.releaseFullChargeAssistCharge i).guard = m.guard := by
  unfold releaseFullChargeAssistCharge
  split <;> rfl

@[simp] theorem guard_readFullChargeAssistCharge (now : ℚ) (report : FetchedReport) :
    (m.readFullChargeAssistCharge i now report).guard = m.guard := by
  unfold readFullChargeAssistCharge
  dsimp only
  split
  · simp
  · split_ifs <;> simp

@[simp] theorem guard_noteFullChargeAssistExit (now : ℚ) (answer : TargetAnswer) :
    (m.noteFullChargeAssistExit i now answer).guard = m.guard := by
  unfold noteFullChargeAssistExit
  split
  · rfl
  · split <;> rfl

/-- An exit whose answer proves nothing is noted beside the count. -/
@[simp] theorem guard_noteUnprovenChargeExit (targetW : ℚ) (answer : TargetAnswer) :
    (m.noteUnprovenChargeExit i targetW answer).guard = m.guard := by
  unfold noteUnprovenChargeExit
  split <;> rfl

@[simp] theorem guard_filterOutputControlLoad (control : TotalControl) (rawLoad : ℚ) :
    (m.filterOutputControlLoad control rawLoad).1.guard = m.guard := by
  unfold filterOutputControlLoad
  split_ifs <;> rfl

@[simp] theorem guard_updateGridMeterHolding (input : CycleInput n) :
    (Memory.updateGridMeterHolding input m).guard = m.guard := by
  unfold updateGridMeterHolding
  split_ifs <;> rfl

end Memory

namespace World

def guard (w : World n Text) : CycleGuard := w.memory.guard

/-- The count is still this one. -/
def Guarded (guard : CycleGuard) (w : World n Text) : Prop := w.guard = guard

variable {input : CycleInput n} {g : CycleGuard} {w : World n Text} {i : Fin n}

/-- A note that leaves the count in the memory leaves it in the world. -/
theorem Guarded.remember (h : w.Guarded g) {f : Memory n → Memory n}
    (hf : (f w.memory).guard = w.memory.guard) : (w.remember f).Guarded g := hf.trans h

/-- Handing a target over counts nothing. -/
theorem Guarded.setOutputLimit (h : w.Guarded g) {moment : Moment} {value : ℚ}
    {chargeExit : Option Mqtt.ClientState.ChargeExit} :
    (w.setOutputLimit input i moment value chargeExit).1.Guarded g := by
  unfold World.setOutputLimit
  split <;> exact h

theorem Guarded.handProperties (h : w.Guarded g) {moment : Moment} {reconciled : Reconciled} :
    (w.handProperties input i moment reconciled).Guarded g := by
  unfold World.handProperties
  split <;> exact h

/-- **A step of the assist counts nothing**: it has the rows and the log only. -/
theorem Guarded.liftAssist (h : w.Guarded g) (moment : Moment)
    (steps : Steps (AssistWorld Text)) :
    ∀ w' ∈ World.liftAssist input i moment steps w, w'.Guarded g := by
  intro w' hw'
  obtain ⟨a, -, rfl⟩ := List.mem_map.mp hw'
  exact h

/-! ### Claims and reconcilers -/

/-- What a report claims is noted for its device. -/
theorem Guarded.claim (h : w.Guarded g) (report : FetchedReport) :
    (World.claim input i report w).Guarded g := by
  unfold World.claim
  refine (h.remember ?_).remember ?_
  · exact Memory.guard_settleFoundAcInputExit _ _ _ _
  · exact Memory.guard_noteAcInputProvenance _ _ _ _

theorem Guarded.observeRestore (h : w.Guarded g) (report : FetchedReport) :
    (World.observeRestore input i report w).Guarded g := by
  unfold World.observeRestore
  split
  · exact h.remember (Memory.guard_observeFullChargeAssistCharge _ _ _)
  · exact h

section

variable [DecidableEq Text] (texts : TimeTexts Text)

theorem guarded_processFullChargeAssist (transition : FeatureTransition) (i : Fin n) :
    Keeps (@Guarded n Text g) (processFullChargeAssist input texts transition i) := by
  unfold processFullChargeAssist
  split
  · exact keeps_skip
  · intro w h
    exact h.liftAssist .claims _

theorem guarded_confirmFullChargeAssistAcRestore (report : FetchedReport)
    (transition : FeatureTransition) (i : Fin n) :
    Keeps (@Guarded n Text g)
      (confirmFullChargeAssistAcRestore input texts i report transition) := by
  intro w h w' hw'
  unfold confirmFullChargeAssistAcRestore at hw'
  extract_lets visit left w₁ at hw'
  have hw₁ : w₁.Guarded g := by
    show (if left then _ else _ : World n Text).Guarded g
    split
    · exact h.remember (Memory.guard_releaseFullChargeAssistCharge _ _)
    · exact h
  rcases List.mem_cons.mp hw' with rfl | hlifted
  · exact hw₁
  · exact hw₁.liftAssist .confirm _ w' hlifted

/-- A device is claimed with its record, its exits and its assist. -/
theorem guarded_claimDevice (transition : FeatureTransition)
    (previous : Fin n → Option DeviceRuntimeIntent) (i : Fin n) :
    Keeps (@Guarded n Text g) (claimDevice input texts transition previous i) := by
  unfold claimDevice
  split
  · exact keeps_once fun w h => h.remember rfl
  · rename_i report _
    have hmode : Keeps (@Guarded n Text g)
        (reconcileAcModeIntent input texts i report transition) :=
      fun w h => h.liftAssist .claims _
    exact (keeps_once fun w h => h.claim report).andThen (hmode.andThen
      ((keeps_once fun w h => h.observeRestore report).andThen
        ((guarded_confirmFullChargeAssistAcRestore texts report transition i).andThen
          (keeps_once fun w h => h.handProperties))))

omit [DecidableEq Text] in
theorem guarded_reconcileDeviceStateLimits (i : Fin n) :
    Keeps (@Guarded n Text g) (reconcileDeviceStateLimits input i) := by
  unfold reconcileDeviceStateLimits
  split
  · exact keeps_skip
  · exact (keeps_once fun w h => h.handProperties).andThen (keeps_once fun w h => h.handProperties)

omit [DecidableEq Text] in
/-- The interval of the reconciliation has a counter of its own. -/
theorem guarded_reconcileSocLimits :
    Keeps (@Guarded n Text g) (reconcileSocLimits input) := by
  intro w h w' hw'
  have hcounted : (w.countSocReconcile input).1.Guarded g := by
    unfold countSocReconcile
    split_ifs <;> exact h
  unfold reconcileSocLimits at hw'
  rcases List.mem_cons.mp hw' with rfl | hreconciled
  · exact hcounted
  · split at hreconciled
    · exact Keeps.forEach guarded_reconcileDeviceStateLimits _ _ hcounted w' hreconciled
    · cases hreconciled

omit [DecidableEq Text] in
theorem guarded_applyRuntimeDevice (i : Fin n) :
    Keeps (@Guarded n Text g) (applyRuntimeDevice input i) := by
  unfold applyRuntimeDevice
  split
  · exact keeps_skip
  · refine Keeps.andThen (keeps_once fun w h => h.handProperties) (Keeps.forEach ?_ _)
    intro changes
    exact keeps_once fun w h => h.handProperties

end

/-! ### The ends of charges -/

/-- A charge that ends is held on its record alone. -/
theorem Guarded.holdFullChargeAssistCharge (h : w.Guarded g) (now : ℚ) :
    (w.holdFullChargeAssistCharge input i now).1.Guarded g := by
  unfold World.holdFullChargeAssistCharge
  dsimp only
  split
  · exact h
  · split
    · split
      · exact h.remember (Memory.guard_releaseFullChargeAssistCharge _ _)
      · exact h
    · split
      · exact h.remember rfl
      · split_ifs <;> exact h

theorem Guarded.fullChargeAssistExitDue (h : w.Guarded g) :
    (w.fullChargeAssistExitDue input i).1.Guarded g := by
  have hread : (w.readChargeRecord input i).Guarded g := by
    unfold World.readChargeRecord
    split
    · exact h
    · exact h.remember (Memory.guard_readFullChargeAssistCharge _ _ _ _)
  unfold World.fullChargeAssistExitDue
  dsimp only
  split_ifs
  · exact h
  · exact hread.holdFullChargeAssistCharge _
  · exact hread

/-- A target, with the note of the exit that it is. -/
theorem Guarded.setTarget (h : w.Guarded g) (moment : Moment) (value : ℚ)
    (chargeExit : Option Mqtt.ClientState.ChargeExit) :
    ((w.setOutputLimit input i moment value chargeExit).1.remember
      (·.noteUnprovenChargeExit i value
        (w.setOutputLimit input i moment value chargeExit).2)).Guarded g :=
  h.setOutputLimit.remember (Memory.guard_noteUnprovenChargeExit _ _ _ _)

theorem guarded_endChargeOnDisable (i : Fin n) :
    Keeps (@Guarded n Text g) (endChargeOnDisable input i) := by
  intro w h w' hw'
  have hdue : (w.fullChargeAssistExitDue input i).1.Guarded g := h.fullChargeAssistExitDue
  unfold endChargeOnDisable at hw'
  rcases List.mem_cons.mp hw' with rfl | hended
  · exact hdue
  · obtain rfl := List.mem_singleton.mp hended
    split
    · exact hdue.setOutputLimit.remember (Memory.guard_noteFullChargeAssistExit _ _ _ _)
    · unfold endChargeOnRecord
      dsimp only
      split_ifs
      · exact hdue
      · exact hdue
      · exact hdue
      · exact hdue
      · exact hdue.setTarget _ _ _

/-- **The release of the charges counts nothing**, not even after failed cycles. -/
theorem guarded_releaseChargingDevices (afterFailedCycles : Bool) :
    Keeps (@Guarded n Text g) (releaseChargingDevices input afterFailedCycles) := by
  refine Keeps.andThen (Keeps.forEach (fun i => keeps_once ?_) _) (keeps_once fun w h => h)
  intro w h
  unfold releaseChargingDevice
  dsimp only
  split
  · exact h
  · split
    · exact h
    · refine h.setOutputLimit.remember ?_
      split
      · exact Memory.guard_noteFullChargeAssistExit _ _ _ _
      · rfl

/-! ### The night idle and the targets -/

/-- Parking the devices for the night counts nothing. -/
theorem guarded_nightIdle : Keeps (@Guarded n Text g) (nightIdle input) := by
  refine Keeps.andThen (keeps_once fun w h => h) (Keeps.andThen ?_ ?_)
  · refine Keeps.forEach (fun i => keeps_once ?_) _
    intro w h
    unfold endChargeTheNightIdleDoesNotPark
    dsimp only
    split_ifs
    · exact h
    · exact h
    · exact h
    · exact h.setTarget _ _ _
  · refine Keeps.forEach (fun i => keeps_once ?_) _
    intro w h
    unfold applyNightMinSocIdleControl
    dsimp only
    split_ifs
    · exact h
    · exact h
    · exact h
    · exact h
    · exact h.setTarget _ _ _
    · exact h.setTarget _ _ _

theorem Guarded.settleTotal (h : w.Guarded g) : (w.settleTotal input).1.Guarded g := by
  have hinitial : (if w.memory.commandedTotalW.isNone then w.initializeCommandedTotal input
      else w).Guarded g := by
    split
    · exact h
    · exact h
  unfold World.settleTotal
  split
  · exact hinitial
  · exact hinitial.remember (Memory.guard_filterOutputControlLoad _ _ _)

theorem Guarded.takeChargeDecision (h : w.Guarded g) (commanded desired filtered : ℚ) :
    (w.takeChargeDecision input commanded desired filtered).Guarded g := h.remember rfl

theorem Guarded.dischargeTotalLeavingACharge (h : w.Guarded g) (total : ℚ) :
    (w.dischargeTotalLeavingACharge input total).1.Guarded g := by
  have hleaving : (w.devicesLeavingACharge input).Guarded g := h.remember rfl
  unfold World.dischargeTotalLeavingACharge
  dsimp only
  split
  · exact h
  · split
    · exact hleaving
    · exact hleaving.remember rfl

/-- The total is decided without it, and its direction. -/
theorem Guarded.decideTotal (h : w.Guarded g) : (w.decideTotal input).1.Guarded g := by
  unfold World.decideTotal
  dsimp only
  split
  · exact h.settleTotal.takeChargeDecision _ _ _
  · exact (h.settleTotal.takeChargeDecision _ _ _).dischargeTotalLeavingACharge _

theorem Guarded.rampTargets (h : w.Guarded g) (total : ℚ) :
    (w.rampTargets input total).1.Guarded g := h.remember rfl

theorem Guarded.leaveNightIdle (h : w.Guarded g) : w.leaveNightIdle.Guarded g := by
  refine h.remember ?_
  show (if w.memory.nightMinSocIdleActive then _ else _ : Memory n).guard = _
  split <;> rfl

theorem Guarded.updateNightMinSocIdleState (h : w.Guarded g) :
    (w.updateNightMinSocIdleState input).1.Guarded g := by
  have hend : w.endNightIdle.Guarded g := by
    unfold endNightIdle
    split
    · exact h.leaveNightIdle
    · exact h
  unfold World.updateNightMinSocIdleState
  dsimp only
  split_ifs
  · exact h.leaveNightIdle
  · exact h.leaveNightIdle
  · exact hend
  · exact h
  · exact hend

/-- **The regulation counts nothing**, whichever way it goes. -/
theorem guarded_regulate : Keeps (@Guarded n Text g) (regulate input) := by
  intro w h w' hw'
  have hidle : (w.updateNightMinSocIdleState input).1.Guarded g := h.updateNightMinSocIdleState
  rcases List.mem_cons.mp hw' with rfl | hafter
  · exact hidle
  · split at hafter
    · exact guarded_nightIdle _ hidle w' hafter
    · have hdecided : (((w.updateNightMinSocIdleState input).1.decideTotal input).1).Guarded g :=
        hidle.decideTotal
      rcases List.mem_cons.mp hafter with rfl | hramped
      · exact hdecided
      · have hcommanded := @Guarded.rampTargets n Text input g _ hdecided
          ((w.updateNightMinSocIdleState input).1.decideTotal input).2
        rcases List.mem_cons.mp hramped with rfl | happlied
        · exact hcommanded
        · refine Keeps.forEach (fun i => keeps_once ?_) _ _ ?_ w' happlied
          · intro w h
            unfold applyTarget
            dsimp only
            split_ifs
            · exact h
            · exact h
            · exact h.setTarget _ _ _
          · exact hcommanded

/-! ### Whole cycles -/

/-- The meter and the switch are all that is noted first. -/
theorem guarded_readCycle : Keeps (@Guarded n Text g) (readCycle input) := by
  refine Keeps.andThen (keeps_once ?_) (Keeps.andThen (keeps_once ?_)
    (Keeps.andThen (keeps_once fun w h => h) (keeps_once fun w h => h)))
  · intro w h
    exact h.remember (Memory.guard_updateGridMeterHolding _ _)
  · intro w h
    refine h.remember ?_
    dsimp only
    split_ifs <;> rfl

variable [DecidableEq Text] (texts : TimeTexts Text)

/-- Preparing the devices counts nothing. -/
theorem guarded_prepareDevices (transition : FeatureTransition)
    (previous : Fin n → Option DeviceRuntimeIntent) :
    Keeps (@Guarded n Text g) (prepareDevices input texts transition previous) := by
  have hclaims : Keeps (@Guarded n Text g) (claimDevices input texts transition previous) :=
    (Keeps.forEach (guarded_processFullChargeAssist texts transition) _).andThen
      ((keeps_once fun w h => h.remember rfl).andThen
        (Keeps.forEach (guarded_claimDevice texts transition previous) _))
  have hreconcile : Keeps (@Guarded n Text g) (reconcileDevices input) :=
    guarded_reconcileSocLimits.andThen ((Keeps.forEach guarded_applyRuntimeDevice _).andThen
      (Keeps.forEach guarded_endChargeOnDisable _))
  exact hclaims.andThen (hreconcile.andThen (keeps_once fun w h => h))

/-- **A cycle leaves the count of failed cycles alone, wherever it stops.** -/
theorem guarded_runOnce : Keeps (@Guarded n Text g) (runOnce input texts) := by
  intro w h
  exact (guarded_readCycle.andThen ((guarded_prepareDevices texts _ _).andThen guarded_regulate)) w h

end World

end SolarFlowEms.Controller
