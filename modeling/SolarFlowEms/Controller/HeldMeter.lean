import SolarFlowEms.AssistNeverForgotten
import SolarFlowEms.Controller.OffIsOff

/-!
# A held meter reading sizes nothing

While the grid meter serves its last value the total is held, and neither the charge decision nor
the house load of a charge that is left reads the meter.  Two runs of such a cycle over different
held values are therefore the same, step by step, with one exception: the device ramp still asks
whether the held value is a large import or export, and then moves a device by more.

No charge is entered in such a cycle either, where a charge needs any surplus to start and the
observations of earlier cycles do not already suffice.
-/

namespace SolarFlowEms.Controller

open Interrupted Steps ChargeDirection World

variable {n : ℕ} {Text : Type}

/-- The cycle with another value of the meter. -/
def CycleInput.withLoad (input : CycleInput n) (load : ℚ) : CycleInput n :=
  { input with load := load }

/-- The event with another value of the meter. -/
def Event.withLoad (load : ℚ) : Event n → Event n
  | .cycle input => .cycle (input.withLoad load)
  | .guarded input raisesAfter => .guarded (input.withLoad load) raisesAfter
  | .stop input => .stop (input.withLoad load)

/-! ### Where the load is read -/

namespace CycleInput

variable (input : CycleInput n)

/-- What a large import or export makes of the limits of the device ramp. -/
def deviceRampMultiplier : ℚ :=
  if input.outputControlBypassActive then input.settings.deviceRamp.bypassRampMultiplier else 1

def deviceRampUp : ℚ :=
  input.settings.deviceRamp.deviceRampUpWPerCycle * input.deviceRampMultiplier

def deviceRampDown : ℚ :=
  input.settings.deviceRamp.deviceRampDownWPerCycle * input.deviceRampMultiplier

/-- The device ramp is off, or two values of the meter leave it the same limits. -/
def RampsAlike (load load' : ℚ) : Prop :=
  input.settings.deviceRamp.deviceRampEnabled = false ∨
    ((input.withLoad load).deviceRampUp = (input.withLoad load').deviceRampUp ∧
      (input.withLoad load).deviceRampDown = (input.withLoad load').deviceRampDown)

end CycleInput

theorem rampDevice_rawLoad (cycle : DeviceRamp.Cycle n) (load : ℚ)
    (h : cycle.control.deviceRampEnabled = false ∨
      ({ cycle with rawLoad := load }.upLimit = cycle.upLimit ∧
        { cycle with rawLoad := load }.downLimit = cycle.downLimit)) :
    { cycle with rawLoad := load }.rampDevice = cycle.rampDevice := by
  funext commanded i
  unfold DeviceRamp.Cycle.rampDevice
  rcases h with hoff | ⟨hup, hdown⟩
  · dsimp only
    rw [hoff, Bool.not_false, if_pos rfl, if_pos rfl]
    rfl
  · have hmove : { cycle with rawLoad := load }.rampedMove = cycle.rampedMove := by
      funext previous target
      unfold DeviceRamp.Cycle.rampedMove
      rw [hup, hdown]
    rw [hmove]
    rfl

theorem decideChargeDirection_desired {previous : ChargeDirectionState}
    (hcharging : previous.charging = false) (desired : ℚ) (cycle : Cycle)
    (settings : ChargeDirectionSettings) :
    decideChargeDirection previous { cycle with desiredTotalW := desired } settings =
      decideChargeDirection previous cycle settings := by
  unfold decideChargeDirection asksForCharge
  simp only [hcharging, Bool.false_eq_true, if_false]

namespace World

variable {input : CycleInput n} {load load' : ℚ}

theorem rampTargets_withLoad (h : input.RampsAlike load load') (w : World n Text) (total : ℚ) :
    w.rampTargets (input.withLoad load) total = w.rampTargets (input.withLoad load') total := by
  have hramp : (w.rampCycle (input.withLoad load) (w.allocatedTargets input total)).rampDevice =
      (w.rampCycle (input.withLoad load') (w.allocatedTargets input total)).rampDevice :=
    rampDevice_rawLoad (w.rampCycle (input.withLoad load') (w.allocatedTargets input total)) load h
  have hcommanded : ∀ commanded : DeviceRamp.CommandedTargets n,
      DeviceRamp.step commanded (.controlCycle
        (w.rampCycle (input.withLoad load) (w.allocatedTargets input total))) =
      DeviceRamp.step commanded (.controlCycle
        (w.rampCycle (input.withLoad load') (w.allocatedTargets input total))) := by
    intro commanded
    funext i
    exact congrArg some (congrFun (congrFun hramp commanded) i)
  have heffective : (w.rampCycle (input.withLoad load)
        (w.allocatedTargets input total)).effectiveControlTargets =
      (w.rampCycle (input.withLoad load')
        (w.allocatedTargets input total)).effectiveControlTargets := by
    funext commanded i
    unfold DeviceRamp.Cycle.effectiveControlTargets DeviceRamp.Cycle.applyDeviceRamp
    rw [hramp]
    rfl
  refine Prod.ext ?_ (congrFun heffective w.memory.commandedDeviceTargets)
  unfold rampTargets
  dsimp only
  refine congrArg w.remember ?_
  funext m
  exact congrArg (fun commanded => { m with commandedDeviceTargets := commanded }) (hcommanded _)

variable {w : World n Text}

section

variable (hholding : w.memory.gridMeterHolding = true)
include hholding

theorem settleTotal_of_holding :
    w.settleTotal input =
      (if w.memory.commandedTotalW.isNone then w.initializeCommandedTotal input else w,
        min ((if w.memory.commandedTotalW.isNone then w.initializeCommandedTotal input
          else w).memory.commandedTotalW.getD 0) input.settings.maxTotalPower) := by
  unfold settleTotal
  rw [if_pos hholding]

theorem holding_settleTotal :
    (w.settleTotal input).1.memory.noted = w.memory.noted := by
  rw [settleTotal_of_holding hholding]
  dsimp only
  split
  · rfl
  · rfl

theorem dischargeTotalLeavingACharge_of_holding (total : ℚ) :
    w.dischargeTotalLeavingACharge input total = (w, total) := by
  unfold dischargeTotalLeavingACharge
  rw [if_pos hholding]

/-- The decision of a cycle that holds the total. -/
def heldDecision (input : CycleInput n) (w : World n Text) : World n Text :=
  let settled := w.settleTotal input
  settled.1.takeChargeDecision input settled.2 (settled.1.memory.desiredTotalW.getD settled.2)
    (settled.1.memory.filteredLoadW.getD 0)

theorem decideTotal_of_holding :
    w.decideTotal input = (w.heldDecision input, (w.settleTotal input).2) := by
  have hheld : (w.heldDecision input).memory.gridMeterHolding = true := by
    show (w.settleTotal input).1.memory.noted.gridMeterHolding = true
    rw [holding_settleTotal hholding]
    exact hholding
  unfold decideTotal
  dsimp only
  split
  · rfl
  · exact dischargeTotalLeavingACharge_of_holding hheld _

theorem settleTotal_withLoad :
    w.settleTotal (input.withLoad load) = w.settleTotal input := by
  have hseed : w.initializeCommandedTotal (input.withLoad load) =
      w.initializeCommandedTotal input := rfl
  rw [settleTotal_of_holding hholding, settleTotal_of_holding hholding, hseed]
  rfl

theorem heldDecision_withLoad :
    w.heldDecision (input.withLoad load) = w.heldDecision input := by
  have hdecision : ∀ (u : World n Text) commanded desired filtered,
      u.takeChargeDecision (input.withLoad load) commanded desired filtered =
        u.takeChargeDecision input commanded desired filtered := fun _ _ _ _ => rfl
  unfold heldDecision
  rw [settleTotal_withLoad hholding]
  exact hdecision _ _ _ _

/-- **The total is held whatever the meter shows.** -/
theorem decideTotal_withLoad :
    w.decideTotal (input.withLoad load) = w.decideTotal input := by
  rw [decideTotal_of_holding hholding, decideTotal_of_holding hholding,
    heldDecision_withLoad hholding, settleTotal_withLoad hholding]

theorem takeChargeDecision_of_holding
    (hcharging : w.memory.chargeDirection.charging = false) (commanded desired desired' load load' : ℚ) :
    w.takeChargeDecision input commanded desired load =
      w.takeChargeDecision input commanded desired' load' := by
  unfold takeChargeDecision
  rw [if_pos hholding, if_pos hholding]
  exact congrArg (fun decision : ChargeDirectionDecision =>
    w.remember fun m => { m with chargeDirection := decision.state })
    (decideChargeDirection_desired hcharging desired
      { chargingPossible :=
          decide (∃ i, w.chargeable input i = true) && input.gridMeterReadingIsFresh
        commandedTotalW := commanded
        desiredTotalW := desired'
        filteredLoadW := 0 + max 0 (w.releasableOutputW input)
        now := input.readings.directionNow } _)

end

theorem noted_leaveNightIdle (w : World n Text) : w.leaveNightIdle.memory.noted = w.memory.noted := by
  show (if w.memory.nightMinSocIdleActive then w.memory.resetOutputControlState
    else w.memory).noted = w.memory.noted
  split
  · rfl
  · rfl

theorem noted_endNightIdle (w : World n Text) : w.endNightIdle.memory.noted = w.memory.noted := by
  unfold endNightIdle
  split
  · exact noted_leaveNightIdle w
  · rfl

theorem noted_updateNightMinSocIdleState (w : World n Text) :
    (w.updateNightMinSocIdleState input).1.memory.noted = w.memory.noted ∧
      ((w.updateNightMinSocIdleState input).2 = true →
        w.memory.chargeDirection.charging = false) := by
  unfold updateNightMinSocIdleState
  dsimp only
  split
  · exact ⟨noted_leaveNightIdle w, fun hidle => absurd hidle Bool.false_ne_true⟩
  · split
    · exact ⟨noted_leaveNightIdle w, fun hidle => absurd hidle Bool.false_ne_true⟩
    · split
      · exact ⟨noted_endNightIdle w, fun hidle => absurd hidle Bool.false_ne_true⟩
      · rename_i hcharging
        split
        · exact ⟨rfl, fun _ => by simpa using hcharging⟩
        · exact ⟨noted_endNightIdle w, fun hidle => absurd hidle Bool.false_ne_true⟩

/-- **What regulates a cycle over a held meter does not read it**, but for the ramp's limits. -/
theorem regulate_withLoad (hholding : w.memory.gridMeterHolding = true)
    (h : input.RampsAlike load load' ∨ (w.updateNightMinSocIdleState input).2 = true) :
    regulate (input.withLoad load) w = regulate (input.withLoad load') w := by
  obtain ⟨hnoted, hcharging⟩ := @noted_updateNightMinSocIdleState n Text input w
  have hheld : (w.updateNightMinSocIdleState input).1.memory.gridMeterHolding = true := by
    show (w.updateNightMinSocIdleState input).1.memory.noted.gridMeterHolding = true
    rw [hnoted]
    exact hholding
  have hload : ∀ load, regulate (input.withLoad load) w =
      (w.updateNightMinSocIdleState input).1 ::
        if (w.updateNightMinSocIdleState input).2 then
          nightIdle (input.withLoad load) (w.updateNightMinSocIdleState input).1
        else regulateTargets (input.withLoad load) (w.updateNightMinSocIdleState input).1 :=
    fun _ => rfl
  rw [hload, hload]
  congr 1
  split
  · rename_i hidle
    have hdirection : (w.updateNightMinSocIdleState input).1.memory.chargeDirection.charging =
        false := by
      show (w.updateNightMinSocIdleState input).1.memory.noted.chargeDirection.charging = false
      rw [hnoted]
      exact hcharging hidle
    have hdecision : (w.updateNightMinSocIdleState input).1.takeChargeDecision
          (input.withLoad load) 0 load load =
        (w.updateNightMinSocIdleState input).1.takeChargeDecision
          (input.withLoad load') 0 load' load' :=
      takeChargeDecision_of_holding hheld hdirection 0 load load' load load'
    have hidles : ∀ (u : World n Text) load, nightIdle (input.withLoad load) u =
        u.takeChargeDecision (input.withLoad load) 0 load load ::
          parkDevices input (u.takeChargeDecision (input.withLoad load) 0 load load) :=
      fun _ _ => rfl
    rw [hidles, hidles, hdecision]
  · rename_i hidle
    have hramps := h.resolve_right hidle
    have htargets : ∀ (u : World n Text) load, regulateTargets (input.withLoad load) u =
        applyTargets input (u.decideTotal (input.withLoad load)).1
          ((u.decideTotal (input.withLoad load)).1.rampTargets (input.withLoad load)
            (u.decideTotal (input.withLoad load)).2) := fun _ _ => rfl
    rw [htargets, htargets, decideTotal_withLoad hheld, decideTotal_withLoad hheld,
      rampTargets_withLoad hramps]

end World

/-! ### Whole events -/

namespace World

variable {input : CycleInput n} [DecidableEq Text] (texts : TimeTexts Text)

/-- The world before the regulation of a cycle. -/
def prepared (input : CycleInput n) (w : World n Text) : World n Text :=
  (prepareDevices input texts
    (fullChargeAssistFeatureTransition input.settings.assist.enabled w.assist.store.featureEnabled)
    w.memory.runtimeIntents).final ((readCycle input).final w)

def idles (input : CycleInput n) (w : World n Text) : Bool :=
  ((w.prepared texts input).updateNightMinSocIdleState input).2

omit [DecidableEq Text] in
theorem noted_noteControlEnabled (w : World n Text) :
    (w.noteControlEnabled input).memory.gridMeterHolding = w.memory.gridMeterHolding ∧
      ((w.noteControlEnabled input).memory.chargeDirection = w.memory.chargeDirection ∨
        (w.noteControlEnabled input).memory.chargeDirection =
          ⟨false, [], w.memory.chargeDirection.entries⟩) := by
  unfold noteControlEnabled remember
  dsimp only
  split_ifs
  · exact ⟨rfl, .inl rfl⟩
  · exact ⟨rfl, .inr rfl⟩
  · exact ⟨rfl, .inl rfl⟩

omit [DecidableEq Text] in
theorem noted_readCycle (w : World n Text) :
    ((readCycle input).final w).memory.gridMeterHolding = input.staleUsed ∧
      (((readCycle input).final w).memory.chargeDirection = w.memory.chargeDirection ∨
        ((readCycle input).final w).memory.chargeDirection =
          ⟨false, [], w.memory.chargeDirection.entries⟩) := by
  have hmeter : (w.memory.updateGridMeterHolding input).gridMeterHolding = input.staleUsed ∧
      (w.memory.updateGridMeterHolding input).chargeDirection = w.memory.chargeDirection := by
    unfold Memory.updateGridMeterHolding
    split
    · exact ⟨rfl, rfl⟩
    · rename_i hsame
      exact ⟨(not_not.mp hsame).symm, rfl⟩
  obtain ⟨hholding, hdirection⟩ := @noted_noteControlEnabled n Text input
    (w.remember (·.updateGridMeterHolding input))
  refine ⟨hholding.trans hmeter.1, ?_⟩
  rw [← hmeter.2]
  exact hdirection

theorem noted_prepared (w : World n Text) :
    (w.cleared.prepared texts input).memory.noted =
      ((readCycle input).final w.cleared).memory.noted := by
  have hcleared : w.cleared.AllPermitted input.settings := by
    intro handed hhanded
    cases hhanded
  exact ((keeps_prepareDevices texts _ _).final hcleared.readCycle).noted_eq

theorem holding_prepared (w : World n Text) (hstale : input.staleUsed = true) :
    (w.cleared.prepared texts input).memory.gridMeterHolding = true := by
  show (w.cleared.prepared texts input).memory.noted.gridMeterHolding = true
  rw [noted_prepared]
  exact (noted_readCycle w.cleared).1.trans hstale

theorem runOnce_withLoad {load load' : ℚ} (w : World n Text) (hstale : input.staleUsed = true)
    (h : input.RampsAlike load load' ∨ w.cleared.idles texts input = true) :
    runOnce (input.withLoad load) texts w.cleared = runOnce (input.withLoad load') texts w.cleared := by
  have hsteps : ∀ load, runOnce (input.withLoad load) texts w.cleared =
      readCycle input w.cleared ++
        (prepareDevices input texts (fullChargeAssistFeatureTransition
          input.settings.assist.enabled w.assist.store.featureEnabled) w.memory.runtimeIntents
            ((readCycle input).final w.cleared) ++
          regulate (input.withLoad load) (w.cleared.prepared texts input)) := fun _ => rfl
  rw [hsteps, hsteps, regulate_withLoad (holding_prepared texts w hstale) h]

end World

/-- Two values of a held meter leave an event the same. -/
def Event.Alike [DecidableEq Text] (texts : TimeTexts Text) (w : World n Text) (load load' : ℚ)
    (event : Event n) : Prop :=
  event.input.RampsAlike load load' ∨ w.cleared.idles texts event.input = true

theorem Event.steps_withLoad [DecidableEq Text] (texts : TimeTexts Text) (w : World n Text)
    (event : Event n) {load load' : ℚ} (hstale : event.input.staleUsed = true)
    (h : event.Alike texts w load load') :
    (event.withLoad load).steps texts w.cleared = (event.withLoad load').steps texts w.cleared := by
  cases event with
  | cycle input => exact runOnce_withLoad texts w hstale h
  | guarded input raisesAfter =>
    have hcycle : runOnce (input.withLoad load) texts w.cleared =
        runOnce (input.withLoad load') texts w.cleared :=
      runOnce_withLoad texts w hstale h
    cases raisesAfter with
    | none =>
      show runOnce (input.withLoad load) texts w.cleared ++
          [cycleRanThrough input
            ((runOnce (input.withLoad load) texts).final w.cleared)] =
        runOnce (input.withLoad load') texts w.cleared ++
          [cycleRanThrough input
            ((runOnce (input.withLoad load') texts).final w.cleared)]
      unfold Steps.final
      rw [hcycle]
    | some count =>
      show (runOnce (input.withLoad load) texts w.cleared).take count ++
          cycleFailed input
            (((runOnce (input.withLoad load) texts w.cleared).take count).getLastD w.cleared) =
        (runOnce (input.withLoad load') texts w.cleared).take count ++
          cycleFailed input
            (((runOnce (input.withLoad load') texts w.cleared).take count).getLastD w.cleared)
      rw [hcycle]
  | stop input =>
    have hrelease : ∀ load, @releaseChargingDevices n Text (input.withLoad load) false =
        releaseChargingDevices input false := fun _ => rfl
    show releaseChargingDevices (input.withLoad load) false w.cleared =
      releaseChargingDevices (input.withLoad load') false w.cleared
    rw [hrelease, hrelease]

/-! ### No entry -/

/-- The observations of earlier cycles suffice for an entry, whatever the next one asks for. -/
def confirmedBefore (settings : ChargeDirectionSettings)
    (state : ChargeDirectionState) : Bool :=
  entryConfirmed
    (recordEntryObservation state false settings) settings

theorem confirmedBefore_fresh (settings : ChargeDirectionSettings)
    (entries : List ℚ) : confirmedBefore settings ⟨false, [], entries⟩ = false := by
  have hcount : (([] ++ [false] : List Bool).rtake settings.entryWindow).count true = 0 := by
    refine List.count_eq_zero.mpr ?_
    intro hmem
    have hnone : true ∈ ([] ++ [false] : List Bool) := List.mem_of_mem_drop hmem
    simp at hnone
  have hrequired : 0 < settings.requiredCycles := by
    unfold ChargeDirectionSettings.requiredCycles
    omega
  show decide (settings.requiredCycles ≤
    (([] ++ [false] : List Bool).rtake settings.entryWindow).count true) = false
  rw [hcount]
  exact decide_eq_false (by omega)

theorem charging_decideChargeDirection {previous : ChargeDirectionState}
    {cycle : Cycle} {settings : ChargeDirectionSettings}
    (hcharging : previous.charging = false)
    (h : cycle.chargingPossible = false ∨
      (asksForCharge cycle settings = false ∧
        confirmedBefore settings previous = false)) :
    (decideChargeDirection previous cycle settings).state.charging = false := by
  unfold decideChargeDirection
  cases hpossible : cycle.chargingPossible with
  | false => rfl
  | true =>
    obtain ⟨hasks, hbefore⟩ := h.resolve_left (by rw [hpossible]; exact Bool.noConfusion)
    have hconfirmed : entryConfirmed (recordEntryObservation
        ⟨false, previous.entryWindow, recentEntries previous.entries cycle.now⟩
        (asksForCharge cycle settings) settings) settings = false := by
      rw [hasks]
      exact hbefore
    simp only [Bool.not_true, Bool.false_eq_true, if_false, hcharging, hconfirmed, Bool.not_false,
      if_true]
    rfl

/-- Neither the held value nor earlier observations enter a charge: the meter has been held for
too long to charge at all, or a charge needs some surplus to start and was not confirmed before. -/
def Event.EntersNothing (w : World n Text) (event : Event n) : Prop :=
  event.input.gridMeterReadingIsFresh = false ∨
    (0 < event.input.settings.chargeDirection.startW ∧
      confirmedBefore event.input.settings.chargeDirection w.memory.chargeDirection = false)

namespace World

def NotCharging (w : World n Text) : Prop := w.memory.chargeDirection.charging = false

variable {input : CycleInput n} {noted : Noted}

/-- **A held reading is no entry observation**, where a charge needs any surplus to start. -/
theorem charging_takeChargeDecision {w : World n Text}
    (hholding : w.memory.gridMeterHolding = true)
    (hcharging : w.memory.chargeDirection.charging = false)
    (h : Event.EntersNothing w (.cycle input)) (commanded desired load : ℚ) :
    (w.takeChargeDecision input commanded desired load).memory.chargeDirection.charging = false := by
  unfold takeChargeDecision
  refine charging_decideChargeDirection hcharging ?_
  rcases h with hstale | ⟨hstart, hbefore⟩
  · left
    dsimp only
    rw [show input.gridMeterReadingIsFresh = false from hstale, Bool.and_false]
  · right
    refine ⟨?_, hbefore⟩
    unfold asksForCharge
    rw [if_pos hholding]
    have hrelease : (0 : ℚ) ≤ (max 0 (w.releasableOutputW input) : ℤ) := by
      exact_mod_cast le_max_left 0 (w.releasableOutputW input)
    have hfar : ¬(0 + ((max 0 (w.releasableOutputW input) : ℤ) : ℚ) ≤
        -input.settings.chargeDirection.startW) := by
      have hstart' : 0 < input.settings.chargeDirection.startW := hstart
      exact not_le.mpr (by linarith)
    dsimp only
    rw [decide_eq_false hfar, Bool.and_false]

theorem keeps_noted_parkDevices :
    Keeps (fun w : World n Text => w.memory.noted = noted) (parkDevices input) := by
  refine Keeps.andThen (Keeps.forEach (fun i => keeps_once ?_) _)
    (Keeps.forEach (fun i => keeps_once ?_) _)
  · intro w hw
    unfold endChargeTheNightIdleDoesNotPark
    dsimp only
    split_ifs
    · exact hw
    · exact hw
    · exact hw
    · show ((w.setOutputLimit input i .idleExit 0 _).1.memory.noteUnprovenChargeExit i 0 _).noted = _
      rw [Memory.noteUnprovenChargeExit_noted, setOutputLimit_memory]
      exact hw
  · intro w hw
    unfold applyNightMinSocIdleControl
    dsimp only
    split_ifs
    · exact hw
    · exact hw
    · exact hw
    · exact hw
    · show ((w.setOutputLimit input i .idlePark _ _).1.memory.noteUnprovenChargeExit i _ _).noted = _
      rw [Memory.noteUnprovenChargeExit_noted, setOutputLimit_memory]
      exact hw
    · show ((w.setOutputLimit input i .idlePark _ _).1.memory.noteUnprovenChargeExit i _ _).noted = _
      rw [Memory.noteUnprovenChargeExit_noted, setOutputLimit_memory]
      exact hw

theorem keeps_noted_applyTarget (target : Fin n → ℚ) (i : Fin n) :
    Keeps (fun w : World n Text => w.memory.noted = noted)
      (Steps.once (applyTarget input target i)) := by
  refine keeps_once ?_
  intro w hw
  unfold applyTarget
  dsimp only
  split_ifs
  · exact hw
  · exact hw
  · show ((w.setOutputLimit input i .apply _ _).1.memory.noteUnprovenChargeExit i _ _).noted = _
    rw [Memory.noteUnprovenChargeExit_noted, setOutputLimit_memory]
    exact hw

/-- **A cycle over a held meter enters no charge**, in any of the states that it passes through. -/
theorem regulate_not_charging {w : World n Text} (hholding : w.memory.gridMeterHolding = true)
    (hcharging : w.memory.chargeDirection.charging = false)
    (h : Event.EntersNothing w (.cycle input)) :
    ∀ w' ∈ regulate input w, w'.memory.chargeDirection.charging = false := by
  obtain ⟨hnoted, -⟩ := @noted_updateNightMinSocIdleState n Text input w
  have hidle : ∀ u : World n Text, u.memory.noted = w.memory.noted →
      u.memory.gridMeterHolding = true ∧ u.memory.chargeDirection.charging = false ∧
        Event.EntersNothing u (.cycle input) := by
    intro u hu
    have hmeter : u.memory.gridMeterHolding = w.memory.gridMeterHolding :=
      congrArg Noted.gridMeterHolding hu
    have hdirection : u.memory.chargeDirection = w.memory.chargeDirection :=
      congrArg Noted.chargeDirection hu
    refine ⟨hmeter.trans hholding, by rw [hdirection]; exact hcharging, ?_⟩
    unfold Event.EntersNothing
    rw [hdirection]
    exact h
  have hkept : ∀ {u v : World n Text}, u.memory.chargeDirection.charging = false →
      v.memory.noted = u.memory.noted → v.memory.chargeDirection.charging = false := by
    intro u v hu hv
    rw [show v.memory.chargeDirection = u.memory.chargeDirection from
      congrArg Noted.chargeDirection hv]
    exact hu
  obtain ⟨hheld, hout, henters⟩ := hidle _ hnoted
  intro w' hw'
  rcases List.mem_cons.mp hw' with rfl | hafter
  · exact hout
  · split at hafter
    · have hdecided := charging_takeChargeDecision hheld hout henters 0 input.load input.load
      rcases List.mem_cons.mp hafter with rfl | hparked
      · exact hdecided
      · exact hkept hdecided (keeps_noted_parkDevices _ rfl w' hparked)
    · obtain ⟨hheld', hout', henters'⟩ := hidle _ ((@holding_settleTotal n Text input _ hheld).trans hnoted)
      have hdecided : ((w.updateNightMinSocIdleState input).1.decideTotal
          input).1.memory.chargeDirection.charging = false := by
        rw [decideTotal_of_holding hheld]
        exact charging_takeChargeDecision hheld' hout' henters' _ _ _
      rcases List.mem_cons.mp hafter with rfl | hramped
      · exact hdecided
      · rcases List.mem_cons.mp hramped with rfl | happlied
        · exact hdecided
        · have hramp : ((w.updateNightMinSocIdleState input).1.decideTotal input).1.memory.noted =
              (((w.updateNightMinSocIdleState input).1.decideTotal input).1.rampTargets input
                ((w.updateNightMinSocIdleState input).1.decideTotal input).2).1.memory.noted := rfl
          exact hkept hdecided (Keeps.forEach (keeps_noted_applyTarget _) _ _ hramp.symm w' happlied)

theorem keeps_releaseChargingDevices_noted (afterFailedCycles : Bool) :
    Keeps (@NotCharging n Text)
      (releaseChargingDevices input afterFailedCycles) := by
  refine Keeps.andThen (Keeps.forEach (fun i => keeps_once ?_) _) (keeps_once ?_)
  · intro w hw
    unfold releaseChargingDevice
    dsimp only
    split
    · exact hw
    · split
      · exact hw
      · show (if _ then _ else _ : Memory n).chargeDirection.charging = false
        have hwritten := @setOutputLimit_memory n Text input w i .release 0 (some .final)
        split
        · show ((w.setOutputLimit input i .release 0 _).1.memory.noteFullChargeAssistExit i _
            _).noted.chargeDirection.charging = false
          rw [Memory.noteFullChargeAssistExit_noted, hwritten]
          exact hw
        · rw [hwritten]
          exact hw
  · intro w _
    rfl

theorem keeps_cycleFailed_notCharging :
    Keeps (@NotCharging n Text)
      (cycleFailed input) := by
  intro w hw w' hw'
  unfold cycleFailed at hw'
  rcases List.mem_cons.mp hw' with rfl | hafter
  · exact hw
  · split at hafter
    · refine Keeps.andThen (keeps_releaseChargingDevices_noted true) (keeps_once ?_) _ ?_ w' hafter
      · exact fun w hw => hw
      · exact hw
    · obtain rfl := List.mem_singleton.mp hafter
      exact hw

theorem keeps_cycleRanThrough_notCharging :
    Keeps (@NotCharging n Text)
      (Steps.once (cycleRanThrough input)) := by
  refine keeps_once ?_
  intro w hw
  unfold cycleRanThrough endAssistAcInputWithhold
  dsimp only
  split
  · exact hw
  · split_ifs <;> exact hw

variable [DecidableEq Text] (texts : TimeTexts Text)

theorem runOnce_not_charging {w : World n Text} (hstale : input.staleUsed = true)
    (hcharging : w.memory.chargeDirection.charging = false)
    (h : Event.EntersNothing w (.cycle input)) :
    ∀ w' ∈ runOnce input texts w.cleared, w'.NotCharging := by
  have hread : Keeps (@NotCharging n Text)
      (readCycle input) := by
    refine Keeps.andThen (keeps_once ?_) (Keeps.andThen (keeps_once ?_)
      (Keeps.andThen (keeps_once ?_) (keeps_once ?_)))
    · intro w hw
      show (w.memory.updateGridMeterHolding input).chargeDirection.charging = false
      unfold Memory.updateGridMeterHolding
      split
      · exact hw
      · exact hw
    · intro w hw
      unfold NotCharging
      rcases (@noted_noteControlEnabled n Text input w).2 with hsame | hfresh
      · rw [hsame]
        exact hw
      · rw [hfresh]
    · exact fun w hw => hw
    · exact fun w hw => hw
  have hcleared : w.cleared.AllPermitted input.settings := by
    intro handed hhanded
    cases hhanded
  have hstart := @Keeps.final _ _ _ hread w.cleared hcharging
  intro w' hw'
  rcases List.mem_append.mp hw' with hfirst | hafter
  · exact hread w.cleared hcharging w' hfirst
  · have hprepare : Keeps (@PermittedAndNoted n Text input.settings
        ((readCycle input).final w.cleared).memory.noted)
        (prepareDevices input texts
          (fullChargeAssistFeatureTransition input.settings.assist.enabled
            w.cleared.assist.store.featureEnabled) w.cleared.memory.runtimeIntents) :=
      keeps_prepareDevices texts _ _
    have hreach : ∀ u : World n Text,
        u.PermittedAndNoted input.settings ((readCycle input).final w.cleared).memory.noted →
          u.memory.chargeDirection = ((readCycle input).final w.cleared).memory.chargeDirection :=
      fun u hu => congrArg Noted.chargeDirection hu.noted_eq
    have hbefore : ∀ u : World n Text,
        u.PermittedAndNoted input.settings ((readCycle input).final w.cleared).memory.noted →
          u.NotCharging := by
      intro u hu
      unfold NotCharging
      rw [hreach u hu]
      exact hstart
    have hregulate : ∀ u : World n Text,
        u.PermittedAndNoted input.settings ((readCycle input).final w.cleared).memory.noted →
          ∀ w' ∈ regulate input u, w'.NotCharging := by
      intro u hu
      have hholding : u.memory.gridMeterHolding = true :=
        (congrArg Noted.gridMeterHolding hu.noted_eq).trans
          ((noted_readCycle w.cleared).1.trans hstale)
      refine regulate_not_charging hholding (hbefore u hu) ?_
      rcases h with hold | ⟨hpositive, hconfirmed⟩
      · exact .inl hold
      · refine .inr ⟨hpositive, ?_⟩
        rw [hreach u hu]
        rcases (@noted_readCycle n Text input w.cleared).2 with hsame | hfresh
        · rw [hsame]
          exact hconfirmed
        · rw [hfresh]
          exact confirmedBefore_fresh _ _
    exact hprepare.then_reaches hbefore hregulate _ hcleared.readCycle w' hafter

end World

theorem Event.not_charging [DecidableEq Text] (texts : TimeTexts Text) {w : World n Text}
    {event : Event n} (hstale : event.input.staleUsed = true)
    (hcharging : w.memory.chargeDirection.charging = false) (h : event.EntersNothing w) :
    ∀ w' ∈ event.steps texts w.cleared, w'.NotCharging := by
  cases event with
  | cycle input => exact runOnce_not_charging texts hstale hcharging h
  | guarded input raisesAfter =>
    have hcycle := runOnce_not_charging texts hstale hcharging h
    cases raisesAfter with
    | none =>
      have hlast : ((runOnce input texts).final w.cleared).NotCharging :=
        final_of_forall hcharging hcycle
      intro w' hw'
      rcases List.mem_append.mp hw' with hduring | hafter
      · exact hcycle w' hduring
      · exact keeps_cycleRanThrough_notCharging _ hlast w' hafter
    | some count =>
      have hcut : ∀ w' ∈ (runOnce input texts w.cleared).take count, w'.NotCharging :=
        fun w' hw' => hcycle w' (List.mem_of_mem_take hw')
      have hlast : (Steps.final (fun w => (runOnce input texts w).take count)
          w.cleared).NotCharging := final_of_forall hcharging hcut
      intro w' hw'
      rcases List.mem_append.mp hw' with hduring | hafter
      · exact hcut w' hduring
      · exact keeps_cycleFailed_notCharging _ hlast w' hafter
  | stop input => exact keeps_releaseChargingDevices_noted false _ hcharging

/-- The settings of an installation with one device, control on and every gate open. -/
def oneDeviceSettings (acChargeControlEnabled : Bool) : Settings 1 where
  gates := ⟨false, false, false, true, true, true, true⟩
  enabled := true
  maxTotalPower := 800
  minOutputLimit := 0
  deadband := 2
  acChargeControlEnabled := acChargeControlEnabled
  maxTotalChargePowerW := 1200
  chargeDirection := ⟨150, 100, 5, 7, 12⟩
  deviceRamp := DeviceRamp.defaultOutputControl
  total := ⟨true, 2, true, 17 / 20, true, 50, 1, 5, 5, true, 500, 300, 1 / 2, 10⟩
  calculateTargets _ maxPower requestedTotal _ := max 0 (min maxPower requestedTotal)
  assist := ⟨false, 28, 7, 80, 840, true, 600⟩
  socReconcileInterval := 0
  reconcileSmartMode := false
  resendAfterS := 30
  device _ :=
    { dev := AssistWorld.dueDevice
      config := ⟨800, 1, 1, 2⟩
      enabled := true
      acChargeEnabled := true
      acDischargeEnabled := true
      modelSupportsCharge := true
      ratedChargePowerW := 800
      maxChargePowerW := 0
      chargeBoundedByMaxPower := false
      runtimeRole := ""
      runtimeRoleReason := ""
      acChargePowerW := none
      offgridSocketMode := none }
  names_distinct _ _ _ := Subsingleton.elim _ _

/-- Transports that hold no charge and answer every write. -/
def quietReadings : Readings 1 where
  view _ _ := ⟨false, false, false, false, false⟩
  now _ _ := 0
  directionNow := 0
  telemetryNow := 0
  reentryNow := 0
  propertyAnswer _ _ := .published
  targetAnswer _ _ := .accepted

/-- A cycle over a held meter; the device answers at half charge. -/
def heldCycle (settings : Settings 1) (load : ℚ) : CycleInput 1 where
  settings := settings
  now := ⟨0, some 0⟩
  fetchedAt := 100
  load := load
  meter := some ⟨true, true, some 4⟩
  reports _ := some { AssistWorld.dueReport with dcStatus := 2 }
  winterHeld _ := false
  winterMinSoc _ := none
  dueSettings _ := []
  readings := quietReadings

/-- A fresh controller. -/
def Memory.fresh (n : ℕ) : Memory n where
  runtimeIntents _ := none
  controlEnabled := none
  deviceOnline _ := true
  lastStates _ := none
  lastSeen _ := none
  acInputWatched _ := false
  chargesBeingLeft _ := false
  fullChargeAssistCharges _ := none
  commandedDeviceTargets _ := none
  commandedTotalW := none
  filteredLoadW := none
  desiredTotalW := none
  loadHistory := []
  gridMeterHolding := false
  chargeDirection := ⟨false, [], []⟩
  chargeCapacityW := 0
  deviceChargeLimits _ := 0
  nightMinSocIdleActive := false
  nightMinSocIdleParked _ := false
  socReconcileCounter := 0
  cycleFailures := 0
  cyclesThroughSinceRelease := none
  assistReentries := []

/-- A total of 800 W is commanded, and the device is still at 0. -/
def heldWorld : World 1 DateTime where
  memory :=
    { Memory.fresh 1 with
      commandedTotalW := some 800
      commandedDeviceTargets := fun _ => some 0 }
  assist := ⟨StateStore.opened Tables.Table.empty none, []⟩
  handed := []

end SolarFlowEms.Controller
