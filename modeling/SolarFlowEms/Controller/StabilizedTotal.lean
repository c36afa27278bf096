import SolarFlowEms.Controller.HeldMeter

/-!
# How far the commanded total moves in a cycle

`stabilized_total_target` sizes the total from the total of the last cycle.  Where the devices have
nothing left to export it is taken back to their standby output at once; otherwise it moves towards
what the filtered load asks for, no further than that and no further than the ramp lets it, and not
at all within a deadband.  The floor and the maximum clamp what comes of it.
-/

namespace SolarFlowEms.Controller

open Set

variable {n : ℕ} {Text : Type}

namespace World

variable (input : CycleInput n) (w : World n Text)

/-! ### The parts of `stabilized_total_target` -/

def started : World n Text :=
  if w.memory.commandedTotalW.isNone then w.initializeCommandedTotal input else w

def previousTotal : ℚ := (w.started input).memory.commandedTotalW.getD 0

def filtered : World n Text :=
  (w.started input).remember fun _ =>
    ((w.started input).memory.filterOutputControlLoad input.settings.total input.load).1

def filteredLoad : ℚ :=
  ((w.started input).memory.filterOutputControlLoad input.settings.total input.load).2

/-- The hold for missing export capacity: the house asks for output, no device has any left, and
no charge is going on. -/
def missingExportHold : Bool :=
  decide (0 < input.load) && !(w.filtered input).hasOutputControlExportCapacity input &&
    decide (0 ≤ w.previousTotal input)

def clampTotal (value : ℚ) : ℚ :=
  max (w.commandedTotalFloorW input) (min (input.settings.maxTotalPower : ℚ) value)

def wantedTotal : ℚ := w.clampTotal input (w.previousTotal input + w.filteredLoad input)

/-- The load is within its deadband, or what it asks for is within that of the target. -/
def deadbandHold : Bool :=
  decide (|w.filteredLoad input| ≤ input.settings.total.loadDeadbandW) ||
    decide (|w.wantedTotal input - w.previousTotal input| ≤ input.settings.total.targetDeadbandW)

/-- The result of the cycle. -/
def stabilizedTotal : ℚ := (w.stabilizedTotalTarget input).memory.commandedTotalW.getD 0

def desiredTotal : ℚ := (w.stabilizedTotalTarget input).memory.desiredTotalW.getD 0

def configuredRampLimit (delta : ℚ) : ℚ :=
  if 0 < delta then input.settings.total.rampUpWPerCycle
  else input.settings.total.rampDownWPerCycle

def rampLimit (delta : ℚ) : ℚ :=
  input.totalRampLimit (w.telemetryStale input) (w.previousTotal input) delta

/-! ### What the filter and the start leave alone -/

theorem commandedTotalW_filter (control : TotalControl) (m : Memory n) (rawLoad : ℚ) :
    (m.filterOutputControlLoad control rawLoad).1.commandedTotalW = m.commandedTotalW := by
  unfold Memory.filterOutputControlLoad
  split_ifs <;> rfl

theorem lastSeen_filter (control : TotalControl) (m : Memory n) (rawLoad : ℚ) :
    (m.filterOutputControlLoad control rawLoad).1.lastSeen = m.lastSeen := by
  unfold Memory.filterOutputControlLoad
  split_ifs <;> rfl

theorem floor_filter (control : TotalControl) (m : Memory n) (rawLoad : ℚ) :
    ((m.filterOutputControlLoad control rawLoad).1.chargeDirection,
      (m.filterOutputControlLoad control rawLoad).1.chargeCapacityW) =
        (m.chargeDirection, m.chargeCapacityW) := by
  unfold Memory.filterOutputControlLoad
  split_ifs <;> rfl

theorem commandedTotalFloorW_congr {w w' : World n Text}
    (hdirection : w.memory.chargeDirection = w'.memory.chargeDirection)
    (hcapacity : w.memory.chargeCapacityW = w'.memory.chargeCapacityW) :
    w.commandedTotalFloorW input = w'.commandedTotalFloorW input := by
  unfold commandedTotalFloorW usableChargeCapacityW
  rw [hdirection, hcapacity]

theorem commandedTotalFloorW_filtered :
    (w.filtered input).commandedTotalFloorW input = w.commandedTotalFloorW input := by
  have hfilter := floor_filter input.settings.total (w.started input).memory input.load
  have hstart : (w.started input).commandedTotalFloorW input = w.commandedTotalFloorW input := by
    unfold started
    split_ifs
    · exact commandedTotalFloorW_congr input rfl rfl
    · rfl
  rw [← hstart]
  exact commandedTotalFloorW_congr input (congrArg Prod.fst hfilter) (congrArg Prod.snd hfilter)

theorem telemetryStale_filtered :
    (w.filtered input).telemetryStale input = w.telemetryStale input := by
  have hseen : (w.filtered input).memory.lastSeen = w.memory.lastSeen := by
    refine (lastSeen_filter input.settings.total (w.started input).memory input.load).trans ?_
    unfold started
    split_ifs <;> rfl
  unfold telemetryStale answeredTooLongAgo
  rw [hseen]

theorem commandedTotalFloorW_nonpos : w.commandedTotalFloorW input ≤ 0 := by
  unfold commandedTotalFloorW usableChargeCapacityW
  split_ifs
  · exact le_rfl
  · have hcapacity : 0 ≤ min (input.settings.maxTotalChargePowerW : ℤ)
        (max 0 w.memory.chargeCapacityW) :=
      le_min (Int.natCast_nonneg _) (le_max_left _ _)
    exact neg_nonpos.mpr (by exact_mod_cast hcapacity)

/-! ### The clamp -/

theorem clampTotal_mem (value : ℚ) : w.clampTotal input value ∈
    Icc (w.commandedTotalFloorW input) (input.settings.maxTotalPower : ℚ) := by
  have hmax : (0 : ℚ) ≤ input.settings.maxTotalPower := Nat.cast_nonneg _
  constructor
  · exact le_max_left _ _
  · exact max_le ((w.commandedTotalFloorW_nonpos input).trans hmax) (min_le_left _ _)

theorem clampTotal_of_mem {value : ℚ} (h : value ∈
    Icc (w.commandedTotalFloorW input) (input.settings.maxTotalPower : ℚ)) :
    w.clampTotal input value = value := by
  rw [clampTotal, min_eq_right h.2, max_eq_right h.1]

/-! ### What a cycle makes of the total -/

/-- The total before the last clamp, where no hold for missing export capacity is on. -/
def movedTotal : ℚ :=
  if w.deadbandHold input then w.previousTotal input
  else if input.settings.total.rampEnabled ∧ w.wantedTotal input ≠ w.previousTotal input then
    input.rampTotal (w.telemetryStale input) (w.previousTotal input) (w.wantedTotal input)
  else w.wantedTotal input

theorem movedTotal_of_no_hold (hhold : w.deadbandHold input = false) :
    w.movedTotal input =
      if input.settings.total.rampEnabled ∧ w.wantedTotal input ≠ w.previousTotal input then
        input.rampTotal (w.telemetryStale input) (w.previousTotal input) (w.wantedTotal input)
      else w.wantedTotal input := by
  rw [movedTotal, hhold]
  rfl

theorem clampTotal_clampTotal (value : ℚ) :
    w.clampTotal input (w.clampTotal input value) = w.clampTotal input value :=
  w.clampTotal_of_mem input (w.clampTotal_mem input value)

theorem stabilizedTotalTarget_eq :
    let commanded :=
      if w.missingExportHold input then
        min (w.previousTotal input) ((w.filtered input).standbyTotalW input)
      else w.previousTotal input
    let loadHeld := w.missingExportHold input ||
      decide (|w.filteredLoad input| ≤ input.settings.total.loadDeadbandW)
    let wanted :=
      w.clampTotal input (if loadHeld then commanded else commanded + w.filteredLoad input)
    let targetHeld := !loadHeld &&
      decide (|wanted - commanded| ≤ input.settings.total.targetDeadbandW)
    let desired := if targetHeld then commanded else wanted
    w.desiredTotal input = desired ∧
      w.stabilizedTotal input = w.clampTotal input
        (if !(loadHeld || targetHeld) && input.settings.total.rampEnabled &&
            decide (desired ≠ commanded) then
          input.rampTotal (w.telemetryStale input) commanded desired
        else desired) := by
  have hfloor := w.commandedTotalFloorW_filtered input
  have hstale := w.telemetryStale_filtered input
  have hcommanded : (w.filtered input).memory.commandedTotalW.getD 0 = w.previousTotal input := by
    rw [previousTotal, filtered]
    exact congrArg (·.getD 0) (commandedTotalW_filter _ _ _)
  have hhold : (decide (0 < input.load) &&
      !(w.filtered input).hasOutputControlExportCapacity input &&
        decide (0 ≤ (w.filtered input).memory.commandedTotalW.getD 0)) =
      w.missingExportHold input := by
    rw [hcommanded]
    rfl
  intro commanded loadHeld wanted targetHeld desired
  have hunfold : (w.desiredTotal input, w.stabilizedTotal input) =
      (let filtered := w.filtered input
      let previous := filtered.memory.commandedTotalW.getD 0
      let noExport := decide (0 < input.load) &&
        !filtered.hasOutputControlExportCapacity input && decide (0 ≤ previous)
      let commanded := if noExport then min previous (filtered.standbyTotalW input) else previous
      let loadHeld := noExport ||
        decide (|w.filteredLoad input| ≤ input.settings.total.loadDeadbandW)
      let floor := filtered.commandedTotalFloorW input
      let wanted := max floor (min (input.settings.maxTotalPower : ℚ)
        (if loadHeld then commanded else commanded + w.filteredLoad input))
      let targetHeld := !loadHeld &&
        decide (|wanted - commanded| ≤ input.settings.total.targetDeadbandW)
      let desired := if targetHeld then commanded else wanted
      (desired, max floor (min (input.settings.maxTotalPower : ℚ)
        (if !(loadHeld || targetHeld) && input.settings.total.rampEnabled &&
            decide (desired ≠ commanded) then
          input.rampTotal (filtered.telemetryStale input) commanded desired
        else desired)))) := rfl
  dsimp only at hunfold
  rw [hcommanded] at hhold
  rw [hcommanded, hfloor, hhold, hstale] at hunfold
  exact Prod.mk.inj hunfold

theorem stabilizedTotal_of_missingExport (h : w.missingExportHold input = true) :
    w.stabilizedTotal input = w.clampTotal input
      (min (w.previousTotal input) ((w.filtered input).standbyTotalW input)) := by
  have htotal := (w.stabilizedTotalTarget_eq input).2
  simp only [h, if_true, Bool.true_or, Bool.not_true, Bool.false_and, Bool.false_eq_true,
    if_false] at htotal
  rw [htotal, clampTotal_clampTotal]

theorem stabilizedTotal_of_export (h : w.missingExportHold input = false) :
    w.stabilizedTotal input = w.clampTotal input (w.movedTotal input) ∧
      (w.deadbandHold input = false → w.desiredTotal input = w.wantedTotal input) := by
  obtain ⟨hdesired, htotal⟩ := w.stabilizedTotalTarget_eq input
  simp only [h, Bool.false_eq_true, if_false, Bool.false_or] at hdesired htotal
  by_cases hload : |w.filteredLoad input| ≤ input.settings.total.loadDeadbandW
  · have hhold : w.deadbandHold input = true := by simp [deadbandHold, hload]
    constructor
    · simp only [hload, decide_true, if_true, Bool.not_true, Bool.false_and, Bool.true_or,
        Bool.false_eq_true, if_false] at htotal
      rw [htotal, clampTotal_clampTotal, movedTotal, if_pos hhold]
    · intro hnot
      rw [hhold] at hnot
      cases hnot
  · simp only [hload, decide_false, Bool.false_eq_true, if_false, Bool.not_false, Bool.true_and,
      Bool.false_or] at hdesired htotal
    have hwanted : w.clampTotal input (w.previousTotal input + w.filteredLoad input) =
        w.wantedTotal input := rfl
    rw [hwanted] at hdesired htotal
    by_cases htarget :
        |w.wantedTotal input - w.previousTotal input| ≤ input.settings.total.targetDeadbandW
    · have hhold : w.deadbandHold input = true := by simp [deadbandHold, htarget]
      simp only [htarget, decide_true, if_true, Bool.not_true, Bool.false_and,
        Bool.false_eq_true, if_false] at htotal
      constructor
      · rw [htotal, movedTotal, if_pos hhold]
      · intro hnot
        rw [hhold] at hnot
        cases hnot
    · have hhold : w.deadbandHold input = false := by simp [deadbandHold, hload, htarget]
      simp only [htarget, decide_false, Bool.false_eq_true, if_false, Bool.not_false,
        Bool.true_and, Bool.and_eq_true, decide_eq_true_eq] at hdesired htotal
      refine ⟨?_, fun _ => hdesired⟩
      rw [htotal, w.movedTotal_of_no_hold input hhold]

/-! ### The ramp -/

theorem totalRampLimit_nonneg {stale : Bool} {commanded delta : ℚ}
    (hfactor : 0 ≤ input.settings.total.staleTelemetryRampFactor)
    (hlimited : 0 < configuredRampLimit input delta) :
    0 ≤ input.totalRampLimit stale commanded delta := by
  have hmultiplier : (0 : ℚ) ≤
      if input.outputControlBypassActive then input.settings.deviceRamp.bypassRampMultiplier
      else 1 := by
    split_ifs
    · exact zero_le_one.trans input.settings.deviceRamp.one_le_multiplier
    · exact zero_le_one
  have hlimit := mul_nonneg hlimited.le hmultiplier
  have hunfold : input.totalRampLimit stale commanded delta =
      (let limit := configuredRampLimit input delta *
        if input.outputControlBypassActive then input.settings.deviceRamp.bypassRampMultiplier
        else 1
      if !stale then limit
      else if commanded < 0 ∧ 0 < delta then
        max (limit * input.settings.total.staleTelemetryRampFactor) (min limit (-commanded))
      else limit * input.settings.total.staleTelemetryRampFactor) := rfl
  rw [hunfold]
  dsimp only
  generalize configuredRampLimit input delta * _ = limit at hlimit ⊢
  have hstale := mul_nonneg hlimit hfactor
  split_ifs
  · exact hlimit
  · exact hstale.trans (le_max_left _ _)
  · exact hstale

/-- **The ramp moves the total towards what is desired**, no further, and no further than its
limit. -/
theorem rampTotal_moves {stale : Bool} {commanded desired : ℚ}
    (hfactor : 0 ≤ input.settings.total.staleTelemetryRampFactor) :
    input.rampTotal stale commanded desired ∈ uIcc commanded desired ∧
      (0 < configuredRampLimit input (desired - commanded) →
        |input.rampTotal stale commanded desired - commanded| ≤
          input.totalRampLimit stale commanded (desired - commanded)) := by
  have hunfold : input.rampTotal stale commanded desired =
      (if 0 < configuredRampLimit input (desired - commanded) ∧
          input.totalRampLimit stale commanded (desired - commanded) < |desired - commanded| then
        if 0 < desired - commanded then
          commanded + input.totalRampLimit stale commanded (desired - commanded)
        else commanded - input.totalRampLimit stale commanded (desired - commanded)
      else desired) := rfl
  rw [hunfold]
  by_cases hlimited : 0 < configuredRampLimit input (desired - commanded)
  · have hnonneg := @totalRampLimit_nonneg _ input stale commanded _ hfactor hlimited
    generalize input.totalRampLimit stale commanded (desired - commanded) = limit at hnonneg ⊢
    by_cases hfar : limit < |desired - commanded|
    · rw [if_pos ⟨hlimited, hfar⟩]
      split_ifs with hrise
      · rw [abs_of_pos hrise] at hfar
        constructor
        · rw [uIcc_of_le (by linarith)]
          exact ⟨by linarith, by linarith⟩
        · intro _
          rw [add_sub_cancel_left, abs_of_nonneg hnonneg]
      · rw [abs_of_nonpos (not_lt.mp hrise)] at hfar
        constructor
        · rw [uIcc_of_ge (by linarith)]
          exact ⟨by linarith, by linarith⟩
        · intro _
          rw [sub_sub_cancel_left, abs_neg, abs_of_nonneg hnonneg]
    · rw [if_neg fun h => hfar h.2]
      exact ⟨right_mem_uIcc, fun _ => not_lt.mp hfar⟩
  · rw [if_neg fun h => hlimited h.1]
    exact ⟨right_mem_uIcc, fun h => absurd h hlimited⟩

theorem movedTotal_moves (hfactor : 0 ≤ input.settings.total.staleTelemetryRampFactor)
    (hhold : w.deadbandHold input = false) :
    w.movedTotal input ∈ uIcc (w.previousTotal input) (w.wantedTotal input) ∧
      (input.settings.total.rampEnabled = true →
        0 < configuredRampLimit input (w.wantedTotal input - w.previousTotal input) →
          |w.movedTotal input - w.previousTotal input| ≤
            w.rampLimit input (w.wantedTotal input - w.previousTotal input)) := by
  rw [w.movedTotal_of_no_hold input hhold]
  split_ifs with hramps
  · obtain ⟨hbetween, hlimit⟩ := @rampTotal_moves _ input (w.telemetryStale input)
      (w.previousTotal input) (w.wantedTotal input) hfactor
    exact ⟨hbetween, fun _ => hlimit⟩
  · refine ⟨right_mem_uIcc, fun henabled hlimited => ?_⟩
    have hsame : w.wantedTotal input = w.previousTotal input := by
      by_contra hne
      exact hramps ⟨henabled, hne⟩
    rw [hsame, sub_self, abs_zero]
    exact totalRampLimit_nonneg input hfactor (by rwa [hsame, sub_self] at hlimited)

/-! ### Every cycle -/

/-- What holds of the total of a cycle. -/
structure Steady : Prop where
  bounded : w.stabilizedTotal input ∈
    Icc (w.commandedTotalFloorW input) (input.settings.maxTotalPower : ℚ)
  /-- Without a hold for missing export capacity the total is a move from the previous one that is
  clamped, and unclamped where the previous total is within the bounds; held it is no move, and
  otherwise one towards the desired total, within the ramp limit in force. -/
  moved : w.missingExportHold input = false → ∃ moved,
    w.stabilizedTotal input = w.clampTotal input moved ∧
    (w.previousTotal input ∈
        Icc (w.commandedTotalFloorW input) (input.settings.maxTotalPower : ℚ) →
      w.stabilizedTotal input = moved) ∧
    (w.deadbandHold input = true → moved = w.previousTotal input) ∧
    (w.deadbandHold input = false →
      moved ∈ uIcc (w.previousTotal input) (w.desiredTotal input) ∧
      (input.settings.total.rampEnabled = true →
        0 < configuredRampLimit input (w.desiredTotal input - w.previousTotal input) →
          |moved - w.previousTotal input| ≤
            w.rampLimit input (w.desiredTotal input - w.previousTotal input)))
  /-- The hold for missing export capacity takes an output back to what the devices stand by at,
  raises nothing and is not on while a charge goes on. -/
  released : w.missingExportHold input = true →
    w.stabilizedTotal input = w.clampTotal input
        (min (w.previousTotal input) ((w.filtered input).standbyTotalW input)) ∧
      0 ≤ w.previousTotal input ∧ w.stabilizedTotal input ≤ w.previousTotal input ∧
        0 ≤ w.stabilizedTotal input

/-- **The total of every cycle is steady.** -/
theorem stabilizedTotal_steady (hfactor : 0 ≤ input.settings.total.staleTelemetryRampFactor) :
    w.Steady input where
  bounded := by
    cases hexport : w.missingExportHold input with
    | true =>
      rw [w.stabilizedTotal_of_missingExport input hexport]
      exact w.clampTotal_mem input _
    | false =>
      rw [(w.stabilizedTotal_of_export input hexport).1]
      exact w.clampTotal_mem input _
  moved := fun hexport => by
    obtain ⟨htotal, hdesired⟩ := w.stabilizedTotal_of_export input hexport
    cases hhold : w.deadbandHold input with
    | true =>
      have hmoved : w.movedTotal input = w.previousTotal input := by rw [movedTotal, if_pos hhold]
      rw [hmoved] at htotal
      refine ⟨w.previousTotal input, htotal, fun hmem => ?_, fun _ => rfl, fun hnot => ?_⟩
      · rw [htotal, w.clampTotal_of_mem input hmem]
      · cases hnot
    | false =>
      obtain ⟨hbetween, hlimit⟩ := w.movedTotal_moves input hfactor hhold
      rw [hdesired hhold]
      refine ⟨w.movedTotal input, htotal, fun hmem => ?_, fun hnot => ?_, fun _ =>
        ⟨hbetween, hlimit⟩⟩
      · have hwanted := w.clampTotal_mem input (w.previousTotal input + w.filteredLoad input)
        rw [htotal, w.clampTotal_of_mem input (uIcc_subset_Icc hmem hwanted hbetween)]
      · cases hnot
  released := fun hexport => by
    have htotal := w.stabilizedTotal_of_missingExport input hexport
    have hprevious : 0 ≤ w.previousTotal input := by
      rw [missingExportHold, Bool.and_eq_true] at hexport
      exact of_decide_eq_true hexport.2
    have hfloor := w.commandedTotalFloorW_nonpos input
    have hstandby : 0 ≤ (w.filtered input).standbyTotalW input :=
      mul_nonneg (Nat.cast_nonneg _) (Nat.cast_nonneg _)
    have hmax : (0 : ℚ) ≤ input.settings.maxTotalPower := Nat.cast_nonneg _
    refine ⟨htotal, hprevious, ?_, ?_⟩
    · rw [htotal]
      exact max_le (hfloor.trans hprevious) ((min_le_right _ _).trans (min_le_left _ _))
    · rw [htotal]
      exact (le_min hmax (le_min hprevious hstandby)).trans (le_max_right _ _)

/-- The move of a cycle keeps to its ramp wherever the bounds do not clamp it, a hold for missing
export capacity included, and a held cycle leaves the total unchanged. -/
def AlwaysRamped : Prop :=
  w.stabilizedTotal input ∈
      Ioo (w.commandedTotalFloorW input) (input.settings.maxTotalPower : ℚ) →
    |w.stabilizedTotal input - w.previousTotal input| ≤
        w.rampLimit input (w.desiredTotal input - w.previousTotal input) ∧
      (w.missingExportHold input = true → w.stabilizedTotal input = w.previousTotal input)

end World

/-- A cycle over a fresh reading; the one device of a world that has heard nothing of it stands by
at 30 W. -/
def importCycle (load : ℚ) : CycleInput 1 :=
  { heldCycle { oneDeviceSettings true with minOutputLimit := 30 } load with meter := none }

/-- So is that of 800 W over an import of 200 W. -/
theorem stabilizedTotal_steady_import : heldWorld.Steady (importCycle 200) :=
  heldWorld.stabilizedTotal_steady (importCycle 200) (by decide +kernel)

/-- **The hold for missing export capacity is no ramp.**  With nothing left to export, a total of
800 W is 30 W in the next cycle, where the ramp goes down by 300 W. -/
theorem missingExport_not_ramped : ¬ heldWorld.AlwaysRamped (importCycle 100) := by
  intro h
  exact absurd (h (by decide +kernel)).1 (by decide +kernel)

end SolarFlowEms.Controller
