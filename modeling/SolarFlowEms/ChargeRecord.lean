import SolarFlowEms.PowerDirection

/-!
# The record of the EMS's own charge

A charge command opens the record; sending the way out does not close it, only a report
of the device after an exit does.  Until then an exit is due once per resend window.  A
charge that a report shows by its grid draw alone gets `FOUND_EXIT_ATTEMPTS` exits and no
more.
-/

namespace SolarFlowEms

open PowerDirection

def foundExitAttemptsMax : ℕ := 3

structure ChargeRecord where
  resendAfterS : ℚ
  isOpen : Bool
  exitSentAt : Option ℚ
  exitTargetW : Option ℤ
  drawnExits : ℕ
  exitDrawn : Bool
  drawn : Bool
  foundExitSentAt : Option ℚ
  foundExitAttempts : ℕ
  foundChargeLeft : Bool
  foundSetpoint : Option ℚ
  lastSetpoint : Option ℚ
  commandedW : Option ℚ
  reportedW : Option ℚ
deriving DecidableEq

namespace ChargeRecord

def new (resendAfterS : ℚ) : ChargeRecord where
  resendAfterS := resendAfterS
  isOpen := false
  exitSentAt := none
  exitTargetW := none
  drawnExits := 0
  exitDrawn := false
  drawn := false
  foundExitSentAt := none
  foundExitAttempts := 0
  foundChargeLeft := false
  foundSetpoint := none
  lastSetpoint := none
  commandedW := none
  reportedW := none

variable (record : ChargeRecord)

def forgetDrawnExits : ChargeRecord :=
  { record with drawnExits := 0, exitDrawn := false, drawn := false }

/-- A charge command went out; the charge is the EMS's from here. -/
def chargeSent (setpointW : ℤ) : ChargeRecord :=
  { record.forgetDrawnExits with
    isOpen := true, exitSentAt := none, exitTargetW := none, commandedW := some setpointW }

/-- An exit went out with `targetW` as its output target. -/
def exitSent (now : ℚ) (targetW : Option ℤ) : ChargeRecord :=
  if record.isOpen then
    { record with exitSentAt := some now, exitTargetW := targetW, exitDrawn := false }
  else record

/-- A safety reduction went out while the exit was held: it keeps the exit's window. -/
def reductionSent (targetW : ℤ) : ChargeRecord :=
  if record.isOpen then { record with exitTargetW := some targetW } else record

/-- `targetW` is a safety reduction below the target the last exit left on the device. -/
def reducesExit (targetW marginW toleranceW : ℤ) : Bool :=
  record.isOpen &&
    match record.exitTargetW with
    | none => false
    | some exitTargetW => safetyReduction exitTargetW targetW marginW toleranceW

def foundExitWindowOver (now : ℚ) : Bool :=
  match record.foundExitSentAt with
  | none => true
  | some sentAt => record.resendAfterS ≤ now - sentAt

def foundExitDue (now : ℚ) : Bool :=
  record.foundExitAttempts < foundExitAttemptsMax && record.foundExitWindowOver now

/-- The device answered the one exit to AC input found after a start. -/
def foundExitSent (now : ℚ) : ChargeRecord :=
  if !record.foundExitDue now then record
  else
    { record with
      foundExitAttempts := record.foundExitAttempts + 1
      foundExitSentAt := some now
      foundSetpoint := record.lastSetpoint }

/-- The last exit's resend window has passed, or no exit is out. -/
def exitWindowPassed (now : ℚ) : Bool :=
  match record.exitSentAt with
  | none => true
  | some sentAt => record.resendAfterS ≤ now - sentAt

/-- `FOUND_EXIT_ATTEMPTS` exits went out to a charge only grid draw shows. -/
def drawnExitsSpent : Bool := record.drawn && foundExitAttemptsMax ≤ record.drawnExits

/-- An exit should go out now: none yet, or the last one is a window old. -/
def exitDue (now : ℚ) : Bool :=
  if !record.isOpen || record.drawnExitsSpent then false else record.exitWindowPassed now

/-- The charge is the device's: its grid draw alone shows it after the last exit, a window
ago. -/
def exitExhausted (now : ℚ) : Bool :=
  record.isOpen && record.drawnExitsSpent && record.exitWindowPassed now

def release : ChargeRecord :=
  { record.forgetDrawnExits with
    isOpen := false, exitSentAt := none, exitTargetW := none, commandedW := none,
    reportedW := none }

/-- Count the exit after which a report shows the charge by its grid draw alone. -/
def observeDrawnExit (report : DirectionReport) : ChargeRecord :=
  let drawn := !inAcInputDirection report
  if drawn && !record.exitDrawn then
    { record with drawn := drawn, exitDrawn := true, drawnExits := record.drawnExits + 1 }
  else { record with drawn := drawn }

def observeFoundExit (report : DirectionReport) (setpoint : Option ℚ) : ChargeRecord :=
  if record.foundExitAttempts = 0 || record.foundChargeLeft then record
  else
    let moved := setpoint.isSome && record.foundSetpoint.isSome && setpoint ≠ record.foundSetpoint
    if outOfCharge report || moved then { record with foundChargeLeft := true } else record

/-- Read one report of the device. -/
def observe (report : DirectionReport) (setpointReported : Bool) : ChargeRecord :=
  let setpoint := if setpointReported then some report.inputLimitW.value else none
  let record := { record.observeFoundExit report setpoint with lastSetpoint := setpoint }
  if !record.isOpen then record
  else if record.exitSentAt = none then
    if setpoint.isSome && setpoint ≠ some 0 && inAcInputDirection report then
      { record with reportedW := setpoint }
    else record
  else if outOfCharge report ||
      (setpoint.isSome && setpoint ≠ record.commandedW && setpoint ≠ record.reportedW) then
    record.release
  else record.observeDrawnExit report

/-! ### What an open record remembers of its exits -/

/-- **An open record holds an exit target exactly when an exit is out**, and a charge
shown by grid draw alone is only counted against an exit that is. -/
structure Consistent : Prop where
  exit_target : record.isOpen = true → (record.exitTargetW.isSome ↔ record.exitSentAt.isSome)
  drawn_exit : 0 < record.drawnExits → record.exitSentAt.isSome

variable {record}

theorem new_consistent (resendAfterS : ℚ) : (new resendAfterS).Consistent where
  exit_target := nofun
  drawn_exit := nofun

theorem chargeSent_consistent (setpointW : ℤ) : (record.chargeSent setpointW).Consistent where
  exit_target _ := by simp [chargeSent]
  drawn_exit h := absurd h (Nat.lt_irrefl 0)

theorem release_consistent : record.release.Consistent where
  exit_target := nofun
  drawn_exit h := absurd h (Nat.lt_irrefl 0)

theorem exitSent_isOpen (now : ℚ) (targetW : Option ℤ) :
    (record.exitSent now targetW).isOpen = record.isOpen := by
  unfold exitSent
  split <;> rfl

theorem exitSent_exitTargetW (hopen : record.isOpen = true) (now : ℚ) (targetW : Option ℤ) :
    (record.exitSent now targetW).exitTargetW = targetW := by
  rw [exitSent, if_pos hopen]

theorem reductionSent_isOpen (targetW : ℤ) :
    (record.reductionSent targetW).isOpen = record.isOpen := by
  unfold reductionSent
  split <;> rfl

theorem reductionSent_exitTargetW (hopen : record.isOpen = true) (targetW : ℤ) :
    (record.reductionSent targetW).exitTargetW = some targetW := by
  rw [reductionSent, if_pos hopen]

theorem Consistent.exitSent (h : record.Consistent) (now : ℚ) (targetW : ℤ) :
    (record.exitSent now (some targetW)).Consistent := by
  cases hopen : record.isOpen with
  | false => simpa [ChargeRecord.exitSent, hopen] using h
  | true =>
    refine ⟨fun _ => ?_, fun _ => ?_⟩
    · simp [ChargeRecord.exitSent, hopen]
    · simp [ChargeRecord.exitSent, hopen]

theorem Consistent.reductionSent (h : record.Consistent) (hout : record.exitTargetW.isSome)
    (targetW : ℤ) : (record.reductionSent targetW).Consistent := by
  cases hopen : record.isOpen with
  | false => simpa [ChargeRecord.reductionSent, hopen] using h
  | true =>
    refine ⟨fun _ => ?_, ?_⟩
    · simpa [ChargeRecord.reductionSent, hopen] using (h.exit_target hopen).mp hout
    · simpa [ChargeRecord.reductionSent, hopen] using h.drawn_exit

theorem foundExitSent_frame (now : ℚ) :
    (record.foundExitSent now).isOpen = record.isOpen ∧
      (record.foundExitSent now).exitSentAt = record.exitSentAt ∧
      (record.foundExitSent now).exitTargetW = record.exitTargetW ∧
      (record.foundExitSent now).drawnExits = record.drawnExits := by
  unfold foundExitSent
  split
  · exact ⟨rfl, rfl, rfl, rfl⟩
  · exact ⟨rfl, rfl, rfl, rfl⟩

theorem Consistent.foundExitSent (h : record.Consistent) (now : ℚ) :
    (record.foundExitSent now).Consistent := by
  obtain ⟨hopen, hat, htarget, hdrawn⟩ := record.foundExitSent_frame now
  exact ⟨by rw [hopen, hat, htarget]; exact h.exit_target, by rw [hat, hdrawn]; exact h.drawn_exit⟩

theorem observeFoundExit_frame (report : DirectionReport) (setpoint : Option ℚ) :
    (record.observeFoundExit report setpoint).isOpen = record.isOpen ∧
      (record.observeFoundExit report setpoint).exitSentAt = record.exitSentAt ∧
      (record.observeFoundExit report setpoint).exitTargetW = record.exitTargetW ∧
      (record.observeFoundExit report setpoint).drawnExits = record.drawnExits := by
  unfold observeFoundExit
  split
  · exact ⟨rfl, rfl, rfl, rfl⟩
  · dsimp only
    split <;> exact ⟨rfl, rfl, rfl, rfl⟩

/-- **What one report can do**: it ends the charge on record, or it leaves the exit that is
out as it was and counts it only if there is one. -/
theorem observe_cases (report : DirectionReport) (setpointReported : Bool) :
    (∃ r : ChargeRecord, record.observe report setpointReported = r.release) ∨
      ((record.observe report setpointReported).isOpen = record.isOpen ∧
        (record.observe report setpointReported).exitSentAt = record.exitSentAt ∧
        (record.observe report setpointReported).exitTargetW = record.exitTargetW ∧
        ((record.observe report setpointReported).drawnExits = record.drawnExits ∨
          record.exitSentAt.isSome)) := by
  unfold observe
  extract_lets setpoint found seen
  obtain ⟨hopen, hat, htarget, hdrawn⟩ := record.observeFoundExit_frame report setpoint
  have hseenAt : seen.exitSentAt = record.exitSentAt := hat
  split_ifs with h₁ h₂ h₃ h₄
  · exact .inr ⟨hopen, hat, htarget, .inl hdrawn⟩
  · exact .inr ⟨hopen, hat, htarget, .inl hdrawn⟩
  · exact .inr ⟨hopen, hat, htarget, .inl hdrawn⟩
  · exact .inl ⟨seen, rfl⟩
  · have hout : record.exitSentAt.isSome := by
      rw [← hseenAt]
      exact Option.isSome_iff_ne_none.mpr h₂
    refine .inr ?_
    unfold observeDrawnExit
    dsimp only
    split
    · exact ⟨hopen, hat, htarget, .inr hout⟩
    · exact ⟨hopen, hat, htarget, .inr hout⟩

theorem Consistent.observe (h : record.Consistent) (report : DirectionReport)
    (setpointReported : Bool) : (record.observe report setpointReported).Consistent := by
  rcases record.observe_cases report setpointReported with ⟨r, hr⟩ | ⟨hopen, hat, htarget, hdrawn⟩
  · rw [hr]
    exact release_consistent
  · refine ⟨by rw [hopen, hat, htarget]; exact h.exit_target, fun hpos => ?_⟩
    rw [hat]
    rcases hdrawn with heq | hout
    · exact h.drawn_exit (heq ▸ hpos)
    · exact hout

theorem Consistent.isSome_of_drawnExitsSpent (h : record.Consistent) (hopen : record.isOpen = true)
    (hspent : record.drawnExitsSpent = true) : record.exitTargetW.isSome := by
  have hcount : foundExitAttemptsMax ≤ record.drawnExits := by
    simpa using (Bool.and_eq_true_iff.mp hspent).2
  exact (h.exit_target hopen).mpr (h.drawn_exit (Nat.lt_of_lt_of_le (by decide) hcount))

theorem Consistent.isSome_of_not_exitDue (h : record.Consistent) (hopen : record.isOpen = true)
    {now : ℚ} (hdue : record.exitDue now = false) : record.exitTargetW.isSome := by
  by_cases hspent : record.drawnExitsSpent = true
  · exact h.isSome_of_drawnExitsSpent hopen hspent
  · have hwindow : record.exitWindowPassed now = false := by
      simpa [exitDue, hopen, hspent] using hdue
    refine (h.exit_target hopen).mpr ?_
    cases hat : record.exitSentAt with
    | none => simp [exitWindowPassed, hat] at hwindow
    | some sentAt => rfl

/-- **A stop reduces whatever exit is out** unless that exit already was one. -/
theorem reducesExit_zero (hopen : record.isOpen = true) {exitTargetW : ℤ}
    (htarget : record.exitTargetW = some exitTargetW) (marginW toleranceW : ℤ) :
    record.reducesExit 0 marginW toleranceW = decide (exitTargetW ≠ 0) := by
  simp [reducesExit, hopen, htarget]

end ChargeRecord

end SolarFlowEms
