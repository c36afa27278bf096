import SolarFlowEms.ChargeRecord
import SolarFlowEms.Library.Run

/-!
# A charge record over its calls

The transport calls its charge record in any order: charge commands, exits, reductions, exits
to an AC input that was found after a start, reports and releases.  Beside the record this file
keeps what the calls themselves say, the setpoint last commanded, the one the device last
showed while the charge ran, and the times of the exits, and bounds what the record does in
their terms.
-/

namespace SolarFlowEms

open PowerDirection Run

/-! ### Calls -/

inductive ChargeCall where
  | chargeSent (setpointW : ℤ)
  | exitSent (targetW : Option ℤ)
  | reductionSent (targetW : ℤ)
  | foundExitSent
  | observe (report : DirectionReport) (setpointReported : Bool)
  | release
deriving DecidableEq

def ChargeRecord.call (record : ChargeRecord) (now : ℚ) : ChargeCall → ChargeRecord
  | .chargeSent setpointW => record.chargeSent setpointW
  | .exitSent targetW => record.exitSent now targetW
  | .reductionSent targetW => record.reductionSent targetW
  | .foundExitSent => record.foundExitSent now
  | .observe report setpointReported => record.observe report setpointReported
  | .release => record.release

/-- A charge record and what its calls said. -/
structure ChargeHistory where
  record : ChargeRecord
  clock : ℚ
  /-- The setpoint of the last charge command. -/
  commanded : Option ℤ
  /-- The last setpoint a report showed in the AC-input direction while the charge was on record
  and no exit was out. -/
  shown : Option ℚ
  /-- The exits since the last charge command, the latest first. -/
  exits : List ℚ
  /-- The attempts at the exit to an AC input found after a start, the latest first. -/
  found : List ℚ
  /-- Every report since the first of the exits showed the charge by its grid draw alone. -/
  onlyDrawn : Bool

namespace ChargeHistory

def new (resendAfterS clock : ℚ) : ChargeHistory where
  record := .new resendAfterS
  clock := clock
  commanded := none
  shown := none
  exits := []
  found := []
  onlyDrawn := true

variable (h : ChargeHistory)

/-- The report shows a setpoint that was neither the last one commanded nor the last one shown. -/
def foreign (report : DirectionReport) (setpointReported : Bool) : Bool :=
  setpointReported && some report.inputLimitW.value ≠ h.commanded.map (Int.cast : ℤ → ℚ) &&
    some report.inputLimitW.value ≠ h.shown

/-- Only the grid draw of the report shows a charge, at no other setpoint. -/
def showsOnlyDraw (report : DirectionReport) (setpointReported : Bool) : Bool :=
  !inAcInputDirection report && !outOfCharge report && !h.foreign report setpointReported

def commandedAfter : ChargeCall → Option ℤ
  | .chargeSent setpointW => some setpointW
  | _ => h.commanded

/-- A setpoint that is shown belongs to the charge on record. -/
def shownAfter : ChargeCall → Option ℚ
  | .chargeSent _ => if h.record.isOpen then h.shown else none
  | .observe report setpointReported =>
    if h.record.isOpen ∧ h.exits = [] ∧ setpointReported ∧ report.inputLimitW.value ≠ 0 ∧
        inAcInputDirection report then some report.inputLimitW.value
    else h.shown
  | _ => h.shown

def exitsAfter (now : ℚ) : ChargeCall → List ℚ
  | .chargeSent _ => []
  | .exitSent _ => now :: h.exits
  | _ => h.exits

def foundAfter (now : ℚ) (call : ChargeCall) : List ℚ :=
  if h.record.foundExitAttempts < (h.record.call now call).foundExitAttempts then now :: h.found
  else h.found

def onlyDrawnAfter : ChargeCall → Bool
  | .chargeSent _ => true
  | .observe report setpointReported =>
    h.onlyDrawn && (h.exits = [] || h.showsOnlyDraw report setpointReported)
  | _ => h.onlyDrawn

def step (timed : ℚ × ChargeCall) : ChargeHistory where
  record := h.record.call timed.1 timed.2
  clock := timed.1
  commanded := h.commandedAfter timed.2
  shown := h.shownAfter timed.2
  exits := h.exitsAfter timed.1 timed.2
  found := h.foundAfter timed.1 timed.2
  onlyDrawn := h.onlyDrawnAfter timed.2

/-- Times do not go back, and exits are sent only when due. -/
def Allowed (timed : ℚ × ChargeCall) : Prop :=
  h.clock ≤ timed.1 ∧ ∀ targetW, timed.2 = .exitSent targetW → h.record.exitDue timed.1 = true

instance (timed : ℚ × ChargeCall) : Decidable (h.Allowed timed) :=
  match timed with
  | (now, .exitSent targetW) =>
    decidable_of_iff (h.clock ≤ now ∧ h.record.exitDue now = true)
      ⟨fun hdue => ⟨hdue.1, fun _ _ => hdue.2⟩, fun hdue => ⟨hdue.1, hdue.2 targetW rfl⟩⟩
  | (now, .chargeSent _) => decidable_of_iff (h.clock ≤ now) ⟨fun hle => ⟨hle, nofun⟩, And.left⟩
  | (now, .reductionSent _) => decidable_of_iff (h.clock ≤ now) ⟨fun hle => ⟨hle, nofun⟩, And.left⟩
  | (now, .foundExitSent) => decidable_of_iff (h.clock ≤ now) ⟨fun hle => ⟨hle, nofun⟩, And.left⟩
  | (now, .observe _ _) => decidable_of_iff (h.clock ≤ now) ⟨fun hle => ⟨hle, nofun⟩, And.left⟩
  | (now, .release) => decidable_of_iff (h.clock ≤ now) ⟨fun hle => ⟨hle, nofun⟩, And.left⟩

/-! ### What the record keeps of its calls -/

/-- Each time is a window after the one before it, and none is ahead of the clock. -/
structure Spaced (windowS clock : ℚ) (times : List ℚ) : Prop where
  apart : times.Pairwise fun later earlier => windowS ≤ later - earlier
  le_clock : ∀ time ∈ times, time ≤ clock

/-- **The record and its calls agree.** -/
structure Tracks (h : ChargeHistory) (windowS : ℚ) : Prop where
  window : h.record.resendAfterS = windowS
  commanded : h.record.isOpen = true → h.record.commandedW = h.commanded.map (Int.cast : ℤ → ℚ)
  shown : h.record.reportedW = if h.record.isOpen then h.shown else none
  exits : h.record.isOpen = true → h.record.exitSentAt = h.exits.head?
  exits_spaced : Spaced windowS h.clock h.exits
  found : h.record.foundExitSentAt = h.found.head?
  found_length : h.record.foundExitAttempts = h.found.length
  found_le : h.found.length ≤ foundExitAttemptsMax
  found_spaced : Spaced windowS h.clock h.found
  drawn : h.record.isOpen = true → h.onlyDrawn = true →
    (0 < h.record.drawnExits → h.record.drawn = true ∧ h.exits ≠ []) ∧
      h.record.drawnExits ≤ foundExitAttemptsMax ∧
      (h.record.exitDrawn = false → h.record.drawnExits < foundExitAttemptsMax)

variable {h : ChargeHistory} {windowS : ℚ} {now : ℚ}

theorem Spaced.nil (windowS clock : ℚ) : Spaced windowS clock [] := ⟨.nil, nofun⟩

theorem Spaced.mono {clock clock' : ℚ} {times : List ℚ} (hs : Spaced windowS clock times)
    (hle : clock ≤ clock') : Spaced windowS clock' times :=
  ⟨hs.apart, fun time htime => (hs.le_clock time htime).trans hle⟩

theorem Spaced.cons {clock : ℚ} {times : List ℚ} (hs : Spaced windowS clock times)
    (hle : clock ≤ now) (hwindow : ∀ latest ∈ times.head?, windowS ≤ now - latest) :
    Spaced windowS now (now :: times) where
  apart := by
    refine List.pairwise_cons.mpr ⟨?_, hs.apart⟩
    intro earlier hearlier
    cases times with
    | nil => cases hearlier
    | cons latest rest =>
      have hlatest : windowS ≤ now - latest := hwindow latest rfl
      rcases List.mem_cons.mp hearlier with rfl | hrest
      · exact hlatest
      · have happart := (List.pairwise_cons.mp hs.apart).1 earlier hrest
        have hlatest' : latest ≤ now := (hs.le_clock latest List.mem_cons_self).trans hle
        exact happart.trans (sub_le_sub_right hlatest' earlier)
  le_clock := by
    intro time htime
    rcases List.mem_cons.mp htime with rfl | hold
    · exact le_rfl
    · exact (hs.le_clock time hold).trans hle

end ChargeHistory

namespace ChargeRecord

variable {record : ChargeRecord}

def setpointOf (report : DirectionReport) (setpointReported : Bool) : Option ℚ :=
  if setpointReported then some report.inputLimitW.value else none

/-- A report after an exit that ends the charge on record. -/
def ends (record : ChargeRecord) (report : DirectionReport) (setpointReported : Bool) : Bool :=
  outOfCharge report ||
    ((setpointOf report setpointReported).isSome &&
      setpointOf report setpointReported ≠ record.commandedW &&
      setpointOf report setpointReported ≠ record.reportedW)

/-- The record after it read of a report what concerns an AC input found after a start. -/
def seen (record : ChargeRecord) (left : Bool) (setpoint : Option ℚ) : ChargeRecord :=
  { record with foundChargeLeft := left, lastSetpoint := setpoint }

theorem observeFoundExit_seen (report : DirectionReport) (setpoint : Option ℚ) :
    ∃ left, { record.observeFoundExit report setpoint with lastSetpoint := setpoint } =
      record.seen left setpoint := by
  rw [observeFoundExit]
  split
  · exact ⟨record.foundChargeLeft, rfl⟩
  · dsimp only
    split
    · exact ⟨true, rfl⟩
    · exact ⟨record.foundChargeLeft, rfl⟩

/-- What one report leaves: nothing is on record, no exit is out yet, the report ends the charge,
or it counts for the exit that is out. -/
inductive Observed (record : ChargeRecord) (report : DirectionReport) (setpointReported : Bool)
    (seen : ChargeRecord) : ChargeRecord → Prop where
  | closed (hopen : record.isOpen = false) : Observed record report setpointReported seen seen
  | showing (hopen : record.isOpen = true) (hat : record.exitSentAt = none)
      (hshows : setpointReported = true ∧ report.inputLimitW.value ≠ 0 ∧
        inAcInputDirection report = true) :
      Observed record report setpointReported seen
        { seen with reportedW := some report.inputLimitW.value }
  | waiting (hopen : record.isOpen = true) (hat : record.exitSentAt = none)
      (hnot : ¬ (setpointReported = true ∧ report.inputLimitW.value ≠ 0 ∧
        inAcInputDirection report = true)) : Observed record report setpointReported seen seen
  | ended (hopen : record.isOpen = true) (hat : record.exitSentAt ≠ none)
      (hends : record.ends report setpointReported = true) :
      Observed record report setpointReported seen seen.release
  | counted (hopen : record.isOpen = true) (hat : record.exitSentAt ≠ none)
      (hends : record.ends report setpointReported = false) :
      Observed record report setpointReported seen (seen.observeDrawnExit report)

theorem shows_iff (report : DirectionReport) (setpointReported : Bool) :
    ((setpointOf report setpointReported).isSome &&
        decide (setpointOf report setpointReported ≠ some 0) && inAcInputDirection report) = true ↔
      setpointReported = true ∧ report.inputLimitW.value ≠ 0 ∧ inAcInputDirection report = true := by
  cases setpointReported with
  | false | true => simp [setpointOf]

/-- **One report, case by case.** -/
theorem observe_observed (record : ChargeRecord) (report : DirectionReport)
    (setpointReported : Bool) :
    ∃ left, Observed record report setpointReported
      (record.seen left (setpointOf report setpointReported))
      (record.observe report setpointReported) := by
  obtain ⟨left, hleft⟩ :=
    record.observeFoundExit_seen report (setpointOf report setpointReported)
  refine ⟨left, ?_⟩
  generalize hseen : record.seen left (setpointOf report setpointReported) = seen at *
  have hopen : seen.isOpen = record.isOpen := hseen ▸ rfl
  have hat : seen.exitSentAt = record.exitSentAt := hseen ▸ rfl
  have hends : seen.ends report setpointReported = record.ends report setpointReported := hseen ▸ rfl
  unfold observe
  extract_lets setpoint found read
  have hread : read = seen := hleft
  have hsetpoint : setpoint = setpointOf report setpointReported := rfl
  clear_value read setpoint
  subst hread hsetpoint
  split_ifs with hclosed hnone hshows hended
  · exact .closed (by simpa [hopen] using hclosed)
  · have hshown := (shows_iff report setpointReported).mp hshows
    rw [setpointOf, if_pos hshown.1]
    exact .showing (by simpa [hopen] using hclosed) (hat ▸ hnone) hshown
  · refine .waiting (by simpa [hopen] using hclosed) (hat ▸ hnone) fun hshown => hshows ?_
    exact (shows_iff report setpointReported).mpr hshown
  · exact .ended (by simpa [hopen] using hclosed) (hat ▸ hnone) (hends ▸ hended)
  · exact .counted (by simpa [hopen] using hclosed) (hat ▸ hnone)
      (hends ▸ Bool.eq_false_iff.mpr hended)

end ChargeRecord

namespace ChargeHistory

variable {h : ChargeHistory} {windowS now : ℚ} {call : ChargeCall}

/-! ### One call -/

theorem foundAfter_eq (hsame : (h.record.call now call).foundExitAttempts = h.record.foundExitAttempts) :
    h.foundAfter now call = h.found := by
  rw [foundAfter, hsame, if_neg (lt_irrefl _)]

theorem Tracks.step_of_found_eq (ht : h.Tracks windowS) (hle : h.clock ≤ now)
    (hwindow : (h.record.call now call).resendAfterS = h.record.resendAfterS)
    (hat : (h.record.call now call).foundExitSentAt = h.record.foundExitSentAt)
    (hattempts : (h.record.call now call).foundExitAttempts = h.record.foundExitAttempts)
    (hcommanded : (h.record.call now call).isOpen = true →
      (h.record.call now call).commandedW = (h.commandedAfter call).map (Int.cast : ℤ → ℚ))
    (hshown : (h.record.call now call).reportedW =
      if (h.record.call now call).isOpen then h.shownAfter call else none)
    (hexits : (h.record.call now call).isOpen = true →
      (h.record.call now call).exitSentAt = (h.exitsAfter now call).head?)
    (hspaced : Spaced windowS now (h.exitsAfter now call))
    (hdrawn : (h.record.call now call).isOpen = true → h.onlyDrawnAfter call = true →
      (0 < (h.record.call now call).drawnExits →
        (h.record.call now call).drawn = true ∧ h.exitsAfter now call ≠ []) ∧
      (h.record.call now call).drawnExits ≤ foundExitAttemptsMax ∧
      ((h.record.call now call).exitDrawn = false →
        (h.record.call now call).drawnExits < foundExitAttemptsMax)) :
    (h.step (now, call)).Tracks windowS where
  window := hwindow.trans ht.window
  commanded := hcommanded
  shown := hshown
  exits := hexits
  exits_spaced := hspaced
  found := by
    show _ = (h.foundAfter now call).head?
    rw [foundAfter_eq hattempts]
    exact hat.trans ht.found
  found_length := by
    show _ = (h.foundAfter now call).length
    rw [foundAfter_eq hattempts]
    exact hattempts.trans ht.found_length
  found_le := by
    show (h.foundAfter now call).length ≤ _
    rw [foundAfter_eq hattempts]
    exact ht.found_le
  found_spaced := by
    show Spaced windowS now (h.foundAfter now call)
    rw [foundAfter_eq hattempts]
    exact ht.found_spaced.mono hle
  drawn := hdrawn

theorem Tracks.chargeSent (ht : h.Tracks windowS) (hle : h.clock ≤ now) (setpointW : ℤ) :
    (h.step (now, .chargeSent setpointW)).Tracks windowS := by
  refine ht.step_of_found_eq hle rfl rfl rfl (fun _ => rfl) ht.shown (fun _ => rfl) (.nil _ _) ?_
  intro _ _
  exact ⟨fun hpos => absurd hpos (Nat.lt_irrefl 0), Nat.zero_le _, fun _ => Nat.succ_pos _⟩

/-- **An exit that is due follows the last one by a window**, and is not the fourth that is
counted. -/
theorem Tracks.exitSent (ht : h.Tracks windowS) (hle : h.clock ≤ now)
    (hdue : h.record.exitDue now = true) (targetW : Option ℤ) :
    (h.step (now, .exitSent targetW)).Tracks windowS := by
  rw [ChargeRecord.exitDue] at hdue
  split at hdue
  · cases hdue
  · next hnot =>
    obtain ⟨hopen, hspent⟩ : h.record.isOpen = true ∧ h.record.drawnExitsSpent = false := by
      simpa using hnot
    have hrecord : h.record.call now (.exitSent targetW) =
        { h.record with exitSentAt := some now, exitTargetW := targetW, exitDrawn := false } :=
      if_pos hopen
    have hwindow : ∀ latest ∈ h.exits.head?, windowS ≤ now - latest := by
      intro latest hlatest
      rw [ChargeRecord.exitWindowPassed, ht.exits hopen, Option.mem_def.mp hlatest, ht.window] at hdue
      exact of_decide_eq_true hdue
    refine ht.step_of_found_eq hle ?_ ?_ ?_ ?_ ?_ ?_ (ht.exits_spaced.cons hle hwindow) ?_
    all_goals rw [hrecord]
    · exact ht.commanded
    · exact ht.shown
    · exact fun _ => rfl
    · intro _ honly
      obtain ⟨hpos, hmax, -⟩ := ht.drawn hopen honly
      refine ⟨fun hcount => ⟨(hpos hcount).1, List.cons_ne_nil _ _⟩, hmax, fun _ => ?_⟩
      rw [ChargeRecord.drawnExitsSpent] at hspent
      by_contra hge
      have hcount : foundExitAttemptsMax ≤ h.record.drawnExits := not_lt.mp hge
      have hdrawn : h.record.drawn = true := (hpos (Nat.lt_of_lt_of_le (by decide) hcount)).1
      simp [hdrawn, hcount] at hspent

theorem reductionSent_eq (targetW : ℤ) : ∃ target,
    h.record.reductionSent targetW = { h.record with exitTargetW := target } := by
  rw [ChargeRecord.reductionSent]
  split
  · exact ⟨some targetW, rfl⟩
  · exact ⟨h.record.exitTargetW, rfl⟩

variable {timed : ℚ × ChargeCall} {sentAt : ℚ}

section

variable (ht : h.Tracks windowS)
include ht

theorem Tracks.reductionSent (hle : h.clock ≤ now) (targetW : ℤ) :
    (h.step (now, .reductionSent targetW)).Tracks windowS := by
  obtain ⟨target, hrecord⟩ : ∃ target, h.record.call now (.reductionSent targetW) =
      { h.record with exitTargetW := target } := reductionSent_eq targetW
  refine ht.step_of_found_eq hle ?_ ?_ ?_ ?_ ?_ ?_ (ht.exits_spaced.mono hle) ?_
  all_goals rw [hrecord]
  · exact ht.commanded
  · exact ht.shown
  · exact ht.exits
  · exact ht.drawn

theorem Tracks.release (hle : h.clock ≤ now) :
    (h.step (now, .release)).Tracks windowS :=
  ht.step_of_found_eq hle rfl rfl rfl nofun rfl nofun (ht.exits_spaced.mono hle) nofun

/-- **An attempt that is counted follows the last one by a window**, and is not the fourth. -/
theorem Tracks.foundExitSent (hle : h.clock ≤ now) :
    (h.step (now, .foundExitSent)).Tracks windowS := by
  cases hdue : h.record.foundExitDue now with
  | false =>
    have hrecord : h.record.call now .foundExitSent = h.record := by
      show ChargeRecord.foundExitSent _ _ = _
      rw [ChargeRecord.foundExitSent, hdue]
      rfl
    refine ht.step_of_found_eq hle ?_ ?_ ?_ ?_ ?_ ?_ (ht.exits_spaced.mono hle) ?_
    all_goals rw [hrecord]
    · exact ht.commanded
    · exact ht.shown
    · exact ht.exits
    · exact ht.drawn
  | true =>
    have hrecord : h.record.call now .foundExitSent =
        { h.record with
          foundExitAttempts := h.record.foundExitAttempts + 1
          foundExitSentAt := some now
          foundSetpoint := h.record.lastSetpoint } := by
      show ChargeRecord.foundExitSent _ _ = _
      rw [ChargeRecord.foundExitSent, hdue]
      rfl
    have hfound : h.foundAfter now .foundExitSent = now :: h.found := by
      rw [foundAfter, hrecord, if_pos (Nat.lt_succ_self _)]
    rw [ChargeRecord.foundExitDue, Bool.and_eq_true, decide_eq_true_eq, ht.found_length] at hdue
    obtain ⟨hlt, hover⟩ := hdue
    have hwindow : ∀ latest ∈ h.found.head?, windowS ≤ now - latest := by
      intro latest hlatest
      rw [ChargeRecord.foundExitWindowOver, ht.found, Option.mem_def.mp hlatest, ht.window] at hover
      exact of_decide_eq_true hover
    constructor
    all_goals simp only [step, hrecord, hfound]
    · exact ht.window
    · exact ht.commanded
    · exact ht.shown
    · exact ht.exits
    · exact ht.exits_spaced.mono hle
    · rfl
    · rw [ht.found_length, List.length_cons]
    · exact hlt
    · exact ht.found_spaced.cons hle hwindow
    · exact ht.drawn

theorem Tracks.ends_eq (hopen : h.record.isOpen = true)
    (report : DirectionReport) (setpointReported : Bool) :
    h.record.ends report setpointReported =
      (outOfCharge report || h.foreign report setpointReported) := by
  have hshown := ht.shown
  rw [if_pos hopen] at hshown
  rw [ChargeRecord.ends, foreign, ht.commanded hopen, hshown]
  cases setpointReported with
  | false | true => simp [ChargeRecord.setpointOf]

/-- **A report counts for the exit that is out**, at most once. -/
theorem Tracks.observeDrawnExit (hopen : h.record.isOpen = true)
    (hexits : h.exits ≠ []) (report : DirectionReport) (setpointReported : Bool)
    (honly : h.onlyDrawnAfter (.observe report setpointReported) = true) {left : Bool}
    {setpoint : Option ℚ} {record : ChargeRecord}
    (hrecord : record = (h.record.seen left setpoint).observeDrawnExit report) :
    (0 < record.drawnExits → record.drawn = true ∧ h.exits ≠ []) ∧
      record.drawnExits ≤ foundExitAttemptsMax ∧
      (record.exitDrawn = false → record.drawnExits < foundExitAttemptsMax) := by
  rw [onlyDrawnAfter, Bool.and_eq_true, Bool.or_eq_true, decide_eq_true_eq] at honly
  obtain ⟨hbefore, hnow⟩ := honly
  have hdraw : inAcInputDirection report = false := by
    have hshows := hnow.resolve_left hexits
    rw [showsOnlyDraw, Bool.and_eq_true, Bool.and_eq_true] at hshows
    exact Bool.not_eq_true' _ ▸ hshows.1.1
  obtain ⟨-, hmax, hlt⟩ := ht.drawn hopen hbefore
  rw [ChargeRecord.observeDrawnExit, hdraw] at hrecord
  cases hcounted : h.record.exitDrawn with
  | true =>
    rw [if_neg (by simp [ChargeRecord.seen, hcounted])] at hrecord
    subst hrecord
    exact ⟨fun _ => ⟨rfl, hexits⟩, hmax, fun hnot => absurd (hcounted.symm.trans hnot) (by decide)⟩
  | false =>
    rw [if_pos (by simp [ChargeRecord.seen, hcounted])] at hrecord
    subst hrecord
    exact ⟨fun _ => ⟨rfl, hexits⟩, hlt hcounted, nofun⟩

theorem Tracks.observe (hle : h.clock ≤ now) (report : DirectionReport)
    (setpointReported : Bool) : (h.step (now, .observe report setpointReported)).Tracks windowS := by
  obtain ⟨left, hobserved⟩ := h.record.observe_observed report setpointReported
  generalize hseen : h.record.seen left
    (ChargeRecord.setpointOf report setpointReported) = seen at hobserved
  generalize hrecord : h.record.observe report setpointReported = record' at hobserved
  have hcall : h.record.call now (.observe report setpointReported) = record' := hrecord
  have hspaced : Spaced windowS now (h.exitsAfter now (.observe report setpointReported)) :=
    ht.exits_spaced.mono hle
  -- Where no exit is out, a setpoint is shown exactly when the record takes it up.
  have hshownAfter : h.record.isOpen = true → (h.shownAfter (.observe report setpointReported) =
      if h.exits = [] ∧ setpointReported = true ∧ report.inputLimitW.value ≠ 0 ∧
        inAcInputDirection report = true then some report.inputLimitW.value else h.shown) := by
    intro hopen
    simp [shownAfter, hopen]
  have hnone : h.record.isOpen = true → (h.record.exitSentAt = none ↔ h.exits = []) := by
    intro hopen
    rw [ht.exits hopen, List.head?_eq_none_iff]
  have honly : h.onlyDrawnAfter (.observe report setpointReported) = true → h.onlyDrawn = true :=
    fun hafter => (Bool.and_eq_true_iff.mp hafter).1
  cases hobserved with
  | closed hopen =>
    subst hseen
    refine ht.step_of_found_eq hle ?_ ?_ ?_ ?_ ?_ ?_ hspaced ?_
    all_goals rw [hcall]
    · rfl
    · rfl
    · rfl
    · exact ht.commanded
    · have hshown := ht.shown
      rw [hopen] at hshown
      simp [ChargeRecord.seen, hopen, hshown]
    · exact ht.exits
    · exact fun hopen' hafter => ht.drawn hopen' (honly hafter)
  | showing hopen hat hshows =>
    subst hseen
    refine ht.step_of_found_eq hle ?_ ?_ ?_ ?_ ?_ ?_ hspaced ?_
    all_goals rw [hcall]
    · rfl
    · rfl
    · rfl
    · exact ht.commanded
    · show some _ = if h.record.isOpen then _ else none
      rw [if_pos hopen, hshownAfter hopen, if_pos ⟨(hnone hopen).mp hat, hshows⟩]
    · exact ht.exits
    · exact fun hopen' hafter => ht.drawn hopen' (honly hafter)
  | waiting hopen hat hnot =>
    subst hseen
    refine ht.step_of_found_eq hle ?_ ?_ ?_ ?_ ?_ ?_ hspaced ?_
    all_goals rw [hcall]
    · rfl
    · rfl
    · rfl
    · exact ht.commanded
    · have hshown := ht.shown
      rw [if_pos hopen] at hshown
      show h.record.reportedW = if h.record.isOpen then _ else none
      rw [if_pos hopen, hshownAfter hopen, if_neg fun hshows => hnot hshows.2, hshown]
    · exact ht.exits
    · exact fun hopen' hafter => ht.drawn hopen' (honly hafter)
  | ended hopen hat hends =>
    subst hseen
    refine ht.step_of_found_eq hle ?_ ?_ ?_ ?_ ?_ ?_ hspaced ?_
    all_goals rw [hcall]
    · rfl
    · rfl
    · rfl
    · exact nofun
    · rfl
    · exact nofun
    · exact nofun
  | counted hopen hat hends =>
    have hkept : ∃ drawn exitDrawn drawnExits, seen.observeDrawnExit report =
        { seen with drawn := drawn, exitDrawn := exitDrawn, drawnExits := drawnExits } := by
      rw [ChargeRecord.observeDrawnExit]
      split
      · exact ⟨_, _, _, rfl⟩
      · exact ⟨_, _, _, rfl⟩
    have hexits : h.exits ≠ [] := fun hnil => hat ((hnone hopen).mpr hnil)
    have hdrawn := fun hafter => ht.observeDrawnExit hopen hexits report setpointReported
      hafter (congrArg (·.observeDrawnExit report) hseen.symm)
    obtain ⟨drawn, exitDrawn, drawnExits, hkept⟩ := hkept
    subst hseen
    refine ht.step_of_found_eq hle ?_ ?_ ?_ ?_ ?_ ?_ hspaced ?_
    all_goals rw [hcall]
    · rw [hkept]
      rfl
    · rw [hkept]
      rfl
    · rw [hkept]
      rfl
    · rw [hkept]
      exact ht.commanded
    · have hshown := ht.shown
      rw [if_pos hopen] at hshown
      rw [hkept]
      show h.record.reportedW = if h.record.isOpen then _ else none
      rw [if_pos hopen, hshownAfter hopen, if_neg fun hshows => hexits hshows.1, hshown]
    · rw [hkept]
      exact ht.exits
    · exact fun _ hafter => hdrawn hafter

/-- **One call keeps the record and its calls in agreement.** -/
theorem Tracks.step (hallowed : h.Allowed timed) :
    (h.step timed).Tracks windowS := by
  obtain ⟨now, call⟩ := timed
  obtain ⟨hle, hdue⟩ := hallowed
  cases call with
  | chargeSent setpointW => exact ht.chargeSent hle setpointW
  | exitSent targetW => exact ht.exitSent hle (hdue targetW rfl) targetW
  | reductionSent targetW => exact ht.reductionSent hle targetW
  | foundExitSent => exact ht.foundExitSent hle
  | observe report setpointReported => exact ht.observe hle report setpointReported
  | release => exact ht.release hle

end

theorem Tracks.new (windowS clock : ℚ) : (new windowS clock).Tracks windowS where
  window := rfl
  commanded := nofun
  shown := rfl
  exits := nofun
  exits_spaced := .nil _ _
  found := rfl
  found_length := rfl
  found_le := Nat.zero_le _
  found_spaced := .nil _ _
  drawn := nofun

/-! ### What every call keeps to -/

/-- The bounds on one call, in the terms of the calls. -/
structure Disciplined (windowS : ℚ) (h : ChargeHistory) (timed : ℚ × ChargeCall) : Prop where
  /-- Only a release closes the record, or a report after an exit that is out of the charge or
  shows another setpoint. -/
  closes : h.record.isOpen = true → (h.step timed).record.isOpen = false →
    timed.2 = .release ∨ ∃ report setpointReported, timed.2 = .observe report setpointReported ∧
      h.exits ≠ [] ∧ (outOfCharge report = true ∨ h.foreign report setpointReported = true)
  /-- Exits of one charge command are a window apart. -/
  exits_apart : (h.step timed).exits.Pairwise fun later earlier => windowS ≤ later - earlier
  /-- Three attempts are counted at most, each a window after the one before. -/
  found_attempts : (h.step timed).record.foundExitAttempts = (h.step timed).found.length ∧
    (h.step timed).found.length ≤ foundExitAttemptsMax ∧
    (h.step timed).found.Pairwise fun later earlier => windowS ≤ later - earlier
  /-- A charge shown by its grid draw alone has three exits counted at most. -/
  drawn_exits : (h.step timed).record.isOpen = true → (h.step timed).onlyDrawn = true →
    (h.step timed).record.drawnExits ≤ foundExitAttemptsMax
  /-- A reduction moves neither the window nor the count. -/
  reduction : ∀ targetW, timed.2 = .reductionSent targetW →
    (h.step timed).record.drawnExits = h.record.drawnExits ∧ (h.step timed).exits = h.exits ∧
      ∀ t, (h.step timed).record.exitDue t = h.record.exitDue t ∧
        (h.step timed).record.exitExhausted t = h.record.exitExhausted t

/-- Three exits were counted on a charge that only its grid draw shows. -/
def Spent (h : ChargeHistory) : Prop :=
  h.record.isOpen = true ∧ h.onlyDrawn = true ∧ h.record.drawnExits = foundExitAttemptsMax

/-- No new charge command, and no report that shows more than grid draw. -/
def Quiet (h : ChargeHistory) (timed : ℚ × ChargeCall) : Prop :=
  (∀ setpointW, timed.2 ≠ .chargeSent setpointW) ∧
    ∀ report setpointReported, timed.2 = .observe report setpointReported →
      h.showsOnlyDraw report setpointReported = true

theorem Tracks.closes (ht : h.Tracks windowS)
    (hopen : h.record.isOpen = true) (hclosed : (h.step timed).record.isOpen = false) :
    timed.2 = .release ∨ ∃ report setpointReported, timed.2 = .observe report setpointReported ∧
      h.exits ≠ [] ∧ (outOfCharge report = true ∨ h.foreign report setpointReported = true) := by
  obtain ⟨now, call⟩ := timed
  cases call with
  | release => exact .inl rfl
  | chargeSent setpointW => cases hclosed
  | exitSent targetW =>
    exact absurd ((ChargeRecord.exitSent_isOpen now targetW).symm.trans hclosed) (by simp [hopen])
  | reductionSent targetW =>
    exact absurd ((ChargeRecord.reductionSent_isOpen targetW).symm.trans hclosed) (by simp [hopen])
  | foundExitSent =>
    exact absurd ((ChargeRecord.foundExitSent_frame now).1.symm.trans hclosed) (by simp [hopen])
  | observe report setpointReported =>
    refine .inr ⟨report, setpointReported, rfl, ?_⟩
    obtain ⟨left, hobserved⟩ := h.record.observe_observed report setpointReported
    have hends : h.record.exitSentAt ≠ none ∧ h.record.ends report setpointReported = true := by
      have hresult : (h.record.observe report setpointReported).isOpen = false := hclosed
      generalize h.record.observe report setpointReported = record' at hobserved hresult
      cases hobserved with
      | closed hnot => exact absurd hopen (by simp [hnot])
      | showing _ _ _ | waiting _ _ _ => exact absurd (hopen.symm.trans hresult) (by decide)
      | ended _ hat hends => exact ⟨hat, hends⟩
      | counted _ _ _ =>
        rw [ChargeRecord.observeDrawnExit] at hresult
        split at hresult
        · exact absurd (hopen.symm.trans hresult) (by decide)
        · exact absurd (hopen.symm.trans hresult) (by decide)
    rw [ht.exits hopen, ne_eq, List.head?_eq_none_iff, ht.ends_eq hopen, Bool.or_eq_true] at hends
    exact hends

theorem reduction_frame (now : ℚ) (targetW : ℤ) :
    (h.step (now, .reductionSent targetW)).record.drawnExits = h.record.drawnExits ∧
      (h.step (now, .reductionSent targetW)).exits = h.exits ∧
      ∀ t, (h.step (now, .reductionSent targetW)).record.exitDue t = h.record.exitDue t ∧
        (h.step (now, .reductionSent targetW)).record.exitExhausted t =
          h.record.exitExhausted t := by
  obtain ⟨target, hrecord⟩ : ∃ target, (h.step (now, .reductionSent targetW)).record =
      { h.record with exitTargetW := target } := reductionSent_eq targetW
  rw [hrecord]
  exact ⟨rfl, rfl, fun t => ⟨rfl, rfl⟩⟩

theorem Tracks.disciplined (ht : h.Tracks windowS)
    (hallowed : h.Allowed timed) : Disciplined windowS h timed where
  closes := ht.closes
  exits_apart := (ht.step hallowed).exits_spaced.apart
  found_attempts :=
    ⟨(ht.step hallowed).found_length, (ht.step hallowed).found_le, (ht.step hallowed).found_spaced.apart⟩
  drawn_exits := fun hopen honly => ((ht.step hallowed).drawn hopen honly).2.1
  reduction := by
    intro targetW hcall
    obtain ⟨now, call⟩ := timed
    subst hcall
    exact reduction_frame now targetW

/-! ### A charge that only grid draw shows -/

/-- The spent exits of a charge, the last of them at `sentAt`, as long as it is on record. -/
structure SpentSince (windowS sentAt : ℚ) (h : ChargeHistory) : Prop where
  tracks : h.Tracks windowS
  spent : h.record.isOpen = true → h.Spent ∧ h.exits.head? = some sentAt

/-- **No exit is due once they are spent**, and a window after the last one they are
exhausted. -/
theorem SpentSince.never_due (hs : SpentSince windowS sentAt h) (t : ℚ) :
    h.record.exitDue t = false ∧
      (h.record.isOpen = true → sentAt + windowS ≤ t → h.record.exitExhausted t = true) := by
  cases hopen : h.record.isOpen with
  | false => exact ⟨by simp [ChargeRecord.exitDue, hopen], nofun⟩
  | true =>
    obtain ⟨⟨-, honly, hcount⟩, hlast⟩ := hs.spent hopen
    have hdrawn : h.record.drawn = true :=
      ((hs.tracks.drawn hopen honly).1 (by rw [hcount]; decide)).1
    have hspent : h.record.drawnExitsSpent = true := by
      simp [ChargeRecord.drawnExitsSpent, hdrawn, hcount]
    refine ⟨by simp [ChargeRecord.exitDue, hspent], fun _ hle => ?_⟩
    have hpassed : h.record.exitWindowPassed t = true := by
      rw [ChargeRecord.exitWindowPassed, hs.tracks.exits hopen, hlast, hs.tracks.window]
      exact decide_eq_true (le_sub_iff_add_le'.mpr hle)
    simp [ChargeRecord.exitExhausted, hopen, hspent, hpassed]

theorem drawnExits_le_observe (report : DirectionReport) (setpointReported : Bool)
    (hopen : (h.record.observe report setpointReported).isOpen = true) :
    h.record.isOpen = true ∧
      h.record.drawnExits ≤ (h.record.observe report setpointReported).drawnExits := by
  obtain ⟨left, hobserved⟩ := h.record.observe_observed report setpointReported
  generalize h.record.observe report setpointReported = record' at hobserved hopen
  cases hobserved with
  | closed hnot => exact absurd (hnot.symm.trans hopen) (by decide)
  | showing hwas _ _ | waiting hwas _ _ => exact ⟨hwas, le_rfl⟩
  | ended _ _ _ => cases hopen
  | counted hwas _ _ =>
    refine ⟨hwas, ?_⟩
    rw [ChargeRecord.observeDrawnExit]
    split
    · exact Nat.le_succ _
    · exact le_rfl

theorem SpentSince.step (hs : SpentSince windowS sentAt h)
    (hallowed : h.Allowed timed) (hquiet : h.Quiet timed) :
    SpentSince windowS sentAt (h.step timed) := by
  refine ⟨hs.tracks.step hallowed, ?_⟩
  have htracks := hs.tracks.step hallowed
  obtain ⟨now, call⟩ := timed
  cases call with
  | chargeSent setpointW => exact absurd rfl (hquiet.1 setpointW)
  | exitSent targetW =>
    exact absurd (hallowed.2 targetW rfl) (by rw [(hs.never_due now).1]; decide)
  | release => exact nofun
  | reductionSent targetW =>
    intro hopen
    rw [show (h.step (now, .reductionSent targetW)).record.isOpen = h.record.isOpen from
      ChargeRecord.reductionSent_isOpen targetW] at hopen
    obtain ⟨⟨-, honly, hcount⟩, hlast⟩ := hs.spent hopen
    obtain ⟨hsame, -, -⟩ := h.reduction_frame now targetW
    exact ⟨⟨(ChargeRecord.reductionSent_isOpen targetW).trans hopen, honly, hsame.trans hcount⟩, hlast⟩
  | foundExitSent =>
    intro hopen
    obtain ⟨hsame, -, -, hdrawn⟩ := h.record.foundExitSent_frame now
    obtain ⟨⟨hwas, honly, hcount⟩, hlast⟩ := hs.spent (hsame.symm.trans hopen)
    exact ⟨⟨hopen, honly, hdrawn.trans hcount⟩, hlast⟩
  | observe report setpointReported =>
    intro hopen
    obtain ⟨hwas, hle⟩ := drawnExits_le_observe report setpointReported hopen
    obtain ⟨⟨-, honly, hcount⟩, hlast⟩ := hs.spent hwas
    have honly' : (h.step (now, .observe report setpointReported)).onlyDrawn = true := by
      show (h.onlyDrawn && _) = true
      rw [honly, hquiet.2 report setpointReported rfl, Bool.or_true]
      rfl
    refine ⟨⟨hopen, honly', le_antisymm (htracks.drawn hopen honly').2.1 ?_⟩, hlast⟩
    rw [← hcount]
    exact hle

theorem Tracks.spentSince (ht : h.Tracks windowS) (hspent : h.Spent) :
    ∃ sentAt, h.exits.head? = some sentAt ∧ SpentSince windowS sentAt h := by
  obtain ⟨hopen, honly, hcount⟩ := hspent
  have hexits : h.exits ≠ [] := ((ht.drawn hopen honly).1 (by rw [hcount]; decide)).2
  obtain ⟨sentAt, hlast⟩ := Option.ne_none_iff_exists'.mp (mt List.head?_eq_none_iff.mp hexits)
  exact ⟨sentAt, hlast, ht, fun _ => ⟨⟨hopen, honly, hcount⟩, hlast⟩⟩

/-! ### Exits of two charge commands, and setpoints of two -/

/-- A report of a device that charges in the AC-input direction. -/
def chargingReport (inputLimitW : ℤ) : DirectionReport where
  acMode := .int 1
  acStatus := .int 2
  inputLimitW := .int inputLimitW
  gridInput := .int inputLimitW
  acModeReported := true

/-- A charge is sent, and an exit; a second later both are sent again. -/
def resentCharge : List (ℚ × ChargeCall) :=
  [(0, .chargeSent 300), (0, .exitSent (some 0)), (1, .chargeSent 300), (1, .exitSent (some 0))]

/-- A charge is sent and changed before the device took it, and an exit follows. -/
def changedCharge : List (ℚ × ChargeCall) :=
  [(0, .chargeSent 300), (1, .chargeSent 500), (2, .exitSent (some 0))]

/-- The times of all exits of a run. -/
def exitTimes (calls : List (ℚ × ChargeCall)) : List ℚ :=
  calls.filterMap fun timed => match timed.2 with
    | .exitSent _ => some timed.1
    | _ => none

/-- The setpoints of all charge commands of a run. -/
def commandedSetpoints (calls : List (ℚ × ChargeCall)) : List ℚ :=
  calls.filterMap fun timed => match timed.2 with
    | .chargeSent setpointW => some (setpointW : ℚ)
    | _ => none

end ChargeHistory

/-! ### Runs in which a charge is not changed on its way out -/

/-- A history with every setpoint that was commanded and every exit that was sent, whichever charge
they belong to. -/
structure ChargeCourse where
  history : ChargeHistory
  setpoints : List ℤ
  exitTimes : List ℚ

namespace ChargeCourse

open ChargeHistory (chargingReport)

def new (resendAfterS clock : ℚ) : ChargeCourse := ⟨.new resendAfterS clock, [], []⟩

variable (c : ChargeCourse)

def setpointsAfter : ChargeCall → List ℤ
  | .chargeSent setpointW => setpointW :: c.setpoints
  | _ => c.setpoints

def exitTimesAfter (now : ℚ) : ChargeCall → List ℚ
  | .exitSent _ => now :: c.exitTimes
  | _ => c.exitTimes

def step (timed : ℚ × ChargeCall) : ChargeCourse :=
  ⟨c.history.step timed, c.setpointsAfter timed.2, c.exitTimesAfter timed.1 timed.2⟩

def Allowed (timed : ℚ × ChargeCall) : Prop := c.history.Allowed timed

instance decidableAllowed (timed : ℚ × ChargeCall) : Decidable (c.Allowed timed) :=
  inferInstanceAs (Decidable (c.history.Allowed timed))

/-- The charge command drops no exit: none is out, and the window of the last one has passed. -/
def FreshCharge (windowS now : ℚ) : Prop :=
  (c.history.record.isOpen = true → c.history.exits = []) ∧
    ∀ sentAt ∈ c.exitTimes, windowS ≤ now - sentAt

/-- The report shows, of the setpoints that were commanded, none but the last, unless it is the one
shown before. -/
def ShowsNoEarlier (report : DirectionReport) : Prop :=
  ∀ setpointW ∈ c.setpoints, report.inputLimitW.value = setpointW →
    c.history.commanded = some setpointW ∨ c.history.shown = some (setpointW : ℚ)

instance decidableFreshCharge (windowS now : ℚ) : Decidable (c.FreshCharge windowS now) :=
  inferInstanceAs (Decidable ((_ → _) ∧ ∀ sentAt ∈ c.exitTimes, windowS ≤ now - sentAt))

instance decidableShowsNoEarlier (report : DirectionReport) : Decidable (c.ShowsNoEarlier report) :=
  inferInstanceAs (Decidable (∀ setpointW ∈ c.setpoints, _ → _ ∨ _))

/-- A charge is not commanded anew while an exit is out or its window runs, and a device that still
charges after an exit does not show an earlier setpoint of the EMS. -/
def Undisturbed (windowS : ℚ) (timed : ℚ × ChargeCall) : Prop :=
  match timed.2 with
  | .chargeSent _ => c.FreshCharge windowS timed.1
  | .observe report true =>
    c.history.exits = [] ∨ outOfCharge report = true ∨ c.ShowsNoEarlier report
  | _ => True

instance decidableUndisturbed (windowS : ℚ) (timed : ℚ × ChargeCall) :
    Decidable (c.Undisturbed windowS timed) :=
  match timed with
  | (now, .chargeSent _) => inferInstanceAs (Decidable (c.FreshCharge windowS now))
  | (_, .observe report true) => inferInstanceAs
      (Decidable (c.history.exits = [] ∨ outOfCharge report = true ∨ c.ShowsNoEarlier report))
  | (_, .observe _ false) | (_, .exitSent _) | (_, .reductionSent _) | (_, .foundExitSent)
  | (_, .release) => isTrue trivial

/-- The bounds on one call, whichever charge it belongs to. -/
structure Disciplined (windowS : ℚ) (c : ChargeCourse) (timed : ℚ × ChargeCall) : Prop where
  /-- Only a release closes the record, or a report after an exit that is out of the charge or
  shows a setpoint that was neither commanded nor the last one shown. -/
  closes : c.history.record.isOpen = true → (c.step timed).history.record.isOpen = false →
    timed.2 = .release ∨ ∃ report setpointReported, timed.2 = .observe report setpointReported ∧
      c.history.exits ≠ [] ∧ (outOfCharge report = true ∨ setpointReported = true ∧
        (∀ setpointW ∈ c.setpoints, report.inputLimitW.value ≠ setpointW) ∧
        some report.inputLimitW.value ≠ c.history.shown)
  /-- Any two exits are a window apart. -/
  exits_apart : (c.step timed).exitTimes.Pairwise fun later earlier => windowS ≤ later - earlier
  history : c.history.Disciplined windowS timed

/-- A report shows the charge by its grid draw alone, and the record is not released. -/
def OnlyDrawn (timed : ℚ × ChargeCall) : Prop :=
  match timed.2 with
  | .observe report setpointReported => c.history.showsOnlyDraw report setpointReported = true
  | .release => False
  | _ => True

instance decidableOnlyDrawn (timed : ℚ × ChargeCall) : Decidable (c.OnlyDrawn timed) :=
  match timed with
  | (_, .observe report setpointReported) =>
    inferInstanceAs (Decidable (c.history.showsOnlyDraw report setpointReported = true))
  | (_, .chargeSent _) | (_, .exitSent _) | (_, .reductionSent _) | (_, .foundExitSent) =>
    isTrue trivial
  | (_, .release) => isFalse id

variable {c : ChargeCourse} {windowS : ℚ}

/-- **The exits of all charges, and those of the one on record.** -/
structure Tracks (windowS : ℚ) (c : ChargeCourse) : Prop where
  history : c.history.Tracks windowS
  spaced : ChargeHistory.Spaced windowS c.history.clock c.exitTimes
  latest : c.history.exits ≠ [] → c.history.exits.head? = c.exitTimes.head?
  rested : c.history.exits = [] → ∀ sentAt ∈ c.exitTimes, windowS ≤ c.history.clock - sentAt

theorem Tracks.new (windowS clock : ℚ) : (new windowS clock).Tracks windowS where
  history := .new windowS clock
  spaced := .nil _ _
  latest h := absurd rfl h
  rested _ := nofun

variable {timed : ℚ × ChargeCall}

/-- A call that is neither a charge command nor an exit leaves the exits as they are. -/
theorem Tracks.step_of_kept (ht : c.Tracks windowS)
    (hallowed : c.Allowed timed) (hexits : c.history.exitsAfter timed.1 timed.2 = c.history.exits)
    (htimes : c.exitTimesAfter timed.1 timed.2 = c.exitTimes) : (c.step timed).Tracks windowS where
  history := ht.history.step hallowed
  spaced := by
    show ChargeHistory.Spaced windowS timed.1 (c.exitTimesAfter timed.1 timed.2)
    rw [htimes]
    exact ht.spaced.mono hallowed.1
  latest := by
    show c.history.exitsAfter timed.1 timed.2 ≠ [] →
      (c.history.exitsAfter timed.1 timed.2).head? = (c.exitTimesAfter timed.1 timed.2).head?
    rw [hexits, htimes]
    exact ht.latest
  rested := by
    show c.history.exitsAfter timed.1 timed.2 = [] →
      ∀ sentAt ∈ c.exitTimesAfter timed.1 timed.2, windowS ≤ timed.1 - sentAt
    rw [hexits, htimes]
    exact fun hnone sentAt hsent => (ht.rested hnone sentAt hsent).trans (sub_le_sub_right hallowed.1 _)

/-- **An exit that is due follows every exit before it by a window**: the last one of this charge, or
one whose window had passed when the charge was commanded. -/
theorem Tracks.exit_window (ht : c.Tracks windowS) {now : ℚ} {targetW : Option ℤ}
    (hallowed : c.Allowed (now, .exitSent targetW)) :
    ∀ latest ∈ c.exitTimes.head?, windowS ≤ now - latest := by
  intro latest hlatest
  by_cases hnone : c.history.exits = []
  · have hrested := ht.rested hnone latest (List.mem_of_mem_head? hlatest)
    exact hrested.trans (sub_le_sub_right hallowed.1 latest)
  · rw [← ht.latest hnone] at hlatest
    have hspaced := (ht.history.step hallowed).exits_spaced.apart
    obtain ⟨rest, hrest⟩ := List.head?_eq_some_iff.mp (Option.mem_def.mp hlatest)
    refine (List.pairwise_cons.mp hspaced).1 latest ?_
    rw [hrest]
    exact List.mem_cons_self

theorem Tracks.step (ht : c.Tracks windowS) (hallowed : c.Allowed timed)
    (hcall : c.Undisturbed windowS timed) : (c.step timed).Tracks windowS := by
  obtain ⟨now, call⟩ := timed
  cases call with
  | chargeSent setpointW =>
    exact ⟨ht.history.step hallowed, ht.spaced.mono hallowed.1, fun h => absurd rfl h,
      fun _ => And.right hcall⟩
  | exitSent targetW =>
    exact ⟨ht.history.step hallowed, ht.spaced.cons hallowed.1 (ht.exit_window hallowed),
      fun _ => rfl, fun h => absurd h (List.cons_ne_nil _ _)⟩
  | reductionSent targetW | foundExitSent | observe report setpointReported
  | release => exact ht.step_of_kept hallowed rfl rfl

theorem Tracks.disciplined (ht : c.Tracks windowS)
    (hallowed : c.Allowed timed) (hcall : c.Undisturbed windowS timed) :
    c.Disciplined windowS timed where
  exits_apart := (ht.step hallowed hcall).spaced.apart
  history := ht.history.disciplined hallowed
  closes := by
    intro hopen hclosed
    rcases ht.history.closes hopen hclosed with
      hrelease | ⟨report, setpointReported, hreport, hexits, hends⟩
    · exact .inl hrelease
    refine .inr ⟨report, setpointReported, hreport, hexits, ?_⟩
    refine or_iff_not_imp_left.mpr fun hout => ?_
    have hforeign := hends.resolve_left hout
    simp only [ChargeHistory.foreign, Bool.and_eq_true, decide_eq_true_eq] at hforeign
    obtain ⟨⟨rfl, hcommanded⟩, hshown⟩ := hforeign
    obtain ⟨now, call⟩ := timed
    obtain rfl : call = _ := hreport
    have hearlier : c.ShowsNoEarlier report := (hcall.resolve_left hexits).resolve_left hout
    refine ⟨rfl, fun setpointW hsent hvalue => ?_, hshown⟩
    rcases hearlier setpointW hsent hvalue with hlast | hlast
    · exact hcommanded (by rw [hlast, hvalue]; rfl)
    · exact hshown (by rw [hlast, hvalue])

/-- **Spent exits stay spent** while reports show grid draw alone and nobody releases the record: it
stays open, and no charge is commanded while an exit is out. -/
theorem Tracks.spent_step (ht : c.Tracks windowS)
    (hallowed : c.Allowed timed) (hcall : c.Undisturbed windowS timed) (hdrawn : c.OnlyDrawn timed)
    {sentAt : ℚ} (hspent : c.history.Spent) (hlast : c.history.exits.head? = some sentAt) :
    (c.step timed).history.Spent ∧ (c.step timed).history.exits.head? = some sentAt := by
  have hexits : c.history.exits ≠ [] := fun hnone => by rw [hnone] at hlast; cases hlast
  have hquiet : c.history.Quiet timed := by
    obtain ⟨now, call⟩ := timed
    refine ⟨fun setpointW hsent => ?_, fun report setpointReported hreport => ?_⟩
    · obtain rfl : call = _ := hsent
      exact hexits (And.left hcall hspent.1)
    · obtain rfl : call = _ := hreport
      exact hdrawn
  have hsince : ChargeHistory.SpentSince windowS sentAt c.history :=
    ⟨ht.history, fun _ => ⟨hspent, hlast⟩⟩
  refine (hsince.step hallowed hquiet).spent ?_
  by_contra hclosed
  rw [Bool.not_eq_true] at hclosed
  obtain ⟨now, call⟩ := timed
  rcases ht.history.closes hspent.1 hclosed with
    hrelease | ⟨report, setpointReported, hreport, -, hends⟩
  · obtain rfl : call = _ := hrelease
    exact hdrawn
  · have honly := hquiet.2 report setpointReported hreport
    simp only [ChargeHistory.showsOnlyDraw, Bool.and_eq_true, Bool.not_eq_true'] at honly
    rw [honly.1.2, honly.2] at hends
    simp at hends

/-- A report that says nothing of a direction and shows a few watts from the grid. -/
def drawingReport : DirectionReport where
  acMode := .int 0
  acStatus := .int 0
  inputLimitW := .int 0
  gridInput := .int 40
  acModeReported := false

/-- Somebody else takes over a charge on its way out; the next one is shown by its grid draw alone
after each of its three exits. -/
def drawnCharge : List (ℚ × ChargeCall) :=
  [(0, .chargeSent 300), (1, .observe (chargingReport 300) true), (2, .exitSent (some 0)),
    (3, .observe (chargingReport 700) true), (40, .chargeSent 500), (41, .exitSent (some 0)),
    (42, .observe drawingReport false), (71, .exitSent (some 0)), (72, .observe drawingReport false),
    (101, .exitSent (some 0)), (102, .observe drawingReport false)]

/-- What comes while the last window runs. -/
def lastWindow : List (ℚ × ChargeCall) :=
  [(103, .reductionSent 0), (104, .observe drawingReport false)]

end ChargeCourse

end SolarFlowEms
