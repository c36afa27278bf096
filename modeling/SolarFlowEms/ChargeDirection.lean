import Mathlib.Algebra.Order.Ring.Rat
import SolarFlowEms.Library.Run
import SolarFlowEms.Library.SlidingWindow

/-!
# The direction of the charge

Each cycle decides whether the system charges.  Entry is deliberate: enough of the last
observations must have asked for it, and no more than a number of entries may be taken in an
hour.  Exit is immediate: at the stop threshold, and wherever charging is not possible.
-/

namespace SolarFlowEms.ChargeDirection

open Run SlidingWindow

def secondsPerHour : ℚ := 3600

/-- The operator-facing thresholds. -/
structure ChargeDirectionSettings where
  startW : ℚ
  stopW : ℚ
  entryConfirmCycles : ℤ
  entryWindowCycles : ℤ
  maxEntriesPerHour : ℤ

namespace ChargeDirectionSettings

variable (settings : ChargeDirectionSettings)

/-- Window length, never shorter than the count it must contain. -/
def entryWindow : ℕ := (max 1 (max settings.entryConfirmCycles settings.entryWindowCycles)).toNat

def requiredCycles : ℕ := (max 1 settings.entryConfirmCycles).toNat

def entryLimit : ℕ := (max 1 settings.maxEntriesPerHour).toNat

theorem entryWindow_pos : 0 < settings.entryWindow := by
  rw [entryWindow]
  omega

end ChargeDirectionSettings

/-- What the direction decision carries between cycles. -/
structure ChargeDirectionState where
  charging : Bool
  entryWindow : List Bool
  entries : List ℚ
deriving DecidableEq

inductive Reason where
  | notPossible
  | held
  | confirming
  | entered
  | leftBelowStop
  | entryRateLimited
deriving DecidableEq

structure ChargeDirectionDecision where
  charging : Bool
  state : ChargeDirectionState
  reason : Reason
  rateLimited : Bool
deriving DecidableEq

/-- What one cycle measures. -/
structure Cycle where
  chargingPossible : Bool
  commandedTotalW : ℚ
  desiredTotalW : ℚ
  filteredLoadW : ℚ
  now : ℚ
deriving DecidableEq

def recentEntries (entries : List ℚ) (now : ℚ) : List ℚ := recent secondsPerHour entries now

/-- Append one entry observation, trimmed to the configured window. -/
def recordEntryObservation (previous : ChargeDirectionState) (observed : Bool)
    (settings : ChargeDirectionSettings) : ChargeDirectionState :=
  { previous with
    entryWindow := (previous.entryWindow ++ [observed]).rtake settings.entryWindow }

/-- The entry times of the trailing hour, and whether the hourly limit leaves one now. -/
def chargeEntriesWithinLimit (entries : List ℚ) (now : ℚ) (settings : ChargeDirectionSettings) :
    List ℚ × Bool :=
  let recent := recentEntries entries now
  (recent, recent.length < settings.entryLimit)

def entryRateLimited (state : ChargeDirectionState) (now : ℚ) (settings : ChargeDirectionSettings) :
    Bool :=
  !(chargeEntriesWithinLimit state.entries now settings).2

/-- Whether the window holds enough observations to enter charging. -/
def entryConfirmed (state : ChargeDirectionState) (settings : ChargeDirectionSettings) : Bool :=
  settings.requiredCycles ≤ state.entryWindow.count true

/-- The cycle asks for a charge: the discharge side is at its floor and the surplus exceeds the
start threshold. -/
def asksForCharge (cycle : Cycle) (settings : ChargeDirectionSettings) : Bool :=
  cycle.commandedTotalW ≤ 0 && cycle.filteredLoadW ≤ -settings.startW

/-- Decide whether the system charges this cycle. -/
def decideChargeDirection (previous : ChargeDirectionState) (cycle : Cycle)
    (settings : ChargeDirectionSettings) : ChargeDirectionDecision :=
  let entries := recentEntries previous.entries cycle.now
  if !cycle.chargingPossible then
    { charging := false, state := ⟨false, [], entries⟩, reason := .notPossible
      rateLimited := false }
  else if previous.charging then
    if -settings.stopW ≤ cycle.desiredTotalW then
      { charging := false, state := ⟨false, [], entries⟩, reason := .leftBelowStop
        rateLimited := false }
    else
      { charging := true, state := { previous with entries }, reason := .held
        rateLimited := false }
  else
    let observed := asksForCharge cycle settings
    let observing := recordEntryObservation ⟨false, previous.entryWindow, entries⟩ observed settings
    if !entryConfirmed observing settings then
      { charging := false, state := observing
        reason := if observed then .confirming else .held, rateLimited := false }
    else if entryRateLimited observing cycle.now settings then
      { charging := false, state := ⟨false, observing.entryWindow, entries⟩
        reason := .entryRateLimited, rateLimited := true }
    else
      { charging := true, state := ⟨true, [], entries ++ [cycle.now]⟩, reason := .entered
        rateLimited := false }

/-! ### Runs -/

/-- The decision's state and what happened in the run: the entries, the observations since the
last exit or cycle in which charging was not possible, and the time of the last cycle. -/
structure History where
  state : ChargeDirectionState
  clock : ℚ
  entered : List ℚ
  observations : List Bool

def History.new (clock : ℚ) : History where
  state := ⟨false, [], []⟩
  clock := clock
  entered := []
  observations := []

namespace History

variable (settings : ChargeDirectionSettings) (h : History)

def enters (cycle : Cycle) : Bool :=
  !h.state.charging && (decideChargeDirection h.state cycle settings).charging

/-- The cycle is one of those that are observed: charging is possible, and not yet on. -/
def observes (cycle : Cycle) : Bool := cycle.chargingPossible && !h.state.charging

def observationsAfter (cycle : Cycle) : List Bool :=
  if h.observes cycle then h.observations ++ [asksForCharge cycle settings]
  -- A cycle that is not observed holds the charge, or ends it, or cannot charge.
  else if (decideChargeDirection h.state cycle settings).charging then h.observations
  else []

def step (cycle : Cycle) : History where
  state := (decideChargeDirection h.state cycle settings).state
  clock := cycle.now
  entered := if h.enters settings cycle then h.entered ++ [cycle.now] else h.entered
  observations := h.observationsAfter settings cycle

/-! ### What the state keeps of the run -/

/-- **The state keeps the entries of the last hour and the last observations.** -/
structure Tracks (settings : ChargeDirectionSettings) (h : History) : Prop where
  entries : h.state.entries = recentEntries h.entered h.clock
  bounded : Bounded secondsPerHour settings.entryLimit h.entered
  window : h.state.charging = false →
    h.state.entryWindow = h.observations.rtake settings.entryWindow

theorem Tracks.new (settings : ChargeDirectionSettings) (clock : ℚ) :
    Tracks settings (new clock) where
  entries := rfl
  bounded := bounded_nil _ _
  window := fun _ => (List.rtake_nil _).symm

variable {settings : ChargeDirectionSettings} {h : History} {cycle : Cycle}

theorem Tracks.recentEntries (ht : Tracks settings h) (hle : h.clock ≤ cycle.now) :
    recentEntries h.state.entries cycle.now = recent secondsPerHour h.entered cycle.now := by
  rw [ht.entries]
  exact recent_recent hle

theorem Tracks.observing (ht : Tracks settings h) (hnot : h.state.charging = false)
    (entries : List ℚ) :
    (recordEntryObservation ⟨false, h.state.entryWindow, entries⟩ (asksForCharge cycle settings)
      settings).entryWindow =
        (h.observations ++ [asksForCharge cycle settings]).rtake settings.entryWindow := by
  rw [recordEntryObservation, ht.window hnot]
  exact rtake_append_rtake _ _ settings.entryWindow_pos

/-- What one cycle can do. -/
inductive Decided (settings : ChargeDirectionSettings) (h : History) (cycle : Cycle) :
    ChargeDirectionDecision → Prop where
  | notPossible {decision : ChargeDirectionDecision} (hpossible : cycle.chargingPossible = false)
      (hcharging : decision.charging = false)
      (hstate : decision.state = ⟨false, [], recentEntries h.state.entries cycle.now⟩) :
      Decided settings h cycle decision
  | left {decision : ChargeDirectionDecision} (hwas : h.state.charging = true)
      (hcharging : decision.charging = false)
      (hstate : decision.state = ⟨false, [], recentEntries h.state.entries cycle.now⟩) :
      Decided settings h cycle decision
  | held {decision : ChargeDirectionDecision} (hpossible : cycle.chargingPossible = true)
      (hwas : h.state.charging = true) (habove : ¬ -settings.stopW ≤ cycle.desiredTotalW)
      (hcharging : decision.charging = true)
      (hstate : decision.state =
        { h.state with entries := recentEntries h.state.entries cycle.now }) :
      Decided settings h cycle decision
  | waiting {decision : ChargeDirectionDecision} (hpossible : cycle.chargingPossible = true)
      (hwas : h.state.charging = false) (hcharging : decision.charging = false)
      (hstate : decision.state = recordEntryObservation
        ⟨false, h.state.entryWindow, recentEntries h.state.entries cycle.now⟩
        (asksForCharge cycle settings) settings) :
      Decided settings h cycle decision
  | entered {decision : ChargeDirectionDecision} (hpossible : cycle.chargingPossible = true)
      (hwas : h.state.charging = false) (hcharging : decision.charging = true)
      (hconfirmed : entryConfirmed (recordEntryObservation
        ⟨false, h.state.entryWindow, recentEntries h.state.entries cycle.now⟩
        (asksForCharge cycle settings) settings) settings = true)
      (hlimit : (recentEntries (recentEntries h.state.entries cycle.now) cycle.now).length <
        settings.entryLimit)
      (hstate : decision.state =
        ⟨true, [], recentEntries h.state.entries cycle.now ++ [cycle.now]⟩) :
      Decided settings h cycle decision

/-- **One cycle, case by case.** -/
theorem decideChargeDirection_decided (settings : ChargeDirectionSettings) (h : History)
    (cycle : Cycle) :
    Decided settings h cycle (decideChargeDirection h.state cycle settings) := by
  unfold decideChargeDirection
  extract_lets entries observed observing
  split_ifs with hpossible hwas hstop hconfirmed hobserved hlimited
  · exact .notPossible (by simpa using hpossible) rfl rfl
  · exact .left hwas rfl rfl
  · exact .held (by simpa using hpossible) hwas hstop rfl rfl
  · exact .waiting (by simpa using hpossible) (by simpa using hwas) rfl rfl
  · exact .waiting (by simpa using hpossible) (by simpa using hwas) rfl rfl
  · exact .waiting (by simpa using hpossible) (by simpa using hwas) rfl rfl
  · rw [entryRateLimited, Bool.not_eq_true', Bool.not_eq_false, chargeEntriesWithinLimit] at hlimited
    refine .entered (by simpa using hpossible) (by simpa using hwas) rfl
      (by simpa using hconfirmed) (of_decide_eq_true hlimited) rfl

section

variable (ht : Tracks settings h) (hle : h.clock ≤ cycle.now)
include ht hle

theorem Tracks.of_entered_eq {h' : History}
    (hclock : h'.clock = cycle.now) (hentered : h'.entered = h.entered)
    (hentries : h'.state.entries = ChargeDirection.recentEntries h.state.entries cycle.now)
    (hwindow : h'.state.charging = false →
      h'.state.entryWindow = h'.observations.rtake settings.entryWindow) : Tracks settings h' where
  entries := by rw [hentries, ht.recentEntries hle, hclock, hentered, ChargeDirection.recentEntries]
  bounded := hentered.symm ▸ ht.bounded
  window := hwindow

theorem Tracks.step :
    Tracks settings (h.step settings cycle) := by
  have hrecent := ht.recentEntries hle
  have hdecided := decideChargeDirection_decided settings h cycle
  rw [History.step, enters, observationsAfter, observes]
  generalize decideChargeDirection h.state cycle settings = decision at hdecided
  cases hdecided with
  | notPossible hpossible hcharging hstate =>
    refine ht.of_entered_eq hle rfl ?_ ?_ ?_
    · simp [hcharging]
    · simp [hstate]
    · simp [hstate, hpossible, hcharging]
  | left hwas hcharging hstate =>
    refine ht.of_entered_eq hle rfl ?_ ?_ ?_
    · simp [hcharging]
    · simp [hstate]
    · simp [hstate, hwas, hcharging]
  | held hpossible hwas habove hcharging hstate =>
    refine ht.of_entered_eq hle rfl ?_ ?_ ?_
    · simp [hwas]
    · simp [hstate]
    · simp [hstate, hwas]
  | waiting hpossible hwas hcharging hstate =>
    refine ht.of_entered_eq hle rfl ?_ ?_ ?_
    · simp [hcharging]
    · simp [hstate, recordEntryObservation]
    · intro _
      simp only [hstate, hpossible, hwas, Bool.not_false, Bool.and_self, if_true]
      exact ht.observing hwas _
  | entered hpossible hwas hcharging hconfirmed hlimit hstate =>
    have hlt : (recent secondsPerHour h.entered cycle.now).length < settings.entryLimit := by
      rwa [ChargeDirection.recentEntries, hrecent, recent_recent le_rfl] at hlimit
    have hentered : (if (!h.state.charging && decision.charging) = true then
        h.entered ++ [cycle.now] else h.entered) = h.entered ++ [cycle.now] := by
      simp [hwas, hcharging]
    constructor
    · show decision.state.entries = recent secondsPerHour (ite _ _ _) cycle.now
      rw [hentered, hstate, recent_append (by decide), hrecent]
    · show Bounded secondsPerHour settings.entryLimit (ite _ _ _)
      rw [hentered]
      exact ht.bounded.append hlt
    · intro hnot
      rw [hstate] at hnot
      cases hnot

/-! ### Every run -/

/-- **What each cycle keeps to.** -/
structure Deliberate (settings : ChargeDirectionSettings) (h : History) (cycle : Cycle) : Prop where
  /-- No hour, with its first or with its last second, holds more entries than the limit. -/
  entries : ∀ a : ℚ,
    ((h.step settings cycle).entered.filter fun t => decide (a ≤ t ∧ t < a + secondsPerHour)).length ≤
        settings.entryLimit ∧
      ((h.step settings cycle).entered.filter fun t => decide (a < t ∧ t ≤ a + secondsPerHour)).length ≤
        settings.entryLimit
  /-- An entry was asked for by enough of the last observations. -/
  confirmed : h.enters settings cycle = true → settings.requiredCycles ≤
    ((h.step settings cycle).observations.rtake settings.entryWindow).count true
  /-- Charging is never decided where it is not possible. -/
  possible : cycle.chargingPossible = false →
    (decideChargeDirection h.state cycle settings).charging = false
  /-- A charge is left in the cycle in which the desired total reaches the stop threshold. -/
  stops : h.state.charging = true → -settings.stopW ≤ cycle.desiredTotalW →
    (decideChargeDirection h.state cycle settings).charging = false

theorem Tracks.deliberate :
    Deliberate settings h cycle where
  entries := by
    intro a
    have hbounded := (ht.step hle).bounded
    exact ⟨hbounded _ (narrow_Ico secondsPerHour a), hbounded _ (narrow_Ioc secondsPerHour a)⟩
  confirmed := by
    intro henters
    have hdecided := decideChargeDirection_decided settings h cycle
    rw [enters, Bool.and_eq_true, Bool.not_eq_true'] at henters
    obtain ⟨hnot, hcharges⟩ := henters
    show _ ≤ ((h.observationsAfter settings cycle).rtake settings.entryWindow).count true
    rw [observationsAfter, observes]
    generalize decideChargeDirection h.state cycle settings = decision at hdecided hcharges
    cases hdecided with
    | notPossible _ hcharging _
    | left _ hcharging _ => exact absurd (hcharging.symm.trans hcharges) (by decide)
    | held _ hwas _ _ _ => exact absurd (hnot.symm.trans hwas) (by decide)
    | waiting _ _ hcharging _ => exact absurd (hcharging.symm.trans hcharges) (by decide)
    | entered hpossible hwas _ hconfirmed _ _ =>
      rw [entryConfirmed, ht.observing hwas] at hconfirmed
      simpa [hpossible, hwas] using hconfirmed
  possible := by
    intro hpossible
    simp [decideChargeDirection, hpossible]
  stops := by
    intro hwas hstop
    have hdecided := decideChargeDirection_decided settings h cycle
    generalize decideChargeDirection h.state cycle settings = decision at hdecided
    cases hdecided with
    | notPossible _ hcharging _ | left _ hcharging _ => exact hcharging
    | held _ _ habove _ _ => exact absurd hstop habove
    | waiting _ hnot _ _ | entered _ hnot _ _ _ _ => exact absurd (hnot.symm.trans hwas) (by decide)

end

/-- **The direction of the charge is deliberate in every run** whose times do not go back. -/
theorem direction_deliberate (settings : ChargeDirectionSettings) (clock : ℚ) (cycles : List Cycle)
    (htimes : EveryStep (step settings) (fun h cycle => h.clock ≤ cycle.now) (new clock) cycles) :
    EveryStep (step settings) (Deliberate settings) (new clock) cycles :=
  EveryStep.of_invariant (fun _ _ ht hle => Tracks.step ht hle)
    (fun _ _ ht hle => Tracks.deliberate ht hle) (.new settings clock) htimes

/-- The default thresholds. -/
def defaultSettings : ChargeDirectionSettings where
  startW := 150
  stopW := 100
  entryConfirmCycles := 5
  entryWindowCycles := 7
  maxEntriesPerHour := 12

/-- A cycle with a surplus. -/
def surplusCycle (now : ℚ) : Cycle where
  chargingPossible := true
  commandedTotalW := 0
  desiredTotalW := -500
  filteredLoadW := -500
  now := now

/-- Five cycles with a surplus enter the charge, and a sixth stays in it. -/
def surplusRun : List Cycle := [0, 5, 10, 15, 20, 25].map surplusCycle

theorem direction_deliberate_surplus :
    EveryStep (step defaultSettings) (Deliberate defaultSettings) (new 0) surplusRun ∧
      (run (step defaultSettings) (new 0) surplusRun).entered = [20] :=
  ⟨direction_deliberate defaultSettings 0 surplusRun (by decide), by decide⟩

end History

end SolarFlowEms.ChargeDirection
