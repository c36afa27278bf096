import SolarFlowEms.RuntimeIntents

/-!
# The state reconcilers

Between a report and what is wanted of a device stand the reconcilers: of `acMode` under the
claim that won, of the charge power of that claim, of the SoC window, of the operating modes and
of the off-grid socket.  Each compares, checks the gates and the switches on its own, and hands
the transport a set of properties or nothing.
-/

namespace SolarFlowEms

open Models PowerDirection

/-! ### Gates -/

/-- The gates of the installation, under their config names. -/
structure ControlGates where
  dryRun : Bool
  simulationMode : Bool
  replay : Bool
  allowHardwareWrites : Bool
  allowMqttLocalControlWrites : Bool
  allowMqttZendureControlWrites : Bool
  allowStateReconciliationWrites : Bool
deriving DecidableEq

/-- The gate that a device's transport names. -/
inductive ControlGate where
  | api
  | mqttLocal
  | mqttZendure
  | unknown
deriving DecidableEq

namespace ControlGates

variable (gates : ControlGates)

def gateEnabled : ControlGate → Bool
  | .api => gates.allowHardwareWrites
  | .mqttLocal => gates.allowMqttLocalControlWrites
  | .mqttZendure => gates.allowMqttZendureControlWrites
  | .unknown => false

/-- `resolve_write_gate(...).allowed`. -/
def writeAllowed (gate : ControlGate) : Bool :=
  !gates.dryRun && !gates.simulationMode && !gates.replay && gates.gateEnabled gate

def stateReconciliationWritesAllowed (gate : ControlGate) : Bool :=
  gates.writeAllowed gate && gates.allowStateReconciliationWrites

end ControlGates

/-- What is configured for a device, as far as the reconcilers read it. -/
structure ControlledDevice where
  name : String
  controlGate : ControlGate
  supportsStateReconciliation : Bool
  minSoc : ℤ
  maxSoc : ℤ
  smartMode : Option ℤ
deriving DecidableEq

/-! ### Handing properties to a transport -/

/-- What became of a property write: it was accepted, refused before it was sent, sent and not
accepted, or it raised. -/
inductive PropertyAnswer where
  | published
  | rejected
  | failed
  | raised
deriving DecidableEq

/-- What a reconciler handed to the transport, and what it returned. -/
structure Reconciled where
  handed : Option (List (String × ℤ))
  ok : Bool
deriving DecidableEq

def Reconciled.nothing (ok : Bool) : Reconciled := ⟨none, ok⟩

def handOver (writesAllowed : Bool) (properties : List (String × ℤ)) (ok : Bool) : Reconciled :=
  if !writesAllowed then .nothing false else ⟨some properties, ok⟩

/-! ### `acMode` and the charge power of a claim -/

variable (dev : ControlledDevice) (writesAllowed : Bool) (report : DeviceReport)
  (intent : DeviceRuntimeIntent) (answer : PropertyAnswer)

/-- Write `acMode` where the report differs from the claim.  Over an unknown mode only a role
that the operator set is written, and `acMode` 1 with a charge power only over a known
`inputLimit`.  A write that was sent counts whatever its answer. -/
def reconcileAcModeIntent : Reconciled :=
  if !dev.supportsStateReconciliation then .nothing true
  else
    match intent.desiredAcMode with
    | none => .nothing true
    | some desired =>
      if report.acModeKnown && report.acMode.truncate = desired then .nothing true
      else if !report.acModeKnown && !intent.operatorRole then .nothing false
      else if desired = acModeInput && intent.setpointW.isSome && !intent.operatorRole &&
          !report.inputLimitReported then .nothing false
      else handOver writesAllowed [("acMode", desired)] (answer ≠ .rejected)

/-- Write the charge power of a claim, over an unknown `inputLimit` or an unknown mode only the
operator's. -/
def reconcileRuntimeAcChargePower : Reconciled :=
  if !dev.supportsStateReconciliation then .nothing true
  else
    match intent.setpointW with
    | none => .nothing true
    | some desired =>
      if !intent.operatorRole && !(report.inputLimitReported && report.acModeKnown) then
        .nothing false
      else if report.inputLimit = desired then .nothing true
      else handOver writesAllowed [("inputLimit", desired)] (answer = .published)

/-! ### The SoC window -/

/-- A managed bound in whole percent, 0 where it is none. -/
def safeSocLimit (limit : ℤ) : ℤ := if 0 ≤ limit ∧ limit ≤ 100 then limit else 0

/-- `int(value)`. -/
def wholePercent (value : ℚ) : ℤ := (Number.float value).truncate

def minSocUnmanaged : ℤ := 0

def maxRaiseAboveSoc : ℤ := 3

/-- A raise of `minSoc` is written once it leads the SoC by little and does not land on it. -/
def winterMinSocRaiseLimit (target : ℤ) : ℤ :=
  let current := max 0 (wholePercent report.minSoc)
  if target ≤ current then target
  else if target = wholePercent report.soc then current
  else if current = 0 then if (target : ℚ) < report.soc then target else current
  else if target ≤ wholePercent report.soc + maxRaiseAboveSoc then target
  else current

/-- The `minSoc` that a write may carry, 0 to leave it alone. -/
def minSocToWrite (desiredMinSoc : Option ℤ) : ℤ :=
  if !report.minSocReported then minSocUnmanaged
  else
    match desiredMinSoc with
    | some desired => safeSocLimit (max 0 desired)
    | none => safeSocLimit (winterMinSocRaiseLimit report (safeSocLimit dev.minSoc))

/-- The `socSet` that is wanted: the configured one where none is asked for. -/
def maxSocToWrite (desiredMaxSoc : Option ℤ) : ℤ :=
  match desiredMaxSoc with
  | some desired => safeSocLimit (max 0 desired)
  | none => safeSocLimit dev.maxSoc

/-- The bounds that differ from the report. -/
def socLimitChanges (minSoc maxSoc : ℤ) : List (String × ℤ) :=
  (if 0 < minSoc ∧ wholePercent report.minSoc ≠ minSoc then [("minSoc", minSoc * 10)] else []) ++
  if 0 < maxSoc ∧ report.maxSocReported = true ∧ wholePercent report.maxSoc ≠ maxSoc then
    [("socSet", maxSoc * 10)]
  else []

/-- What a report leaves to write of the SoC window. -/
def reconcileSocLimits (minSoc maxSoc : ℤ) : Reconciled :=
  if minSoc ≤ 0 ∧ (maxSoc ≤ 0 ∨ report.maxSocReported = false) then
    .nothing (maxSoc ≤ 0 || report.maxSocReported)
  else if socLimitChanges report minSoc maxSoc = [] then .nothing true
  else handOver writesAllowed (socLimitChanges report minSoc maxSoc) (answer = .published)

/-- Write the bounds of the SoC window that differ from the report. -/
def applySocLimits (desiredMinSoc desiredMaxSoc : Option ℤ) : Reconciled :=
  if !dev.supportsStateReconciliation then .nothing true
  else if report.batteryPresence = .absent then .nothing true
  else
    reconcileSocLimits writesAllowed report answer (minSocToWrite dev report desiredMinSoc)
      (maxSocToWrite dev desiredMaxSoc)

theorem safeSocLimit_nonneg (limit : ℤ) : 0 ≤ safeSocLimit limit := by
  rw [safeSocLimit]
  split
  · rename_i hpercent
    exact hpercent.1
  · exact le_rfl

theorem minSocToWrite_unmanaged :
    minSocToWrite dev report (some minSocUnmanaged) = 0 := by
  unfold minSocToWrite
  split
  · rfl
  · show safeSocLimit (max 0 minSocUnmanaged) = 0
    decide

theorem maxSocToWrite_configured :
    maxSocToWrite dev (some dev.maxSoc) = safeSocLimit dev.maxSoc := by
  show safeSocLimit (max 0 dev.maxSoc) = safeSocLimit dev.maxSoc
  rcases le_total 0 dev.maxSoc with hmanaged | hnegative
  · rw [max_eq_right hmanaged]
  · rw [max_eq_left hnegative, safeSocLimit, safeSocLimit]
    by_cases hzero : dev.maxSoc = 0
    · rw [hzero]
    · rw [if_neg (by omega : ¬(0 ≤ dev.maxSoc ∧ dev.maxSoc ≤ 100))]
      rfl

/-- A call that leaves `minSoc` alone returns well over a maximum that is not managed, over a
report that shows it, or after it was written. -/
theorem reconcileSocLimits_ok {writesAllowed : Bool} {report : DeviceReport}
    {answer : PropertyAnswer} {maxSoc : ℤ}
    (hok : (reconcileSocLimits writesAllowed report answer 0 maxSoc).ok = true) :
    maxSoc ≤ 0 ∨ (report.maxSocReported = true ∧ wholePercent report.maxSoc = maxSoc) ∨
      reconcileSocLimits writesAllowed report answer 0 maxSoc =
        ⟨some [("socSet", maxSoc * 10)], true⟩ := by
  by_cases hmanaged : maxSoc ≤ 0
  · exact .inl hmanaged
  · right
    have hpos : 0 < maxSoc := not_le.mp hmanaged
    unfold reconcileSocLimits at hok ⊢
    cases hreported : report.maxSocReported with
    | false => simp [hmanaged, hreported, Reconciled.nothing] at hok
    | true =>
      by_cases hsame : wholePercent report.maxSoc = maxSoc
      · exact .inl ⟨rfl, hsame⟩
      · right
        have hchanges : socLimitChanges report 0 maxSoc = [("socSet", maxSoc * 10)] := by
          simp [socLimitChanges, hpos, hreported, hsame]
        simp only [hchanges, hreported, hmanaged, handOver] at hok ⊢
        cases writesAllowed with
        | false => simp [Reconciled.nothing] at hok
        | true => simpa using hok

/-! ### Modes and the off-grid socket -/

/-- Write the operating modes that differ from the report. -/
def applyDeviceModes (reconcileSmartMode : Bool) : Reconciled :=
  if !dev.supportsStateReconciliation then .nothing true
  else
    match dev.smartMode with
    | none => .nothing true
    | some smartMode =>
      if reconcileSmartMode && report.smartModeReported && report.smartMode ≠ smartMode then
        handOver writesAllowed [("smartMode", smartMode)] (answer = .published)
      else .nothing true

/-- The runtime words of the off-grid socket. -/
inductive OffgridSocketMode where
  | standard
  | eco
  | off
deriving DecidableEq

def OffgridSocketMode.gridOffMode : OffgridSocketMode → ℤ
  | .standard => 0
  | .eco => 1
  | .off => 2

/-- Write the off-grid socket where the operator's word differs from the report; an unset or an
invalid word is none. -/
def applyRuntimeDeviceState (desired : Option OffgridSocketMode) : Reconciled :=
  if !dev.supportsStateReconciliation then .nothing true
  else
    match desired with
    | none => .nothing true
    | some mode =>
      if !report.gridOffModeReported then .nothing true
      else if report.gridOffMode = mode.gridOffMode then .nothing true
      else handOver writesAllowed [("gridOffMode", mode.gridOffMode)] (answer = .published)

/-! ### What every reconciler keeps to -/

/-- What is handed over went through an open gate, to a transport that takes properties. -/
def Reconciled.Gated (reconciled : Reconciled) : Prop :=
  reconciled.handed ≠ none → dev.supportsStateReconciliation = true ∧ writesAllowed = true

variable {dev writesAllowed report intent answer}

theorem Reconciled.gated_nothing (ok : Bool) : (Reconciled.nothing ok).Gated dev writesAllowed :=
  fun h => absurd rfl h

theorem gated_handOver (hsupported : ¬(!dev.supportsStateReconciliation) = true)
    (properties : List (String × ℤ)) (ok : Bool) :
    (handOver writesAllowed properties ok).Gated dev writesAllowed := by
  rw [handOver]
  split
  · exact Reconciled.gated_nothing false
  · rename_i hshut
    intro _
    exact ⟨by simpa using hsupported, by simpa using hshut⟩

/-- **No `acMode` is handed over behind a shut gate.** -/
theorem reconcileAcModeIntent_gated :
    (reconcileAcModeIntent dev writesAllowed report intent answer).Gated dev writesAllowed := by
  unfold reconcileAcModeIntent
  split
  · exact Reconciled.gated_nothing true
  · rename_i hsupported
    split
    · exact Reconciled.gated_nothing true
    · split_ifs
      · exact Reconciled.gated_nothing true
      · exact Reconciled.gated_nothing false
      · exact Reconciled.gated_nothing false
      · exact gated_handOver hsupported _ _

theorem reconcileRuntimeAcChargePower_gated :
    (reconcileRuntimeAcChargePower dev writesAllowed report intent answer).Gated dev
      writesAllowed := by
  unfold reconcileRuntimeAcChargePower
  split
  · exact Reconciled.gated_nothing true
  · rename_i hsupported
    split
    · exact Reconciled.gated_nothing true
    · split_ifs
      · exact Reconciled.gated_nothing false
      · exact Reconciled.gated_nothing true
      · exact gated_handOver hsupported _ _

theorem applySocLimits_gated (desiredMinSoc desiredMaxSoc : Option ℤ) :
    (applySocLimits dev writesAllowed report answer desiredMinSoc desiredMaxSoc).Gated dev
      writesAllowed := by
  unfold applySocLimits reconcileSocLimits
  split
  · exact Reconciled.gated_nothing true
  · rename_i hsupported
    split_ifs
    · exact Reconciled.gated_nothing true
    · exact Reconciled.gated_nothing _
    · exact Reconciled.gated_nothing true
    · exact gated_handOver hsupported _ _

theorem applyDeviceModes_gated (reconcileSmartMode : Bool) :
    (applyDeviceModes dev writesAllowed report answer reconcileSmartMode).Gated dev
      writesAllowed := by
  unfold applyDeviceModes
  split
  · exact Reconciled.gated_nothing true
  · rename_i hsupported
    split
    · exact Reconciled.gated_nothing true
    · split_ifs
      · exact gated_handOver hsupported _ _
      · exact Reconciled.gated_nothing true

theorem applyRuntimeDeviceState_gated (desired : Option OffgridSocketMode) :
    (applyRuntimeDeviceState dev writesAllowed report answer desired).Gated dev
      writesAllowed := by
  unfold applyRuntimeDeviceState
  split
  · exact Reconciled.gated_nothing true
  · rename_i hsupported
    split
    · exact Reconciled.gated_nothing true
    · split_ifs
      · exact Reconciled.gated_nothing true
      · exact Reconciled.gated_nothing true
      · exact gated_handOver hsupported _ _

/-! ### What goes out for a claim -/

theorem desiredAcMode_of_handed {mode : ℤ}
    (h : (reconcileAcModeIntent dev writesAllowed report intent answer).handed =
      some [("acMode", mode)]) :
    intent.desiredAcMode = some mode := by
  unfold reconcileAcModeIntent handOver at h
  split at h
  · cases h
  · split at h
    · cases h
    · rename_i desired hdesired
      split_ifs at h
      · cases h
      · cases h
      · cases h
      · cases h
      · rw [hdesired]
        injection h with h
        injection h with h
        injection h with _ h
        rw [h]

end SolarFlowEms
