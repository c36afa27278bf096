import SolarFlowEms.Controller.Capabilities
import SolarFlowEms.Library.Calendar

/-!
# The winter reserve

In the winter months the reserve of a battery rises by one step a day, and follows later on the
same day what PV charged.  What a device has done is in the memory of the process and, so that a
restart neither repeats a step nor loses it, in a row of the state store.  The row is read when a
device is first seen, and written with every step before the step counts; each read and each write
works or fails without effect.

The switch of the feature is read once for a visit: a change of it by another thread between
two reads of one visit is not part of the model.
-/

namespace SolarFlowEms.Winter

open Calendar Models

/-! ### Policies -/

/-- The energy class of a device. -/
inductive DeviceClass where
  | pvOnly
  | pvBattery
  | batteryOnly
deriving DecidableEq

/-- When the daily raise happens. -/
inductive StepKind where
  | morningPv
  | atHour
deriving DecidableEq

structure WinterPolicy where
  name : String
  deviceClasses : List DeviceClass
  step : Option StepKind
  stepMayLeadSoc : Bool
  holdsExport : Bool
deriving DecidableEq

def WinterPolicy.stepLead (policy : WinterPolicy) : ℤ :=
  if policy.stepMayLeadSoc then 2 * maxRaiseAboveSoc else maxRaiseAboveSoc

def solarMorningStep : WinterPolicy :=
  ⟨"solar_morning_step", [.pvBattery], some .morningPv, false, true⟩

def noonStep : WinterPolicy :=
  ⟨"noon_step", [.pvBattery, .batteryOnly], some .atHour, true, false⟩

def noPolicy : WinterPolicy :=
  ⟨"none", [.pvBattery, .batteryOnly, .pvOnly], none, false, false⟩

def policyFor (deviceClass : DeviceClass) (name : String) : Option WinterPolicy :=
  [solarMorningStep, noonStep, noPolicy].find? fun policy =>
    policy.name = name && policy.deviceClasses.contains deviceClass

def classDefaultPolicy : DeviceClass → WinterPolicy
  | .pvBattery => solarMorningStep
  | .batteryOnly => noonStep
  | .pvOnly => noPolicy

/-- The class by what the model can have, less an array that is configured away and a battery that
the telemetry denies. -/
def deviceEnergyClass (batteryAbsent pvKwpZero : Bool) (modelClass : Option DeviceClass) :
    DeviceClass :=
  if modelClass = some .pvOnly || batteryAbsent then .pvOnly
  else if modelClass = some .batteryOnly || pvKwpZero then .batteryOnly
  else .pvBattery

/-- The override of the device where it fits the class, then the configured default of the class
where it fits, then the default of the class. -/
def resolvePolicy (deviceClass : DeviceClass) (override : String) (configured : Option String) :
    WinterPolicy :=
  let classPolicy := (configured.bind (policyFor deviceClass)).getD (classDefaultPolicy deviceClass)
  if override = "auto" then classPolicy
  else (policyFor deviceClass override).getD classPolicy

/-! ### Settings, reports and what is remembered -/

/-- What a device's entry of the configuration says about winter. -/
structure WinterEntry where
  pvKwpZero : Bool
  winterPolicy : String
deriving DecidableEq

/-- The settings of one process, read once at its start. -/
structure WinterSettings where
  months : List ℕ
  summerMinSoc : ℤ
  winterMinSoc : ℤ
  stepPercent : ℤ
  adjustHour : ℕ
  policies : DeviceClass → Option String
  entry : String → WinterEntry

/-- A moment of the local clock. -/
structure Moment where
  date : Date
  second : ℕ
deriving DecidableEq

def Moment.hour (now : Moment) : ℕ := now.second / 3600

/-- A report as winter reads it: its SoC may be no usable number. -/
structure WinterReport extends Controller.FetchedReport where
  socUsable : Bool
deriving DecidableEq

def WinterReport.socReading (report : WinterReport) : Option ℚ :=
  if report.socUsable then some report.soc else none

def WinterReport.pvPower (report : WinterReport) : ℚ :=
  Controller.World.pvPower report.toFetchedReport

/-- What a process remembers about one device. -/
structure WinterDeviceState where
  target : Option ℤ
  seen : Bool
  stepDate : Option Date
  stepAt : Option Moment
  stepTarget : Option ℤ
  skippedDate : Option Date
  raiseWaiting : Option ℤ
  pvDate : Option Date
  pvStartAt : Option Moment
  pvEver : Bool
  deviceClass : Option DeviceClass
  modelClass : Option DeviceClass
  policy : Option WinterPolicy
  darkDate : Option Date
  storeFailed : Bool
deriving DecidableEq

/-- A device that the process has not met. -/
def WinterDeviceState.fresh : WinterDeviceState where
  target := none
  seen := false
  stepDate := none
  stepAt := none
  stepTarget := none
  skippedDate := none
  raiseWaiting := none
  pvDate := none
  pvStartAt := none
  pvEver := false
  deviceClass := none
  modelClass := none
  policy := none
  darkDate := none
  storeFailed := false

def WinterDeviceState.resetPlan (item : WinterDeviceState) : WinterDeviceState :=
  { item with target := none, stepDate := none, stepAt := none, stepTarget := none }

/-- A device's row in the store. -/
structure WinterRecord where
  stepDate : Option Date
  stepAt : Option Moment
  stepTarget : Option ℤ
  target : Option ℤ
  pvEver : Bool
deriving DecidableEq

def WinterDeviceState.record (item : WinterDeviceState) : WinterRecord :=
  ⟨item.stepDate, item.stepAt, item.stepTarget, item.target, item.pvEver⟩

/-- One device: what the process remembers of it, and its row. -/
structure WinterDevice where
  item : WinterDeviceState
  stored : Option WinterRecord
deriving DecidableEq

/-- A process: its settings, and whether it has a store. -/
structure Process where
  settings : WinterSettings
  hasStore : Bool

/-- One visit of a device, with what the store's calls come to. -/
structure Visit where
  device : String
  minSoc : ℤ
  supportsStateReconciliation : Bool
  modelClass : Option DeviceClass
  report : WinterReport
  featureEnabled : Bool
  now : Moment
  writesAllowed : Bool
  loadWorks : Bool
  pvSaveWorks : Bool
  planSaveWorks : Bool

/-- What a visit plans for a device, whether it took the day's step, and the device after it. -/
structure Planned where
  device : WinterDevice
  target : Option ℤ
  stepped : Bool

def darkPvW : ℚ := 10

def morningStepPvW : ℚ := 50

def storedTargetMaxAgeDays : ℕ := 7

/-! ### What the settings make of a reading -/

/-- A step's `minSoc`: no lower than the current one, never above the ceiling. -/
def stepWithinCeiling (current raised winterMinSoc : ℤ) : ℤ := min winterMinSoc (max current raised)

def timedStepTarget (soc : Option ℚ) (current winterMinSoc step : ℤ) : Option ℤ :=
  match soc with
  | none => none
  | some reading =>
    if reading < ((current - step : ℤ) : ℚ) then none
    else some (stepWithinCeiling current (current + step) winterMinSoc)

def morningStepTarget (soc : Option ℚ) (current winterMinSoc step : ℤ) : Option ℤ :=
  match soc with
  | none => none
  | some reading =>
    if reading < ((current - 1 : ℤ) : ℚ) then none
    else some (stepWithinCeiling current (wholePercent reading + step) winterMinSoc)

/-- A point below what PV has reached, where that is a raise. -/
def daytimeFollowTarget (soc : Option ℚ) (current winterMinSoc : ℤ) : Option ℤ :=
  match soc with
  | none => none
  | some reading =>
    let target := min (wholePercent reading - 1) winterMinSoc
    if current < target then some target else none

/-- A raise is written once it leads the SoC by little and does not land on it. -/
def minSocRaiseLimit (target : ℤ) (minSoc : ℚ) (soc : Option ℚ) (maxRaise : ℤ) : ℤ :=
  let current := max 0 (wholePercent minSoc)
  if target ≤ current then target
  else
    match soc with
    | none => current
    | some reading =>
      if target = wholePercent reading then current
      else if current = 0 then if (target : ℚ) < reading then target else current
      else if target ≤ wholePercent reading + maxRaise then target
      else current

section

variable (process : Process) (visit : Visit)

def Process.winterActive : Bool :=
  visit.featureEnabled && process.settings.months.contains visit.now.date.month

/-- Within the configured floor and `winter_min_soc`. -/
def Process.clampedTarget (target : ℤ) : ℤ :=
  let floor := if 0 < visit.minSoc then visit.minSoc else process.settings.summerMinSoc
  let ceiling := max floor process.settings.winterMinSoc
  max floor (min ceiling target)

def Visit.today : Date := visit.now.date

def Process.pastStepHour : Bool := process.settings.adjustHour ≤ visit.now.hour

/-! ### The store -/

/-- Whether a row belongs to this winter. -/
def recordIsCurrent (record : Option WinterRecord) (today : Date) : Bool :=
  match record with
  | none => false
  | some record =>
    match record.target, record.stepDate with
    | some _, some stored =>
      stored.ordinal ≤ today.ordinal && today.ordinal - stored.ordinal ≤ storedTargetMaxAgeDays
    | _, _ => false

/-- Takes over a row; tells whether it was current. -/
def Process.applyRecord (item : WinterDeviceState) (record : Option WinterRecord) :
    WinterDeviceState × Bool :=
  let item := { item with pvEver := item.pvEver || record.any WinterRecord.pvEver }
  match record with
  | none => (item, false)
  | some found =>
    if recordIsCurrent (some found) visit.today then
      let item := { item with
        stepDate := found.stepDate
        target := found.target.map (process.clampedTarget visit) }
      if item.stepDate = some visit.today then
        ({ item with stepTarget := found.stepTarget, stepAt := found.stepAt }, true)
      else (item, true)
    else (item, false)

/-- Writes the plan down, as far as the device can receive it; false where a store that should
have kept it did not. -/
def Process.persist (saveWorks : Bool) (d : WinterDevice) : WinterDevice × Bool :=
  if !process.hasStore then (d, true)
  else if !visit.writesAllowed then (d, true)
  else if d.item.storeFailed then (d, false)
  else if saveWorks then ({ d with stored := some d.item.record }, true)
  else (d, false)

/-- Whether a device first seen now may already have taken the day's step. -/
def Process.startSkipsToday (kind : StepKind) : Bool :=
  process.pastStepHour visit || (kind = .morningPv && decide (darkPvW ≤ visit.report.pvPower))

def Process.skipToday (kind : StepKind) (item : WinterDeviceState) : WinterDeviceState :=
  if item.stepDate ≠ some visit.today ∧ process.startSkipsToday visit kind = true then
    { item with skippedDate := some visit.today }
  else item

/-- Brings back what the store kept; without a current row, assumes that today has a step. -/
def Process.restore (kind : StepKind) (d : WinterDevice) : WinterDevice :=
  if d.item.stepDate = some visit.today then d
  else if process.hasStore then
    if visit.loadWorks then
      let (item, current) :=
        process.applyRecord visit { d.item with storeFailed := false } d.stored
      if current then { d with item }
      else { d with item := process.skipToday visit kind item.resetPlan }
    else { d with item := { d.item with storeFailed := true } }
  else
    let item :=
      if d.item.target.isSome && !recordIsCurrent (some d.item.record) visit.today then
        d.item.resetPlan
      else d.item
    { d with item := process.skipToday visit kind item }

/-- Reads the row again after a load that failed. -/
def Process.reload (d : WinterDevice) : WinterDevice :=
  if visit.loadWorks then
    { d with item := (process.applyRecord visit { d.item with storeFailed := false } d.stored).1 }
  else d

/-- What a visit in winter starts from: the row where it is not known yet. -/
def Process.recall (kind : StepKind) (d : WinterDevice) : WinterDevice :=
  if !d.item.seen then
    process.restore visit kind { d with item := { d.item with seen := true } }
  else if d.item.storeFailed then process.reload visit d
  else d

/-! ### The plan of a day -/

/-- Keeps the `minSoc` that the device carries where no target is known. -/
def Process.adoptMinSoc (d : WinterDevice) : WinterDevice :=
  match d.item.target with
  | some _ => d
  | none =>
    let held := process.clampedTarget visit (wholePercent visit.report.minSoc)
    { d with item := { d.item with target := some held } }

/-- Notes the day on which a device reported PV, and that it ever did. -/
def Process.observePv (d : WinterDevice) : WinterDevice :=
  if visit.report.pvPower < darkPvW then
    { d with item := { d.item with darkDate := some visit.today } }
  else
    let startAt := if d.item.darkDate = some visit.today then some visit.now else none
    let item :=
      if d.item.pvDate = some visit.today then d.item
      else { d.item with pvDate := some visit.today, pvStartAt := startAt }
    if !item.pvEver && decide (morningStepPvW ≤ visit.report.pvPower) then
      (process.persist visit visit.pvSaveWorks { d with item := { item with pvEver := true } }).1
    else { d with item }

def reportsPvUnexpectedly (item : WinterDeviceState) : Bool :=
  item.deviceClass = some .batteryOnly && item.pvEver

def Visit.steppedToday (item : WinterDeviceState) : Bool :=
  item.stepDate = some visit.today || item.skippedDate = some visit.today

def Process.stepDue (kind : StepKind) (item : WinterDeviceState) : Bool :=
  !visit.steppedToday item &&
    match kind with
    | .morningPv => decide (morningStepPvW ≤ visit.report.pvPower)
    | .atHour => visit.now.hour = process.settings.adjustHour && !reportsPvUnexpectedly item

/-- Where the day's step leads, or nothing while the battery is too far below. -/
def Process.dayTarget (kind : StepKind) (item : WinterDeviceState) : Option ℤ :=
  let base :=
    if 0 < visit.report.minSoc then wholePercent visit.report.minSoc else item.target.getD 0
  let current := max 0 base
  let settings := process.settings
  match kind with
  | .morningPv =>
    morningStepTarget visit.report.socReading current settings.winterMinSoc settings.stepPercent
  | .atHour =>
    timedStepTarget visit.report.socReading current settings.winterMinSoc settings.stepPercent

/-- Takes the day's step where it can be kept; a step that cannot is not taken. -/
def Process.takeStep (kind : StepKind) (d : WinterDevice) : Planned :=
  match process.dayTarget visit kind d.item with
  | none => ⟨d, d.item.target, false⟩
  | some target =>
    let stepped := { d.item with
      stepDate := some visit.today
      stepAt := some visit.now
      stepTarget := some target
      target := some target }
    let (kept, ok) := process.persist visit visit.planSaveWorks { d with item := stepped }
    if ok then ⟨kept, some target, true⟩
    else
      let item := { stepped with
        stepDate := d.item.stepDate
        stepAt := d.item.stepAt
        stepTarget := d.item.stepTarget
        target := d.item.target
        skippedDate := some visit.today }
      ⟨{ kept with item }, item.target, false⟩

/-- After the step, raises the target to a point below what the battery reached. -/
def Process.followSoc (d : WinterDevice) : WinterDevice :=
  match daytimeFollowTarget visit.report.socReading (d.item.target.getD 0)
      process.settings.winterMinSoc with
  | none => d
  | some target =>
    let (kept, ok) := process.persist visit visit.planSaveWorks
      { d with item := { d.item with target := some target } }
    if ok then kept else { kept with item := { kept.item with target := d.item.target } }

def Visit.follows (kind : StepKind) : Bool :=
  kind ≠ .morningPv || decide (darkPvW ≤ visit.report.pvPower)

/-- A visit in the winter months. -/
def Process.winterMinSoc (kind : StepKind) (d : WinterDevice) : Planned :=
  let d := process.observePv visit (process.adoptMinSoc visit (process.recall visit kind d))
  if process.stepDue visit kind d.item then process.takeStep visit kind d
  else if d.item.stepDate = some visit.today ∧ visit.follows kind = true then
    let d := process.followSoc visit d
    ⟨d, d.item.target, false⟩
  else ⟨d, d.item.target, false⟩

/-- Outside winter: the winter target is forgotten. -/
def Process.summerMinSoc (d : WinterDevice) : WinterDevice :=
  let d :=
    if d.item.target.isSome || d.item.stepDate.isSome then
      (process.persist visit visit.planSaveWorks
        { d with item := { d.item.resetPlan with skippedDate := none } }).1
    else d
  { d with item := { d.item with seen := false } }

/-! ### One visit -/

/-- The policy of the device by the configuration, and the device with it noted. -/
def Process.resolved (d : WinterDevice) : WinterPolicy × WinterDevice :=
  let entry := process.settings.entry visit.device
  let deviceClass := deviceEnergyClass false entry.pvKwpZero visit.modelClass
  let policy := resolvePolicy deviceClass entry.winterPolicy (process.settings.policies deviceClass)
  (policy, { d with item := { d.item with
    deviceClass := some deviceClass
    modelClass := visit.modelClass
    policy := some policy } })

/-- The policy that applies to the device, remembered by its model. -/
def Process.policy (d : WinterDevice) : WinterPolicy × WinterDevice :=
  if visit.report.batteryPresence = .absent then (noPolicy, d)
  else
    match d.item.policy with
    | some policy =>
      if d.item.modelClass = visit.modelClass then (policy, d) else process.resolved visit d
    | none => process.resolved visit d

/-- The winter or summer `minSoc` before the raise limit. -/
def Process.plannedMinSoc (policy : WinterPolicy) (d : WinterDevice) : Planned :=
  if !visit.featureEnabled then
    ⟨{ d with item := { d.item with seen := false, raiseWaiting := none } }, none, false⟩
  else if !visit.supportsStateReconciliation then ⟨d, none, false⟩
  else if visit.report.batteryPresence = .absent then ⟨d, none, false⟩
  else
    match policy.step with
    | none => ⟨d, none, false⟩
    | some kind =>
      if !visit.report.minSocReported then ⟨d, some minSocUnmanaged, false⟩
      else if !process.winterActive visit then
        ⟨process.summerMinSoc visit d, some process.settings.summerMinSoc, false⟩
      else process.winterMinSoc visit kind d

/-- The `minSoc` to write, and whether today's step was taken. -/
def Process.reconciliationTarget (d : WinterDevice) : Planned :=
  let (policy, d) := process.policy visit d
  let planned := process.plannedMinSoc visit policy d
  match planned.target with
  | none => planned
  | some target =>
    let item := planned.device.item
    let ownStep := item.stepDate = some visit.today ∧ item.stepTarget = some target
    let lead := if ownStep then policy.stepLead else maxRaiseAboveSoc
    let held := minSocRaiseLimit target visit.report.minSoc visit.report.socReading lead
    let item := { item with raiseWaiting := if held = target then none else some target }
    ⟨{ planned.device with item }, some held, planned.stepped⟩

end

end SolarFlowEms.Winter
