import SolarFlowEms.ChargeRecord
import SolarFlowEms.Library.Interrupted
import SolarFlowEms.Reconcile
import SolarFlowEms.WriteThrough

/-!
# The full-charge assist

Every few weeks the assist charges a battery to the full: it raises `socSet` to 100, takes the
device into AC input where it may, and afterwards writes the configured maximum and takes the
device back out.  What it has started and what it still owes is in the state store; each visit of
a device reads the row, writes to the device, and writes down what became of it.

A visit is given by its steps, a step being one write to the store or one call of a reconciler, so
that it can be interrupted between any two of them.
-/

namespace SolarFlowEms

open Interrupted Models PowerDirection

/-- The settings of the assist. -/
structure AssistConfig where
  enabled : Bool
  intervalDays : ℤ
  assistWindowDays : ℤ
  assistStartSoc : ℤ
  /-- The minute of the day that `force_time` names. -/
  forceTime : ℤ
  enableAcChargeMode : Bool
  acChargePower : ℤ
deriving DecidableEq

/-- What changed about the feature switch since the store last recorded it. -/
structure FeatureTransition where
  currentEnabled : Bool
  firstEnable : Bool
  reenabled : Bool
deriving DecidableEq

def fullChargeAssistFeatureTransition (enabled : Bool) (previous : Option Bool) :
    FeatureTransition where
  currentEnabled := enabled
  firstEnable := previous = none && enabled
  reenabled := previous = some false && enabled

/-- What the store records of a report. -/
def DeviceReport.observed (report : DeviceReport) : ObservedReport where
  soc := report.soc
  maxSoc := report.maxSoc
  socLimit := report.socLimit
  acMode := report.acMode.truncate
  acStatus := report.acStatus.truncate
  packNum := report.packNum.map fun packs => packs
  socStatus := report.socStatus
  batteryCalibrationTime := report.batteryCalibrationTime

/-! ### What comes to one device -/

/-- The controller's record of the assist's charge, after it read the report. -/
structure ObservedCharge where
  isOpen : Bool
  exits : ℕ
  exitWindowPassed : Bool
deriving DecidableEq

/-- What one cycle brings to one device that answered: its configuration and report, what the
controller has in memory, the claim that wins, and what becomes of the writes. -/
structure DeviceVisit where
  dev : ControlledDevice
  report : DeviceReport
  /-- `device_state_writes_allowed`. -/
  writesAllowed : Bool
  acInputWithheld : Bool
  /-- Whether the assist's charge on the controller's record is open, where there is one. -/
  chargeOnRecord : Option Bool
  holdAnswer : PropertyAnswer
  restoreAnswer : PropertyAnswer
  startAnswer : PropertyAnswer
  intent : DeviceRuntimeIntent
  acModeAnswer : PropertyAnswer
  observedCharge : Option ObservedCharge
deriving DecidableEq

/-! ### What is written down -/

variable {Text : Type}

/-- What the assist writes down in a device's row. -/
inductive AssistNote (Text : Type) where
  | completed (fullAt dueAt : Text)
  | aborted (acModeRestorePending : Bool)
  | seeded (fullAt dueAt : Text)
  | started (startedAt : Text) (acChargeMode : Bool)
  | maxSocRequested
  | socRestored
  | acInputRequested (settled owed : Bool)
  | acModeRestored

def AssistNote.values : AssistNote Text → Values Text
  | .completed fullAt dueAt => fun
    | .lastFullChargeAt => some (some fullAt)
    | .nextDueAt => some (some dueAt)
    | .fullChargeAssistActive => some false
    | .maxSocRequestPending => some true
    | .acInputRequestPending => some false
    | .restorePending => some true
    | _ => none
  | .aborted acModeRestorePending => fun
    | .fullChargeAssistActive => some false
    | .restorePending => some true
    | .maxSocRequestPending => some true
    | .acInputRequestPending => some false
    | .acModeRestorePending => some acModeRestorePending
    | _ => none
  | .seeded fullAt dueAt => fun
    | .lastFullChargeAt => some (some fullAt)
    | .nextDueAt => some (some dueAt)
    | .fullChargeAssistActive => some false
    | .restorePending => some false
    | .acModeRestorePending => some false
    | .maxSocRequestPending => some false
    | .acInputRequestPending => some false
    | _ => none
  | .started startedAt acChargeMode => fun
    | .fullChargeAssistActive => some true
    | .assistStartedAt => some (some startedAt)
    | .lastAttemptAt => some (some startedAt)
    | .restorePending => some true
    | .maxSocRequestPending => some true
    | .acInputRequestPending => some acChargeMode
    | _ => none
  | .maxSocRequested => fun
    | .maxSocRequestPending => some false
    | _ => none
  | .socRestored => fun
    | .restorePending => some false
    | .maxSocRequestPending => some false
    | _ => none
  | .acInputRequested settled owed => fun
    | .acInputRequestPending => if settled then some false else none
    | .acModeRestorePending => if owed then some true else none
    | _ => none
  | .acModeRestored => fun
    | .acModeRestorePending => some false
    | _ => none

/-- What happened to a device's row and to the device. -/
inductive AssistEvent (Text : Type) where
  | noted (device : String) (note : AssistNote Text)
  | socLimits (dev : ControlledDevice) (report : DeviceReport) (desiredMaxSoc : ℤ)
      (reconciled : Reconciled)
  | acMode (visit : DeviceVisit) (reconciled : Reconciled)

/-- The state store, and what happened so far, the latest first. -/
structure AssistWorld (Text : Type) where
  store : StateStore Text
  log : List (AssistEvent Text)

namespace AssistWorld

variable (w : AssistWorld Text)

/-- What the store answers for a device. -/
def row (device : String) : Row Text :=
  match w.store.rows.lookup device with
  | none => defaultRow
  | some stored => w.store.merged device stored.row

def did (event : AssistEvent Text) : AssistWorld Text := { w with log := event :: w.log }

/-- Write a note down. -/
def note [DecidableEq Text] (texts : TimeTexts Text) (device : String) (now : DateTime)
    (note : AssistNote Text) : AssistWorld Text where
  store := (w.store.updateDeviceState texts device now note.values).1
  log := .noted device note :: w.log

end AssistWorld

/-! ### One visit of a device -/

/-- A visit, with what the whole cycle goes by. -/
structure AssistVisit extends DeviceVisit where
  now : DateTime
  config : AssistConfig
  transition : FeatureTransition

namespace AssistVisit

variable (texts : TimeTexts Text) (v : AssistVisit) (row : Row Text)

def hasBattery : Bool := v.report.batteryPresence = .present

/-- The instant of a stored time; a naive one is on the local clock. -/
def dueInstant (due : DateTime) : ℤ := due.micros - due.offset.getD (v.now.offset.getD 0)

def nowInstant : ℤ := v.now.micros - v.now.offset.getD 0

/-- The day of an instant on the local clock. -/
def localDay (instant : ℤ) : ℤ := (instant + v.now.offset.getD 0) / DateTime.microsPerDay

def forceTimeReached (due : DateTime) : Bool :=
  v.localDay (v.dueInstant due) ≤ v.localDay v.nowInstant &&
    v.config.forceTime * 60000000 ≤ v.now.micros % DateTime.microsPerDay

def dueSoon (due : DateTime) : Bool :=
  v.dueInstant due ≤ v.nowInstant + v.config.assistWindowDays * DateTime.microsPerDay

def shouldStartFullChargeAssist : Bool :=
  if row .fullChargeAssistActive || row .restorePending || row .acModeRestorePending ||
      v.report.socLimit = 1 then false
  else
    match (row .nextDueAt).bind texts.fromisoformat with
    | none => false
    | some due =>
      v.forceTimeReached due ||
        (v.dueSoon due && v.config.assistStartSoc ≤ v.report.soc)

def fullChargeHasPendingState : Bool :=
  row .fullChargeAssistActive || row .restorePending || row .acModeRestorePending ||
    row .maxSocRequestPending || row .acInputRequestPending

/-- The schedule is seeded: on the first enable without a history, and on every re-enable. -/
def seeds : Bool :=
  v.transition.currentEnabled && !fullChargeHasPendingState row &&
    (v.transition.firstEnable && (row .lastFullChargeAt).isNone && (row .nextDueAt).isNone ||
      v.transition.reenabled)

def acChargeMode : Bool := v.config.enableAcChargeMode && !v.acInputWithheld

/-- Whether the charge the assist entered still runs. -/
def chargeOpen : Bool :=
  match v.chargeOnRecord with
  | none => !outOfCharge v.report.toDirectionReport
  | some isOpen => isOpen

/-- Whether the report lacks a field that the assist still has to write. -/
def fieldUnreported : Bool :=
  if row .fullChargeAssistActive && row .acModeRestorePending &&
      (v.report.acModeKnown || inAcInputDirection v.report.toDirectionReport) && v.chargeOpen then
    false
  else if (!row .fullChargeAssistActive || row .maxSocRequestPending) &&
      !v.report.maxSocReported then true
  else v.acChargeMode && !(v.report.acModeKnown && v.report.inputLimitReported)

/-- What keeps the assist from writing what it needs. -/
inductive HeldBy where
  | transportStateReconciliationUnsupported
  | stateWritesNotAllowed
  | fieldsNotReported
deriving DecidableEq

def heldBy : Option HeldBy :=
  if !v.dev.supportsStateReconciliation then some .transportStateReconciliationUnsupported
  else if !v.writesAllowed then some .stateWritesNotAllowed
  else if v.fieldUnreported row then some .fieldsNotReported
  else none

def timestamp : Text := texts.isoformat v.now

def dueTimestamp : Text := texts.isoformat (v.now.addDays v.config.intervalDays)

variable [DecidableEq Text]

/-- Record the report. -/
def recordObservation (w : AssistWorld Text) : AssistWorld Text :=
  { w with
    store := (w.store.recordObservation texts v.dev.name v.report.observed v.hasBattery v.now
      v.config.intervalDays).1 }

/-- Write `socSet`, and write down that it went out or needs no write. -/
def requestMaxSoc (desiredMaxSoc : ℤ) (answer : PropertyAnswer) (note : AssistNote Text) :
    Steps (AssistWorld Text) := fun w =>
  let reconciled := applySocLimits v.dev v.writesAllowed v.report answer (some minSocUnmanaged)
    (some desiredMaxSoc)
  let w' := w.did (.socLimits v.dev v.report desiredMaxSoc reconciled)
  if reconciled.ok then [w', w'.note texts v.dev.name v.now note] else [w']

def complete : Steps (AssistWorld Text) := fun w =>
  if w.row v.dev.name .fullChargeAssistActive && v.report.socLimit = 1 then
    [w.note texts v.dev.name v.now (.completed (v.timestamp texts) (v.dueTimestamp texts))]
  else []

def abortDisabled : Steps (AssistWorld Text) := fun w =>
  if w.row v.dev.name .fullChargeAssistActive && !v.config.enabled then
    [w.note texts v.dev.name v.now (.aborted (w.row v.dev.name .acModeRestorePending))]
  else []

def restore : Steps (AssistWorld Text) := fun w =>
  if w.row v.dev.name .restorePending then
    v.requestMaxSoc texts v.dev.maxSoc v.restoreAnswer .socRestored w
  else []

def start : Steps (AssistWorld Text) := fun w =>
  if v.transition.currentEnabled && (v.heldBy (w.row v.dev.name)).isNone &&
      v.shouldStartFullChargeAssist texts (w.row v.dev.name) then
    (Steps.once fun w => w.note texts v.dev.name v.now
      (.started (v.timestamp texts) v.config.enableAcChargeMode)).andThen
        (v.requestMaxSoc texts 100 v.startAnswer .maxSocRequested) w
  else []

/-- Hold a running assist, or restore what is owed and start the next. -/
def advance : Steps (AssistWorld Text) := fun w =>
  if w.row v.dev.name .fullChargeAssistActive then
    v.requestMaxSoc texts 100 v.holdAnswer .maxSocRequested w
  else (Steps.andThen (v.restore texts) (v.start texts)) w

def seedOrAdvance : Steps (AssistWorld Text) := fun w =>
  if v.seeds (w.row v.dev.name) then
    [w.note texts v.dev.name v.now (.seeded (v.timestamp texts) (v.dueTimestamp texts))]
  else v.advance texts w

def processBatteryFullChargeAssist : Steps (AssistWorld Text) :=
  (Steps.once (v.recordObservation texts)).andThen fun w =>
    if !v.hasBattery then []
    else ((v.complete texts).andThen ((v.abortDisabled texts).andThen (v.seedOrAdvance texts))) w

/-! ### Entering AC input and leaving it -/

/-- Settle the request for AC input, and owe the way back from it. -/
def updateAcPending (writeOk : Bool) (w : AssistWorld Text) : AssistWorld Text :=
  if !writeOk || v.intent.reason ≠ fullChargeAssistReason then w
  else
    let settled := w.row v.dev.name .acInputRequestPending
    let owed := v.intent.desiredAcMode = some acModeInput && v.dev.supportsStateReconciliation &&
      !w.row v.dev.name .acModeRestorePending
    if settled || owed then w.note texts v.dev.name v.now (.acInputRequested settled owed) else w

/-- The report or the record shows the restore of `acMode` done, or it is left to the device. -/
def acModeRestoreSettled : Bool :=
  if !v.dev.supportsStateReconciliation then true
  else if v.report.acModeKnown then v.report.acMode.truncate = acModeOutput
  else
    match v.observedCharge with
    | none => false
    | some charge =>
      !charge.isOpen || (foundExitAttemptsMax ≤ charge.exits && charge.exitWindowPassed)

/-- Settle the restore of `acMode` once the device shows it done. -/
def confirmAcRestore : Steps (AssistWorld Text) := fun w =>
  if v.intent.desiredAcMode = some acModeOutput &&
      (v.intent.reason = fullChargeAssistReason ||
        v.intent.reason = fullChargeAssistRestoreReason) &&
      w.row v.dev.name .acModeRestorePending && v.acModeRestoreSettled then
    [w.note texts v.dev.name v.now .acModeRestored]
  else []

def reconciledAcMode : Reconciled :=
  reconcileAcModeIntent v.dev v.writesAllowed v.report v.intent v.acModeAnswer

/-- Write `acMode` under the claim that won, owe the way back, and settle it once it is done. -/
def reconcileAcMode : Steps (AssistWorld Text) :=
  (Steps.once fun w => w.did (.acMode v.toDeviceVisit v.reconciledAcMode)).andThen
    ((Steps.once (v.updateAcPending texts v.reconciledAcMode.ok)).andThen
      (v.confirmAcRestore texts))

end AssistVisit

/-! ### Cycles -/

/-- What one cycle of the control loop brings to the assist. -/
structure AssistCycle where
  now : DateTime
  config : AssistConfig
  devices : List DeviceVisit

namespace AssistCycle

variable (texts : TimeTexts Text) [DecidableEq Text] (cycle : AssistCycle)

def visit (transition : FeatureTransition) (d : DeviceVisit) : AssistVisit where
  toDeviceVisit := d
  now := cycle.now
  config := cycle.config
  transition := transition

def noteFeature (w : AssistWorld Text) : AssistWorld Text :=
  { w with store := w.store.setFeatureEnabledState cycle.config.enabled }

/-- The assist's part of a cycle: every device that answered is visited, then `acMode` is
reconciled under each device's claim. -/
def steps : Steps (AssistWorld Text) := fun w =>
  let transition :=
    fullChargeAssistFeatureTransition cycle.config.enabled w.store.featureEnabled
  let visits := cycle.devices.map (cycle.visit transition)
  ((Steps.once cycle.noteFeature).andThen
    ((Steps.forEach (fun v => v.processBatteryFullChargeAssist texts) visits).andThen
      (Steps.forEach (fun v => v.reconcileAcMode texts) visits))) w

end AssistCycle

/-- A cycle that may stop after some of its steps, by a failure or with the process. -/
structure AssistRunStep where
  cycle : AssistCycle
  stop : ℕ
  restarts : Bool

namespace AssistWorld

def restarted (w : AssistWorld Text) : AssistWorld Text :=
  { w with store := StateStore.opened w.store.rows w.store.featureEnabled }

variable (texts : TimeTexts Text) [DecidableEq Text]

def stopped (w : AssistWorld Text) (step : AssistRunStep) : AssistWorld Text :=
  (step.cycle.steps texts).interrupted step.stop w

def step (w : AssistWorld Text) (step : AssistRunStep) : AssistWorld Text :=
  if step.restarts then (w.stopped texts step).restarted else w.stopped texts step

/-- A process that starts on a database. -/
def opened (rows : Tables.Table String (Record Text)) (featureEnabled : Option Bool) :
    AssistWorld Text :=
  ⟨StateStore.opened rows featureEnabled, []⟩

end AssistWorld

end SolarFlowEms
