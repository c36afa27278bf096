import Mathlib.Data.Rat.Defs
import SolarFlowEms.Library.Table

/-!
# The full-charge assist's state store

Each device has a row in a database: its last observation, its charge schedule and what the
assist has requested or owes.  A row is written when one of its values changes.  An observation
that changes nothing but its times stays in memory until the refresh is due or until the next
write of the row carries it, and every reader of the store reads it from there.
-/

namespace SolarFlowEms

open Tables

/-! ### Times -/

/-- A `datetime`: microseconds on its own clock, and that clock's offset unless it is naive. -/
structure DateTime where
  micros : ℤ
  offset : Option ℤ
  deriving DecidableEq

namespace DateTime

/-- The difference in microseconds; a naive time and an aware one have none. -/
def sub? (t t' : DateTime) : Option ℤ :=
  match t.offset, t'.offset with
  | some offset, some offset' => some ((t.micros - offset) - (t'.micros - offset'))
  | none, none => some (t.micros - t'.micros)
  | _, _ => none

def microsPerDay : ℤ := 86400000000

def addDays (t : DateTime) (days : ℤ) : DateTime :=
  { t with micros := t.micros + days * microsPerDay }

@[simp] theorem sub?_self (t : DateTime) : t.sub? t = some 0 := by
  rw [sub?]
  cases t.offset <;> simp

end DateTime

/-- How times are written and read, with the law that a written time reads as itself. -/
structure TimeTexts (Text : Type) where
  isoformat : DateTime → Text
  fromisoformat : Text → Option DateTime
  fromisoformat_isoformat : ∀ t, fromisoformat (isoformat t) = some t

def TimeTexts.plain : TimeTexts DateTime := ⟨id, some, fun _ => rfl⟩

theorem TimeTexts.isoformat_injective {Text : Type} (texts : TimeTexts Text) {t t' : DateTime}
    (h : texts.isoformat t = texts.isoformat t') : t = t' := by
  have h' := congrArg texts.fromisoformat h
  rw [texts.fromisoformat_isoformat, texts.fromisoformat_isoformat] at h'
  exact Option.some.inj h'

/-! ### Rows -/

/-- The columns of a device's row, but for its key and the time of its last write. -/
inductive Column
  | hasBattery
  | lastFullChargeAt
  | nextDueAt
  | fullChargeAssistActive
  | assistStartedAt
  | lastAttemptAt
  | lastSeenSoc
  | lastSeenMaxSoc
  | lastSeenSocLimit
  | lastSeenAcMode
  | lastSeenAcStatus
  | lastSeenPackNum
  | lastSeenSocStatus
  | lastSeenBatteryCalibrationTime
  | lastSeenAt
  | restorePending
  | acModeRestorePending
  | maxSocRequestPending
  | acInputRequestPending
  deriving DecidableEq

/-- Every column, in the table's order. -/
def Column.all : List Column :=
  [.hasBattery, .lastFullChargeAt, .nextDueAt, .fullChargeAssistActive, .assistStartedAt,
    .lastAttemptAt, .lastSeenSoc, .lastSeenMaxSoc, .lastSeenSocLimit, .lastSeenAcMode,
    .lastSeenAcStatus, .lastSeenPackNum, .lastSeenSocStatus, .lastSeenBatteryCalibrationTime,
    .lastSeenAt, .restorePending, .acModeRestorePending, .maxSocRequestPending,
    .acInputRequestPending]

theorem Column.mem_all (column : Column) : column ∈ Column.all := by
  cases column <;> decide

/-- A property of every column is decided column by column. -/
instance {p : Column → Prop} [DecidablePred p] : Decidable (∀ column, p column) :=
  decidable_of_iff (∀ column ∈ Column.all, p column)
    ⟨fun h column => h column column.mem_all, fun h column _ => h column⟩

/-- What a column holds: a flag, a time's text, a number or a whole number. -/
@[reducible] def Column.Value (Text : Type) : Column → Type
  | .hasBattery | .fullChargeAssistActive | .restorePending | .acModeRestorePending
  | .maxSocRequestPending | .acInputRequestPending => Bool
  | .lastFullChargeAt | .nextDueAt | .assistStartedAt | .lastAttemptAt | .lastSeenAt =>
    Option Text
  | .lastSeenSoc | .lastSeenMaxSoc => Option ℚ
  | .lastSeenSocLimit | .lastSeenAcMode | .lastSeenAcStatus | .lastSeenPackNum
  | .lastSeenSocStatus | .lastSeenBatteryCalibrationTime => Option ℤ

instance {Text : Type} [DecidableEq Text] (column : Column) :
    DecidableEq (column.Value Text) := by
  cases column <;> exact inferInstance

abbrev Row (Text : Type) := (column : Column) → column.Value Text

abbrev Values (Text : Type) := (column : Column) → Option (column.Value Text)

variable {Text : Type}

/-- `{**row, **values}`. -/
def Row.update (row : Row Text) (values : Values Text) : Row Text :=
  fun column => (values column).getD (row column)

def Values.empty : Values Text := fun _ => none

def Row.Agrees (row : Row Text) (values : Values Text) : Prop :=
  ∀ column, values column = none ∨ values column = some (row column)

instance [DecidableEq Text] (row : Row Text) (values : Values Text) :
    Decidable (row.Agrees values) :=
  inferInstanceAs (Decidable (∀ _, _))

@[simp] theorem Row.update_empty (row : Row Text) : row.update .empty = row := rfl

theorem Row.update_of_agrees {row : Row Text} {values : Values Text} (h : row.Agrees values) :
    row.update values = row := by
  funext column
  show (values column).getD (row column) = row column
  rcases h column with hnone | hsome
  · rw [hnone, Option.getD_none]
  · rw [hsome, Option.getD_some]

theorem Row.update_update_of_covers {row : Row Text} {held values : Values Text}
    (h : ∀ column, held column ≠ none → values column ≠ none) :
    (row.update held).update values = row.update values := by
  funext column
  show (values column).getD ((held column).getD (row column)) =
    (values column).getD (row column)
  cases hvalue : values column with
  | some value => rfl
  | none =>
    have hheld : held column = none := by
      by_contra hne
      exact h column hne hvalue
    rw [hheld]
    rfl

/-- A row without a device's history. -/
def defaultRow : Row Text
  | .hasBattery | .fullChargeAssistActive | .restorePending | .acModeRestorePending
  | .maxSocRequestPending | .acInputRequestPending => false
  | .lastFullChargeAt | .nextDueAt | .assistStartedAt | .lastAttemptAt | .lastSeenAt
  | .lastSeenSoc | .lastSeenMaxSoc | .lastSeenSocLimit | .lastSeenAcMode | .lastSeenAcStatus
  | .lastSeenPackNum | .lastSeenSocStatus | .lastSeenBatteryCalibrationTime => none

/-- A stored row and the time of its last write. -/
structure Record (Text : Type) where
  row : Row Text
  updatedAt : Text

/-! ### Observations -/

/-- What an observation reads of a device's report. -/
structure ObservedReport where
  soc : ℚ
  maxSoc : ℚ
  socLimit : ℤ
  acMode : ℤ
  acStatus : ℤ
  packNum : Option ℚ
  socStatus : ℤ
  batteryCalibrationTime : Option ℤ
  deriving DecidableEq

/-- An observed pack count, unless the number is not one. -/
def parsePackCount (value : Option ℚ) : Option ℤ :=
  value.bind fun packs => if packs.den = 1 ∧ 0 ≤ packs then some packs.num else none

def Column.isObservedTime : Column → Bool
  | .lastFullChargeAt | .nextDueAt => true
  | _ => false

/-- `LAST_SEEN_REFRESH`, fifteen minutes. -/
def lastSeenRefresh : ℤ := 900000000

variable (texts : TimeTexts Text)

/-- The values of one report; a full battery's schedule starts anew. -/
def observedValues (report : ObservedReport) (hasBattery : Bool) (now : DateTime)
    (intervalDays : ℤ) : Values Text
  | .hasBattery => some hasBattery
  | .lastSeenSoc => some (some report.soc)
  | .lastSeenMaxSoc => some (some report.maxSoc)
  | .lastSeenSocLimit => some (some report.socLimit)
  | .lastSeenAcMode => some (some report.acMode)
  | .lastSeenAcStatus => some (some report.acStatus)
  | .lastSeenPackNum => some (parsePackCount report.packNum)
  | .lastSeenSocStatus => some (some report.socStatus)
  | .lastSeenBatteryCalibrationTime => some report.batteryCalibrationTime
  | .lastFullChargeAt =>
    if hasBattery = true ∧ report.socLimit = 1 then some (some (texts.isoformat now)) else none
  | .nextDueAt =>
    if hasBattery = true ∧ report.socLimit = 1 then
      some (some (texts.isoformat (now.addDays intervalDays)))
    else none
  | .lastSeenAt => some (some (texts.isoformat now))
  | .fullChargeAssistActive | .assistStartedAt | .lastAttemptAt | .restorePending
  | .acModeRestorePending | .maxSocRequestPending | .acInputRequestPending => none

def sinceLastSeen (stored : Row Text) (now : DateTime) : Option ℤ :=
  (stored .lastSeenAt).bind fun text => (texts.fromisoformat text).bind now.sub?

/-- Whether an observation is written: a value besides its times changed, or the refresh is due. -/
def observationDue [DecidableEq Text] (stored : Row Text) (values : Values Text)
    (now : DateTime) : Bool :=
  if ∀ column : Column, column.isObservedTime = true ∨ column = .lastSeenAt ∨
      values column = none ∨ values column = some (stored column) then
    match sinceLastSeen texts stored now with
    | some elapsed => lastSeenRefresh ≤ elapsed
    | none => true
  else true

/-! ### The store -/

/-- The database and the observations that are not written yet.  The feature switch as it was
last recorded has a table of its own. -/
structure StateStore (Text : Type) where
  rows : Table String (Record Text)
  unwritten : String → Values Text
  featureEnabled : Option Bool

namespace StateStore

def merged (store : StateStore Text) (device : String) (stored : Row Text) : Row Text :=
  stored.update (store.unwritten device)

def getDeviceState (store : StateStore Text) (device : String) (now : Option DateTime) :
    Option (Record Text) :=
  match store.rows.lookup device with
  | none => now.map fun now => ⟨defaultRow, texts.isoformat now⟩
  | some stored => some { stored with row := store.merged device stored.row }

def allDeviceStates (store : StateStore Text) : List (String × Record Text) :=
  (store.rows.rows.mergeSort fun row row' => decide (row.1 ≤ row'.1)).map fun row =>
    (row.1, { row.2 with row := store.merged row.1 row.2.row })

variable [DecidableEq Text]

/-- Write values where one of them changes the row, with any observation held in memory. -/
def updateDeviceState (store : StateStore Text) (device : String) (now : DateTime)
    (values : Values Text) : StateStore Text × Record Text :=
  let write (current : Row Text) : StateStore Text × Record Text :=
    let record : Record Text := ⟨current.update values, texts.isoformat now⟩
    ({ store with
      rows := store.rows.upsert device record
      unwritten := fun other => if other = device then .empty else store.unwritten other },
      record)
  match store.rows.lookup device with
  | none => write defaultRow
  | some stored =>
    let current := store.merged device stored.row
    if current.Agrees values then (store, { stored with row := current }) else write current

/-- Record one report: write it, or hold it in memory. -/
def recordObservation (store : StateStore Text) (device : String) (report : ObservedReport)
    (hasBattery : Bool) (now : DateTime) (intervalDays : ℤ) : StateStore Text × Record Text :=
  let values := observedValues texts report hasBattery now intervalDays
  match store.rows.lookup device with
  | some stored =>
    if observationDue texts stored.row values now = true then
      store.updateDeviceState texts device now values
    else
      ({ store with
        unwritten := fun other => if other = device then values else store.unwritten other },
        { stored with row := stored.row.update values })
  | none => store.updateDeviceState texts device now values

def setFeatureEnabledState (store : StateStore Text) (enabled : Bool) : StateStore Text :=
  if store.featureEnabled = some enabled then store
  else { store with featureEnabled := some enabled }

end StateStore

end SolarFlowEms
