import SolarFlowEms.StateStore

/-!
# The lazily written store and a store that writes everything

A store that writes every observation straight to its table answers every read from that table.
The lazily written store answers the same, apart from the time of the last write: what a reader
sees is the table with the observations in memory laid over it, and every call does to that view
what the other store does to its table.  What is on disk lags behind by less than the refresh.
-/

namespace SolarFlowEms

open Tables

variable {Text : Type} (texts : TimeTexts Text)

/-- The calls of the store. -/
inductive StoreCall (Text : Type)
  | updateDeviceState (device : String) (now : DateTime) (values : Values Text)
  | recordObservation (device : String) (report : ObservedReport) (hasBattery : Bool)
      (now : DateTime) (intervalDays : ℤ)
  | getDeviceState (device : String) (now : Option DateTime)
  | allDeviceStates
  | setFeatureEnabledState (enabled : Bool)
  | getFeatureEnabledState

/-- What a call returns, but for the time of the last write. -/
inductive StoreAnswer (Text : Type)
  | state (row : Option (Row Text))
  | states (rows : List (String × Row Text))
  | feature (enabled : Option Bool)

/-! ### Writing through -/

/-- A store without memory: its table and the feature switch. -/
structure WriteThrough (Text : Type) where
  rows : Table String (Row Text)
  featureEnabled : Option Bool

namespace WriteThrough

/-- Values are written, whatever they change. -/
def write (store : WriteThrough Text) (device : String) (values : Values Text) :
    WriteThrough Text × Row Text :=
  let row := ((store.rows.lookup device).getD defaultRow).update values
  ({ store with rows := store.rows.upsert device row }, row)

def call (store : WriteThrough Text) : StoreCall Text → WriteThrough Text × StoreAnswer Text
  | .updateDeviceState device _ values =>
    let (store, row) := store.write device values
    (store, .state (some row))
  | .recordObservation device report hasBattery now intervalDays =>
    let (store, row) :=
      store.write device (observedValues texts report hasBattery now intervalDays)
    (store, .state (some row))
  | .getDeviceState device now =>
    (store, .state ((store.rows.lookup device).or (now.map fun _ => defaultRow)))
  | .allDeviceStates =>
    (store, .states (store.rows.rows.mergeSort fun row row' => decide (row.1 ≤ row'.1)))
  | .setFeatureEnabledState enabled =>
    ({ store with featureEnabled := some enabled }, .feature (some enabled))
  | .getFeatureEnabledState => (store, .feature store.featureEnabled)

end WriteThrough

section

variable {σ : Type} (call : σ → StoreCall Text → σ × StoreAnswer Text)

def afterCalls (store : σ) (calls : List (StoreCall Text)) : σ :=
  calls.foldl (fun store c => (call store c).1) store

def answers : σ → List (StoreCall Text) → List (StoreAnswer Text)
  | _, [] => []
  | store, c :: calls => (call store c).2 :: answers (call store c).1 calls

end

/-! ### The view of the store -/

/-- The columns that an observation has a value for. -/
def Column.isObserved : Column → Bool
  | .fullChargeAssistActive | .assistStartedAt | .lastAttemptAt | .restorePending
  | .acModeRestorePending | .maxSocRequestPending | .acInputRequestPending => false
  | _ => true

def Row.Full (row : Row Text) : Prop :=
  row .hasBattery = true ∧ row .lastSeenSocLimit = some 1

namespace StateStore

def view (store : StateStore Text) : WriteThrough Text where
  rows := store.rows.view fun device stored => store.merged device stored.row
  featureEnabled := store.featureEnabled

/-- How far the time a row shows may be ahead of the time that is stored. -/
def Fresh (store : StateStore Text) (device : String) (stored : Row Text) : Prop :=
  store.merged device stored .lastSeenAt = stored .lastSeenAt ∨
    ∃ now elapsed, store.merged device stored .lastSeenAt = some (texts.isoformat now) ∧
      sinceLastSeen texts stored now = some elapsed ∧ elapsed < lastSeenRefresh

/-- What is held in memory is an observation of a stored row: it has values for observed columns
only, a full charge's times only where the row is stored as full, and it is fresh. -/
structure Held (store : StateStore Text) : Prop where
  observed : ∀ device column, store.unwritten device column ≠ none →
    column.isObserved = true ∧ ∃ stored, store.rows.lookup device = some stored ∧
      (column.isObservedTime = true → stored.row.Full)
  fresh : ∀ device stored, store.rows.lookup device = some stored →
    store.Fresh texts device stored.row

variable {texts} {store : StateStore Text} {device : String}

theorem lookup_view (store : StateStore Text) (device : String) :
    store.view.rows.lookup device =
      (store.rows.lookup device).map fun stored => store.merged device stored.row :=
  Table.lookup_view _ _ _

/-! ### One call -/

/-- What writing a row leaves. -/
def written (store : StateStore Text) (device : String) (record : Record Text) :
    StateStore Text :=
  { store with
    rows := store.rows.upsert device record
    unwritten := fun other => if other = device then .empty else store.unwritten other }

theorem merged_written_self (store : StateStore Text) (device : String) (record : Record Text)
    (stored : Row Text) : (store.written device record).merged device stored = stored := by
  show stored.update (if device = device then .empty else store.unwritten device) = stored
  rw [if_pos rfl, Row.update_empty]

variable {other : String} {stored : Record Text} {report : ObservedReport} {hasBattery : Bool}
  {now : DateTime} {intervalDays : ℤ} {column : Column} {through : WriteThrough Text}
  {last : Option DateTime}

theorem merged_written_of_ne (store : StateStore Text) (record : Record Text)
    (stored : Row Text) (h : other ≠ device) :
    (store.written device record).merged other stored = store.merged other stored := by
  show stored.update (if other = device then .empty else store.unwritten other) = _
  rw [if_neg h]
  rfl

theorem view_written (store : StateStore Text) (device : String) (record : Record Text) :
    (store.written device record).view =
      { store.view with rows := store.view.rows.upsert device record.row } := by
  have hrows : (store.rows.upsert device record).view
      (fun other stored => (store.written device record).merged other stored.row) =
      (store.rows.view fun other stored => store.merged other stored.row).upsert device
        ((store.written device record).merged device record.row) := by
    apply Table.view_upsert
    intro other hother stored
    exact merged_written_of_ne store record stored.row hother
  rw [merged_written_self] at hrows
  show WriteThrough.mk _ _ = _
  rw [show (store.written device record).rows = store.rows.upsert device record from rfl, hrows]
  rfl

theorem Held.written (h : store.Held texts) (device : String) (record : Record Text) :
    (store.written device record).Held texts where
  observed := by
    intro other column hne
    by_cases hother : other = device
    · have hempty : (store.written device record).unwritten other = .empty := if_pos hother
      rw [hempty] at hne
      exact absurd rfl hne
    · have hsame : (store.written device record).unwritten other = store.unwritten other :=
        if_neg hother
      rw [hsame] at hne
      obtain ⟨hobserved, stored, hstored, hfull⟩ := h.observed other column hne
      refine ⟨hobserved, stored, ?_, hfull⟩
      exact (Table.lookup_upsert_of_ne store.rows record hother).trans hstored
  fresh := by
    intro other stored hstored
    by_cases hother : other = device
    · subst hother
      left
      rw [merged_written_self]
    · have hold : store.rows.lookup other = some stored :=
        (Table.lookup_upsert_of_ne store.rows record hother).symm.trans hstored
      rw [Fresh, merged_written_of_ne store record stored.row hother]
      exact h.fresh other stored hold

/-! ### Observations in memory -/

theorem full_iff_of_repeats {stored : Row Text}
    (h : ∀ column : Column, column.isObservedTime = true ∨ column = .lastSeenAt ∨
      observedValues texts report hasBattery now intervalDays column = none ∨
      observedValues texts report hasBattery now intervalDays column = some (stored column)) :
    (hasBattery = true ∧ report.socLimit = 1) ↔ stored.Full := by
  have hbattery : some hasBattery = some (stored .hasBattery) :=
    ((h .hasBattery).resolve_left nofun).resolve_left nofun |>.resolve_left nofun
  have hlimit : some (some report.socLimit) = some (stored .lastSeenSocLimit) :=
    ((h .lastSeenSocLimit).resolve_left nofun).resolve_left nofun |>.resolve_left nofun
  rw [Row.Full, ← Option.some.inj hbattery, ← Option.some.inj hlimit, Option.some.injEq]

theorem isObserved_of_observedValues
    (h : observedValues texts report hasBattery now intervalDays column ≠ none) :
    column.isObserved = true := by
  cases column <;> first | rfl | exact absurd rfl h

theorem full_of_observedValues (htime : column.isObservedTime = true)
    (h : observedValues texts report hasBattery now intervalDays column ≠ none) :
    hasBattery = true ∧ report.socLimit = 1 := by
  by_contra hnot
  cases column with
  | lastFullChargeAt | nextDueAt => exact h (if_neg hnot)
  | _ => cases htime

theorem observedValues_ne_none (hobserved : column.isObserved = true)
    (htime : column.isObservedTime = true → hasBattery = true ∧ report.socLimit = 1) :
    observedValues texts report hasBattery now intervalDays column ≠ none := by
  cases column with
  | lastFullChargeAt =>
    rw [observedValues, if_pos (htime rfl)]
    exact nofun
  | nextDueAt =>
    rw [observedValues, if_pos (htime rfl)]
    exact nofun
  | fullChargeAssistActive | assistStartedAt | lastAttemptAt | restorePending
  | acModeRestorePending | maxSocRequestPending | acInputRequestPending => cases hobserved
  | _ => exact nofun

/-- Holding an observation in memory. -/
def holding (store : StateStore Text) (device : String) (values : Values Text) :
    StateStore Text :=
  { store with
    unwritten := fun other => if other = device then values else store.unwritten other }

theorem merged_holding_self (store : StateStore Text) (device : String) (values : Values Text)
    (stored : Row Text) : (store.holding device values).merged device stored =
      stored.update values := by
  show stored.update (if device = device then values else store.unwritten device) = _
  rw [if_pos rfl]

theorem merged_holding_of_ne (store : StateStore Text) (values : Values Text)
    (stored : Row Text) (h : other ≠ device) :
    (store.holding device values).merged other stored = store.merged other stored := by
  show stored.update (if other = device then values else store.unwritten other) = _
  rw [if_neg h]
  rfl

section

variable (h : store.Held texts) (hstored : store.rows.lookup device = some stored)
  (hrepeats : ∀ column : Column, column.isObservedTime = true ∨ column = .lastSeenAt ∨
    observedValues texts report hasBattery now intervalDays column = none ∨
      observedValues texts report hasBattery now intervalDays column = some (stored.row column))
include h hstored hrepeats

/-- **Holding an observation that repeats a stored row** does to the view what writing it
through does. -/
theorem view_holding :
    (store.holding device (observedValues texts report hasBattery now intervalDays)).view =
        (store.view.write device (observedValues texts report hasBattery now intervalDays)).1 ∧
      stored.row.update (observedValues texts report hasBattery now intervalDays) =
        (store.view.write device (observedValues texts report hasBattery now intervalDays)).2 := by
  have hcovered : (store.merged device stored.row).update
      (observedValues texts report hasBattery now intervalDays) =
        stored.row.update (observedValues texts report hasBattery now intervalDays) := by
    apply Row.update_update_of_covers
    intro column hne
    obtain ⟨hobserved, stored', hstored', hfull⟩ := h.observed device column hne
    obtain rfl : stored = stored' := Option.some.inj (hstored.symm.trans hstored')
    apply observedValues_ne_none hobserved
    intro htime
    exact (full_iff_of_repeats hrepeats).mpr (hfull htime)
  have hrows := Table.view_eq_upsert (g := fun other stored => store.merged other stored.row) hstored
    fun other hother stored' => merged_holding_of_ne store
      (observedValues texts report hasBattery now intervalDays) stored'.row hother
  rw [merged_holding_self] at hrows
  rw [WriteThrough.write, lookup_view, hstored, Option.map_some, Option.getD_some, hcovered]
  constructor
  · show WriteThrough.mk (store.rows.view _) store.featureEnabled = _
    rw [hrows]
    rfl
  · rfl

theorem Held.holding {elapsed : ℤ} (helapsed : sinceLastSeen texts stored.row now = some elapsed)
    (hfresh : elapsed < lastSeenRefresh) :
    (store.holding device
      (observedValues texts report hasBattery now intervalDays)).Held texts where
  observed := by
    intro other column hne
    by_cases hother : other = device
    · have hsame : (store.holding device
          (observedValues texts report hasBattery now intervalDays)).unwritten other =
            observedValues texts report hasBattery now intervalDays := if_pos hother
      rw [hsame] at hne
      subst hother
      refine ⟨isObserved_of_observedValues hne, stored, hstored, fun htime => ?_⟩
      exact (full_iff_of_repeats hrepeats).mp (full_of_observedValues htime hne)
    · have hsame : (store.holding device
          (observedValues texts report hasBattery now intervalDays)).unwritten other =
            store.unwritten other := if_neg hother
      rw [hsame] at hne
      exact h.observed other column hne
  fresh := by
    intro other stored' hstored'
    by_cases hother : other = device
    · subst hother
      obtain rfl : stored = stored' := Option.some.inj (hstored.symm.trans hstored')
      right
      refine ⟨now, elapsed, ?_, helapsed, hfresh⟩
      rw [merged_holding_self]
      rfl
    · rw [Fresh, merged_holding_of_ne store _ stored'.row hother]
      exact h.fresh other stored' hstored'

end

/-- The store of a process that has just started on a database. -/
def opened (rows : Table String (Record Text)) (featureEnabled : Option Bool) :
    StateStore Text :=
  ⟨rows, fun _ => .empty, featureEnabled⟩

theorem held_opened (rows : Table String (Record Text)) (featureEnabled : Option Bool) :
    (opened rows featureEnabled).Held texts where
  observed := fun _ _ hne => absurd rfl hne
  fresh := fun _ _ _ => .inl rfl

/-! ### The last observation -/

/-- The time of a device's last observation, unless an update has since set the time itself. -/
def observationAfter (device : String) (last : Option DateTime) : StoreCall Text → Option DateTime
  | .recordObservation other _ _ now _ => if other = device then some now else last
  | .updateDeviceState other _ values =>
    if other = device ∧ (values .lastSeenAt).isSome = true then none else last
  | _ => last

def lastObservation (device : String) (calls : List (StoreCall Text)) : Option DateTime :=
  calls.foldl (observationAfter device) none

/-- The row of a device shows the time of its last observation. -/
def Shows (texts : TimeTexts Text) (store : WriteThrough Text) (device : String)
    (last : Option DateTime) : Prop :=
  ∀ now, last = some now → ∃ row, store.rows.lookup device = some row ∧
    row .lastSeenAt = some (texts.isoformat now)

section

variable (h : Shows texts through device last)
include h

theorem Shows.write (values : Values Text) (hvalues : values .lastSeenAt = none) (other : String) :
    Shows texts (through.write other values).1 device last := by
  intro now hnow
  obtain ⟨row, hrow, hseen⟩ := h now hnow
  by_cases hother : device = other
  · subst hother
    refine ⟨_, Table.lookup_upsert_self _ _ _, ?_⟩
    show (values .lastSeenAt).getD (((through.rows.lookup device).getD defaultRow) .lastSeenAt) = _
    rw [hvalues, hrow]
    exact hseen
  · exact ⟨row, (Table.lookup_upsert_of_ne _ _ hother).trans hrow, hseen⟩

theorem Shows.write_of_ne (values : Values Text)
    (hother : other ≠ device) : Shows texts (through.write other values).1 device last := by
  intro now hnow
  obtain ⟨row, hrow, hseen⟩ := h now hnow
  exact ⟨row, (Table.lookup_upsert_of_ne _ _ (Ne.symm hother)).trans hrow, hseen⟩

theorem Shows.call (c : StoreCall Text) :
    Shows texts (through.call texts c).1 device (observationAfter device last c) := by
  cases c with
  | updateDeviceState other now values =>
    rw [observationAfter]
    split_ifs with hset
    · exact fun _ hnow => by cases hnow
    · by_cases hother : other = device
      · apply h.write values _ other
        rw [not_and] at hset
        simpa using hset hother
      · exact h.write_of_ne values hother
  | recordObservation other report hasBattery now intervalDays =>
    rw [observationAfter]
    split_ifs with hother
    · intro now' hnow
      obtain rfl := Option.some.inj hnow
      subst hother
      exact ⟨_, Table.lookup_upsert_self _ _ _, rfl⟩
    · exact h.write_of_ne _ hother
  | getDeviceState other now | allDeviceStates | setFeatureEnabledState enabled
  | getFeatureEnabledState => exact h

theorem shows_afterCalls (calls : List (StoreCall Text)) :
    Shows texts (afterCalls (WriteThrough.call texts) through calls) device
      (calls.foldl (observationAfter device) last) := by
  induction calls generalizing through last with
  | nil => exact h
  | cons c calls ih => exact ih (h.call c)

end

/-! ### Each call -/

variable [DecidableEq Text]

variable (texts) in
/-- One call: the store after it and its answer. -/
def call (store : StateStore Text) : StoreCall Text → StateStore Text × StoreAnswer Text
  | .updateDeviceState device now values =>
    let (store, record) := store.updateDeviceState texts device now values
    (store, .state (some record.row))
  | .recordObservation device report hasBattery now intervalDays =>
    let (store, record) := store.recordObservation texts device report hasBattery now intervalDays
    (store, .state (some record.row))
  | .getDeviceState device now =>
    (store, .state ((store.getDeviceState texts device now).map Record.row))
  | .allDeviceStates =>
    (store, .states (store.allDeviceStates.map fun row => (row.1, row.2.row)))
  | .setFeatureEnabledState enabled =>
    let store := store.setFeatureEnabledState enabled
    (store, .feature store.featureEnabled)
  | .getFeatureEnabledState => (store, .feature store.featureEnabled)

variable (texts) in
theorem updateDeviceState_view (store : StateStore Text) (device : String) (now : DateTime)
    (values : Values Text) :
    (store.updateDeviceState texts device now values).1.view = (store.view.write device values).1 ∧
      (store.updateDeviceState texts device now values).2.row =
        (store.view.write device values).2 := by
  have hlookup := store.lookup_view device
  rw [WriteThrough.write, hlookup]
  rw [updateDeviceState]
  cases hstored : store.rows.lookup device with
  | none => exact ⟨store.view_written device _, rfl⟩
  | some stored =>
    rw [hstored, Option.map_some] at hlookup
    by_cases hagrees : (store.merged device stored.row).Agrees values
    · simp only [if_pos hagrees, Option.map_some, Option.getD_some,
        Row.update_of_agrees hagrees, Table.upsert_self hlookup, and_self]
    · simp only [if_neg hagrees]
      exact ⟨store.view_written device _, rfl⟩

theorem Held.updateDeviceState (h : store.Held texts) (device : String) (now : DateTime)
    (values : Values Text) : (store.updateDeviceState texts device now values).1.Held texts := by
  rw [StateStore.updateDeviceState]
  cases hstored : store.rows.lookup device with
  | none => exact h.written device _
  | some stored =>
    by_cases hagrees : (store.merged device stored.row).Agrees values
    · simp only [if_pos hagrees]
      exact h
    · simp only [if_neg hagrees]
      exact h.written device _

theorem not_observationDue {stored : Row Text} {values : Values Text}
    (h : ¬ observationDue texts stored values now = true) :
    (∀ column : Column, column.isObservedTime = true ∨ column = .lastSeenAt ∨
      values column = none ∨ values column = some (stored column)) ∧
    ∃ elapsed, sinceLastSeen texts stored now = some elapsed ∧ elapsed < lastSeenRefresh := by
  rw [observationDue] at h
  split_ifs at h with hsame
  · refine ⟨hsame, ?_⟩
    cases helapsed : sinceLastSeen texts stored now with
    | none => simp [helapsed] at h
    | some elapsed =>
      simp only [helapsed, decide_eq_true_eq] at h
      exact ⟨elapsed, rfl, Int.not_le.mp h⟩
  · exact absurd rfl h

theorem recordObservation_view (h : store.Held texts) (device : String)
    (report : ObservedReport) (hasBattery : Bool) (now : DateTime) (intervalDays : ℤ) :
    (store.recordObservation texts device report hasBattery now intervalDays).1.view =
        (store.view.write device (observedValues texts report hasBattery now intervalDays)).1 ∧
      (store.recordObservation texts device report hasBattery now intervalDays).2.row =
        (store.view.write device (observedValues texts report hasBattery now intervalDays)).2 ∧
      (store.recordObservation texts device report hasBattery now intervalDays).1.Held texts := by
  have hupdate := store.updateDeviceState_view texts device now
    (observedValues texts report hasBattery now intervalDays)
  have hheld := h.updateDeviceState device now
    (observedValues texts report hasBattery now intervalDays)
  rw [recordObservation]
  cases hstored : store.rows.lookup device with
  | none => exact ⟨hupdate.1, hupdate.2, hheld⟩
  | some stored =>
    by_cases hdue : observationDue texts stored.row
        (observedValues texts report hasBattery now intervalDays) now = true
    · simp only [if_pos hdue]
      exact ⟨hupdate.1, hupdate.2, hheld⟩
    · simp only [if_neg hdue]
      obtain ⟨hrepeats, elapsed, helapsed, hfresh⟩ := not_observationDue hdue
      obtain ⟨hview, hrow⟩ := view_holding h hstored hrepeats
      exact ⟨hview, hrow, h.holding hstored hrepeats helapsed hfresh⟩

/-- **Every call answers as the store that writes through**, does to the view what it does to
the other's table, and holds observations only as before. -/
theorem call_view (h : store.Held texts) (c : StoreCall Text) :
    (store.call texts c).1.view = (store.view.call texts c).1 ∧
      (store.call texts c).2 = (store.view.call texts c).2 ∧
      (store.call texts c).1.Held texts := by
  cases c with
  | updateDeviceState device now values =>
    obtain ⟨hview, hrow⟩ := store.updateDeviceState_view texts device now values
    exact ⟨hview, congrArg (fun row => StoreAnswer.state (some row)) hrow,
      h.updateDeviceState device now values⟩
  | recordObservation device report hasBattery now intervalDays =>
    obtain ⟨hview, hrow, hheld⟩ :=
      recordObservation_view h device report hasBattery now intervalDays
    exact ⟨hview, congrArg (fun row => StoreAnswer.state (some row)) hrow, hheld⟩
  | getDeviceState device now =>
    refine ⟨rfl, ?_, h⟩
    show StoreAnswer.state ((store.getDeviceState texts device now).map Record.row) =
      .state ((store.view.rows.lookup device).or (now.map fun _ => defaultRow))
    rw [lookup_view, getDeviceState]
    cases store.rows.lookup device with
    | none => cases now <;> rfl
    | some stored => rfl
  | allDeviceStates =>
    refine ⟨rfl, ?_, h⟩
    show StoreAnswer.states (store.allDeviceStates.map fun row => (row.1, row.2.row)) =
      .states (store.view.rows.rows.mergeSort fun row row' => decide (row.1 ≤ row'.1))
    rw [allDeviceStates, List.map_map]
    exact congrArg StoreAnswer.states (Table.mergeSort_view store.rows
      (fun device stored => store.merged device stored.row)
      fun device device' => decide (device ≤ device')).symm
  | setFeatureEnabledState enabled =>
    show (store.setFeatureEnabledState enabled).view = _ ∧ _ ∧
      (store.setFeatureEnabledState enabled).Held texts
    have hset : store.setFeatureEnabledState enabled =
        { store with featureEnabled := some enabled } := by
      rw [setFeatureEnabledState]
      split_ifs with hsame
      · rw [← hsame]
      · rfl
    refine ⟨by rw [hset]; rfl, ?_, ?_⟩
    · show StoreAnswer.feature (store.setFeatureEnabledState enabled).featureEnabled = _
      rw [hset]
      rfl
    · rw [hset]
      exact ⟨h.observed, h.fresh⟩
  | getFeatureEnabledState => exact ⟨rfl, rfl, h⟩

/-! ### Every run -/

/-- **A run of the lazily written store** answers as writing through does, and its view is the
other's table. -/
theorem answers_view (h : store.Held texts) (calls : List (StoreCall Text)) :
    answers (call texts) store calls = answers (WriteThrough.call texts) store.view calls ∧
      (afterCalls (call texts) store calls).view =
        afterCalls (WriteThrough.call texts) store.view calls ∧
      (afterCalls (call texts) store calls).Held texts := by
  induction calls generalizing store with
  | nil => exact ⟨rfl, rfl, h⟩
  | cons c calls ih =>
    obtain ⟨hview, hanswer, hheld⟩ := call_view h c
    obtain ⟨hanswers, hafter, hheld'⟩ := ih hheld
    rw [hview] at hanswers hafter
    refine ⟨?_, hafter, hheld'⟩
    rw [answers, answers, hanswer, hanswers]

/-- **The lazily written store is a store that writes through.**  From any database and over any
calls every answer is the one of the store that writes every observation straight to its table,
but for the time of the last write.  The stored time of a device's last sight is the one that
readers see or behind it by less than the refresh, and so it is less than the refresh behind
the device's last observation. -/
theorem lazily_written (rows : Table String (Record Text)) (featureEnabled : Option Bool)
    (calls : List (StoreCall Text)) :
    answers (call texts) (opened rows featureEnabled) calls =
        answers (WriteThrough.call texts)
          ⟨rows.view fun _ stored => stored.row, featureEnabled⟩ calls ∧
      (∀ device stored row,
        (afterCalls (call texts) (opened rows featureEnabled) calls).rows.lookup device =
          some stored →
        (afterCalls (WriteThrough.call texts)
          ⟨rows.view fun _ stored => stored.row, featureEnabled⟩ calls).rows.lookup device =
            some row →
        row .lastSeenAt = stored.row .lastSeenAt ∨
          ∃ now elapsed, row .lastSeenAt = some (texts.isoformat now) ∧
            sinceLastSeen texts stored.row now = some elapsed ∧ elapsed < lastSeenRefresh) ∧
      ∀ device now, lastObservation device calls = some now → ∃ stored elapsed,
        (afterCalls (call texts) (opened rows featureEnabled) calls).rows.lookup device =
          some stored ∧
        sinceLastSeen texts stored.row now = some elapsed ∧ elapsed < lastSeenRefresh := by
  have hempty : (opened rows featureEnabled).Held texts := held_opened rows featureEnabled
  obtain ⟨hanswers, hafter, hheld⟩ := answers_view hempty calls
  have hopened : (opened rows featureEnabled).view =
      ⟨rows.view fun _ stored => stored.row, featureEnabled⟩ := rfl
  rw [hopened] at hanswers hafter
  refine ⟨hanswers, ?_, ?_⟩
  · intro device stored row hstored hrow
    rw [← hafter, lookup_view, hstored, Option.map_some, Option.some.injEq] at hrow
    subst hrow
    exact hheld.fresh device stored hstored
  · intro device now hnow
    have hshows : Shows texts ⟨rows.view fun _ stored => stored.row, featureEnabled⟩ device none :=
      nofun
    obtain ⟨row, hrow, hseen⟩ := shows_afterCalls hshows calls now hnow
    rw [← hafter, lookup_view, Option.map_eq_some_iff] at hrow
    obtain ⟨stored, hstored, rfl⟩ := hrow
    refine ⟨stored, ?_⟩
    rcases hheld.fresh device stored hstored with hsame | ⟨now', elapsed, htext, helapsed, hlt⟩
    · refine ⟨0, hstored, ?_, by decide⟩
      rw [sinceLastSeen, ← hsame, hseen, Option.bind_some, texts.fromisoformat_isoformat,
        Option.bind_some, DateTime.sub?_self]
    · obtain rfl : now' = now :=
        texts.isoformat_injective (Option.some.inj (htext.symm.trans hseen))
      exact ⟨elapsed, hstored, helapsed, hlt⟩

/-- Two equal reports five seconds apart: the second is seen and not stored. -/
example :
    let report : ObservedReport := ⟨80, 90, 0, 2, 0, some 2, 0, none⟩
    let calls : List (StoreCall DateTime) :=
      [.recordObservation "WR1" report true ⟨0, some 0⟩ 28,
        .recordObservation "WR1" report true ⟨5000000, some 0⟩ 28]
    let store := afterCalls (call TimeTexts.plain) (opened .empty none) calls
    (store.rows.lookup "WR1").map (·.row .lastSeenAt) = some (some ⟨0, some 0⟩) ∧
      (store.view.rows.lookup "WR1").map (· .lastSeenAt) = some (some ⟨5000000, some 0⟩) := by
  decide

end StateStore

end SolarFlowEms
