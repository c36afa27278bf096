import SolarFlowEms.FullChargeAssist
import SolarFlowEms.Library.Run

/-!
# The full-charge assist is never forgotten

A recorded start leaves the device owed a restore of its configured maximum.  The row shows one of
its two flags until that maximum was written, or until a restore found none to write: the report
shows it already, none is configured, or the transport takes no properties.  It does so over every
run of cycles, wherever they stop and whatever is restarted.

An `acMode` 1 leaves the device owed the way back from AC input.  This flag is written after the
device: a cycle that stops between the two writes leaves it unset.  Once it is recorded it stays,
until a report or the record of the charge shows the restore done, or the restore is left to the
device.

* `Sound.note`, `keeps_process`, `keeps_reconcileAcMode` - every step keeps what is owed shown
* `passes_reconcileAcMode` - within a cycle one step alone leaves an `acMode` 1 unrecorded
* `full_charge_assist_never_forgotten` - what every run of cycles shows of what is owed
-/

namespace SolarFlowEms

open Interrupted Models PowerDirection Run AssistEvent Steps StateStore AssistVisit AssistNote

variable {Text : Type}

/-! ### What is owed, by what happened -/

/-- Something set it, and nothing has cleared it since; the latest event stands first. -/
def owedSince {Event : Type} (sets clears : Event → Bool) : List Event → Bool
  | [] => false
  | event :: log => sets event || !clears event && owedSince sets clears log

namespace AssistEvent

def startsAssist (device : String) : AssistEvent Text → Bool
  | .noted other (.started _ _) => other = device
  | _ => false

/-- The configured maximum was written, and the write succeeded. -/
def writesMaxSoc (device : String) : AssistEvent Text → Bool
  | .socLimits dev _ _ reconciled =>
    dev.name = device &&
      reconciled = ⟨some [("socSet", safeSocLimit dev.maxSoc * 10)], true⟩
  | _ => false

/-- A restore found nothing to write: the transport takes no properties, no maximum is
configured, or the report shows it already. -/
def findsMaxSoc (device : String) : AssistEvent Text → Bool
  | .socLimits dev report desiredMaxSoc _ =>
    dev.name = device && desiredMaxSoc = dev.maxSoc &&
      (!dev.supportsStateReconciliation || safeSocLimit dev.maxSoc = 0 ||
        report.maxSocReported && wholePercent report.maxSoc = safeSocLimit dev.maxSoc)
  | _ => false

def restoresMaxSoc (device : String) (event : AssistEvent Text) : Bool :=
  event.writesMaxSoc device || event.findsMaxSoc device

/-- An `acMode` 1 of the assist may have gone out to the device. -/
def sendsAcInput (device : String) : AssistEvent Text → Bool
  | .acMode visit reconciled =>
    visit.dev.name = device && visit.intent.reason = fullChargeAssistReason &&
      reconciled = ⟨some [("acMode", acModeInput)], true⟩
  | _ => false

def owesAcMode (device : String) : AssistEvent Text → Bool
  | .noted other (.acInputRequested _ true) => other = device
  | _ => false

/-- The assist's claim is out of AC input, and the report shows `acMode` 2, or it shows none and the
charge on record has ended or is left to the device; a transport without state reconciliation has
nothing to confirm. -/
def restoresAcMode (device : String) : AssistEvent Text → Bool
  | .acMode visit _ =>
    visit.dev.name = device && visit.intent.desiredAcMode = some acModeOutput &&
      (visit.intent.reason = fullChargeAssistReason ||
        visit.intent.reason = fullChargeAssistRestoreReason) &&
      (!visit.dev.supportsStateReconciliation ||
        visit.report.acModeKnown && visit.report.acMode.truncate = acModeOutput ||
        !visit.report.acModeKnown && visit.observedCharge.any fun charge =>
          !charge.isOpen || foundExitAttemptsMax ≤ charge.exits && charge.exitWindowPassed)
  | _ => false

end AssistEvent

/-! ### Rows -/

namespace AssistWorld

variable {texts : TimeTexts Text} {w : AssistWorld Text} {device other : String}

theorem row_eq_view (w : AssistWorld Text) (device : String) :
    w.row device = (w.store.view.rows.lookup device).getD defaultRow := by
  rw [lookup_view, row]
  cases w.store.rows.lookup device with
  | none | some stored => rfl

/-- **Writing values to a device's row** leaves every other row. -/
theorem row_of_view_write {store : StateStore Text} {values : Values Text}
    (h : store.view = (w.store.view.write other values).1) (log : List (AssistEvent Text)) :
    (AssistWorld.mk store log).row device =
      if device = other then (w.row device).update values else w.row device := by
  have hview : (AssistWorld.mk store log).store.view = (w.store.view.write other values).1 := h
  rw [row_eq_view, row_eq_view, hview]
  by_cases hsame : device = other
  · subst hsame
    rw [if_pos rfl]
    show (((w.store.view.rows.upsert device _).lookup device).getD defaultRow) = _
    rw [Tables.Table.lookup_upsert_self]
    rfl
  · rw [if_neg hsame]
    show (((w.store.view.rows.upsert other _).lookup device).getD defaultRow) = _
    rw [Tables.Table.lookup_upsert_of_ne _ _ hsame]

variable [DecidableEq Text]

theorem row_note (w : AssistWorld Text) (other : String) (now : DateTime)
    (note : AssistNote Text) :
    (w.note texts other now note).row device =
      if device = other then (w.row device).update note.values else w.row device :=
  row_of_view_write (w.store.updateDeviceState_view texts other now note.values).1 _

theorem row_recordObservation (hheld : w.store.Held texts) (v : AssistVisit) {column : Column}
    (hcolumn : column.isObserved = false) :
    (v.recordObservation texts w).row device column = w.row device column := by
  have hview := (recordObservation_view hheld v.dev.name v.report.observed v.hasBattery
    v.now v.config.intervalDays).1
  show (AssistWorld.mk _ w.log).row device column = w.row device column
  rw [row_of_view_write hview]
  split
  · show (observedValues texts v.report.observed v.hasBattery v.now v.config.intervalDays
      column).getD (w.row device column) = w.row device column
    have hnone : observedValues texts v.report.observed v.hasBattery v.now v.config.intervalDays
        column = none := by
      by_contra hne
      exact absurd (isObserved_of_observedValues hne) (by simp [hcolumn])
    rw [hnone, Option.getD_none]
  · rfl

omit [DecidableEq Text] in
theorem row_restarted (hheld : w.store.Held texts) {column : Column}
    (hcolumn : column.isObserved = false) :
    w.restarted.row device column = w.row device column := by
  have hnone : w.store.unwritten device column = none := by
    by_contra hne
    exact absurd (hheld.observed device column hne).1 (by simp [hcolumn])
  rw [row_eq_view, row_eq_view, lookup_view, lookup_view]
  show (((w.store.rows.lookup device).map fun stored => stored.row.update .empty).getD
    defaultRow) column = _
  cases w.store.rows.lookup device with
  | none => rfl
  | some stored =>
    show stored.row column = (w.store.unwritten device column).getD (stored.row column)
    rw [hnone, Option.getD_none]

end AssistWorld

/-! ### Flags and what they stand for -/

/-- While something is owed, the row of the device shows it. -/
def Shown (sets clears : String → AssistEvent Text → Bool) (flag : Row Text → Prop)
    (w : AssistWorld Text) : Prop :=
  ∀ device, owedSince (sets device) (clears device) w.log = true → flag (w.row device)

/-- A flag reads no column that an observation has a value for. -/
def OfOwnColumns (flag : Row Text → Prop) : Prop :=
  ∀ row row' : Row Text, (∀ column, column.isObserved = false → row' column = row column) →
    flag row → flag row'

namespace Shown

variable {texts : TimeTexts Text} {w w' : AssistWorld Text}
  {sets clears : String → AssistEvent Text → Bool} {flag : Row Text → Prop}

theorem of_rows (h : Shown sets clears flag w) (hflag : OfOwnColumns flag) (hlog : w'.log = w.log)
    (hrows : ∀ device column, column.isObserved = false →
      w'.row device column = w.row device column) : Shown sets clears flag w' := by
  intro device howed
  rw [hlog] at howed
  exact hflag _ _ (hrows device) (h device howed)

theorem did (h : Shown sets clears flag w) {event : AssistEvent Text}
    (hsets : ∀ device, sets device event = false) : Shown sets clears flag (w.did event) := by
  intro device howed
  have hlog : (sets device event || !clears device event &&
      owedSince (sets device) (clears device) w.log) = true := howed
  rw [hsets, Bool.false_or, Bool.and_eq_true] at hlog
  exact h device hlog.2

variable [DecidableEq Text]

/-- **A note keeps what is owed shown** where its own device's row shows it. -/
theorem note {other : String} {now : DateTime} {note : AssistNote Text}
    (h : ∀ device, device ≠ other → owedSince (sets device) (clears device) w.log = true →
      flag (w.row device))
    (hsets : ∀ device, device ≠ other → sets device (.noted other note) = false)
    (hself : owedSince (sets other) (clears other) (.noted other note :: w.log) = true →
      flag ((w.row other).update note.values)) :
    Shown sets clears flag (w.note texts other now note) := by
  intro device howed
  rw [AssistWorld.row_note]
  by_cases hsame : device = other
  · subst hsame
    rw [if_pos rfl]
    exact hself howed
  · rw [if_neg hsame]
    have hlog : (sets device (.noted other note) || !clears device (.noted other note) &&
        owedSince (sets device) (clears device) w.log) = true := howed
    rw [hsets device hsame, Bool.false_or, Bool.and_eq_true] at hlog
    exact h device hsame hlog.2

end Shown

def AssistShown (row : Row Text) : Prop :=
  row .fullChargeAssistActive = true ∨ row .restorePending = true

/-- The row shows that the device is owed its way back from AC input. -/
def AcModeShown (row : Row Text) : Prop := row .acModeRestorePending = true

theorem ofOwnColumns_assistShown : OfOwnColumns (@AssistShown Text) := by
  intro row row' hsame hrow
  rw [AssistShown, hsame .fullChargeAssistActive rfl, hsame .restorePending rfl]
  exact hrow

theorem ofOwnColumns_acModeShown : OfOwnColumns (@AcModeShown Text) := by
  intro row row' hsame hrow
  rw [AcModeShown, hsame .acModeRestorePending rfl]
  exact hrow

/-! ### What a restore leaves -/

/-- **A restore that returns well** wrote the configured maximum, or found none to write. -/
theorem restoresMaxSoc_of_ok {v : AssistVisit} (hbattery : v.hasBattery = true)
    {answer : PropertyAnswer}
    (hok : (applySocLimits v.dev v.writesAllowed v.report answer (some minSocUnmanaged)
      (some v.dev.maxSoc)).ok = true) :
    (socLimits v.dev v.report v.dev.maxSoc
      (applySocLimits v.dev v.writesAllowed v.report answer (some minSocUnmanaged)
        (some v.dev.maxSoc)) : AssistEvent Text).restoresMaxSoc v.dev.name = true := by
  have hpresent : ¬ v.report.batteryPresence = .absent := by
    intro habsent
    simp [hasBattery, habsent] at hbattery
  rw [restoresMaxSoc, writesMaxSoc, findsMaxSoc]
  by_cases hsupported : v.dev.supportsStateReconciliation = true
  · have hcall : applySocLimits v.dev v.writesAllowed v.report answer (some minSocUnmanaged)
        (some v.dev.maxSoc) =
          reconcileSocLimits v.writesAllowed v.report answer 0 (safeSocLimit v.dev.maxSoc) := by
      rw [applySocLimits, minSocToWrite_unmanaged, maxSocToWrite_configured, hsupported,
        if_neg (by decide), if_neg hpresent]
    rw [hcall] at hok ⊢
    rcases reconcileSocLimits_ok hok with hunmanaged | hshown | hwritten
    · have hzero : safeSocLimit v.dev.maxSoc = 0 :=
        le_antisymm hunmanaged (safeSocLimit_nonneg v.dev.maxSoc)
      simp [hzero]
    · simp [hshown.1, hshown.2]
    · simp [hwritten]
  · simp [hsupported]

/-! ### What the notes keep -/

/-- The store holds observations only, and what is recorded as owed is shown. -/
structure Sound (texts : TimeTexts Text) (w : AssistWorld Text) : Prop where
  held : w.store.Held texts
  maxSoc : Shown startsAssist restoresMaxSoc AssistShown w
  acMode : Shown owesAcMode restoresAcMode AcModeShown w

/-- Besides, every `acMode` 1 that may have gone out is recorded. -/
structure Recorded (texts : TimeTexts Text) (w : AssistWorld Text) : Prop extends Sound texts w where
  acInput : Shown sendsAcInput restoresAcMode AcModeShown w

/-- When the assist writes a note down: it keeps the flag of `acMode` when it aborts, seeds a row
without anything pending, and takes a restore as done after one, of the maximum as of `acMode`. -/
def AssistNote.Due (w : AssistWorld Text) (device : String) : AssistNote Text → Prop
  | .aborted acModeRestorePending => acModeRestorePending = w.row device .acModeRestorePending
  | .seeded _ _ => fullChargeHasPendingState (w.row device) = false
  | .socRestored =>
    owedSince (startsAssist device) (restoresMaxSoc device) w.log = false
  | .acModeRestored =>
    owedSince (owesAcMode device) (restoresAcMode device) w.log = false ∧
      owedSince (sendsAcInput device) (restoresAcMode device) w.log = false
  | _ => True

theorem not_shown_of_idle {row : Row Text}
    (h : fullChargeHasPendingState row = false) :
    ¬ AssistShown row ∧ ¬ AcModeShown row := by
  simp only [fullChargeHasPendingState, Bool.or_eq_false_iff] at h
  obtain ⟨⟨⟨⟨hactive, hrestore⟩, hacMode⟩, -⟩, -⟩ := h
  constructor
  · intro hshown
    rcases hshown with hshown | hshown
    · exact absurd (hactive.symm.trans hshown) nofun
    · exact absurd (hrestore.symm.trans hshown) nofun
  · intro hshown
    exact absurd (hacMode.symm.trans hshown) nofun

variable {texts : TimeTexts Text} {w : AssistWorld Text} {device : String}
  {entry : AssistNote Text}

theorem assistShown_update (hdue : entry.Due w device)
    (h : Shown startsAssist restoresMaxSoc AssistShown w)
    (howed : owedSince (startsAssist device) (restoresMaxSoc device)
      (.noted device entry :: w.log) = true) :
    AssistShown ((w.row device).update entry.values) := by
  cases entry with
  | completed fullAt dueAt | aborted acModeRestorePending => exact .inr rfl
  | started startedAt acChargeMode => exact .inl rfl
  | seeded fullAt dueAt => exact absurd (h device howed) (not_shown_of_idle hdue).1
  | socRestored => exact absurd (howed.symm.trans hdue) nofun
  | maxSocRequested | acInputRequested settled owed | acModeRestored => exact h device howed

/-- The flag of `acMode` after a note that leaves it or sets it. -/
theorem acModeShown_update (hdue : entry.Due w device) {sets : AssistEvent Text → Bool}
    (hsets : sets (.noted device entry) = true → entry.values .acModeRestorePending = some true)
    (hclears : entry = .acModeRestored →
      owedSince sets (restoresAcMode device) w.log = false)
    (h : owedSince sets (restoresAcMode device) w.log = true → AcModeShown (w.row device))
    (howed : owedSince sets (restoresAcMode device) (.noted device entry :: w.log) =
      true) : AcModeShown ((w.row device).update entry.values) := by
  have hcases : (sets (.noted device entry) || !restoresAcMode device (.noted device entry) &&
      owedSince sets (restoresAcMode device) w.log) = true := howed
  rcases Bool.or_eq_true _ _ ▸ hcases with hset | hkept
  · show (entry.values .acModeRestorePending).getD (w.row device .acModeRestorePending) = true
    rw [hsets hset]
    rfl
  · rw [Bool.and_eq_true] at hkept
    obtain ⟨-, hbefore⟩ := hkept
    have hshown := h hbefore
    cases entry with
    | aborted acModeRestorePending =>
      obtain rfl : acModeRestorePending = w.row device .acModeRestorePending := hdue
      exact hshown
    | seeded fullAt dueAt => exact absurd hshown (not_shown_of_idle hdue).2
    | acInputRequested settled owed =>
      cases owed with
      | false => exact hshown
      | true => exact (rfl : true = true)
    | acModeRestored => exact absurd (hbefore.symm.trans (hclears rfl)) nofun
    | completed fullAt dueAt | started startedAt acChargeMode | socRestored
    | maxSocRequested => exact hshown

theorem due_socRestored {v : AssistVisit} (hbattery : v.hasBattery = true) (w : AssistWorld Text)
    {answer : PropertyAnswer}
    (hok : (applySocLimits v.dev v.writesAllowed v.report answer (some minSocUnmanaged)
      (some v.dev.maxSoc)).ok = true) :
    socRestored.Due (w.did (.socLimits v.dev v.report v.dev.maxSoc
      (applySocLimits v.dev v.writesAllowed v.report answer (some minSocUnmanaged)
        (some v.dev.maxSoc)))) v.dev.name := by
  show (false || !_ && _) = false
  rw [restoresMaxSoc_of_ok hbattery hok]
  rfl

theorem due_maxSocRequested (w : AssistWorld Text) (device : String) :
    maxSocRequested.Due w device := trivial

theorem due_started (w : AssistWorld Text) (device : String) (startedAt : Text)
    (acChargeMode : Bool) : (started startedAt acChargeMode).Due w device := trivial

theorem Sound.acModeEvent (h : Sound texts w) (visit : DeviceVisit) (reconciled : Reconciled) :
    Sound texts (w.did (.acMode visit reconciled)) :=
  ⟨h.held, h.maxSoc.did fun _ => rfl, h.acMode.did fun _ => rfl⟩

variable [DecidableEq Text] {now : DateTime}

/-- **A note that is due keeps what is owed shown.** -/
theorem Sound.note (h : Sound texts w) (hdue : entry.Due w device) :
    Sound texts (w.note texts device now entry) where
  held := h.held.updateDeviceState device now entry.values
  maxSoc := by
    refine Shown.note (fun other _ => h.maxSoc other) ?_ ?_
    · intro other hother
      cases entry <;> simp [startsAssist, Ne.symm hother]
    · exact assistShown_update hdue h.maxSoc
  acMode := by
    refine Shown.note (fun other _ => h.acMode other) ?_ ?_
    · intro other hother
      cases entry with
      | acInputRequested settled owed =>
        cases owed <;> simp [owesAcMode, Ne.symm hother]
      | _ => rfl
    · apply acModeShown_update hdue _ _ (h.acMode device)
      · intro hset
        cases entry with
        | acInputRequested settled owed =>
          cases owed with
          | false => cases hset
          | true => rfl
        | _ => cases hset
      · rintro rfl
        exact hdue.1

theorem Recorded.note (h : Recorded texts w) (hdue : entry.Due w device) :
    Recorded texts (w.note texts device now entry) where
  toSound := h.toSound.note hdue
  acInput := by
    refine Shown.note (fun other _ => h.acInput other) ?_ ?_
    · intro other _
      rfl
    · refine acModeShown_update hdue nofun ?_ (h.acInput device)
      rintro rfl
      exact hdue.2

/-- The last thing that happened is an `acMode` 1 that may have gone out. -/
def Unrecorded {Text : Type} (w : AssistWorld Text) : Prop :=
  ∃ device event log, w.log = event :: log ∧ event.sendsAcInput device = true

/-! ### One visit -/

/-- An invariant that every single step of a visit keeps. -/
structure Closed (texts : TimeTexts Text) (Inv : AssistWorld Text → Prop) : Prop where
  observes : ∀ w (v : AssistVisit), Inv w → Inv (v.recordObservation texts w)
  notes : ∀ w device now (entry : AssistNote Text), entry.Due w device → Inv w →
    Inv (w.note texts device now entry)
  asks : ∀ w dev report desiredMaxSoc reconciled, Inv w →
    Inv (w.did (.socLimits dev report desiredMaxSoc reconciled))

theorem closed_sound (texts : TimeTexts Text) : Closed texts (Sound texts) where
  observes := by
    intro w v h
    have hheld := (recordObservation_view h.held v.dev.name v.report.observed
      v.hasBattery v.now v.config.intervalDays).2.2
    have hrows : ∀ device column, column.isObserved = false →
        (v.recordObservation texts w).row device column = w.row device column :=
      fun device column => AssistWorld.row_recordObservation h.held v
    exact ⟨hheld, h.maxSoc.of_rows ofOwnColumns_assistShown rfl hrows,
      h.acMode.of_rows ofOwnColumns_acModeShown rfl hrows⟩
  notes := fun w device now entry hdue h => h.note hdue
  asks := fun w dev report desiredMaxSoc reconciled h =>
    ⟨h.held, h.maxSoc.did fun _ => rfl, h.acMode.did fun _ => rfl⟩

theorem closed_recorded (texts : TimeTexts Text) : Closed texts (Recorded texts) where
  observes := by
    intro w v h
    have hrows : ∀ device column, column.isObserved = false →
        (v.recordObservation texts w).row device column = w.row device column :=
      fun device column => AssistWorld.row_recordObservation h.held v
    exact ⟨(closed_sound texts).observes w v h.toSound,
      h.acInput.of_rows ofOwnColumns_acModeShown rfl hrows⟩
  notes := fun w device now entry hdue h => h.note hdue
  asks := fun w dev report desiredMaxSoc reconciled h =>
    ⟨(closed_sound texts).asks w dev report desiredMaxSoc reconciled h.toSound,
      h.acInput.did fun _ => rfl⟩

namespace AssistVisit

variable {Inv : AssistWorld Text → Prop} {v : AssistVisit}

section

variable (hInv : Closed texts Inv)
include hInv

theorem keeps_requestMaxSoc {desiredMaxSoc : ℤ} {answer : PropertyAnswer} {entry : AssistNote Text}
    (hdue : ∀ w : AssistWorld Text,
      (applySocLimits v.dev v.writesAllowed v.report answer (some minSocUnmanaged)
        (some desiredMaxSoc)).ok = true →
      entry.Due (w.did (.socLimits v.dev v.report desiredMaxSoc
        (applySocLimits v.dev v.writesAllowed v.report answer (some minSocUnmanaged)
          (some desiredMaxSoc)))) v.dev.name) :
    Steps.Keeps Inv (v.requestMaxSoc texts desiredMaxSoc answer entry) := by
  intro w hw w' hw'
  rw [requestMaxSoc] at hw'
  have hasked := hInv.asks w v.dev v.report desiredMaxSoc
    (applySocLimits v.dev v.writesAllowed v.report answer (some minSocUnmanaged)
      (some desiredMaxSoc)) hw
  split at hw'
  · rename_i hok
    rcases List.mem_cons.mp hw' with rfl | hnoted
    · exact hasked
    · obtain rfl := List.mem_singleton.mp hnoted
      exact hInv.notes _ _ _ _ (hdue w hok) hasked
  · obtain rfl := List.mem_singleton.mp hw'
    exact hasked

theorem keeps_restore (hbattery : v.hasBattery = true) :
    Steps.Keeps Inv (v.restore texts) := by
  intro w hw w' hw'
  rw [restore] at hw'
  split at hw'
  · exact keeps_requestMaxSoc hInv (fun w hok => due_socRestored hbattery w hok) w hw w' hw'
  · cases hw'

theorem keeps_start : Steps.Keeps Inv (v.start texts) := by
  have hsteps : Steps.Keeps Inv ((Steps.once fun w => w.note texts v.dev.name v.now
      (.started (v.timestamp texts) v.config.enableAcChargeMode)).andThen
        (v.requestMaxSoc texts 100 v.startAnswer .maxSocRequested)) :=
    (keeps_once fun w hw => hInv.notes w _ _ _ (due_started w _ _ _) hw).andThen
      (keeps_requestMaxSoc hInv fun _ _ => due_maxSocRequested _ _)
  intro w hw w' hw'
  rw [start] at hw'
  split at hw'
  · exact hsteps w hw w' hw'
  · cases hw'

theorem keeps_advance (hbattery : v.hasBattery = true) :
    Steps.Keeps Inv (v.advance texts) := by
  intro w hw w' hw'
  rw [advance] at hw'
  split at hw'
  · exact keeps_requestMaxSoc hInv (fun _ _ => due_maxSocRequested _ _) w hw w' hw'
  · exact (keeps_restore hInv hbattery).andThen (keeps_start hInv) w hw w' hw'

theorem keeps_seedOrAdvance (hbattery : v.hasBattery = true) :
    Steps.Keeps Inv (v.seedOrAdvance texts) := by
  intro w hw w' hw'
  rw [seedOrAdvance] at hw'
  split at hw'
  · rename_i hseeds
    obtain rfl := List.mem_singleton.mp hw'
    have hidle : fullChargeHasPendingState (w.row v.dev.name) = false := by
      simp only [seeds, Bool.and_eq_true, Bool.not_eq_true'] at hseeds
      exact hseeds.1.2
    exact hInv.notes w _ _ _ hidle hw
  · exact keeps_advance hInv hbattery w hw w' hw'

theorem keeps_complete : Steps.Keeps Inv (v.complete texts) := by
  intro w hw w' hw'
  rw [complete] at hw'
  split at hw'
  · obtain rfl := List.mem_singleton.mp hw'
    exact hInv.notes w _ _ _ trivial hw
  · cases hw'

theorem keeps_abortDisabled :
    Steps.Keeps Inv (v.abortDisabled texts) := by
  intro w hw w' hw'
  rw [abortDisabled] at hw'
  split at hw'
  · obtain rfl := List.mem_singleton.mp hw'
    have hdue : (aborted (w.row v.dev.name .acModeRestorePending)).Due w v.dev.name :=
      rfl
    exact hInv.notes w _ _ _ hdue hw
  · cases hw'

theorem keeps_process (v : AssistVisit) :
    Steps.Keeps Inv (v.processBatteryFullChargeAssist texts) := by
  refine (keeps_once fun w hw => hInv.observes w v hw).andThen ?_
  intro w hw w' hw'
  split at hw'
  · cases hw'
  · rename_i hbattery
    have hbattery : v.hasBattery = true := by simpa using hbattery
    exact ((keeps_complete hInv).andThen ((keeps_abortDisabled hInv).andThen
      (keeps_seedOrAdvance hInv hbattery))) w hw w' hw'

theorem updateAcPending_of_closed {writeOk : Bool}
    {w : AssistWorld Text} (hw : Inv w) : Inv (v.updateAcPending texts writeOk w) := by
  rw [updateAcPending]
  split
  · exact hw
  · dsimp only
    split
    · exact hInv.notes w _ _ _ trivial hw
    · exact hw

end

section

variable (hdesired : v.intent.desiredAcMode = some acModeOutput)
include hdesired

omit [DecidableEq Text] in
/-- A restore that the assist takes as settled is one that its look at the device shows so. -/
theorem restoresAcMode_of_settled (hreason : v.intent.reason = fullChargeAssistReason ∨
      v.intent.reason = fullChargeAssistRestoreReason)
    (hsettled : v.acModeRestoreSettled = true) (reconciled : Reconciled) :
    (acMode v.toDeviceVisit reconciled : AssistEvent Text).restoresAcMode v.dev.name =
      true := by
  have hshown : (!v.dev.supportsStateReconciliation ||
      v.report.acModeKnown && v.report.acMode.truncate = acModeOutput ||
      !v.report.acModeKnown && v.observedCharge.any fun charge =>
        !charge.isOpen || foundExitAttemptsMax ≤ charge.exits && charge.exitWindowPassed) = true := by
    rw [acModeRestoreSettled] at hsettled
    split at hsettled
    · rename_i hunsupported
      simp [hunsupported]
    · split at hsettled
      · rename_i hknown
        simp [hknown, of_decide_eq_true hsettled]
      · rename_i hunknown
        cases hcharge : v.observedCharge with
        | none => simp [hcharge] at hsettled
        | some charge =>
          rw [hcharge] at hsettled
          simp [hunknown, Option.any, hsettled]
  simp [restoresAcMode, hdesired, hreason, hshown]

omit [DecidableEq Text] in
/-- A look that shows the restore settled leaves nothing owed, whatever was written with it. -/
theorem due_acModeRestored (hrestored : (acMode v.toDeviceVisit v.reconciledAcMode :
      AssistEvent Text).restoresAcMode v.dev.name = true) (w : AssistWorld Text) :
    acModeRestored.Due (w.did (.acMode v.toDeviceVisit v.reconciledAcMode))
      v.dev.name := by
  have hsends : (acMode v.toDeviceVisit v.reconciledAcMode :
      AssistEvent Text).sendsAcInput v.dev.name = false := by
    rw [sendsAcInput, Bool.and_eq_false_iff]
    refine .inr (decide_eq_false fun hsent => ?_)
    have hinput := desiredAcMode_of_handed (congrArg Reconciled.handed hsent)
    exact absurd (hdesired.symm.trans hinput) (by decide)
  constructor
  · show (false || !_ && _) = false
    rw [hrestored]
    rfl
  · show (sendsAcInput v.dev.name _ || !_ && _) = false
    rw [hsends, hrestored]
    rfl

theorem due_updateAcPending
    {w : AssistWorld Text} (hdue : acModeRestored.Due w v.dev.name) (writeOk : Bool) :
    acModeRestored.Due (v.updateAcPending texts writeOk w) v.dev.name := by
  have howed : (v.intent.desiredAcMode = some acModeInput) = False := by
    rw [hdesired]
    decide
  rw [updateAcPending]
  split
  · exact hdue
  · simp only [howed, decide_false, Bool.false_and, Bool.or_false]
    split
    · exact hdue
    · exact hdue

end

/-- **The restore is settled by what the look at the device shows**; this keeps what every single
step keeps. -/
theorem confirmAcRestore_of_closed (hInv : Closed texts Inv) (w : AssistWorld Text) {writeOk : Bool}
    (hw : Inv (v.updateAcPending texts writeOk
      (w.did (.acMode v.toDeviceVisit v.reconciledAcMode)))) :
    ∀ w' ∈ v.confirmAcRestore texts (v.updateAcPending texts writeOk
      (w.did (.acMode v.toDeviceVisit v.reconciledAcMode))), Inv w' := by
  intro w' hw'
  rw [confirmAcRestore] at hw'
  split at hw'
  · rename_i hconfirmed
    simp only [Bool.and_eq_true, Bool.or_eq_true, decide_eq_true_eq] at hconfirmed
    obtain ⟨⟨⟨hdesired, hreason⟩, -⟩, hsettled⟩ := hconfirmed
    obtain rfl := List.mem_singleton.mp hw'
    have hdue : acModeRestored.Due (v.updateAcPending texts writeOk
        (w.did (.acMode v.toDeviceVisit v.reconciledAcMode))) v.dev.name :=
      due_updateAcPending hdesired (due_acModeRestored hdesired
        (restoresAcMode_of_settled hdesired hreason hsettled _) w) writeOk
    exact hInv.notes _ _ _ _ hdue hw
  · cases hw'

/-- Reconciling `acMode` keeps what is recorded as owed shown. -/
theorem keeps_reconcileAcMode (v : AssistVisit) :
    Steps.Keeps (Sound texts) (v.reconcileAcMode texts) := by
  intro w hw w' hw'
  have hlooked := Sound.acModeEvent hw v.toDeviceVisit v.reconciledAcMode
  have hpending : Sound texts (v.updateAcPending texts v.reconciledAcMode.ok
      (w.did (.acMode v.toDeviceVisit v.reconciledAcMode))) :=
    updateAcPending_of_closed (closed_sound texts) hlooked
  rcases List.mem_cons.mp hw' with rfl | hw'
  · exact hlooked
  · rcases List.mem_cons.mp hw' with rfl | hw'
    · exact hpending
    · exact confirmAcRestore_of_closed (closed_sound texts) w hpending w' hw'

/-- After an `acMode` 1 that may have gone out, the next step records the way back. -/
theorem recorded_updateAcPending {w : AssistWorld Text} (hsound : Sound texts w)
    (hother : ∀ device, device ≠ v.dev.name →
      owedSince (sendsAcInput device) (restoresAcMode device) w.log = true →
        AcModeShown (w.row device))
    (hreason : v.intent.reason = fullChargeAssistReason)
    (hsent : v.reconciledAcMode = ⟨some [("acMode", acModeInput)], true⟩) :
    Recorded texts (v.updateAcPending texts v.reconciledAcMode.ok w) := by
  have hdesired : v.intent.desiredAcMode = some acModeInput := by
    apply desiredAcMode_of_handed (congrArg Reconciled.handed hsent)
  have hsupported : v.dev.supportsStateReconciliation = true :=
    (reconcileAcModeIntent_gated (show v.reconciledAcMode.handed ≠ none by
      rw [hsent]
      exact nofun)).1
  refine ⟨updateAcPending_of_closed (closed_sound texts) hsound, ?_⟩
  rw [hsent]
  simp only [updateAcPending, hreason, hdesired, hsupported, Bool.not_true, ne_eq, not_true,
    decide_false, Bool.or_false, decide_true, Bool.true_and, Bool.false_eq_true, if_false]
  split
  · refine Shown.note hother (fun _ _ => rfl) fun _ => ?_
    show ((if (!w.row v.dev.name .acModeRestorePending) = true then some true else none).getD
      (w.row v.dev.name .acModeRestorePending)) = true
    cases w.row v.dev.name .acModeRestorePending with
    | false | true => rfl
  · rename_i hnone
    intro device howed
    by_cases hsame : device = v.dev.name
    · subst hsame
      simp only [Bool.or_eq_true, Bool.not_eq_true', not_or, Bool.not_eq_false] at hnone
      exact hnone.2
    · exact hother device hsame howed

/-- **Reconciling `acMode` ends with every way back recorded**; only the step directly after an
`acMode` 1 finds it unrecorded. -/
theorem passes_reconcileAcMode (v : AssistVisit) :
    Passes (Recorded texts) (fun w => Recorded texts w ∨ Unrecorded w)
      (v.reconcileAcMode texts) := by
  intro w hw
  have hsound : Sound texts (w.did (.acMode v.toDeviceVisit v.reconciledAcMode)) :=
    Sound.acModeEvent hw.toSound _ _
  have hsets : ∀ device, device ≠ v.dev.name →
      (acMode v.toDeviceVisit v.reconciledAcMode : AssistEvent Text).sendsAcInput device =
        false := by
    intro device hne
    simp [sendsAcInput, Ne.symm hne]
  have hwritten : (Recorded texts (w.did (.acMode v.toDeviceVisit v.reconciledAcMode)) ∨
      Unrecorded (w.did (.acMode v.toDeviceVisit v.reconciledAcMode))) ∧
      Recorded texts (v.updateAcPending texts v.reconciledAcMode.ok
        (w.did (.acMode v.toDeviceVisit v.reconciledAcMode))) := by
    by_cases hsends : (acMode v.toDeviceVisit v.reconciledAcMode :
        AssistEvent Text).sendsAcInput v.dev.name = true
    · have hwrite := hsends
      simp only [sendsAcInput, decide_true, Bool.true_and, Bool.and_eq_true,
        decide_eq_true_eq] at hwrite
      refine ⟨.inr ⟨v.dev.name, _, w.log, rfl, hsends⟩, ?_⟩
      apply recorded_updateAcPending hsound _ hwrite.1 hwrite.2
      intro device hne howed
      have hlog : (sendsAcInput device (.acMode v.toDeviceVisit v.reconciledAcMode) ||
          !restoresAcMode device
            (.acMode v.toDeviceVisit v.reconciledAcMode : AssistEvent Text) &&
          owedSince (sendsAcInput device) (restoresAcMode device)
            w.log) = true := howed
      rw [hsets device hne, Bool.false_or, Bool.and_eq_true] at hlog
      exact hw.acInput device hlog.2
    · have hrecorded : Recorded texts (w.did (.acMode v.toDeviceVisit v.reconciledAcMode)) := by
        refine ⟨hsound, hw.acInput.did fun device => ?_⟩
        by_cases hsame : device = v.dev.name
        · subst hsame
          exact Bool.eq_false_iff.mpr hsends
        · exact hsets device hsame
      exact ⟨.inl hrecorded, updateAcPending_of_closed (closed_recorded texts) hrecorded⟩
  have hconfirm := confirmAcRestore_of_closed (closed_recorded texts) w hwritten.2
  constructor
  · intro w' hw'
    rcases List.mem_cons.mp hw' with rfl | hw'
    · exact hwritten.1
    · rcases List.mem_cons.mp hw' with rfl | hw'
      · exact .inl hwritten.2
      · exact .inl (hconfirm w' hw')
  · rw [reconcileAcMode, final_andThen, final_andThen]
    exact final_of_forall hwritten.2 hconfirm

end AssistVisit

/-! ### One cycle -/

namespace AssistCycle

variable (cycle : AssistCycle)

omit [DecidableEq Text] in
theorem noteFeature_eq (w : AssistWorld Text) :
    cycle.noteFeature w =
      { w with store := { w.store with featureEnabled := some cycle.config.enabled } } := by
  rw [noteFeature, setFeatureEnabledState]
  split_ifs with hsame
  · rw [← hsame]
  · rfl

omit [DecidableEq Text] in
theorem sound_noteFeature {w : AssistWorld Text} (h : Sound texts w) :
    Sound texts (cycle.noteFeature w) := by
  rw [noteFeature_eq]
  exact ⟨⟨h.held.observed, h.held.fresh⟩,
    h.maxSoc.of_rows ofOwnColumns_assistShown rfl fun _ _ _ => rfl,
    h.acMode.of_rows ofOwnColumns_acModeShown rfl fun _ _ _ => rfl⟩

omit [DecidableEq Text] in
theorem recorded_noteFeature {w : AssistWorld Text} (h : Recorded texts w) :
    Recorded texts (cycle.noteFeature w) := by
  refine ⟨cycle.sound_noteFeature h.toSound, ?_⟩
  rw [noteFeature_eq]
  exact h.acInput.of_rows ofOwnColumns_acModeShown rfl fun _ _ _ => rfl

theorem keeps_steps (texts : TimeTexts Text) : Steps.Keeps (Sound texts) (cycle.steps texts) := by
  intro w
  exact ((keeps_once fun _ hw => cycle.sound_noteFeature hw).andThen
    ((Steps.Keeps.forEach (keeps_process (closed_sound texts)) _).andThen
      (Steps.Keeps.forEach keeps_reconcileAcMode _))) w

/-- **A cycle ends with every way back recorded**; within it only the steps directly after an
`acMode` 1 find one unrecorded. -/
theorem passes_steps (texts : TimeTexts Text) :
    Passes (Recorded texts) (fun w => Recorded texts w ∨ Unrecorded w)
      (cycle.steps texts) := by
  intro w
  have hnote : Steps.Keeps (Recorded texts) (Steps.once cycle.noteFeature) :=
    keeps_once fun _ hw => cycle.recorded_noteFeature hw
  exact ((hnote.passes fun _ => Or.inl).andThen
    ((Passes.forEach (fun v => (keeps_process (closed_recorded texts) v).passes
      fun _ => Or.inl) _).andThen
        (Passes.forEach passes_reconcileAcMode _))) w

end AssistCycle

/-! ### Runs -/

namespace AssistWorld

omit [DecidableEq Text] in
theorem sound_opened (texts : TimeTexts Text) (rows : Tables.Table String (Record Text))
    (featureEnabled : Option Bool) : Sound texts (opened rows featureEnabled) :=
  ⟨held_opened rows featureEnabled, fun _ => nofun, fun _ => nofun⟩

omit [DecidableEq Text] in
theorem recorded_opened (texts : TimeTexts Text) (rows : Tables.Table String (Record Text))
    (featureEnabled : Option Bool) : Recorded texts (opened rows featureEnabled) :=
  ⟨sound_opened texts rows featureEnabled, fun _ => nofun⟩

omit [DecidableEq Text] in
theorem sound_restarted {w : AssistWorld Text} (h : Sound texts w) : Sound texts w.restarted :=
  ⟨held_opened w.store.rows w.store.featureEnabled,
    h.maxSoc.of_rows ofOwnColumns_assistShown rfl fun _ _ => row_restarted h.held,
    h.acMode.of_rows ofOwnColumns_acModeShown rfl fun _ _ => row_restarted h.held⟩

omit [DecidableEq Text] in
theorem recorded_restarted {w : AssistWorld Text} (h : Recorded texts w) :
    Recorded texts w.restarted :=
  ⟨sound_restarted h.toSound,
    h.acInput.of_rows ofOwnColumns_acModeShown rfl fun _ _ => row_restarted h.held⟩

/-- The cycle did not stop between an `acMode` 1 and the step that records the way back. -/
def RecordsAcMode (texts : TimeTexts Text) (w : AssistWorld Text) (cycle : AssistRunStep) : Prop :=
  ¬ Unrecorded (w.stopped texts cycle)

theorem sound_step {w : AssistWorld Text} (h : Sound texts w) (cycle : AssistRunStep) :
    Sound texts (w.step texts cycle) := by
  have hstopped : Sound texts (w.stopped texts cycle) :=
    (cycle.cycle.keeps_steps texts).interrupted h cycle.stop
  rw [step]
  split
  · exact sound_restarted hstopped
  · exact hstopped

theorem recorded_step {w : AssistWorld Text} (h : Recorded texts w) {cycle : AssistRunStep}
    (hrecords : w.RecordsAcMode texts cycle) : Recorded texts (w.step texts cycle) := by
  have hstopped : Recorded texts (w.stopped texts cycle) :=
    ((cycle.cycle.passes_steps texts).interrupted (fun _ => Or.inl) h cycle.stop).resolve_right
      hrecords
  rw [step]
  split
  · exact recorded_restarted hstopped
  · exact hstopped

/-- The state after a run of cycles, from a process that starts on a database. -/
def afterRun (texts : TimeTexts Text) (rows : Tables.Table String (Record Text))
    (featureEnabled : Option Bool) (cycles : List AssistRunStep) : AssistWorld Text :=
  run (step texts) (opened rows featureEnabled) cycles

theorem sound_afterRun (texts : TimeTexts Text) (rows : Tables.Table String (Record Text))
    (featureEnabled : Option Bool) (cycles : List AssistRunStep) :
    Sound texts (afterRun texts rows featureEnabled cycles) :=
  run_invariant (fun _ cycle h _ => sound_step h cycle) (sound_opened texts rows featureEnabled)
    (everyStep_true _ _ _)

theorem recorded_afterRun {rows : Tables.Table String (Record Text)}
    {featureEnabled : Option Bool} {cycles : List AssistRunStep}
    (hrecords : EveryStep (step texts) (RecordsAcMode texts) (opened rows featureEnabled) cycles) :
    Recorded texts (afterRun texts rows featureEnabled cycles) :=
  run_invariant (fun _ _ h hrecords => recorded_step h hrecords)
    (recorded_opened texts rows featureEnabled) hrecords

/-- A device with a configured maximum of 90 %. -/
def dueDevice : ControlledDevice := ⟨"WR1", .api, true, 10, 90, none⟩

/-- Its report in AC output, at half charge and with that maximum. -/
def dueReport : DeviceReport where
  soc := 50
  minSoc := 10
  maxSoc := 90
  solar := 0
  output := 0
  packIn := 0
  outputLimit := 0
  socLimit := 0
  packNum := some 1
  acMode := .int 2
  acStatus := .int 0
  inputLimitW := .int 0
  gridInput := .int 0
  acModeReported := true
  solar1 := 0
  solar2 := 0
  solar3 := 0
  solar4 := 0
  packOut := 0
  smartMode := 0
  gridOffMode := 0
  chargeMaxLimitW := none
  socStatus := 0
  batteryCalibrationTime := none
  minSocReported := true
  maxSocReported := true
  smartModeReported := true
  gridOffModeReported := true
  inputLimitReported := true
  settingProperties := []

/-- A cycle over the device with every write accepted, on the day after its charge was due. -/
def dueCycle (enabled enableAcChargeMode : Bool) (intent : DeviceRuntimeIntent) : AssistCycle where
  now := ⟨DateTime.microsPerDay, some 0⟩
  config := ⟨enabled, 28, 2, 30, 720, enableAcChargeMode, 400⟩
  devices := [⟨dueDevice, dueReport, true, false, none, .published, .published, .published,
    intent, .published, none⟩]

/-- A database in which the device's full charge is due. -/
def dueRows : Tables.Table String (Record DateTime) :=
  Tables.Table.empty.upsert "WR1" ⟨defaultRow.update fun
    | .hasBattery => some true
    | .nextDueAt => some (some ⟨0, some 0⟩)
    | _ => none, ⟨0, some 0⟩⟩

end AssistWorld

end SolarFlowEms
