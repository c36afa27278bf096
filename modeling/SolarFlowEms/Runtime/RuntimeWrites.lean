import SolarFlowEms.Runtime.FreshSetup

/-!
# Writes to the runtime state, and saves that fail

A write reads the file again, puts its values into the state in memory, and saves that state.  A
save that fails raises, and nothing takes the values back: the controller goes on with them, and
reads the file again only once another version of it is there.  So memory is what it was before
only where the write asked for nothing new.
-/

namespace SolarFlowEms.Runtime

open Python Documents

/-! ### The state and its file -/

/-- A version of the file: the signature of its stat, and what it decodes to. -/
structure StoredFile where
  signature : ℕ
  content : JsonFile

/-- The runtime state as one process holds it, and the file. -/
structure RuntimeState where
  data : Entries
  lastSignature : Option ℕ
  file : Option StoredFile

inductive WriteError where
  | value (message : String)
  | key (message : String)
  | typeError
  | os
deriving DecidableEq

/-- How a save goes: the file is replaced under a new signature, it is not, or only its stat
afterwards fails. -/
inductive SaveOutcome where
  | saved (signature : ℕ)
  | failed
  | statFailed (signature : ℕ)

/-- `entries.setdefault(key, {})`. -/
def setDefault (entries : Entries) (key : String) : Entries :=
  if (dictGet entries key).isSome then entries else dictSet entries key (.dict [])

/-- `", ".join(sorted(devices)) or "(none)"`. -/
def knownDevices (devices : Entries) : String :=
  if devices.isEmpty then "(none)"
  else String.intercalate ", " ((devices.map Prod.fst).insertionSort (· ≤ ·))

namespace RuntimeState

variable (defaults : RuntimeDefaults) (s : RuntimeState)

def loadChanged (force : Bool) : RuntimeState :=
  match s.file with
  | none => s
  | some file =>
    if !force && s.lastSignature = some file.signature then s
    else
      match file.content with
      | .corrupt => s
      | .json loaded =>
        { s with
          data := mergeRuntimeDefaults ((loaded.dict?).getD []) defaults
          lastSignature := some file.signature }

/-- `_refresh_from_disk(force=True)`. -/
def refreshFromDisk : RuntimeState := s.loadChanged defaults true

def saveAtomic : SaveOutcome → RuntimeState × Except WriteError Unit
  | .saved signature =>
    ({ s with
        file := some ⟨signature, .json (.dict s.data)⟩
        lastSignature := some signature }, .ok ())
  | .failed => (s, .error .os)
  | .statFailed signature =>
    ({ s with file := some ⟨signature, .json (.dict s.data)⟩ }, .error .os)

/-- What the controller does at the start of each cycle: `load_if_changed`. -/
def loadIfChanged (save : SaveOutcome) : RuntimeState × Except WriteError Unit :=
  match s.file with
  | some _ => (s.loadChanged defaults false, .ok ())
  | none => { s with data := mergeRuntimeDefaults [] defaults }.saveAtomic save

/-- The save of a state into which values were put. -/
def saveChanged (data result : Entries) (save : SaveOutcome) :
    RuntimeState × Except WriteError Entries :=
  let saved := { s with data := data }.saveAtomic save
  (saved.1, saved.2.map fun _ => result)

def updateSection (name : String) (values : Entries) (save : SaveOutcome) :
    RuntimeState × Except WriteError Entries :=
  let s := s.refreshFromDisk defaults
  let data := setDefault s.data name
  match (getValue data name).dict? with
  | none =>
    ({ s with data := data }, .error (.value s!"runtime section {name} must be an object"))
  | some values₀ =>
    let updated := dictUpdate values₀ values
    s.saveChanged (dictSet data name (.dict updated)) updated save

def writeDevice (name : String) (values : Entries) (save : SaveOutcome) :
    RuntimeState × Except WriteError Entries :=
  let data := setDefault s.data "devices"
  match (getValue data "devices").dict? with
  | none => (s, .error .typeError)
  | some devices =>
    match dictGet devices name with
    | none =>
      ({ s with data := data },
        .error (.key s!"unknown device {name}; known devices: {knownDevices devices}"))
    | some (.dict device) =>
      let updated := dictUpdate device values
      s.saveChanged (dictSet data "devices" (.dict (dictSet devices name (.dict updated)))) updated
        save
    | some _ => (s, .error (.value s!"device {name} runtime state must be an object"))

def updateDevice (name : String) (values : Entries) (save : SaveOutcome) :
    RuntimeState × Except WriteError Entries :=
  (s.refreshFromDisk defaults).writeDevice name values save

def updateConfiguredDevice (name : String) (identity : PyValue) (values : Entries)
    (save : SaveOutcome) : RuntimeState × Except WriteError Entries :=
  let s := s.refreshFromDisk defaults
  let data := setDefault s.data "devices"
  let devices := (getValue data "devices").dict?
  match devices.bind fun devices => ownedRuntimeDevice devices name identity with
  | none =>
    let known := knownDevices (devices.getD [])
    ({ s with data := data },
      .error (.key s!"no runtime entry for device {name}; known devices: {known}"))
  | some entryName => { s with data := data }.writeDevice entryName values save

end RuntimeState

/-! ### A write, whichever it is -/

inductive RuntimeWrite where
  | updateSection (name : String) (values : Entries)
  | writeDevice (name : String) (values : Entries)
  | updateDevice (name : String) (values : Entries)
  | updateConfiguredDevice (name : String) (identity : PyValue) (values : Entries)

namespace RuntimeState

variable (defaults : RuntimeDefaults) (s : RuntimeState)

def perform : RuntimeWrite → SaveOutcome → RuntimeState × Except WriteError Entries
  | .updateSection name values => s.updateSection defaults name values
  | .writeDevice name values => s.writeDevice name values
  | .updateDevice name values => s.updateDevice defaults name values
  | .updateConfiguredDevice name identity values =>
    s.updateConfiguredDevice defaults name identity values

/-- A save that fails leaves in memory what was there before the call. -/
def KeptOnFailure (write : RuntimeWrite) : Prop :=
  ∀ save, (s.perform defaults write save).2 = .error .os →
    (s.perform defaults write save).1.data = s.data

def withSection? (data : Entries) (name : String) (values : Entries) : Option Entries :=
  (getValue (setDefault data name) name).dict?.map fun held =>
    dictSet (setDefault data name) name (.dict (dictUpdate held values))

/-- The state with the values of a device put in, where the device has an entry. -/
def withDevice? (data : Entries) (name : String) (values : Entries) : Option Entries :=
  let data := setDefault data "devices"
  (getValue data "devices").dict?.bind fun devices =>
    ((dictGet devices name).bind PyValue.dict?).map fun held =>
      dictSet data "devices" (.dict (dictSet devices name (.dict (dictUpdate held values))))

/-- The state that a write asks for, where it is not refused: what the file holds, or memory for
`_write_device` itself, with the values put in. -/
def asked? : RuntimeWrite → Option Entries
  | .updateSection name values => withSection? (s.refreshFromDisk defaults).data name values
  | .writeDevice name values => withDevice? s.data name values
  | .updateDevice name values => withDevice? (s.refreshFromDisk defaults).data name values
  | .updateConfiguredDevice name identity values =>
    let data := setDefault (s.refreshFromDisk defaults).data "devices"
    ((getValue data "devices").dict?.bind fun devices =>
      ownedRuntimeDevice devices name identity).bind fun entryName => withDevice? data entryName values

/-- Memory is the state that the file holds but for the values given, and has these; or the section
or the device that they are for is none, and the write is refused. -/
def AsksForNothingNew (write : RuntimeWrite) : Prop :=
  ∀ asked, s.asked? defaults write = some asked → asked = s.data

variable {s}

theorem saveChanged_data (data result : Entries) (save : SaveOutcome) :
    (s.saveChanged data result save).1.data = data := by
  cases save <;> rfl

/-- What a call does to memory, by the state that it asks for. -/
structure Writes (asked : Option Entries)
    (call : SaveOutcome → RuntimeState × Except WriteError Entries) : Prop where
  /-- A call that asks for a state saves it, and its save can fail. -/
  saves : ∀ data, asked = some data →
    (∀ save, (call save).1.data = data) ∧ (call .failed).2 = .error .os
  /-- Any other call is refused before it saves. -/
  refuses : asked = none → ∀ save, (call save).2 ≠ .error .os

variable {call : SaveOutcome → RuntimeState × Except WriteError Entries}

theorem writes_refused (h : ∀ save, (call save).2 ≠ .error .os) : Writes none call where
  saves := by
    intro data hdata
    cases hdata
  refuses _ := h

theorem writes_saveChanged (s : RuntimeState) (data result : Entries) :
    Writes (some data) (s.saveChanged data result) where
  saves := by
    intro data' hdata
    obtain rfl := Option.some.inj hdata
    exact ⟨fun save => saveChanged_data data result save, rfl⟩
  refuses h := by cases h

theorem Writes.kept_iff {asked : Option Entries} (h : Writes asked call) (before : Entries) :
    (∀ save, (call save).2 = .error .os → (call save).1.data = before) ↔
      ∀ data, asked = some data → data = before := by
  constructor
  · intro hkept data hasked
    obtain ⟨hdata, hfailed⟩ := h.saves data hasked
    exact (hdata .failed).symm.trans (hkept .failed hfailed)
  · intro hsame save hos
    cases hasked : asked with
    | none => exact absurd hos (h.refuses hasked save)
    | some data => exact ((h.saves data hasked).1 save).trans (hsame data hasked)

theorem writes_updateSection (name : String) (values : Entries) :
    Writes (withSection? (s.refreshFromDisk defaults).data name values)
      (s.updateSection defaults name values) := by
  unfold withSection? updateSection
  dsimp only
  cases (getValue (setDefault (s.refreshFromDisk defaults).data name) name).dict? with
  | none =>
    refine writes_refused fun save h => ?_
    cases h
  | some held => exact writes_saveChanged _ _ _

theorem writes_writeDevice (name : String) (values : Entries) :
    Writes (withDevice? s.data name values) (s.writeDevice name values) := by
  unfold withDevice? writeDevice
  dsimp only
  cases (getValue (setDefault s.data "devices") "devices").dict? with
  | none =>
    refine writes_refused fun save h => ?_
    cases h
  | some devices =>
    rw [Option.bind_some]
    dsimp only
    cases dictGet devices name with
    | none =>
      refine writes_refused fun save h => ?_
      cases h
    | some entry =>
      rw [Option.bind_some]
      cases entry with
      | dict held => exact writes_saveChanged _ _ _
      | _ =>
        refine writes_refused fun save h => ?_
        cases h

theorem writes_updateConfiguredDevice (name : String) (identity : PyValue) (values : Entries) :
    Writes (s.asked? defaults (.updateConfiguredDevice name identity values))
      (s.updateConfiguredDevice defaults name identity values) := by
  unfold asked? updateConfiguredDevice
  dsimp only
  cases (getValue (setDefault (s.refreshFromDisk defaults).data "devices")
      "devices").dict?.bind fun devices => ownedRuntimeDevice devices name identity with
  | none =>
    refine writes_refused fun save h => ?_
    cases h
  | some entryName =>
    rw [Option.bind_some]
    exact writes_writeDevice (s := { s.refreshFromDisk defaults with
      data := setDefault (s.refreshFromDisk defaults).data "devices" }) entryName values

/-- **What is in force drifts from the file.**  A save that fails leaves memory as it was exactly
where the write asks for nothing new. -/
theorem kept_on_failure_iff (s : RuntimeState) (write : RuntimeWrite) :
    s.KeptOnFailure defaults write ↔ s.AsksForNothingNew defaults write := by
  cases write with
  | updateSection name values => exact (writes_updateSection defaults name values).kept_iff s.data
  | writeDevice name values
  | updateDevice name values => exact (writes_writeDevice name values).kept_iff s.data
  | updateConfiguredDevice name identity values =>
    exact (writes_updateConfiguredDevice defaults name identity values).kept_iff s.data

end RuntimeState

/-- `get_system`, where the section is an object. -/
def getSystem (data : Entries) (key : String) : PyValue := getValue (objectAt data "system") key

def noDefaults : RuntimeDefaults := ⟨[], [], [], []⟩

/-- A limit of 900 W, in memory and in the file. -/
def limitedState : RuntimeState where
  data := mergeRuntimeDefaults [("system", .dict [("max_total_power", .int 900)])] noDefaults
  lastSignature := some 1
  file := some ⟨1, .json (.dict [("system", .dict [("max_total_power", .int 900)])])⟩

/-- The limit set to 600 W, with a save that fails. -/
def unsavedLimit : RuntimeState × Except WriteError Entries :=
  limitedState.perform noDefaults (.updateSection "system" [("max_total_power", .int 600)]) .failed

/-- **A limit that could not be saved is in force.**  The file holds 900 W; memory holds 600 W,
also after the controller has looked for another version of the file. -/
theorem failed_save_stays_in_force :
    ¬limitedState.KeptOnFailure noDefaults
        (.updateSection "system" [("max_total_power", .int 600)]) ∧
      unsavedLimit.2 = .error .os ∧
      (getSystem limitedState.data "max_total_power").eqInt 900 = true ∧
      (getSystem unsavedLimit.1.data "max_total_power").eqInt 600 = true ∧
      (getSystem (unsavedLimit.1.loadIfChanged noDefaults .failed).1.data
        "max_total_power").eqInt 600 = true ∧
      unsavedLimit.1.file = limitedState.file := by
  refine ⟨fun hkept => ?_, rfl, rfl, rfl, rfl, rfl⟩
  have hdata : unsavedLimit.1.data = limitedState.data := hkept .failed rfl
  have hlimit : (getSystem limitedState.data "max_total_power").eqInt 600 = true := by
    rw [← hdata]
    rfl
  exact absurd hlimit (by decide)

end SolarFlowEms.Runtime
