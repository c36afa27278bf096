import SolarFlowEms.Schedule.Book

/-!
# The store of schedules

The one writer of the schedules file.  Each operation reads the file under its lock, changes
the document and replaces the file whole, or raises before it writes.  An edit of a rule names
the revision it was made against.
-/

namespace SolarFlowEms.Schedule

open Python Calendar TimeText

/-! ### The file -/

/-- The schedules file by what its bytes decode to.  A file that cannot be read as schedules
keeps the text it is refused with. -/
inductive File where
  | absent
  | unreadable (message : String)
  | holds (stored : ScheduleData)

def File.read : File → Parsed ScheduleData
  | .absent => .ok emptyData
  | .unreadable message => refuse message
  | .holds stored => .ok stored

def File.rules : File → List PyValue
  | .holds stored => stored.rules
  | _ => []

section Operations

variable (texts : ValueTexts)

/-! ### Entries -/

/-- The field of an entry that is an object, None for one that is not. -/
def entryField (entry : PyValue) (key : String) : PyValue :=
  match entry with
  | .dict entries => getValue entries key
  | _ => .none

/-- `entry[key] = value` of an entry that is an object. -/
def setEntryField (entry : PyValue) (key : String) (value : PyValue) : PyValue :=
  match entry with
  | .dict entries => .dict (dictSet entries key value)
  | entry => entry

/-- Refuses a revision other than the one an edit was made against. -/
def checkRevision (id : String) (revision : Option ℤ) (stored : PyValue) : Parsed Unit :=
  match revision with
  | none => .ok ()
  | some revision =>
    if stored.eqInt revision then .ok ()
    else do
      let text ← texts.strText stored
      refuse ("schedule rule " ++ id ++ " changed since it was read (revision " ++ text ++ ", not " ++
        toString revision ++ ")")

/-- `_index`: the place of the first entry with an id. -/
def indexOf (id : String) (revision : Option ℤ) : List PyValue → Parsed ℕ
  | [] => refuse ("no schedule rule " ++ id)
  | entry :: rest => do
    if (← (entryId texts entry).mapError .escaped) = id then
      checkRevision texts id revision (entryField entry "revision")
      return 0
    else return (← indexOf id revision rest) + 1

/-- `_editable`: the fields an editor sends, validated and in their stored form. -/
def editable (payload : PyValue) (by_ : String) : Parsed (List (String × PyValue)) := do
  require (by_ ∈ editors) ("an edit comes from one of: " ++ ", ".intercalate editors)
  let fields ← parseEditable texts payload
  return editableFieldsOf fields (whenPayload fields.timing)

/-- A check of an editor on the book under the lock. -/
def runCheck (stored : ScheduleData) (check : Option (ScheduleBook → Parsed Unit)) : Parsed Unit :=
  match check with
  | none => .ok ()
  | some check => do check (← (book texts stored).mapError .escaped)

/-! ### Edits -/

/-- The ids that are taken.  An id that is a list or an object cannot be put in a set. -/
def takenIds (rules : List PyValue) : Parsed (List PyValue) :=
  (rules.filter fun entry => entry.dict?.isSome).mapM fun entry =>
    match entryField entry "id" with
    | .list _ => escape .typeError
    | .dict _ => escape .typeError
    | id => .ok id

def newId (draws : List String) (taken : List PyValue) : Option String :=
  (draws.map ("r_" ++ ·)).find? fun id => !taken.any (·.eqStr id)

def create (payload : PyValue) (by_ : String) (check : Option (ScheduleBook → Parsed Unit))
    (draws : List String) (now : UtcTime) (stored : ScheduleData) : Parsed ScheduleData := do
  let fields ← editable texts payload by_
  runCheck texts stored check
  require (stored.rules.length < maxRules) s!"at most {maxRules} schedule rules"
  match newId draws (← takenIds stored.rules) with
  -- Draws that are all taken are no end of the loop, and nothing is written.
  | none => refuse "no drawn id is free"
  | some id =>
    let entry := stampFields fields { id, revision := 1, updatedAt := now, updatedBy := by_ }
    return { stored with rules := stored.rules ++ [entry] }

def replace (id : String) (payload : PyValue) (revision : ℤ) (by_ : String)
    (check : Option (ScheduleBook → Parsed Unit)) (now : UtcTime) (stored : ScheduleData) :
    Parsed ScheduleData := do
  let fields ← editable texts payload by_
  let index ← indexOf texts id (some revision) stored.rules
  runCheck texts stored check
  let entry := stampFields fields
    { id, revision := revision + 1, updatedAt := now, updatedBy := by_ }
  return { stored with rules := stored.rules.set index entry }

def delete (id : String) (revision : Option ℤ) (stored : ScheduleData) : Parsed ScheduleData := do
  let index ← indexOf texts id revision stored.rules
  return { stored with rules := stored.rules.eraseIdx index }

inductive Direction where
  | up
  | down
deriving DecidableEq

/-- Swaps two entries, where both are there. -/
def swapEntries (rules : List PyValue) (i j : ℕ) : List PyValue :=
  match rules[i]?, rules[j]? with
  | some entry, some entry' => (rules.set i entry').set j entry
  | _, _ => rules

def move (id : String) (direction : Direction) (stored : ScheduleData) : Parsed ScheduleData := do
  let index ← indexOf texts id none stored.rules
  match direction, index with
  | .up, 0 => return stored
  | .up, above + 1 => return { stored with rules := swapEntries stored.rules index above }
  | .down, _ => return { stored with rules := swapEntries stored.rules index (index + 1) }

/-- The text of the day before a time, the last that has passed in every zone. -/
def passedText (now : UtcTime) : Parsed String :=
  match now.date.addDays? (-1) with
  | some day => .ok (isoformat day)
  | none => escape .overflowError

/-- Adds a day to a rule's skipped dates and drops those that have passed in every zone. -/
def skip (id : String) (day : Date) (revision : ℤ) (by_ : String) (now : UtcTime)
    (stored : ScheduleData) : Parsed ScheduleData := do
  let index ← indexOf texts id (some revision) stored.rules
  let rule ← parseRule texts (stored.rules.getD index .none)
  let passed ← passedText now
  let coming := rule.timing.skippedTexts.filter (passed ≤ ·)
  let timing := .dict (whenFields rule.timing (sortedTexts (coming ++ [isoformat day])))
  let fields ← editable texts (.dict (editableFieldsOf rule.toEditableRule timing)) by_
  let entry := stampFields fields
    { id, revision := revision + 1, updatedAt := now, updatedBy := by_ }
  return { stored with rules := stored.rules.set index entry }

/-! ### The switch, the records and the backup -/

/-- Pauses or resumes every rule. -/
def setEnabled (enabled : Bool) (now : UtcTime) (stored : ScheduleData) : ScheduleData :=
  { stored with
    enabled
    resumedAt := if enabled ∧ ¬ stored.enabled then .str (formatUtc now) else stored.resumedAt }

/-- A record as it is written. -/
def recordPayload (record : AppliedRecord) : PyValue := .dict
  ([("rule", .str record.rule), ("at", .str (formatUtc record.firedAt)), ("value", record.value)] ++
    fieldOf "window" record.window fun window => .dict
      [("action", .str window.action), ("device", window.device), ("end_value", window.endValue),
        ("ends_at", .str (formatUtc window.endsAt))])

def recordApplied (slot : String) (record : AppliedRecord) (stored : ScheduleData) : ScheduleData :=
  { stored with applied := dictSet stored.applied slot (recordPayload record) }

/-- An entry of a backup counts as saved now. -/
def stampRestored (now : UtcTime) (entry : PyValue) : PyValue :=
  match entry with
  | .dict entries =>
    if (dictGet entries "updated_at").isSome then
      .dict (dictSet entries "updated_at" (.str (formatUtc now)))
    else entry
  | entry => entry

/-- The later of the times of resuming, which are compared as texts. -/
def latestResume (times : List String) (old : PyValue) : PyValue :=
  match times.max? with
  | some time => .str time
  | none => old

/-- Puts a backup in place, which may not be readable as schedules. -/
def restore (backup : Parsed ScheduleData) (keepApplied : Bool) (now : UtcTime) (file : File) :
    Parsed File :=
  match backup with
  | .error (.refused message) => .ok (.unreadable message)
  | .error (.escaped exception) => escape exception
  | .ok restored =>
    let restored := { restored with rules := restored.rules.map (stampRestored now) }
    match file.read with
    | .error (.escaped exception) => escape exception
    | .error (.refused _) =>
      .ok (.holds { restored with applied := if keepApplied then [] else restored.applied })
    | .ok current =>
      let times := [restored.resumedAt, current.resumedAt].filterMap PyValue.str? ++
        if restored.enabled ∧ ¬ current.enabled then [formatUtc now] else []
      .ok (.holds { restored with
        applied := if keepApplied then current.applied else restored.applied
        resumedAt := latestResume times restored.resumedAt })

/-! ### Renamed devices -/

/-- The new name of an entry's device, where its identity has another one in config. -/
def renamedDevice (names : List (String × String)) (entry : PyValue) : Option (String × String) := do
  let target ← (entryField entry "target").dict?
  let identity ← (getValue target "identity").str?
  let name ← names.lookup identity
  let old ← (getValue target "device").str?
  if name ≠ "" ∧ old ≠ name then some (old, name) else none

/-- An entry under its device's new name. -/
def renameEntry (names : List (String × String)) (entry : PyValue) : PyValue :=
  match renamedDevice names entry with
  | none => entry
  | some (_, name) =>
    setEntryField entry "target" (setEntryField (entryField entry "target") "device" (.str name))

/-- The slot of an entry's action before and after its device is renamed. -/
def movedSlot (names : List (String × String)) (entry : PyValue) :
    Parsed (Option (String × String)) :=
  match renamedDevice names entry with
  | none => .ok none
  | some (old, name) =>
    match scheduleAction texts (entryField (entryField entry "action") "id") with
    | .ok action => .ok (some (actionSlot action old, actionSlot action name))
    | .error (.refused _) => .ok none
    | .error (.escaped exception) => escape exception

/-- A record with the device of its window renamed. -/
def renameRecord (renamed : List (String × String)) (record : PyValue) : PyValue :=
  let window := entryField record "window"
  match (entryField window "device").str?.bind (List.lookup · renamed) with
  | some name => setEntryField record "window" (setEntryField window "device" (.str name))
  | none => record

/-- The records under their moved slots: one that moves takes the place of another. -/
def moveRecords (moved : List (String × String)) (applied : List (String × PyValue)) :
    List (String × PyValue) :=
  applied.foldl (fun kept (slot, record) =>
    let key := (moved.lookup slot).getD slot
    if (kept.lookup key).isNone ∨ (moved.lookup slot).isSome then dictSet kept key record
    else kept) []

/-- The pairs of a dict written in order: a later one replaces an earlier one of its key. -/
def dictOf (pairs : List (String × String)) : List (String × String) :=
  pairs.foldl (fun entries (key, value) => dictSet entries key value) []

/-- Follows devices renamed in config, by their identities. -/
def renameDevices (names : List (String × String)) (stored : ScheduleData) :
    Parsed ScheduleData := do
  let moved ← stored.rules.mapM (movedSlot texts names)
  let renamed := dictOf (stored.rules.filterMap (renamedDevice names))
  if renamed = [] then return stored
  else return { stored with
    rules := stored.rules.map (renameEntry names)
    applied := moveRecords (dictOf (moved.filterMap id)) (stored.applied.map fun (slot, record) =>
      (slot, renameRecord renamed record)) }

end Operations

/-! ### One operation on the file -/

inductive Operation where
  | create (payload : PyValue) (by_ : String) (check : Option (ScheduleBook → Parsed Unit))
      (draws : List String) (now : UtcTime)
  | replace (id : String) (payload : PyValue) (revision : ℤ) (by_ : String)
      (check : Option (ScheduleBook → Parsed Unit)) (now : UtcTime)
  | delete (id : String) (revision : Option ℤ)
  | move (id : String) (direction : Direction)
  | skip (id : String) (day : Date) (revision : ℤ) (by_ : String) (now : UtcTime)
  | setEnabled (enabled : Bool) (now : UtcTime)
  | recordApplied (slot : String) (record : AppliedRecord)
  | restore (backup : Parsed ScheduleData) (keepApplied : Bool) (now : UtcTime)
  | renameDevices (names : List (String × String))

def File.update (file : File) (change : ScheduleData → Parsed ScheduleData) : Parsed File := do
  return .holds (← change (← file.read))

/-- The file an operation leaves, where it writes one. -/
def Operation.apply (texts : ValueTexts) (file : File) : Operation → Parsed File
  | .create payload by_ check draws now => file.update (Schedule.create texts payload by_ check draws now)
  | .replace id payload revision by_ check now =>
    file.update (Schedule.replace texts id payload revision by_ check now)
  | .delete id revision => file.update (Schedule.delete texts id revision)
  | .move id direction => file.update (Schedule.move texts id direction)
  | .skip id day revision by_ now => file.update (Schedule.skip texts id day revision by_ now)
  | .setEnabled enabled now => file.update fun stored => .ok (Schedule.setEnabled enabled now stored)
  | .recordApplied slot record =>
    file.update fun stored => .ok (Schedule.recordApplied slot record stored)
  | .restore backup keepApplied now => Schedule.restore backup keepApplied now file
  | .renameDevices names => file.update (Schedule.renameDevices texts names)

end SolarFlowEms.Schedule
