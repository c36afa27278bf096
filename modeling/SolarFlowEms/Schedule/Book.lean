import SolarFlowEms.Schedule.Model

/-!
# The book a schedules file holds

Reading the bytes of the file: what the document must be to hold schedules at all, and then
its rules one by one.  A stored entry that is no valid rule is kept as a broken one, shown
and never applied.  What was last applied to each slot is read beside the rules, and a record
of it that cannot be read is dropped.
-/

namespace SolarFlowEms.Schedule

open Python TimeText

/-! ### The document -/

def schemaVersion : ℤ := 1
def maxRules : ℕ := 100

/-- How reading bytes as JSON fails: with a `ValueError`, for bytes that are no UTF-8, no JSON
or hold too long a number, or where the nesting is too deep for the interpreter. -/
inductive LoadFailure where
  | valueError (text : String)
  | recursionError
deriving DecidableEq

/-- The library under the store, with the path of its file. -/
structure StoreLibrary extends ValueTexts where
  path : String
  /-- `json.loads(raw.decode("utf-8"))`. -/
  loads : List UInt8 → Except LoadFailure PyValue

/-- A document that holds schedules. -/
structure ScheduleData where
  enabled : Bool
  rules : List PyValue
  applied : List (String × PyValue)
  resumedAt : PyValue

def emptyData : ScheduleData := { enabled := true, rules := [], applied := [], resumedAt := .none }

/-- A document as schedules, or the text of the `ScheduleStoreError` it is refused with. -/
def dataOf (path : String) (document : PyValue) : Parsed ScheduleData := do
  let entries ← asDict document s!"schedules {path} is not a schema_version {schemaVersion} file"
  require ((getValue entries "schema_version").eqInt schemaVersion)
    s!"schedules {path} is not a schema_version {schemaVersion} file"
  let enabled ← parseBool ((dictGet entries "enabled").getD (.bool true))
    "schedules enabled must be true or false"
  match (dictGet entries "rules").getD (.list []), (dictGet entries "applied").getD (.dict []) with
  | .list rules, .dict applied =>
    return { enabled, rules, applied, resumedAt := getValue entries "resumed_at" }
  | _, _ => refuse "schedules rules must be a list and applied an object"

/-- `_decode`: an absent file is an empty document. -/
def decode (lib : StoreLibrary) (raw : Option (List UInt8)) : Parsed ScheduleData :=
  match raw with
  | none => .ok emptyData
  | some raw =>
    match lib.loads raw with
    | .ok document => dataOf lib.path document
    | .error (.valueError text) => refuse s!"cannot read schedules {lib.path}: {text}"
    | .error .recursionError => escape .recursionError

/-! ### The book -/

/-- A stored entry that is not a valid rule. -/
structure BrokenRule where
  id : String
  payload : PyValue
  error : String

inductive BookRule where
  | valid (rule : ScheduleRule)
  | broken (entry : BrokenRule)

/-- A window that was applied and can be closed: its action, device, end value and end. -/
structure AppliedWindow where
  action : String
  device : PyValue
  endValue : PyValue
  endsAt : UtcTime

/-- What was last applied to a slot. -/
structure AppliedRecord where
  rule : String
  firedAt : UtcTime
  value : PyValue
  window : Option AppliedWindow

structure ScheduleBook where
  enabled : Bool
  rules : List BookRule
  applied : List (String × AppliedRecord)
  resumedAt : Option UtcTime

def usableId (entry : PyValue) : Option String :=
  (getValue (entry.dict?.getD []) "id").str?.filter (· ≠ "")

/-- An entry's id, or for one without a usable id a name taken from its content. -/
def entryId (texts : ValueTexts) (entry : PyValue) : Except PyException String :=
  match usableId entry with
  | some id => .ok id
  | none => ("x_" ++ ·) <$> texts.contentHash entry

/-- A stored entry in the book, as a rule or as a broken one. -/
def bookRule (texts : ValueTexts) (entry : PyValue) : Except PyException BookRule :=
  match parseRule texts entry with
  | .ok rule => .ok (.valid rule)
  | .error (.refused message) => do
    return .broken { id := ← entryId texts entry, payload := entry, error := message }
  | .error (.escaped exception) => .error exception

/-- The action of a recorded window this build can close: a known action and an end value it
takes. -/
def closable (texts : ValueTexts) (window : List (String × PyValue)) :
    Except PyException (Option ScheduleAction) :=
  let commands := do
    let action ← scheduleAction texts (getValue window "action")
    let _ ← actionCommands action (getValue window "end_value")
    return action
  match commands with
  | .ok action => .ok (some action)
  | .error (.refused _) => .ok none
  | .error (.escaped exception) => .error exception

/-- The window of a record, where it has one that can be closed. -/
def appliedWindow (texts : ValueTexts) (value : PyValue) : Parsed (Option AppliedWindow) :=
  match value with
  | .dict window => do
    match ← (closable texts window).mapError .escaped with
    | none => return none
    | some action =>
      let endsAt ← parseUtc (getValue window "ends_at") "applied window end"
      return some {
        action := action.id, device := getValue window "device",
        endValue := getValue window "end_value", endsAt }
  | _ => .ok none

/-- `isinstance(value, float) and not math.isfinite(value)`. -/
def isNotFinite : PyValue → Bool
  | .float (.finite _) => false
  | .float _ => true
  | _ => false

def appliedRecord (texts : ValueTexts) (record : PyValue) : Parsed AppliedRecord := do
  let entries ← asDict record "not a record"
  match getValue entries "rule" with
  | .str rule =>
    let value := getValue entries "value"
    require (¬ isNotFinite value) "applied value must be a number"
    let firedAt ← parseUtc (getValue entries "at") "applied at"
    let window ← appliedWindow texts (getValue entries "window")
    return { rule, firedAt, value, window }
  | _ => refuse "not a record"

/-- A record under its slot, dropped where it is refused. -/
def bookRecord (texts : ValueTexts) (entry : String × PyValue) :
    Except PyException (Option (String × AppliedRecord)) :=
  match appliedRecord texts entry.2 with
  | .ok record => .ok (some (entry.1, record))
  | .error (.refused _) => .ok none
  | .error (.escaped exception) => .error exception

def book (texts : ValueTexts) (stored : ScheduleData) : Except PyException ScheduleBook := do
  let rules ← stored.rules.mapM (bookRule texts)
  let applied ← stored.applied.mapM (bookRecord texts)
  return {
    enabled := stored.enabled, rules, applied := applied.filterMap id,
    resumedAt := stored.resumedAt.str?.bind strptimeUtc }

/-- `ScheduleStore.parse`.  A refusal is a `ScheduleStoreError`. -/
def parse (lib : StoreLibrary) (raw : Option (List UInt8)) : Parsed ScheduleBook := do
  let stored ← decode lib raw
  (book lib.toValueTexts stored).mapError .escaped

end SolarFlowEms.Schedule
