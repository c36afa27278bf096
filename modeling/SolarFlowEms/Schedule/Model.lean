import SolarFlowEms.Schedule.Actions

/-!
# A stored rule

A rule targets the system or one device, names an action, the value it sets and, for a
window, the value it sets when the window ends, and when it fires.  An editor sends the
editable fields; the store adds the id, the revision and who edited the rule when.
-/

namespace SolarFlowEms.Schedule

open Python TimeText

def nameMaxLength : ℕ := 80
def deviceNameMaxLength : ℕ := 64
def editors : List String := ["dashboard", "emsctl"]
def editableFields : List String := ["name", "enabled", "target", "action", "when"]

def storedFields : List String :=
  editableFields ++ ["id", "revision", "updated_at", "updated_by"]

/-- What an editor sends, validated. -/
structure EditableRule where
  name : String
  enabled : Bool
  action : ScheduleAction
  device : Option String
  identity : Option String
  value : PyValue
  endValue : PyValue
  timing : When

/-- A stored rule, validated. -/
structure ScheduleRule extends EditableRule where
  id : String
  revision : ℤ
  updatedAt : UtcTime
  updatedBy : String

/-! ### The editable fields -/

def parseUtc (value : PyValue) (field : String) : Parsed UtcTime :=
  match value.str?.bind strptimeUtc with
  | some time => .ok time
  | none => refuse (field ++ " must be a UTC time like 2026-10-18T14:02:11Z")

def parseName (value : PyValue) : Parsed String :=
  match value with
  | .str name =>
    if pyStrip name ≠ "" ∧ (pyStrip name).length ≤ nameMaxLength then .ok (pyStrip name)
    else refuse s!"name must be 1 to {nameMaxLength} characters"
  | _ => refuse s!"name must be 1 to {nameMaxLength} characters"

def parseBool (value : PyValue) (message : String) : Parsed Bool :=
  match value with
  | .bool b => .ok b
  | _ => refuse message

/-- `_action`: an action, its value and, for a window, its end value. -/
def parseAction (texts : ValueTexts) (payload : PyValue) (timing : When) :
    Parsed (ScheduleAction × PyValue × PyValue) := do
  let entries ← asDict payload "action must be an object"
  knownFields entries ["id", "value", "end_value"] "action"
  let action ← scheduleAction texts (getValue entries "id")
  let value := getValue entries "value"
  let _ ← actionCommands action value
  let endValue := getValue entries "end_value"
  match timing.windowEnd? with
  | none =>
    require endValue.isNone "a single switch point has no end_value"
    return (action, value, endValue)
  | some _ =>
    require (¬ endValue.isNone) "a window needs the end_value it sets when it ends"
    let _ ← actionCommands action endValue
    return (action, value, endValue)

/-- The identity of a device, given or not. -/
def parseIdentity (value : PyValue) : Parsed (Option String) :=
  match value with
  | .none => .ok none
  | .str identity =>
    if pyStrip identity ≠ "" then .ok (some (pyStrip identity))
    else refuse "identity must be a non-empty string when given"
  | _ => refuse "identity must be a non-empty string when given"

def parseDevice (value : PyValue) : Parsed String :=
  match value with
  | .str device =>
    if pyStrip device ≠ "" ∧ device.length ≤ deviceNameMaxLength then .ok (pyStrip device)
    else refuse s!"device must be 1 to {deviceNameMaxLength} characters"
  | _ => refuse s!"device must be 1 to {deviceNameMaxLength} characters"

/-- `_target`: the device and its identity, which only an action of a device has. -/
def parseTarget (texts : ValueTexts) (payload : PyValue) (action : ScheduleAction) :
    Parsed (Option String × Option String) := do
  let entries ← asDict payload "target must be an object"
  knownFields entries ["scope", "device", "identity"] "target"
  let scope := getValue entries "scope"
  let expected := if action.perDevice then "device" else "system"
  if scope.eqStr expected then
    if action.perDevice then
      let device ← parseDevice (getValue entries "device")
      let identity ← parseIdentity (getValue entries "identity")
      return (some device, identity)
    else
      require ((getValue entries "device").isNone ∧ (getValue entries "identity").isNone)
        (action.id ++ " applies to the system and names no device")
      return (none, none)
  else
    refuse (action.id ++ " applies to the " ++ expected ++ ", not to " ++ (← texts.reprText scope))

def parseEditable (texts : ValueTexts) (payload : PyValue) : Parsed EditableRule := do
  let entries ← asDict payload "a rule must be an object"
  knownFields entries editableFields "rule"
  let name ← parseName (getValue entries "name")
  let enabled ← parseBool ((dictGet entries "enabled").getD (.bool true))
    "enabled must be true or false"
  let timing ← parseWhen (getValue entries "when")
  let (action, value, endValue) ← parseAction texts (getValue entries "action") timing
  let (device, identity) ← parseTarget texts (getValue entries "target") action
  return { name, enabled, action, device, identity, value, endValue, timing }

/-! ### Stored rules -/

def isIdDigit (c : Char) : Bool := ('0' ≤ c && c ≤ '9') || ('a' ≤ c && c ≤ 'f')

/-- `re.match("^r_[0-9a-f]{8}$", id)`, where a final newline may follow the end. -/
def isRuleId (id : String) : Bool :=
  match id.toList with
  | 'r' :: '_' :: rest =>
    (rest.take 8).length = 8 && (rest.take 8).all isIdDigit &&
      (rest.drop 8 = [] || rest.drop 8 = ['\n'])
  | _ => false

/-- What the store adds to the editable fields. -/
structure RuleStamp where
  id : String
  revision : ℤ
  updatedAt : UtcTime
  updatedBy : String
deriving DecidableEq

def parseId (value : PyValue) : Parsed String :=
  match value with
  | .str id => if isRuleId id then .ok id else refuse "id must look like r_0123abcd"
  | _ => refuse "id must look like r_0123abcd"

def parseRevision (value : PyValue) : Parsed ℤ :=
  match value with
  | .int z => if 1 ≤ z then .ok z else refuse "revision must be a whole number from 1"
  | _ => refuse "revision must be a whole number from 1"

def parseEditor (value : PyValue) : Parsed String :=
  match editors.find? value.eqStr with
  | some editor => .ok editor
  | none => refuse ("updated_by must be one of: " ++ ", ".intercalate editors)

def parseStamp (entries : List (String × PyValue)) : Parsed RuleStamp := do
  knownFields entries storedFields "rule"
  let id ← parseId (getValue entries "id")
  let revision ← parseRevision (getValue entries "revision")
  let updatedBy ← parseEditor (getValue entries "updated_by")
  let updatedAt ← parseUtc (getValue entries "updated_at") "updated_at"
  return { id, revision, updatedAt, updatedBy }

/-- A stored rule from its JSON form.  The editable fields are read as an editor's are. -/
def parseRule (texts : ValueTexts) (payload : PyValue) : Parsed ScheduleRule := do
  let entries ← asDict payload "a rule must be an object"
  let stamp ← parseStamp entries
  let fields ← parseEditable texts
    (.dict (entries.filter fun entry => entry.1 ∈ editableFields))
  return { fields with
    id := stamp.id, revision := stamp.revision, updatedAt := stamp.updatedAt,
    updatedBy := stamp.updatedBy }

/-! ### Writing -/

/-- The editable fields of a rule in their JSON form, with the JSON form of its timing. -/
def editableFieldsOf (rule : EditableRule) (timing : PyValue) : List (String × PyValue) :=
  [("name", .str rule.name), ("enabled", .bool rule.enabled),
    ("target", .dict ([("scope", .str (if rule.action.perDevice then "device" else "system"))] ++
      fieldOf "device" rule.device .str ++ fieldOf "identity" rule.identity .str)),
    ("action", .dict ([("id", .str rule.action.id), ("value", rule.value)] ++
      if rule.endValue.isNone then [] else [("end_value", rule.endValue)])),
    ("when", timing)]

/-- What the store adds, around the editable fields. -/
def stampFields (fields : List (String × PyValue)) (stamp : RuleStamp) : PyValue := .dict
  ([("id", .str stamp.id), ("revision", .int stamp.revision)] ++ fields ++
    [("updated_at", .str (formatUtc stamp.updatedAt)), ("updated_by", .str stamp.updatedBy)])

def ScheduleRule.stamp (rule : ScheduleRule) : RuleStamp :=
  { id := rule.id, revision := rule.revision, updatedAt := rule.updatedAt, updatedBy := rule.updatedBy }

def rulePayload (rule : ScheduleRule) : PyValue :=
  stampFields (editableFieldsOf rule.toEditableRule (whenPayload rule.timing)) rule.stamp

end SolarFlowEms.Schedule
