import SolarFlowEms.Config.GridMeterEdits
import SolarFlowEms.Config.Placeholders
import SolarFlowEms.Library.NestedPaths
import SolarFlowEms.Library.Run
import SolarFlowEms.Runtime.RuntimeCommands

/-!
# Edits of the fields of the catalog

The catalog declares what may be edited: the type of each field, its bounds and its options.  A value
that a client sends is read leniently by the type of its field and then checked.  What the type
cannot hold is refused, and anything else is written where the field stands, or under its key in the
entry of a device.
-/

namespace SolarFlowEms.Config.Catalog

open Python Documents
open SolarFlowEms.Runtime (truncate dictPop)

/-! ### Fields -/

/-- The `type` of a field. -/
inductive Kind where
  | boolean
  | integer
  | number
  | monthList
  | integerList
  | stringList
  | select
  | text
  | url
  | password
  | time
  | duration
  | readonly
deriving DecidableEq

def Kind.isTextual : Kind → Bool
  | .select | .text | .url | .password | .time | .duration | .readonly => true
  | _ => false

/-- A field of the catalog, as far as an edit reads it; `options` are the values that it offers. -/
structure Field where
  kind : Kind
  min : Option ℚ := none
  max : Option ℚ := none
  options : Option (List PyValue) := none
  secretRisk : Bool := false

/-- `is_secret_catalog_field`. -/
def Field.isSecret (field : Field) : Bool := field.secretRisk || field.kind = .password

/-! ### Reading a sent value -/

def trueWords : List String := ["1", "true", "yes", "on"]

def falseWords : List String := ["0", "false", "no", "off"]

/-- `coerce_catalog_value` of a switch. -/
def coerceBoolean : PyValue → PyValue
  | .bool b => .bool b
  | .str text => .bool ((pyStrip text).toLower ∈ trueWords)
  | value => .bool (truthy value)

section

variable (texts : MeterTexts)

/-- `coerce_catalog_value` of an integer. -/
def coerceInteger : PyValue → PyValue
  | .bool b => .int (if b then 1 else 0)
  | .int z => .int z
  | .float (.finite x) => .int (truncate x)
  | .str text =>
    match texts.int text with
    | some z => .int z
    | none => .str text
  | value => value

/-- The whole number that a text is, where it is one. -/
def wholeNumber (text : String) : Option ℤ :=
  match texts.float text with
  | some (.finite x) => if x.den = 1 then some x.num else none
  | _ => none

/-- The items of a list of numbers, where each is one; those without a text are left out. -/
def wholeNumbers : List String → Option (List ℤ)
  | [] => some []
  | text :: rest =>
    if pyStrip text = "" then wholeNumbers rest
    else (wholeNumber texts (pyStrip text)).bind fun number =>
      (wholeNumbers rest).map fun numbers => number :: numbers

def coerceIntList (value : PyValue) : PyValue :=
  let items : Option (List String) :=
    match value with
    | .str text =>
      some ((text.toList.splitOnP fun c => c = ';' || c = ',').map String.ofList)
    | .list items => some (items.map texts.str)
    | _ => none
  match items.bind (wholeNumbers texts) with
  | some numbers => .list (numbers.map .int)
  | none => value

/-- A value read by a type. -/
def readAs (kind : Kind) (value : PyValue) : PyValue :=
  match kind with
  | .boolean => coerceBoolean value
  | .integer => coerceInteger texts value
  | .number => coerceNumber texts value
  | .monthList | .integerList => coerceIntList texts value
  | .stringList => coerceStringList texts value
  | _ => stripped value

def coerceCatalogValue (field : Field) (value : PyValue) : PyValue :=
  if value.isNone then .none else readAs texts field.kind value

/-! ### Checking what was read -/

def isBool : PyValue → Bool
  | .bool _ => true
  | _ => false

/-- Whether `raw` says yes or no. -/
def isSwitch : PyValue → Bool
  | .bool _ => true
  | .str text => (pyStrip text).toLower ∈ trueWords ++ falseWords
  | value => value.number?.isSome && (value.eqInt 0 || value.eqInt 1)

/-- `isinstance(raw, float) and not raw.is_integer()`. -/
def isFraction : PyValue → Bool
  | .float (.finite x) => x.den ≠ 1
  | .float _ => true
  | _ => false

/-- Whether `_range_problem` names one. -/
def hasRangeProblem (field : Field) (value : PyValue) : Bool :=
  match value.number? with
  | some (.finite x) => field.min.any (fun least => x < least) || field.max.any (fun most => most < x)
  | _ => false

def isMonth (value : PyValue) : Bool := value.int?.any fun z => decide (1 ≤ z ∧ z ≤ 12)

/-- Whether `_value_problem` names one. -/
def hasValueProblem (field : Field) (raw coerced : PyValue) : Bool :=
  match field.kind with
  | .boolean => !isSwitch raw
  | .integer =>
    isBool raw || coerced.int?.isNone || isFraction raw || !isFiniteNumber texts coerced ||
      hasRangeProblem field coerced
  | .number => isBool raw || !isFiniteNumber texts coerced || hasRangeProblem field coerced
  | .monthList => !coerced.list?.any fun items => items.all isMonth
  | .integerList => !coerced.list?.any fun items => items.all fun item => item.int?.isSome
  | .stringList => coerced.list?.isNone
  | _ => false

def resolveChange (field : Field) (change : ConfigChange) : Resolved :=
  match change.operation with
  | .keep => .keep
  | .clear => .clear
  | .set =>
    let value := stripped change.value
    if isNoneOrEmpty value then
      if field.isSecret then .keep else .clear
    else
      let coerced := coerceCatalogValue texts field value
      if hasValueProblem texts field value coerced then .invalid else .set coerced

/-- `_EXACT_COERCION_TYPES`. -/
def Kind.coercesExactly : Kind → Bool
  | .integer | .number | .monthList | .integerList | .stringList => true
  | _ => false

def isStoredValue (stored : Option PyValue) (field : Field) (raw : PyValue) : Bool :=
  match stored with
  | none => false
  | some stored =>
    looseEq stored (stripped raw) ||
      field.kind.coercesExactly && looseEq stored (coerceCatalogValue texts field (stripped raw))

end

/-! ### Applying changes -/

/-- `path.split(".")`. -/
def pathParts (path : String) : List String := (path.toList.splitOn '.').map String.ofList

def getConfigPath (config : Entries) (path : String) : Option PyValue :=
  valueAt (.dict config) (pathParts path)

def setConfigPath (config : Entries) (path : String) (value : PyValue) : Entries :=
  writeAt value config (pathParts path)

/-- `clear_config_path`, where it removes something. -/
def clearConfigPath (config : Entries) (path : String) : Option Entries :=
  removeAt config (pathParts path)

/-- What an edit has made so far: the config, or the entry of a device, what was applied to it, and
the issues. -/
structure Edited where
  config : Entries
  applied : List AppliedChange := []
  issues : List MutationIssue := []

def invalidValueIssue (path : String) : MutationIssue := ⟨"config_value_invalid", "error", path⟩

def notWritableIssue (path : String) : MutationIssue := ⟨"config_field_not_writable", "info", path⟩

def Edited.report (s : Edited) (issue : MutationIssue) : Edited :=
  { s with issues := s.issues ++ [issue] }

def Edited.apply (s : Edited) (config : Entries) (path : String) (operation : Operation) : Edited :=
  { s with config, applied := s.applied ++ [⟨path, operation⟩] }

section

variable (texts : MeterTexts) (policy : MutationPolicy)

def applyOne (field : Field) (s : Edited) (change : ConfigChange) : Edited :=
  match resolveChange texts field change with
  | .invalid =>
    if isStoredValue texts (getConfigPath s.config change.path) field change.value then s
    else s.report (invalidValueIssue change.path)
  | .keep => s
  | .clear =>
    if policy.allowRemove then
      match clearConfigPath s.config change.path with
      | some config => s.apply config change.path .clear
      | none => s
    else s
  | .set value =>
    if (getConfigPath s.config change.path).isNone && !policy.allowCreate then s
    else s.apply (setConfigPath s.config change.path value) change.path .set

/-- A path that the loop skips: without a text, or of a repeated entry. -/
def isSkipped (path : String) : Bool := path = "" || contains path "[]"

variable (index : String → Option Field)

/-- One round of the loop of `apply_config_changes`. -/
def applyChange (s : Edited) (change : ConfigChange) : Edited :=
  if isSkipped change.path then s
  else
    match index change.path with
    | none => s.report (notWritableIssue change.path)
    | some field => applyOne texts policy field s change

def applyConfigChanges (config : Entries) (changes : List ConfigChange) : Edited :=
  changes.foldl (applyChange texts policy index) { config }

/-- One round of the loop of `apply_common_values`, with or without a list for the issues. -/
def applyCommonValue (values : Entries) (reports : Bool) (s : Edited) (entry : String × Field) :
    Edited :=
  match dictGet values entry.1 with
  | none => s
  | some raw =>
    match resolveChange texts entry.2 ⟨entry.1, raw, .set⟩ with
    | .invalid =>
      if reports && !isStoredValue texts (dictGet s.config entry.1) entry.2 raw then
        s.report (invalidValueIssue entry.1)
      else s
    | .keep => s
    | .clear =>
      if (dictGet s.config entry.1).isSome then
        s.apply (dictPop s.config entry.1) entry.1 .clear
      else s
    | .set value => s.apply (dictSet s.config entry.1 value) entry.1 .set

def applyCommonValues (target values : Entries) (fields : List (String × Field)) (reports : Bool) :
    Edited :=
  fields.foldl (applyCommonValue texts values reports) { config := target }

end

end SolarFlowEms.Config.Catalog
