import SolarFlowEms.Config.Brokers
import SolarFlowEms.Runtime.RuntimeDevices

/-!
# Edits of the grid meter

An edit sets a key of the meter's block, clears it, or keeps it.  The settings of a meter that is
read over MQTT stand in a block of their own, or, in an older config, beside the meter's other keys.
An edit is written where the settings already are if the workflow keeps old spellings, and into the
block otherwise.  Where the type of the meter changes, what another type has carried goes first.
-/

namespace SolarFlowEms.Config

open Python Documents
open SolarFlowEms.Runtime (dictPop)

/-! ### The catalog of meters -/

/-- A kind of meter: the keys of its form at the top of the block and under `mqtt`. -/
structure Variant where
  fields : List String
  mqttFields : List String
  defaultPort : Option ℕ
deriving DecidableEq

def gridMeterVariants : List (String × Variant) :=
  [("shelly", ⟨["ip", "channels"], [], some 80⟩),
    ("shelly_3em_gen1", ⟨["ip", "channels"], [], some 80⟩),
    ("ecotracker", ⟨["ip"], [], some 80⟩),
    ("zendure_grid_meter_http", ⟨["ip"], [], some 80⟩),
    ("zendure_smartmeter_3ct_http", ⟨["ip"], [], some 80⟩),
    ("zendure_smartmeter_d0_http", ⟨["ip"], [], some 80⟩),
    ("tasmota_http", ⟨["ip", "url", "power_path"], [], some 80⟩),
    ("e3dc_modbus", ⟨["ip", "unit_id"], [], some 502⟩),
    ("zendure_smartmeter_d0", ⟨[], ["host", "port", "username", "password", "topic",
      "payload_format", "max_age_seconds"], none⟩),
    ("mqtt", ⟨[], ["host", "port", "username", "password", "topic", "payload_format", "value_path",
      "max_age_seconds"], none⟩)]

def sharedHttpGridMeterKeys : List String := ["ip", "port"]

/-- The keys that a meter of the kind may have at the top of its block. -/
def Variant.keys (variant : Variant) : List String :=
  "type" :: variant.fields ++
    if variant.mqttFields = [] then sharedHttpGridMeterKeys else ["mqtt"]

/-- `grid_meter_variant_field_spec`. -/
def gridMeterVariant (gridType : String) : Option Variant := gridMeterVariants.lookup gridType

def gridMeterKnownTopKeys : List String :=
  (gridMeterVariants.flatMap fun variant => variant.2.keys).filter (· ≠ "type")

def gridMeterKnownMqttKeys : List String :=
  gridMeterVariants.flatMap fun variant => variant.2.mqttFields

def gridMeterPortCarriesOver (fromType toType : String) : Bool :=
  match (gridMeterVariant fromType).bind Variant.defaultPort with
  | none => false
  | some port => (gridMeterVariant toType).bind Variant.defaultPort = some port

/-- The types of the catalog's fields of a meter. -/
inductive FieldType where
  | select
  | text
  | url
  | password
  | number
  | stringList
deriving DecidableEq

structure CatalogField where
  type : FieldType
  min : Option ℤ
  max : Option ℤ
deriving DecidableEq

/-- `is_secret_catalog_field`, of these fields. -/
def CatalogField.isSecret (field : CatalogField) : Bool := field.type = .password

/-- `_grid_meter_field`: the fields of the catalog, of which every workflow may write each, and the
port that it does not declare. -/
def gridMeterField : String → Option CatalogField
  | "type" => some ⟨.select, none, none⟩
  | "ip" => some ⟨.text, none, none⟩
  | "channels" => some ⟨.stringList, none, none⟩
  | "url" => some ⟨.url, none, none⟩
  | "power_path" => some ⟨.text, none, none⟩
  | "unit_id" => some ⟨.number, some 0, some 255⟩
  | "port" => some ⟨.number, none, none⟩
  | "mqtt.host" => some ⟨.text, none, none⟩
  | "mqtt.port" => some ⟨.number, none, none⟩
  | "mqtt.username" => some ⟨.text, none, none⟩
  | "mqtt.password" => some ⟨.password, none, none⟩
  | "mqtt.topic" => some ⟨.text, none, none⟩
  | "mqtt.payload_format" => some ⟨.select, none, none⟩
  | "mqtt.value_path" => some ⟨.text, none, none⟩
  | "mqtt.max_age_seconds" => some ⟨.number, none, none⟩
  | _ => none

/-! ### Values -/

/-- Beyond the texts of the loader: `float(z)` of an integer, which is missing where no float
holds it. -/
structure MeterTexts extends LoaderTexts where
  floatOfInt : ℤ → Option ℚ

mutual

/-- `left == right`. -/
def looseEq : PyValue → PyValue → Bool
  | .none, .none => true
  | .str s, .str t => s = t
  | .list xs, .list ys => looseEqItems xs ys
  | .dict xs, .dict ys => xs.length = ys.length && looseEqEntries xs ys
  | .bool b, right => right.eqInt (if b then 1 else 0)
  | .int z, right => right.eqInt z
  | .float (.finite x), .float (.finite y) => x = y
  | .float (.finite x), right => x.den = 1 && right.eqInt x.num
  | .float x, .float y => x = y && x ≠ .nan
  | _, _ => false

def looseEqItems : List PyValue → List PyValue → Bool
  | [], [] => true
  | x :: xs, y :: ys => looseEq x y && looseEqItems xs ys
  | _, _ => false

def looseEqEntries : Entries → Entries → Bool
  | [], _ => true
  | (key, x) :: xs, ys =>
    (match dictGet ys key with
      | some y => looseEq x y
      | none => false) && looseEqEntries xs ys

end

/-- `type(left) is type(right)`. -/
def sameType : PyValue → PyValue → Bool
  | .none, .none => true
  | .bool _, .bool _ => true
  | .int _, .int _ => true
  | .float _, .float _ => true
  | .str _, .str _ => true
  | .list _, .list _ => true
  | .dict _, .dict _ => true
  | _, _ => false

def integral : PyFloat → PyValue
  | .finite x => if x.den = 1 then .int x.num else .float (.finite x)
  | x => .float x

section

variable (texts : MeterTexts)

def coerceStringList : PyValue → PyValue
  | .list items =>
    .list (((items.map fun item => pyStrip (texts.str item)).filter (· ≠ "")).map .str)
  | .str text =>
    .list ((((text.splitOn ",").map pyStrip).filter (· ≠ "")).map .str)
  | value => value

/-- `coerce_catalog_value` of a number. -/
def coerceNumber : PyValue → PyValue
  | .bool b => .int (if b then 1 else 0)
  | .int z =>
    match texts.floatOfInt z with
    | some x => integral (.finite x)
    | none => .int z
  | .float x => integral x
  | .str text =>
    match texts.float text with
    | some x => integral x
    | none => .str text
  | value => value

def stripped : PyValue → PyValue
  | .str text => .str (pyStrip text)
  | value => value

/-- `coerce_catalog_value`; a key without a field is read as a text. -/
def coerceCatalogValue (field : Option CatalogField) (value : PyValue) : PyValue :=
  match field.map CatalogField.type with
  | some .number => coerceNumber texts value
  | some .stringList => coerceStringList texts value
  | _ => stripped value

def isFiniteNumber : PyValue → Bool
  | .int z => (texts.floatOfInt z).isSome
  | .float (.finite _) => true
  | _ => false

/-- The number of a value is out of the field's range. -/
def outOfRange (field : CatalogField) (value : PyValue) : Bool :=
  match value.number? with
  | some (.finite x) => field.min.any (fun least => x < least) || field.max.any (fun most => most < x)
  | _ => false

/-- Whether `_value_problem` names one. -/
def hasValueProblem (field : Option CatalogField) (raw coerced : PyValue) : Bool :=
  match field with
  | none => false
  | some field =>
    match field.type with
    | .number =>
      (match raw with
        | .bool _ => true
        | _ => false) || !isFiniteNumber texts coerced || outOfRange field coerced
    | .stringList => coerced.list?.isNone
    | _ => false

/-! ### Changes -/

inductive Operation where
  | set
  | clear
  | keep
deriving DecidableEq

structure ConfigChange where
  path : String
  value : PyValue
  operation : Operation

/-- What becomes of a change. -/
inductive Resolved where
  | keep
  | clear
  | set (value : PyValue)
  | invalid

def resolveChange (field : Option CatalogField) (change : ConfigChange) : Resolved :=
  match change.operation with
  | .keep => .keep
  | .clear => .clear
  | .set =>
    let value := stripped change.value
    if isNoneOrEmpty value then
      if field.any CatalogField.isSecret then .keep else .clear
    else
      let coerced := coerceCatalogValue texts field value
      if hasValueProblem texts field value coerced then .invalid else .set coerced

def isStoredValue (stored : Option PyValue) (field : Option CatalogField) (raw : PyValue) : Bool :=
  match stored with
  | none => false
  | some stored =>
    looseEq stored (stripped raw) ||
      field.any (fun field => field.type = .number ∨ field.type = .stringList) &&
        looseEq stored (coerceCatalogValue texts field (stripped raw))

structure MutationPolicy where
  preserveLegacyRepresentations : Bool
  allowCreate : Bool
  allowRemove : Bool
deriving DecidableEq

/-- `CredentialIntent`. -/
structure CredentialIntent where
  operation : Operation
  value : PyValue

structure MutationIssue where
  code : String
  severity : String
  path : String
deriving DecidableEq

structure AppliedChange where
  path : String
  operation : Operation
deriving DecidableEq

/-- `ConfigMutationResult`: the block, what was applied, and the issues. -/
structure Mutation where
  grid : Entries
  applied : List AppliedChange
  issues : List MutationIssue

/-- `GRID_METER_PREFIX + path`. -/
def meterPath (path : String) : String := "grid_meter." ++ path

def Mutation.apply (m : Mutation) (grid : Entries) (path : String) (operation : Operation) :
    Mutation :=
  { m with grid, applied := m.applied ++ [⟨meterPath path, operation⟩] }

def Mutation.issue (m : Mutation) (code severity path : String) : Mutation :=
  { m with issues := m.issues ++ [⟨code, severity, meterPath path⟩] }

def Mutation.refuse (m : Mutation) (stored : Option PyValue) (field : Option CatalogField)
    (raw : PyValue) (path : String) : Mutation :=
  if isStoredValue texts stored field raw then m else m.issue "config_value_invalid" "error" path

end

/-! ### The parts of a list of changes -/

/-- `path.partition(".")`, without the dot. -/
def partitionPath (path : String) : String × String :=
  (String.ofList (path.toList.takeWhile (· ≠ '.')),
    String.ofList ((path.toList.dropWhile (· ≠ '.')).drop 1))

/-- The changes under `mqtt`, with what follows the dot for their paths. -/
def mqttChanges (changes : List ConfigChange) : List ConfigChange :=
  changes.filterMap fun change =>
    let parts := partitionPath change.path
    if parts.1 = "mqtt" ∧ parts.2 ≠ "" then some { change with path := parts.2 } else none

def typeChanges (changes : List ConfigChange) : List ConfigChange :=
  changes.filter fun change => (partitionPath change.path).1 = "type"

def topChanges (changes : List ConfigChange) : List ConfigChange :=
  changes.filter fun change =>
    change.path ≠ "" ∧ (partitionPath change.path).1 ≠ "type" ∧ (partitionPath change.path).2 = ""

section

variable (texts : MeterTexts) (policy : MutationPolicy)

/-- `str(grid.get("type") or "").strip().lower()`. -/
def meterType (grid : Entries) : String := wordOr texts.toLoaderTexts (getValue grid "type") ""

def applyGridMeterType (m : Mutation) (change : ConfigChange) : Mutation :=
  match resolveChange texts (some ⟨.select, none, none⟩) change with
  | .set value =>
    let resolved := (pyStrip (texts.str value)).toLower
    if (getValue m.grid "type").eqStr resolved then m
    else m.apply (dictSet m.grid "type" (.str resolved)) "type" .set
  | _ => m

/-- `_apply_one`, of a change at the top of the block. -/
def applyOne (m : Mutation) (change : ConfigChange) : Mutation :=
  match gridMeterField change.path with
  | none => m.issue "config_field_not_writable" "info" change.path
  | some field =>
    match resolveChange texts (some field) change with
    | .invalid => m.refuse texts (dictGet m.grid change.path) (some field) change.value change.path
    | .keep => m
    | .clear =>
      if policy.allowRemove && (dictGet m.grid change.path).isSome then
        m.apply (dictPop m.grid change.path) change.path .clear
      else m
    | .set value =>
      if (dictGet m.grid change.path).isNone && !policy.allowCreate then m
      else m.apply (dictSet m.grid change.path value) change.path .set

/-! ### A change of type -/

def dictPopAll (keys : List String) (entries : Entries) : Entries := keys.foldl dictPop entries

def hasNested (grid : Entries) : Bool := (getValue grid "mqtt").dict?.isSome

/-- A change of the settings in the block, where there is one. -/
def changeNested (change : Entries → Entries) (grid : Entries) : Entries :=
  match getValue grid "mqtt" with
  | .dict nested => dictSet grid "mqtt" (.dict (change nested))
  | _ => grid

def stripIncompatibleGridMeterFields (grid : Entries) (gridType : String) : Entries :=
  match gridMeterVariant gridType with
  | none => dictPop grid "mqtt"
  | some variant =>
    let kept := dictPopAll (gridMeterKnownTopKeys.filter (· ∉ variant.keys)) grid
    if variant.mqttFields = [] then if hasNested kept then dictPop kept "mqtt" else kept
    else changeNested (dictPopAll (gridMeterKnownMqttKeys.filter (· ∉ variant.mqttFields))) kept

def stripStaleGridMeterKeys (grid : Entries) : Entries :=
  dictPopAll (gridMeterKnownMqttKeys.filter (· ∉ gridMeterKnownTopKeys))
    (stripIncompatibleGridMeterFields grid (meterType texts grid))

/-- What an applied change of the top of the block still is after the cleanup. -/
def stillApplied (grid : Entries) (change : AppliedChange) : Bool :=
  change.operation = .clear || grid.any fun entry => meterPath entry.1 = change.path

/-- The cleanup where the type is not what it was. -/
def afterTypeChange (originalType : String) (changes : List ConfigChange) (m : Mutation) :
    Mutation :=
  if meterType texts m.grid = originalType then m
  else
    let sendsPort := (topChanges changes).any (·.path = "port")
    let ported :=
      if !sendsPort && !gridMeterPortCarriesOver originalType (meterType texts m.grid) then
        dictPop m.grid "port"
      else m.grid
    let grid := stripStaleGridMeterKeys texts ported
    { m with grid, applied := m.applied.filter (stillApplied grid) }

/-! ### The settings under `mqtt` -/

def gridMeterMqttExtraKeys : List String := ["broker_ref"]

/-- What any kind of meter lets an editor write, in the order of the keys. -/
def knownEditorKeys : List String :=
  ["broker_ref", "host", "max_age_seconds", "payload_format", "port", "topic", "username",
    "value_path"]

/-- `editable_grid_meter_mqtt_keys`, of a type that is read over MQTT. -/
def editableGridMeterMqttKeys (gridType : String) : List String :=
  knownEditorKeys.filter fun key =>
    key ∈ gridMeterMqttExtraKeys ||
      (gridMeterVariant gridType).any fun variant => key ∈ variant.mqttFields

def keepsFlat (grid : Entries) : Bool :=
  policy.preserveLegacyRepresentations &&
    (gridMeterKnownMqttKeys.any fun key => (dictGet grid key).isSome) && !hasNested grid

/-- `container()[key] = value`. -/
def writeSetting (keepFlat : Bool) (grid : Entries) (key : String) (value : PyValue) : Entries :=
  match getValue grid "mqtt" with
  | .dict nested => dictSet grid "mqtt" (.dict (dictSet nested key value))
  | _ =>
    if keepFlat then dictSet grid key value else dictSet grid "mqtt" (.dict [(key, value)])

/-- `nested.pop(key)`, where there is a block. -/
def popNested (grid : Entries) (key : String) : Entries := changeNested (dictPop · key) grid

def isNested (grid : Entries) (key : String) : Bool :=
  (getValue grid "mqtt").dict?.any fun nested => (dictGet nested key).isSome

/-- A setting goes from the block, and from beside it where no other kind of meter has such a key. -/
def clearSetting (grid : Entries) (key : String) : Entries :=
  if key ∈ gridMeterKnownTopKeys then popNested grid key else dictPop (popNested grid key) key

def clearsSetting (grid : Entries) (key : String) : Bool :=
  isNested grid key || (dictGet grid key).isSome && key ∉ gridMeterKnownTopKeys

def isUnchanged (stored : Option PyValue) (value : PyValue) : Bool :=
  stored.any fun stored => looseEq stored value && sameType stored value

def changeOf (changes : List ConfigChange) (key : String) : Option ConfigChange :=
  ((mqttChanges changes).filter (·.path = key)).getLast?

/-- What becomes of the last change of a key. -/
def resolvedSetting (changes : List ConfigChange) (key : String) : Resolved :=
  match changeOf changes key with
  | none => .keep
  | some change => resolveChange texts (gridMeterField ("mqtt." ++ key)) change

/-- One key of `_apply_grid_meter_mqtt`, with the settings as they were read before. -/
def applySetting (changes : List ConfigChange) (current : Entries) (keepFlat : Bool)
    (m : Mutation) (key : String) : Mutation :=
  match resolvedSetting texts changes key with
  | .keep => m
  | .invalid =>
    m.refuse texts (dictGet current key) (gridMeterField ("mqtt." ++ key))
      (((changeOf changes key).map ConfigChange.value).getD .none) ("mqtt." ++ key)
  | .clear =>
    if policy.allowRemove && clearsSetting m.grid key then
      m.apply (clearSetting m.grid key) ("mqtt." ++ key) .clear
    else m
  | .set value =>
    if isUnchanged (dictGet current key) value then m
    else m.apply (writeSetting keepFlat m.grid key value) ("mqtt." ++ key) .set

def applyGridMeterCredential (credential : Option CredentialIntent) (keepFlat : Bool)
    (m : Mutation) : Mutation :=
  match credential with
  | none => m
  | some credential =>
    match credential.operation with
    | .keep => m
    | .clear =>
      if isNested m.grid "password" || (dictGet m.grid "password").isSome then
        m.apply (dictPop (popNested m.grid "password") "password") "mqtt.password" .clear
      else m
    | .set =>
      match credential.value with
      | .str text =>
        if text = "" then m
        else m.apply (writeSetting keepFlat m.grid "password" (.str text)) "mqtt.password" .set
      | _ => m

def applyGridMeterMqtt (changes : List ConfigChange) (credential : Option CredentialIntent)
    (m : Mutation) : Mutation :=
  let keepFlat := keepsFlat policy m.grid
  applyGridMeterCredential credential keepFlat
    ((editableGridMeterMqttKeys (meterType texts m.grid)).foldl
      (applySetting texts policy changes (gridMeterMqttSettings m.grid) keepFlat) m)

def applyGridMeterChanges (grid : Entries) (changes : List ConfigChange)
    (credential : Option CredentialIntent) : Mutation :=
  let typed := (typeChanges changes).foldl (applyGridMeterType texts) ⟨grid, [], []⟩
  let edited := (topChanges changes).foldl (applyOne texts policy) typed
  let cleaned := afterTypeChange texts (meterType texts grid) changes edited
  if meterType texts cleaned.grid ∈ mqttGridMeterTypes then
    applyGridMeterMqtt texts policy changes credential cleaned
  else cleaned

end

end SolarFlowEms.Config
