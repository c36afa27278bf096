import SolarFlowEms.Library.Document

/-!
# The upgrade of a stored configuration

A new release may bring settings that a stored configuration lacks.  The upgrade plan migrates
the configuration to the current schema, merges the template's values under it, each device
getting what the template's sample device has, and lists what that added: the settings, the
comments, the changes of the migrations.  It also lists the comments that differ from the
template's, which a refresh replaces.
-/

namespace SolarFlowEms.Config

open Python Documents

/-! ### What the code uses of its library -/

/-- `str(value)`, `repr(value)` and `int(text)`. -/
structure ConfigTexts where
  str : PyValue → String
  repr : PyValue → String
  int : String → Option ℤ
  str_str : ∀ s, str (.str s) = s

theorem getD_str?_str (s : String) : (PyValue.str s).str?.getD "" = s := rfl

/-- How a plan ends when it has no result: with a refusal that its callers report, or with an
exception that they do not name. -/
inductive UpgradeFailure where
  | refused (message : String)
  | overflowError
  | typeError
  | keyError
deriving DecidableEq

abbrev Upgraded (α : Type*) := Except UpgradeFailure α

/-- `bool(value)`. -/
def truthy : PyValue → Bool
  | .none => false
  | .bool b => b
  | .int z => z ≠ 0
  | .float x => x ≠ .finite 0
  | .str s => s ≠ ""
  | .list items => !items.isEmpty
  | .dict entries => !entries.isEmpty

def isCommentKey (key : String) : Bool := "_comment".toList.isPrefixOf key.toList

section

variable (texts : ConfigTexts)

/-! ### Devices that are only read -/

/-- `str(item.get("type") or "").strip().lower()`. -/
def deviceConfigType : PyValue → String
  | .dict entries =>
    let type := getValue entries "type"
    if truthy type then (pyStrip (texts.str type)).toLower else ""
  | _ => ""

def isReadOnlyDeviceConfig (item : PyValue) : Bool := deviceConfigType texts item = "e3dc_modbus"

def takesDefaults (item : PyValue) : Bool :=
  item.dict?.isSome && !isReadOnlyDeviceConfig texts item

/-! ### Schema migrations -/

def latestConfigSchemaVersion : ℤ := 3

def schemaVersionKey : String := "config_schema_version"

def invalidSchemaVersion {α : Type*} (value : PyValue) : Upgraded α :=
  .error (.refused ("invalid config_schema_version: " ++ texts.repr value))

def readConfigSchemaVersion (config : Entries) : Upgraded ℤ :=
  let atLeastOne (value : PyValue) (parsed : ℤ) : Upgraded ℤ :=
    if parsed < 1 then invalidSchemaVersion texts value else .ok parsed
  match getValue config schemaVersionKey with
  | .none => .ok 1
  | .bool b => atLeastOne (.bool b) (if b then 1 else 0)
  | .int z => atLeastOne (.int z) z
  | .float (.finite q) => atLeastOne (.float (.finite q)) (q.num.tdiv q.den)
  | .float .nan => invalidSchemaVersion texts (.float .nan)
  | .float _ => .error .overflowError
  | .str s =>
    match texts.int s with
    | some z => atLeastOne (.str s) z
    | none => invalidSchemaVersion texts (.str s)
  | value => invalidSchemaVersion texts value

/-- A change that a migration made, for the report. -/
structure Change where
  path : String
  value : PyValue
  reason : String

structure SchemaStep where
  fromVersion : ℤ
  toVersion : ℤ
  description : String
  changes : List Change

/-- The old meter block becomes the grid meter of a configuration that has none. -/
def migrateConfig1To2 (config : Entries) : Entries × List Change :=
  match dictGet config "grid_meter", getValue config "shelly" with
  | none, .dict legacyShelly =>
    let ip := getValue legacyShelly "ip"
    if truthy ip then
      (dictSet config "grid_meter" (.dict [("type", .str "shelly"), ("ip", .str (texts.str ip))]),
        [⟨"grid_meter.ip", .str (texts.str ip), "from legacy shelly.ip"⟩])
    else (config, [])
  | _, _ => (config, [])

def migrateConfig2To3 (config : Entries) : Entries × List Change := (config, [])

/-- The migration that leads from a version to the next. -/
def configMigrations (version : ℤ) : Option (String × (Entries → Entries × List Change)) :=
  if version = 1 then some ("migrate legacy grid meter settings", migrateConfig1To2 texts)
  else if version = 2 then some ("enable template-sync-only schema marker", migrateConfig2To3)
  else none

/-- The migrations from a version on, as many as are given. -/
def migrateFrom : ℕ → ℤ → Entries → Upgraded (Entries × List SchemaStep)
  | 0, _, config => .ok (config, [])
  | count + 1, version, config =>
    match configMigrations texts version with
    | none => .error (.refused (s!"missing config schema migration {version} -> {version + 1}" ++
        "; config.json not changed"))
    | some (description, migration) => do
      let (migrated, changes) := migration config
      let (final, steps) ← migrateFrom count (version + 1) migrated
      return (final, ⟨version, version + 1, description, changes⟩ :: steps)

def runConfigSchemaMigrations (config : Entries) : Upgraded (Entries × List SchemaStep) := do
  let current ← readConfigSchemaVersion texts config
  if latestConfigSchemaVersion < current then
    .error (.refused (s!"config_schema_version {current} is newer than this EMS supports " ++
      s!"({latestConfigSchemaVersion}); config.json appears to come from a newer EMS version"))
  else
    let (migrated, steps) ←
      migrateFrom texts (latestConfigSchemaVersion - current).toNat current config
    return (dictSet migrated schemaVersionKey (.int latestConfigSchemaVersion), steps)

/-! ### The template -/

/-- What the template gives: its settings without its sample devices, and what its first sample
device has beyond a name, an address and a serial. -/
structure TemplateData where
  view : Entries
  deviceDefaults : Entries

/-- `sample_devices[0]`, where there are sample devices. -/
def firstSample : PyValue → Upgraded PyValue
  | .list (device :: _) => .ok device
  | .dict (_ :: _) => .error .keyError
  | .bool true => .error .typeError
  | .int z => if z = 0 then .ok .none else .error .typeError
  | .float x => if x = .finite 0 then .ok .none else .error .typeError
  | _ => .ok .none

def loadTemplateUpgradeData (template : Entries) : Upgraded TemplateData := do
  let sample ← firstSample (getValue template "devices")
  let deviceDefaults :=
    match sample with
    | .dict entries => entries.filter fun entry => entry.1 ∉ ["name", "ip", "sn"]
    | _ => []
  let view := dictSet (dictSet template schemaVersionKey (.int latestConfigSchemaVersion))
    "devices" (.list [])
  return ⟨view.filter fun entry => entry.1 ≠ "shelly", deviceDefaults⟩

/-! ### Merging the template -/

def enrichDevice (deviceDefaults : Entries) (item : PyValue) : PyValue :=
  if takesDefaults texts item then mergeUnder (.dict deviceDefaults) item else item

def mergeTemplateUpgradeView (data : TemplateData) (config : Entries) : Entries :=
  let upgraded := mergeDict data.view config
  match getValue config "devices" with
  | .list devices =>
    dictSet upgraded "devices" (.list (devices.map (enrichDevice texts data.deviceDefaults)))
  | _ => upgraded

end

/-! ### What was added -/

def formatStep (result : String) : PathStep → String
  | .index i => result ++ s!"[{i}]"
  | .key name => if result = "" then name else result ++ "." ++ name

def formatPath (path : Path) : String := path.foldl formatStep ""

mutual

/-- The paths of the values that the original lacks, from the value on: of the settings, or of
the comments.  Comments are reported whole. -/
def collectAddedPaths (comments : Bool) (original : Option PyValue) : PyValue → List Path
  | .dict entries =>
    let known := (original.bind PyValue.dict?).getD []
    if comments then collectCommentKeys known entries ++ collectKeys true known entries
    else collectKeys false known entries
  | .list items =>
    collectAddedItems comments ((original.bind PyValue.list?).getD []) 0 items
  | _ => if comments then [] else if original.isNone then [[]] else []

/-- The comments of one object. -/
def collectCommentKeys (known : Entries) : List (String × PyValue) → List Path
  | [] => []
  | (key, _) :: entries =>
    (if isCommentKey key && (dictGet known key).isNone then [[.key key]] else []) ++
      collectCommentKeys known entries

/-- What is below the keys that are no comments. -/
def collectKeys (comments : Bool) (known : Entries) : List (String × PyValue) → List Path
  | [] => []
  | (key, value) :: entries =>
    (if isCommentKey key then []
      else (collectAddedPaths comments (dictGet known key) value).map (.key key :: ·)) ++
      collectKeys comments known entries

def collectAddedItems (comments : Bool) (known : List PyValue) : ℕ → List PyValue → List Path
  | _, [] => []
  | i, value :: items =>
    (collectAddedPaths comments known[i]? value).map (.index i :: ·) ++
      collectAddedItems comments known (i + 1) items

end

/-- An entry of the report. -/
structure AddedItem where
  path : String
  value : PyValue

def itemsFromPaths (upgraded : PyValue) (paths : List Path) : List AddedItem :=
  paths.map fun path => ⟨formatPath path, (at? upgraded path).getD .none⟩

/-! ### Comments -/

mutual

/-- The comments of a value, with their paths. -/
def collectCommentItems : PyValue → List (Path × PyValue)
  | .dict entries => commentItemsOfKeys entries
  | .list items => commentItemsOfItems 0 items
  | _ => []

def commentItemsOfKeys : List (String × PyValue) → List (Path × PyValue)
  | [] => []
  | (key, value) :: entries =>
    (if isCommentKey key then [([.key key], value)]
      else (collectCommentItems value).map fun item => (.key key :: item.1, item.2)) ++
      commentItemsOfKeys entries

def commentItemsOfItems : ℕ → List PyValue → List (Path × PyValue)
  | _, [] => []
  | i, value :: items =>
    ((collectCommentItems value).map fun item => (.index i :: item.1, item.2)) ++
      commentItemsOfItems (i + 1) items

end

section

variable (texts : ConfigTexts)

/-- The comments of the devices from an index on, which the template's device gives. -/
def commentItemsOfDevices (data : TemplateData) : ℕ → List PyValue → List (Path × PyValue)
  | _, [] => []
  | index, device :: devices =>
    (if takesDefaults texts device then
      (collectCommentItems (.dict data.deviceDefaults)).map fun item =>
        (.key "devices" :: .index index :: item.1, item.2)
    else []) ++ commentItemsOfDevices data (index + 1) devices

def templateCommentItemsForConfig (data : TemplateData) (config : Entries) :
    List (Path × PyValue) :=
  collectCommentItems (.dict data.view) ++
    match getValue config "devices" with
    | .list devices => commentItemsOfDevices texts data 0 devices
    | _ => []

/-- A comment that differs from the template's. -/
structure CommentDifference where
  path : String
  value : PyValue
  oldValue : PyValue

/-- `current != value`.  A NaN differs from itself; inside a list or an object Python asks for
identity first, and every NaN that `json` reads is one object. -/
def differs : PyValue → PyValue → Bool
  | .float .nan, _ => true
  | current, value => !equal current value

/-- A comment that is there and differs from the template's. -/
def commentDifference (config : PyValue) (item : Path × PyValue) : Option CommentDifference :=
  match at? config item.1 with
  | some current =>
    if differs current item.2 then some ⟨formatPath item.1, item.2, current⟩ else none
  | none => none

def templateCommentDifferences (data : TemplateData) (config : Entries) :
    List CommentDifference :=
  (templateCommentItemsForConfig texts data config).filterMap (commentDifference (.dict config))

/-- Replaces a comment that is there and differs. -/
def refreshComment (config : PyValue) (item : Path × PyValue) : PyValue :=
  match commentDifference config item with
  | some _ => setAt config item.1 item.2
  | none => config

/-- The configuration with the template's comments in the place of those that differ. -/
def refreshTemplateComments (data : TemplateData) (config : Entries) : PyValue :=
  (templateCommentItemsForConfig texts data config).foldl refreshComment (.dict config)

/-! ### The plan -/

structure UpgradePlan where
  upgradedConfig : Entries
  add : List AddedItem
  commentAdd : List AddedItem
  commentRefresh : List CommentDifference
  schemaMigrations : List SchemaStep
  changed : Bool

def UpgradePlan.migrate (plan : UpgradePlan) : List Change :=
  plan.schemaMigrations.flatMap SchemaStep.changes

def buildConfigUpgradePlan (template config : Entries) : Upgraded UpgradePlan := do
  let data ← loadTemplateUpgradeData template
  let (migrated, steps) ← runConfigSchemaMigrations texts config
  let upgraded := dictSet (mergeTemplateUpgradeView texts data migrated) schemaVersionKey
    (.int latestConfigSchemaVersion)
  let added := itemsFromPaths (.dict upgraded)
    (collectAddedPaths false (some (.dict config)) (.dict upgraded))
  let commentAdded := itemsFromPaths (.dict upgraded)
    (collectAddedPaths true (some (.dict config)) (.dict upgraded))
  let migrationPaths := (steps.flatMap SchemaStep.changes).map Change.path
  return {
    upgradedConfig := upgraded
    add := added.filter fun item => item.path ∉ migrationPaths
    commentAdd := commentAdded
    commentRefresh := templateCommentDifferences texts data config
    schemaMigrations := steps
    changed := !equal (.dict upgraded) (.dict config) }

end

end SolarFlowEms.Config
