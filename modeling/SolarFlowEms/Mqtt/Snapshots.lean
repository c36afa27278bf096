import SolarFlowEms.Library.Table
import SolarFlowEms.Mqtt.Topics

/-!
# Snapshots of the devices

Every message that carries telemetry is merged into the snapshot of the device that its topic names.
A report of a catalog device that cannot be read is no sign of life and leaves everything as it was.
What is handed on adds derived fields to the metrics of a snapshot, and keeps of all of them the
numbers that a float holds exactly.
-/

namespace SolarFlowEms.Mqtt.Telemetry

open Python Documents Tables
open SolarFlowEms.Discovery (TopicFamily)
open SolarFlowEms.Runtime (dictUpdate)

/-- `ZendureMqttSnapshot`.  The sets are lists without duplicates. -/
structure Snapshot where
  deviceId : String
  serialNumber : Option String := none
  productKey : Option String := none
  product : Option String := none
  topicFamilies : List TopicFamily := []
  metrics : Entries := []
  metricMonotonic : List (String × ℚ) := []
  observedMetrics : List String := []
  batteryPacks : List Entries := []
  capabilities : List String := []
  seenTopics : List String := []
  lastSeenEpoch : Option ℚ := none
  lastSeenMonotonic : Option ℚ := none

/-- A message, with the clocks as they are when it is observed. -/
structure Message where
  topic : String
  payload : ByteArray
  epoch : ℚ
  monotonic : ℚ

/-- The aggregator's `_devices`. -/
abbrev Devices := Table String Snapshot

/-- `SCALAR_FAMILIES`. -/
def isScalar (family : TopicFamily) : Bool :=
  family = .zensdkHaScalar || family = .zendureCloudScalar

def externalEntry : TopicFamily → Option ExternalTopicFamily
  | .external name => externalTopicFamilies.find? (·.family = name)
  | _ => none

/-! ### Merging a message -/

/-- The snapshot as one that the message was seen for. -/
def Snapshot.seen (snap : Snapshot) (message : Message) (found : TopicMatch) : Snapshot :=
  { snap with
    lastSeenEpoch := some message.epoch
    lastSeenMonotonic := some message.monotonic
    topicFamilies := snap.topicFamilies.insert found.family
    seenTopics := snap.seenTopics.insert message.topic
    observedMetrics := []
    serialNumber := snap.serialNumber.or found.serialNumber
    productKey := snap.productKey.or found.productKey }

/-- Metrics put into a snapshot at a time. -/
def Snapshot.observed (snap : Snapshot) (values : Entries) (monotonic : ℚ) : Snapshot :=
  { snap with
    metrics := dictUpdate snap.metrics values
    metricMonotonic := values.foldl (fun times entry => dictSet times entry.1 monotonic)
      snap.metricMonotonic
    observedMetrics := values.foldl (fun keys entry => keys.insert entry.1) snap.observedMetrics }

section

variable (texts : PayloadTexts)

/-- The properties of a report, with the texts that are numbers as numbers. -/
def coerceProperties : Entries → Py Entries
  | [] => .ok []
  | (key, value) :: rest => do
    let value ← coerceScalar texts value
    let values ← coerceProperties rest
    return (key, value) :: values

/-- A report in a snapshot, with its properties read. -/
def Snapshot.reported (snap : Snapshot) (report : ParsedReport) (properties : Entries)
    (monotonic : ℚ) : Snapshot :=
  let snap :=
    { snap with
      serialNumber := report.serialNumber.or snap.serialNumber
      product := snap.product.or report.product }.observed properties monotonic
  { snap with
    batteryPacks := if report.batteryPacks = [] then snap.batteryPacks else report.batteryPacks }

def mergeReport (snap : Snapshot) (message : Message) : Py Snapshot := do
  let report ← parseReportPayload texts message.payload
  let properties ← coerceProperties texts report.properties
  return snap.reported report properties message.monotonic

/-- What a message of a Zendure device makes of its snapshot. -/
def mergeZendure (snap : Snapshot) (message : Message) (found : TopicMatch) : Py Snapshot :=
  if isScalar found.family && found.metric ≠ "" then do
    let value ← coercePayload texts message.payload
    return snap.observed [(found.metric, value)] message.monotonic
  else if found.family.isJson then mergeReport texts snap message
  else .ok snap

def snapshotAt (devices : Devices) (key : String) : Snapshot :=
  (devices.lookup key).getD { deviceId := key }

/-- A message of a catalog device, with its readings. -/
def observeExternal (devices : Devices) (message : Message) (found : TopicMatch)
    (entry : ExternalTopicFamily) (readings : Option Entries) : Devices :=
  match readings with
  | none => devices
  | some values =>
    if values = [] then devices
    else
      let key := entry.snapshotKey found.deviceId
      devices.upsert key
        (((snapshotAt devices key).seen message found).observed values message.monotonic)

def observe (devices : Devices) (message : Message) : Py Devices :=
  let found := classifyTopic texts message.topic
  let deviceId := if found.deviceId = "" then found.serialNumber.getD "" else found.deviceId
  if found.family = .unknown ∨ deviceId = "" then .ok devices
  else
    match externalEntry found.family with
    | some entry => do
      let readings ← entry.readings texts found.metric message.payload
      return observeExternal devices message { found with deviceId } entry readings
    | none => do
      let snap ← mergeZendure texts ((snapshotAt devices deviceId).seen message found) message found
      return devices.upsert deviceId snap

def observeAll : Devices → List Message → Py Devices
  | devices, [] => .ok devices
  | devices, message :: rest => do observeAll (← observe texts devices message) rest

/-! ### Derived fields -/

def toNumber (value : PyValue) : Py (Option PyValue) := do
  let number ← coerceScalar texts value
  return if number.number?.isSome then some number else none

/-- What counts as on. -/
def onWords : List String := ["on", "true", "yes", "enabled"]

/-- `_truthy`. -/
def isOn (value : PyValue) : Py Bool := do
  match ← toNumber texts value with
  | some number => return Config.truthy number
  | none =>
    match value with
    | .str text => return decide ((pyStrip text).toLower ∈ onWords)
    | value => return Config.truthy value

/-- The keys that are known under another name, in the order in which they are looked up. -/
def aliases : List (String × String) :=
  [("Fanmode", "fan_mode"), ("fanMode", "fan_mode"), ("fanSpeed", "fan_speed"),
    ("Fanspeed", "fan_speed"), ("OldMode", "old_mode"), ("oldMode", "old_mode"),
    ("BatVolt", "battery_voltage_raw")]

def aliasFields (metrics : Entries) : Entries :=
  aliases.filterMap fun names => (dictGet metrics names.1).map fun value => (names.2, value)

/-- `_SOLAR_CHANNELS`, with the number of each. -/
def solarChannels : List (String × String) :=
  [("1", "solarPower1"), ("2", "solarPower2"), ("3", "solarPower3"), ("4", "solarPower4"),
    ("5", "solarPower5"), ("6", "solarPower6")]

def channelFields (metrics : Entries) : Entries :=
  let channels := solarChannels.filterMap fun channel =>
    (dictGet metrics channel.2).map fun value => (channel.1, value)
  if channels = [] then [] else [("pv_channels", .dict channels)]

def fanField (metrics : Entries) : Py Entries :=
  match dictGet metrics "fanSwitch" with
  | none => .ok []
  | some value => do return [("fan_enabled", .bool (← isOn texts value))]

/-- `number / 10 if number > 100 else number`. -/
def percentValue (number : PyValue) : Py PyValue :=
  match number.number? with
  | some (.finite x) => if 100 < x then tenth texts number else .ok number
  | some .posInf => tenth texts number
  | _ => .ok number

/-- A setting in percent, which some reports carry as tenths. -/
def percentField (metrics : Entries) (source target : String) : Py Entries := do
  match ← toNumber texts (getValue metrics source) with
  | none => return []
  | some number => return [(target, ← percentValue texts number)]

def normalizedFields (metrics : Entries) : Py Entries := do
  let fan ← fanField texts metrics
  let soc ← percentField texts metrics "socSet" "soc_set_percent"
  let least ← percentField texts metrics "minSoc" "min_soc_percent"
  return dictUpdate [] (fan ++ aliasFields metrics ++ channelFields metrics ++ soc ++ least)

/-- Whether the limit of a device's charging is one of several trackers. -/
def hasLargeChargeLimit (metrics : Entries) : Py Bool := do
  match ← toNumber texts (getValue metrics "chargeMaxLimit") with
  | none => return false
  | some number =>
    return match number.number? with
    | some (.finite x) => decide (2400 ≤ x)
    | some .posInf => true
    | _ => false

def inferCapabilities (metrics : Entries) (packs : List Entries) : Py (List String) := do
  let has := fun key => (dictGet metrics key).isSome
  let large ← hasLargeChargeLimit texts metrics
  return (if packs ≠ [] || has "packNum" || has "electricLevel" then ["battery_storage"] else []) ++
    (if has "solarInputPower" || solarChannels.any (fun channel => has channel.2) then ["pv_input"]
      else []) ++
    (if has "outputLimit" || has "inverseMaxPower" then ["output_control"] else []) ++
    (if has "inputLimit" || has "gridInputPower" || has "acMode" then ["ac_input_control"] else []) ++
    (if has "gridOffPower" || has "gridOffMode" then ["offgrid_output"] else []) ++
    (if has "solarPower5" || has "solarPower6" || has "phaseSwitch" || large then ["multi_mppt"]
      else [])

/-- A snapshot with its derived fields and its capabilities. -/
def Snapshot.normalized (snap : Snapshot) : Py Snapshot := do
  let fields ← normalizedFields texts snap.metrics
  let capabilities ← inferCapabilities texts snap.metrics snap.batteryPacks
  return { snap with metrics := dictUpdate snap.metrics fields, capabilities }

def snapshots (devices : Devices) : Py (List Snapshot) :=
  devices.rows.mapM fun row => row.2.normalized texts

end

/-! ### What is handed on -/

def exactFloatLimit : ℕ := 2 ^ 53

/-- A number, and `abs(value) < _EXACT_FLOAT_LIMIT`. -/
def isObservable : PyValue → Bool
  | .int z => z.natAbs < exactFloatLimit
  | .float (.finite x) => |x| < exactFloatLimit
  | _ => false

def observableMetrics (metrics : Entries) : Entries := metrics.filter fun entry => isObservable entry.2

end SolarFlowEms.Mqtt.Telemetry
