import SolarFlowEms.Discovery.SnapshotGroups
import SolarFlowEms.Mqtt.Payloads
import SolarFlowEms.Runtime.RuntimeDevices

/-!
# Topics of telemetry messages

A topic is classified by its shape alone, into the layouts that Zendure devices publish and those of
the project's own catalog of other devices.  The shape also tells which segment names the device.
The catalog says for each of its keys what a number that is published there means.
-/

namespace SolarFlowEms.Mqtt.Telemetry

open Python Documents
open SolarFlowEms.Discovery (TopicFamily isMaskedIdentityValue)

/-! ### The catalog of other devices -/

/-- A key of the catalog: what it makes of a number. -/
structure CatalogKey where
  read : PyValue → Option Entries

/-- The value of a number; anything else has none. -/
def numberValue : PyValue → Option ℚ
  | .int z => some z
  | .float (.finite x) => some x
  | _ => none

/-- `-value`. -/
def negated : PyValue → PyValue
  | .int z => .int (-z)
  | .float (.finite x) => .float (.finite (-x))
  | value => value

def nonNegative (metric : String) : CatalogKey where
  read value := if (numberValue value).any (0 ≤ ·) then some [(metric, value)] else none

def percent (metric : String) : CatalogKey where
  read value :=
    if (numberValue value).any fun x => 0 ≤ x ∧ x ≤ 100 then some [(metric, value)] else none

def signed (positive negative : String) : CatalogKey where
  read value :=
    some [(positive, if (numberValue value).any (0 < ·) then value else .int 0),
      (negative, if (numberValue value).any (· < 0) then negated value else .int 0)]

structure ExternalTopicFamily where
  family : String
  pathPrefix : String
  keys : List (String × CatalogKey)
  bundleKey : String

def emsSolarflow : ExternalTopicFamily where
  family := "ems_solarflow"
  pathPrefix := "ems-solarflow"
  keys :=
    [("inverterPower", nonNegative "outputHomePower"), ("solarPower", nonNegative "solarInputPower"),
      ("batteryPower", signed "outputPackPower" "packInputPower"),
      ("batterySoc", percent "electricLevel")]
  bundleKey := "state"

def emsConsumer : ExternalTopicFamily where
  family := "ems_consumer"
  pathPrefix := "ems-consumer"
  keys := [("power", nonNegative "consumerPower")]
  bundleKey := "state"

/-- The catalog. -/
def externalTopicFamilies : List ExternalTopicFamily := [emsSolarflow, emsConsumer]

namespace ExternalTopicFamily

variable (entry : ExternalTopicFamily)

/-- Where the readings of a device are kept. -/
def snapshotKey (deviceId : String) : String := entry.pathPrefix ++ "/" ++ deviceId

def reads (key : String) : Bool := key = entry.bundleKey || (entry.keys.lookup key).isSome

def reading (spec : CatalogKey) (value : Option PyValue) : Option Entries := value.bind spec.read

variable (texts : PayloadTexts)

/-- `_bundle_readings`, of the object; no reading at all is None. -/
def bundleReadings (data : Entries) : Option Entries :=
  let readings := (entry.keys.filterMap fun spec =>
    reading spec.2 (plainNumber texts (getValue data spec.1))).foldl Runtime.dictUpdate []
  if readings = [] then none else some readings

def readings (key : String) (payload : ByteArray) : Py (Option Entries) :=
  if key = entry.bundleKey then do
    match ← coerceJson texts payload with
    | .dict data => return entry.bundleReadings texts data
    | _ => return none
  else
    match entry.keys.lookup key with
    | none => .ok none
    | some spec => .ok (reading spec (plainPayload texts payload))

end ExternalTopicFamily

/-! ### Classification -/

structure TopicMatch where
  family : TopicFamily
  deviceId : String := ""
  serialNumber : Option String := none
  metric : String := ""
  productKey : Option String := none

/-- `"/".join(segments)`. -/
def joinSegments (segments : List String) : String := "/".intercalate segments

/-- `[A-Za-z0-9_-]{1,64}`. -/
def isDeviceName (value : String) : Bool :=
  value.toList.all (fun c => 'A' ≤ c && c ≤ 'Z' || 'a' ≤ c && c ≤ 'z' || isAsciiDigit c ||
    c = '_' || c = '-') && 1 ≤ value.length && value.length ≤ 64

def cloudScalarComponents : List String := ["sensor", "number", "switch", "select", "binary_sensor"]

/-- `Zendure/<component>/<device>/<metric>`. -/
def matchZendureScalar : List String → Option TopicMatch
  | "Zendure" :: _ :: device :: metric :: rest =>
    if device ≠ "" ∧ metric ≠ "" then
      some { family := .zensdkHaScalar, deviceId := device, serialNumber := some device,
             metric := joinSegments (metric :: rest) }
    else none
  | _ => none

/-- `<head>/<product key>/<device>/properties/report`. -/
def matchReport (head : String) (family : TopicFamily) : List String → Option TopicMatch
  | [first, productKey, device, "properties", "report"] =>
    if first = head ∧ productKey ≠ "" ∧ device ≠ "" then
      some { family, deviceId := device, productKey := some productKey }
    else none
  | _ => none

/-- `<app key>/<component>/<device>/<metric>`. -/
def matchCloudScalar : List String → Option TopicMatch
  | appKey :: component :: device :: metric :: rest =>
    if appKey ≠ "" ∧ appKey ∉ ["Zendure", "iot"] ∧ component ∈ cloudScalarComponents ∧
        device ≠ "" ∧ metric ≠ "" then
      some { family := .zendureCloudScalar, deviceId := device, serialNumber := some device,
             metric := joinSegments (metric :: rest) }
    else none
  | _ => none

section

variable (texts : PayloadTexts)

def validDeviceId (value : String) : Bool :=
  isDeviceName value && !isMaskedIdentityValue texts.toNameTexts value

def matchExternalTopic : List String → Option TopicMatch
  | [pathPrefix, device, key] =>
    (externalTopicFamilies.find? (·.pathPrefix = pathPrefix)).bind fun entry =>
      if validDeviceId texts device && entry.reads key then
        some { family := .external entry.family, deviceId := device, metric := key }
      else none
  | _ => none

/-- `topic.split("/")`. -/
def topicSegments (topic : String) : List String := (topic.toList.splitOn '/').map String.ofList

def classifyTopic (topic : String) : TopicMatch :=
  if topic = "" then { family := .unknown }
  else
    let segments := topicSegments topic
    ((matchZendureScalar segments).or <| (matchReport "iot" .legacyZendureJson segments).or <|
      (matchReport "" .legacyZendureJsonAlt segments).or <| (matchCloudScalar segments).or <|
      matchExternalTopic texts segments).getD { family := .unknown }

end

end SolarFlowEms.Mqtt.Telemetry
