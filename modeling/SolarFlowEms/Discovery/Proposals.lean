import SolarFlowEms.Discovery.SnapshotGroups

/-!
# What a group of snapshots is proposed as

The snapshots of a group are merged into one view, each field from the first snapshot that has it.
From the view a proposal is made: the role its metrics hint at, the model its product texts name, and
whether its output may be controlled.  That takes a writable model, a broker proven to carry the
write, both halves of the write route, and no conflict.
-/

namespace SolarFlowEms.Discovery

open Python Mqtt

/-! ### The view of a group -/

structure DeviceView where
  deviceId : Option String := none
  serialNumber : Option String := none
  productKey : Option String := none
  product : Option String := none
  products : List String := []
  modelEvidence : List (String × String) := []
  topicFamilies : List TopicFamily := []
  capabilities : List String := []
  metricKeys : List String := []
  seenTopics : List String := []
  preciseRoutes : List (String × String) := []
deriving DecidableEq

/-- `a or b` -/
def pyOr (a b : Option String) : Option String := if truthy a then a else b

def joined {α : Type*} [DecidableEq α] (s t : List α) : List α := s ++ (t.filter (· ∉ s)).dedup

def DeviceView.addModelEvidence (view : DeviceView) (source value : String) : DeviceView :=
  if pyStrip value = "" ∨ (source, pyStrip value) ∈ view.modelEvidence then view
  else { view with modelEvidence := view.modelEvidence ++ [(source, pyStrip value)] }

def evidenceFullReport : String := "full_report"

def DeviceView.addProduct (view : DeviceView) (product : Option String) : DeviceView :=
  match product.filter fun text => decide (pyStrip text ≠ "") with
  | some text =>
      ({ view with products := joined view.products [pyStrip text] }).addModelEvidence
        evidenceFullReport (pyStrip text)
  | none => view

section View

variable (texts : NameTexts)

def DeviceView.merge (view : DeviceView) (snap : ZendureMqttSnapshot) : DeviceView :=
  let view :=
    { view with
      deviceId := pyOr view.deviceId snap.deviceId
      serialNumber := pyOr view.serialNumber snap.serialNumber
      productKey := pyOr view.productKey snap.productKey
      product := pyOr view.product snap.product
      preciseRoutes :=
        match normalizeMqttRouteSegment texts snap.productKey,
            normalizeMqttRouteSegment texts snap.deviceId with
        | some routeProduct, some routeDevice =>
            joined view.preciseRoutes [(routeProduct, routeDevice)]
        | _, _ => view.preciseRoutes }
  let view := view.addProduct snap.product
  { view with
    topicFamilies := joined view.topicFamilies snap.topicFamilies
    capabilities := joined view.capabilities snap.capabilities
    metricKeys := joined view.metricKeys snap.metrics
    seenTopics := joined view.seenTopics (snap.seenTopics.filter (· ≠ "")) }

def viewOf (snaps : List ZendureMqttSnapshot) : DeviceView := snaps.foldl (DeviceView.merge texts) {}

end View

def seedableEvidenceSources : List String :=
  ["user_selection", "existing_config", "cloud_device_list", "retained_metadata", "product_key"]

/-- What is known of a device besides telemetry: under an identity, observations with their source;
an identity that nothing is known of has none. -/
abbrev SeedEvidence := String → List (String × String)

def seedViewEvidence (seedEvidence : SeedEvidence) (view : DeviceView) : DeviceView :=
  let known := [view.serialNumber, view.deviceId].map fun identity => identity.elim [] seedEvidence
  ((known.find? (· ≠ [])).getD []).foldl
    (fun view entry =>
      if entry.1 ∈ seedableEvidenceSources then view.addModelEvidence entry.1 entry.2 else view)
    view

/-! ### Roles, labels, topics -/

def TopicFamily.baseTopic : TopicFamily → Option String
  | .zensdkHaScalar => some "Zendure"
  | .legacyZendureJson => some "iot"
  | _ => none

def TopicFamily.code : TopicFamily → String
  | .zensdkHaScalar => "zensdk_ha_scalar"
  | .legacyZendureJson => "legacy_zendure_json"
  | .legacyZendureJsonAlt => "legacy_zendure_json_alt"
  | .zendureCloudScalar => "zendure_cloud_scalar"
  | .unknown => "unknown"
  | .external name => name

def socMetrics : List String := ["electricLevel", "socLevel", "soc_set_percent", "min_soc_percent"]

def powerMetrics : List String :=
  ["outputLimit", "inputLimit", "solarInputPower", "gridInputPower", "outputHomePower",
    "outputPackPower", "packInputPower", "inverseMaxPower", "solarPower1", "solarPower2",
    "solarPower3", "solarPower4", "solarPower5", "solarPower6"]

def gridMetrics : List String :=
  ["total_power", "totalPower", "grid_power", "gridPower", "gridInputPower", "gridImportPower",
    "gridExportPower"]

inductive RoleHint where
  | batteryInverter
  | gridMeter
  | telemetryOnly
  | unknown
deriving DecidableEq

def hasPower (metricKeys : List String) : Bool := metricKeys.any (· ∈ powerMetrics ++ gridMetrics)

def hasSoc (metricKeys : List String) : Bool := metricKeys.any (· ∈ socMetrics)

def roleHint (capabilities metricKeys : List String) : RoleHint :=
  if "battery_storage" ∈ capabilities ∧ "output_control" ∈ capabilities then .batteryInverter
  else if metricKeys.any (· ∈ gridMetrics) ∧
      ¬ capabilities.any (· ∈ ["battery_storage", "output_control", "pv_input"]) then .gridMeter
  else if metricKeys ≠ [] ∧ "output_control" ∉ capabilities then .telemetryOnly
  else .unknown

def isZendureSmartmeterD0Topic (topic : String) : Bool :=
  match (pyStrip topic).toList.splitOn '/' with
  | [root, entity, serial, metric] =>
      root = "Zendure".toList && entity = "sensor".toList && metric = "totalPower".toList &&
        !serial.isEmpty && !serial.contains '+' && !serial.contains '#'
  | _ => false

inductive ProposalConfidence where
  | low
  | medium
  | high
deriving DecidableEq

def confidenceOf (topicFamily : TopicFamily) (role : RoleHint) (power soc : Bool) :
    ProposalConfidence :=
  if topicFamily = .unknown ∨ role = .unknown then .low
  else if power ∧ soc then .high
  else if power ∨ soc then .medium
  else .low

def proposalId (view : DeviceView) (topicFamily : TopicFamily) : String :=
  "zendure-mqtt:" ++ orEmpty (pyOr (pyOr (pyOr view.serialNumber view.deviceId) view.productKey)
    (some topicFamily.code))

def safeSeenTopics (seenTopics : List String) : List String :=
  (seenTopics.filter fun topic =>
    ["Zendure/", "iot/", "ems-solarflow/", "ems-consumer/"].any fun start =>
      start.toList.isPrefixOf topic.toList).insertionSort (· ≤ ·)

/-! ### The fragment of configuration -/

/-- The broker part of a fragment; an entry the source leaves out is `none`. -/
structure MqttFragment where
  brokerRef : Option String
  source : Option String
  topicFamily : TopicFamily
  baseTopic : Option String
  writeProtocol : Option String
  deviceId : Option String
  productKey : Option String
deriving DecidableEq

structure ConfigFragment where
  serialNumber : Option String
  hardwareProfile : Option String
  powerWriteProfile : Option PowerWriteProfile
  name : String
  mqtt : MqttFragment
  readPower : Bool
  readSoc : Bool
  writeOutputLimit : Bool
deriving DecidableEq

/-- A value Python takes for false is left out. -/
def ifTruthy (value : Option String) : Option String := value.filter (· ≠ "")

def configFragment (view : DeviceView) (topicFamily : TopicFamily) (source brokerRef : Option String)
    (displayLabel : String) (outputControl : Bool) (capability : MqttOutputControlCapability)
    (writableRouteAmbiguous : Bool) : ConfigFragment where
  serialNumber := ifTruthy view.serialNumber
  hardwareProfile := ifTruthy capability.hardwareProfile
  powerWriteProfile :=
    if truthy capability.hardwareProfile then capability.powerWriteProfile else none
  name := "Zendure MQTT " ++ displayLabel
  mqtt :=
    { brokerRef := ifTruthy brokerRef
      source := ifTruthy source
      topicFamily
      baseTopic := topicFamily.baseTopic
      writeProtocol := if outputControl then ifTruthy capability.writeProtocol else none
      deviceId := ifTruthy view.deviceId
      productKey := if writableRouteAmbiguous then none else ifTruthy view.productKey }
  readPower := hasPower view.metricKeys
  readSoc := hasSoc view.metricKeys
  writeOutputLimit := outputControl

/-- The read-only grid-meter fragment: its topic and broker. -/
structure GridMeterFragment where
  topic : String
  brokerRef : Option String
deriving DecidableEq

def sanitizedEvidenceSources (modelEvidence : List (String × String)) (productKey : Option String) :
    List (String × String) :=
  match productKey.filter fun key => decide (pyStrip key ≠ "") with
  | some secret => modelEvidence.filter (·.2 ≠ secret)
  | none => modelEvidence

/-! ### The proposal -/

structure ZendureMqttConfigProposal where
  proposalId : String
  deviceId : Option String
  serialNumber : Option String
  productKey : Option String
  product : Option String
  topicFamily : TopicFamily
  baseTopic : Option String
  displayName : String
  roleHint : RoleHint
  confidence : ProposalConfidence
  capabilities : List String
  metrics : List String
  configFragment : ConfigFragment
  warnings : List String
  brokerRef : Option String
  connectionSource : Option String
  /-- The fragment of a grid-meter target; a device has none. -/
  gridMeterFragment : Option GridMeterFragment
  seenTopics : List String
  outputControlSupported : Bool
  outputControlReason : String
  hardwareProfile : Option String
  hardwareProfileConfidence : Confidence
  hardwareProfileEvidence : String
  hardwareProfileEvidenceSources : List (String × String)
  controlBlockReason : Option String
deriving DecidableEq

def Conflict.warning : Conflict → String
  | .product => "identity_route_product_conflict"
  | .serial => "identity_route_serial_conflict"

section Proposal

variable (texts : NameTexts) (source brokerRef : Option String)

/-- The model observations a view is judged on. -/
def evidenceOf (view : DeviceView) : List (String × String) :=
  if view.modelEvidence = [] then
    (view.products.insertionSort (· ≤ ·)).map fun product => (evidenceFullReport, product)
  else view.modelEvidence

def resolutionOf (view : DeviceView) : HardwareProfileResolution :=
  resolveHardwareProfileEvidence
    ((evidenceOf view).map fun entry => makeHardwareProfileEvidence texts entry.1 entry.2)

/-- The verdict on the model of a view over the broker it was seen on. -/
def capabilityOf (view : DeviceView) : MqttOutputControlCapability :=
  let resolution := resolutionOf texts view
  mqttOutputControlCapability texts (primaryFamily view.topicFamilies) source
    (if resolution.confidence = .conflict then none else resolution.profileId) view.capabilities

/-- The topic of a D0 grid meter that may be applied. -/
def d0TotalPowerTopic (view : DeviceView) : Option String :=
  if source = some "local_mqtt" ∧ primaryFamily view.topicFamilies = .zensdkHaScalar then
    view.seenTopics.find? isZendureSmartmeterD0Topic
  else none

def writeTargetMissing : String := "write_target_missing"

def buildProposal (label : String) (conflictKind : Option Conflict) (view : DeviceView) :
    ZendureMqttConfigProposal :=
  let topicFamily := primaryFamily view.topicFamilies
  let role := roleHint view.capabilities view.metricKeys
  let writableRouteAmbiguous := decide (1 < view.preciseRoutes.length)
  let resolution := resolutionOf texts view
  let isConflict := decide (resolution.confidence = .conflict)
  let capability := capabilityOf texts source view
  let (capable, capableReason) := proposalOutputControl capability
  let addressable := truthy view.productKey && truthy view.deviceId
  let controlReason := if capable && !addressable then writeTargetMissing else capableReason
  let blockReason :=
    if isConflict then some "hardware_profile_conflict"
    else if controlReason = writeTargetMissing then some writeTargetMissing
    else capability.blockReason.map BlockReason.code
  let d0Topic := if role = .gridMeter then d0TotalPowerTopic source view else none
  let outputControl := capable && addressable && d0Topic.isNone && conflictKind.isNone
  let warnings :=
    (if isConflict then ["hardware_profile_conflict"] else []) ++
      (if role = .unknown then ["insufficient_telemetry"] else []) ++
      (if topicFamily = .zendureCloudScalar then ["cloud_base_topic_hidden"] else []) ++
      (if topicFamily = .unknown then ["unknown_topic_family"] else []) ++
      (if role = .gridMeter ∧ d0Topic = none then
        ["grid_power_metric_seen_but_topic_unavailable"] else []) ++
      (conflictKind.map Conflict.warning).toList
  { proposalId := proposalId view topicFamily
    deviceId := view.deviceId
    serialNumber := view.serialNumber
    productKey := if writableRouteAmbiguous then none else view.productKey
    product := view.product
    topicFamily
    baseTopic := topicFamily.baseTopic
    displayName := "Zendure MQTT " ++ label
    roleHint := role
    confidence := confidenceOf topicFamily role (hasPower view.metricKeys) (hasSoc view.metricKeys)
    capabilities := view.capabilities.insertionSort (· ≤ ·)
    metrics := view.metricKeys.insertionSort (· ≤ ·)
    configFragment := configFragment view topicFamily source brokerRef label outputControl capability
      writableRouteAmbiguous
    warnings
    brokerRef
    connectionSource := source
    gridMeterFragment := d0Topic.map fun topic => ⟨topic, ifTruthy brokerRef⟩
    seenTopics := safeSeenTopics view.seenTopics
    outputControlSupported := outputControl
    outputControlReason := controlReason
    hardwareProfile := if isConflict then none else resolution.profileId
    hardwareProfileConfidence := resolution.confidence
    hardwareProfileEvidence := resolution.evidence
    hardwareProfileEvidenceSources := sanitizedEvidenceSources (evidenceOf view) view.productKey
    controlBlockReason := (conflictKind.map Conflict.warning).or blockReason }

/-- What a group is proposed as under a label. -/
def proposalOf (seedEvidence : SeedEvidence) (label : String) (group : SnapshotGroup) :
    ZendureMqttConfigProposal :=
  buildProposal texts source brokerRef label group.mark
    (seedViewEvidence seedEvidence (viewOf texts (group.members.map Prod.fst)))

end Proposal

end SolarFlowEms.Discovery
