import SolarFlowEms.Config.Brokers
import SolarFlowEms.Discovery.SnapshotGroups

/-!
# What a device entry of the config asks for

A Zendure device that is read over MQTT may ask to be controlled.  It then has to say how: a pinned
hardware profile is written on the topic of its product key and device id, and without a profile
only the operator's own topic is.  The entry is checked field by field, and the errors say which
part of the write route is missing.
-/

namespace SolarFlowEms.Migration

open Python Documents Mqtt Discovery

/-! ### Fields -/

/-- The entries of an object, and none of another value. -/
def mapping : PyValue → Entries
  | .dict entries => entries
  | _ => []

def field (item : PyValue) (key : String) : PyValue := getValue (mapping item) key

def mqttField (item : PyValue) (key : String) : PyValue := field (field item "mqtt") key

def rawText (value : PyValue) : Option String :=
  value.str?.bind fun text => if pyStrip text = "" then none else some (pyStrip text)

def mqttRaw (item : PyValue) (key : String) : Option String := rawText (mqttField item key)

def zendureMqttWriteTopic (item : PyValue) : Option String := mqttRaw item "write_topic"

def zendureMqttProductKey (item : PyValue) : Option String := mqttRaw item "product_key"

def zendureMqttTopicFamily (item : PyValue) : Option String := mqttRaw item "topic_family"

def zendureMqttWriteProtocol (item : PyValue) : Option String := mqttRaw item "write_protocol"

def zendureMqttHardwareProfile (item : PyValue) : Option String :=
  (rawText (field item "hardware_profile")).or (mqttRaw item "hardware_profile")

def zendureMqttPowerWriteProfile (item : PyValue) : Option String :=
  (rawText (field item "power_write_profile")).or (mqttRaw item "power_write_profile")

def zendureMqttDeviceIdentifier (item : PyValue) : Option String :=
  ((mqttRaw item "device_id").or (rawText (field item "serial_number"))).or
    (rawText (field item "device_id"))

def zendureMqttBrokerRef (item : PyValue) : String :=
  (mqttRaw item "broker_ref").getD Config.defaultBrokerRef

def zendureMqttSource (item : PyValue) : Option String := mqttRaw item "source"

def writeOutputLimitRequested (item : PyValue) : Bool :=
  match field (field item "capabilities") "write_output_limit" with
  | .bool b => b
  | _ => false

/-- `config_entry_enabled`: what is no bool is not trusted as enabled. -/
def configEntryEnabled (item : PyValue) : Bool :=
  match field item "enabled" with
  | .none => true
  | .bool b => b
  | _ => false

def routeSegmentForbidden : List Char := ['/', '+', '#', '\x00']

def zendureMqttRouteSegmentInvalidKeys (item : PyValue) : List String :=
  ["device_id", "product_key"].filter fun key =>
    (mqttField item key).str?.any fun text => text.toList.any (· ∈ routeSegmentForbidden)

/-- `publish_topic_error(topic) is not None`, of a text: it is empty, has a wildcard or a NUL, or is
too long. -/
def publishTopicInvalid (topic : String) : Bool :=
  pyStrip topic = "" || (pyStrip topic).toList.any (· ∈ ['+', '#', '\x00']) ||
    512 < (pyStrip topic).utf8ByteSize

section

variable (texts : NameTexts)

/-- `_entry_type(item) == "zendure_mqtt"`; the text of another value is none of the types. -/
def isZendureMqttDeviceConfig (item : PyValue) : Bool :=
  item.dict?.isSome &&
    (field item "type").str?.any fun text => texts.lower (pyStrip text) = "zendure_mqtt"

def isControlZendureMqttDeviceConfig (item : PyValue) : Bool :=
  isZendureMqttDeviceConfig texts item && writeOutputLimitRequested item

def zendureMqttRouteDeviceId (item : PyValue) : Option String :=
  normalizeMqttRouteSegment texts (mqttField item "device_id").str?

/-! ### Brokers -/

def brokerSourceCode : BrokerSource → String
  | .localMqtt => "local_mqtt"
  | .zendureCloudMqtt => "zendure_cloud_mqtt"

/-- `_clean(value, fold_case=True)`, where it is a source. -/
def sourceOf (value : PyValue) : Option String :=
  (clean texts true value.str?).filter fun source =>
    source ∈ [BrokerSource.localMqtt, .zendureCloudMqtt].map brokerSourceCode

/-- The source of the default broker, which is local where the block names none. -/
def defaultSource (block : PyValue) : List (String × String) :=
  match clean texts true (field block "source").str? with
  | some _ =>
    ((sourceOf texts (field block "source")).map fun source =>
      (Config.defaultBrokerRef, source)).toList
  | none =>
    if block.dict?.any Config.legacyDefaultBrokerPresent then
      [(Config.defaultBrokerRef, brokerSourceCode .localMqtt)]
    else []

def brokerSourcesFromConfig (config : PyValue) : List (String × String) :=
  (mapping (field (field config "zendure_mqtt") "brokers")).foldl (fun sources broker =>
    match sourceOf texts (field broker.2 "source") with
    | some source => dictSet sources (pyStrip broker.1) source
    | none => sources) (defaultSource texts (field config "zendure_mqtt"))

def zendureMqttEffectiveBrokerSource (item : PyValue) (brokerSources : List (String × String)) :
    Option BrokerSource :=
  (normalizeBrokerSource texts (brokerSources.lookup (zendureMqttBrokerRef item))).or
    (normalizeBrokerSource texts (zendureMqttSource item))

/-! ### The write route -/

def customPropertiesWrite : String := "custom_properties_write"

/-- `resolve_write_protocol`: only the operator's own topic is a protocol by its name. -/
def resolveWriteProtocol (explicit : Option String) : Option String :=
  (explicit.map fun name => texts.lower (pyStrip name)).filter (· = customPropertiesWrite)

/-- The family as the registry of capabilities knows it. -/
def topicFamilyOf (family : Option String) : TopicFamily :=
  match family with
  | none => .unknown
  | some name =>
    if name = "zensdk_ha_scalar" then .zensdkHaScalar
    else if name = "legacy_zendure_json" then .legacyZendureJson
    else if name = "legacy_zendure_json_alt" then .legacyZendureJsonAlt
    else if name = "zendure_cloud_scalar" then .zendureCloudScalar
    else if name = "unknown" then .unknown
    else .external name

/-- `resolve_power_write_capability` of an entry, for a profile. -/
def capabilityFor (item : PyValue) (hardwareProfile : String) (source : Option BrokerSource) :
    PowerWriteCapability :=
  resolvePowerWriteCapability texts (topicFamilyOf (zendureMqttTopicFamily item)) hardwareProfile
    (source.map brokerSourceCode)

/-- `hardware_profile_by_name` of the profile that is pinned. -/
def pinnedProfile (item : PyValue) : Option ZendureHardwareProfile :=
  (zendureMqttHardwareProfile item).bind fun name => hardwareProfileByName texts name

def profileBackedControl (item : PyValue) : Bool :=
  (pinnedProfile texts item).any fun profile =>
    profile.writable && (writeFamilyForProfile profile.powerWriteProfile).isSome

inductive AddressabilityReason where
  | ready
  | missingDeviceId
  | missingProductKey
  | missingWriteTopic
  | invalidWriteTopic
deriving DecidableEq

/-- `zendure_mqtt_control_addressability`, as far as the reason. -/
def zendureMqttControlAddressability (item : PyValue) (profileBacked : Bool) :
    AddressabilityReason :=
  if profileBacked then
    if zendureMqttProductKey item = none then .missingProductKey
    else if zendureMqttRouteDeviceId texts item = none then .missingDeviceId
    else .ready
  else
    match zendureMqttWriteTopic item with
    | none => .missingWriteTopic
    | some topic =>
      if publishTopicInvalid topic then .invalidWriteTopic
      else if zendureMqttRouteDeviceId texts item = none then .missingDeviceId
      else .ready

/-! ### Validation -/

inductive Severity where
  | error
  | warning
deriving DecidableEq

structure Issue where
  severity : Severity
  code : String
deriving DecidableEq

def errorIf (condition : Bool) (code : String) : List Issue :=
  if condition then [⟨.error, code⟩] else []

def lowered (text : Option String) : Option String := text.map texts.lower

def sourceMismatchIssue (item : PyValue) (brokerSources : List (String × String)) : List Issue :=
  match lowered texts (zendureMqttSource item),
    lowered texts ((brokerSources.lookup (zendureMqttBrokerRef item)).bind fun source =>
      rawText (.str source)) with
  | some deviceSource, some brokerSource =>
    errorIf (deviceSource ≠ brokerSource) "mqtt_source_mismatch"
  | _, _ => []

def powerWriteProfileMetadataIssues (item : PyValue) : List Issue :=
  match pinnedProfile texts item, zendureMqttPowerWriteProfile item with
  | some profile, some stored =>
    errorIf (stored ≠ PowerWriteProfile.code profile.powerWriteProfile)
      "power_write_profile_mismatch"
  | _, _ => []

/-- What a validation is told of the brokers. -/
structure BrokerContext where
  knownBrokerRefs : Option (List String)
  brokersDefined : Bool
  brokerSources : List (String × String)

/-- The reference to a broker that the entry names itself. -/
def brokerRefIssue (item : PyValue) (context : BrokerContext) : List Issue :=
  match mqttRaw item "broker_ref" with
  | some ref => errorIf (context.knownBrokerRefs.any (ref ∉ ·)) "broker_ref_unknown"
  | none => if context.brokersDefined then [⟨.warning, "broker_ref_missing"⟩] else []

def structuralIssues (item : PyValue) (context : BrokerContext) : List Issue :=
  errorIf (rawText (field item "name") = none) "name_missing" ++
    (if (field item "mqtt").dict?.isSome then
      errorIf (zendureMqttTopicFamily item = none) "topic_family_missing"
    else [⟨.error, "mqtt_missing"⟩]) ++
    errorIf (zendureMqttDeviceIdentifier item = none) "device_identifier_missing" ++
    (zendureMqttRouteSegmentInvalidKeys item).map (fun _ => ⟨.error, "mqtt_route_segment_invalid"⟩) ++
    brokerRefIssue item context ++ sourceMismatchIssue texts item context.brokerSources ++
    powerWriteProfileMetadataIssues texts item

def externalTopicFamilies : List String := ["ems_solarflow", "ems_consumer"]

def catalogFamilyIssue (item : PyValue) : List Issue :=
  errorIf ((zendureMqttTopicFamily item).any (· ∈ externalTopicFamilies))
    "topic_family_external_device"

/-- The issues of an entry with a pinned profile. -/
def profileIssues (item : PyValue) (source : Option BrokerSource) (name : String) : List Issue :=
  if hardwareProfileByName texts name = none then [⟨.error, "hardware_profile_unknown"⟩]
  else
    let cap := capabilityFor texts item name source
    if cap.supported then
      if zendureMqttWriteTopic item ≠ none ∧ zendureMqttProductKey item ≠ none then
        [⟨.warning, "profile_write_topic_obsolete"⟩]
      else []
    else [⟨.error, cap.blockReason.elim "write_protocol_unsupported" BlockReason.code⟩]

/-- The issues of an entry without one. -/
def protocolIssues (item : PyValue) : List Issue :=
  if resolveWriteProtocol texts (zendureMqttWriteProtocol item) = none then
    [⟨.error, "write_protocol_unsupported"⟩]
  else
    match zendureMqttWriteTopic item with
    | none => [⟨.error, "write_topic_required"⟩]
    | some topic => errorIf (publishTopicInvalid topic) "write_topic_invalid"

def controlWriteCapabilityIssues (item : PyValue) (source : Option BrokerSource) : List Issue :=
  match zendureMqttHardwareProfile item with
  | some name => profileIssues texts item source name
  | none => protocolIssues texts item

def writeTargetIssue (item : PyValue) : List Issue :=
  errorIf (zendureMqttProductKey item = none ∧
    (zendureMqttWriteTopic item = none ∨ profileBackedControl texts item)) "write_target_missing"

def validateZendureMqttControlDeviceConfig (item : PyValue) (context : BrokerContext) :
    List Issue :=
  if item.dict? = none then [⟨.error, "device_not_object"⟩]
  else if !isZendureMqttDeviceConfig texts item then [⟨.error, "not_zendure_mqtt"⟩]
  else
    structuralIssues texts item context ++ catalogFamilyIssue item ++
      errorIf (!writeOutputLimitRequested item) "control_not_requested" ++
      errorIf (zendureMqttRouteDeviceId texts item = none) "mqtt_device_id_missing" ++
      writeTargetIssue texts item ++
      controlWriteCapabilityIssues texts item
        (zendureMqttEffectiveBrokerSource texts item context.brokerSources)

end

end SolarFlowEms.Migration
