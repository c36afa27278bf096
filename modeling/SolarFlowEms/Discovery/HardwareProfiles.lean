import Mathlib.Data.List.Sort
import SolarFlowEms.Mqtt.WriteRoute

/-!
# Which model a product name names, and whether that model may be written

The registry of hardware profiles, the resolution of a product or model text to one of them, and the
verdict whether a model may be commanded over the broker it was seen on.  Identity is an exact alias
or canonical name; two exact signals for different models are a conflict, and a conflict is never
writable.
-/

namespace SolarFlowEms.Discovery

open Python Mqtt

/-- What the texts of the standard library do to a string or a character. -/
structure NameTexts where
  lower : String → String
  casefold : String → String
  isalnum : Char → Bool

/-- What the standard library does to the characters of ASCII. -/
def asciiTexts : NameTexts where
  lower text := String.ofList (text.toList.map Char.toLower)
  casefold text := String.ofList (text.toList.map Char.toLower)
  isalnum := Char.isAlphanum

/-! ### The registry -/

inductive ValidationStatus where
  | existingSupport
  | communityRequired
  | deferred
deriving DecidableEq

structure ZendureHardwareProfile extends HardwareProfile where
  canonicalName : String
  aliases : List String
  validationStatus : ValidationStatus
deriving DecidableEq

def PowerWriteProfile.code : PowerWriteProfile → String
  | .zensdkProperties => "zensdk_properties_write"
  | .legacyHub => "legacy_hub_device_automation"
  | .legacyObject => "legacy_object_device_automation"
  | .telemetryOnly => "telemetry_only"

def ZendureHardwareProfile.writable (profile : ZendureHardwareProfile) : Bool :=
  profile.powerWriteProfile != .telemetryOnly

def ZendureHardwareProfile.supportedOperations (profile : ZendureHardwareProfile) :
    List PowerDirection.Operation :=
  (if profile.supportsDischarge then [.discharge] else []) ++
    (if profile.supportsIdle then [.idle] else []) ++
    if profile.supportsCharge then [.charge] else []

/-- A model written through the properties contract. -/
def zensdkProfile (canonicalName : String) (aliases : List String) (supportsCharge : Bool) :
    ZendureHardwareProfile where
  powerWriteProfile := .zensdkProperties
  supportsDischarge := true
  supportsIdle := true
  supportsCharge
  canonicalName
  aliases
  validationStatus := .existingSupport

/-- A model written through device automation. -/
def legacyProfile (canonicalName : String) (aliases : List String)
    (powerWriteProfile : PowerWriteProfile) (supportsCharge : Bool) : ZendureHardwareProfile where
  powerWriteProfile
  supportsDischarge := true
  supportsIdle := true
  supportsCharge
  canonicalName
  aliases
  validationStatus := .communityRequired

/-- A model no write is implemented for. -/
def deferredProfile (canonicalName : String) (aliases : List String) : ZendureHardwareProfile where
  powerWriteProfile := .telemetryOnly
  supportsDischarge := false
  supportsIdle := false
  supportsCharge := false
  canonicalName
  aliases
  validationStatus := .deferred

def hardwareProfiles : List ZendureHardwareProfile :=
  [ zensdkProfile "solarflow_800" ["SolarFlow 800", "SolarFlow800"] false,
    zensdkProfile "solarflow_800_pro" ["SolarFlow 800 Pro", "SolarFlow800Pro"] true,
    zensdkProfile "solarflow_800_pro_2" ["SolarFlow 800 Pro 2", "SolarFlow800Pro2"] true,
    zensdkProfile "solarflow_800_plus" ["SolarFlow 800 Plus", "SolarFlow800Plus"] false,
    zensdkProfile "solarflow_1600_ac_plus" ["SolarFlow 1600 AC+", "SolarFlow1600AC+"] true,
    zensdkProfile "solarflow_2400_ac" ["SolarFlow 2400 AC", "SolarFlow2400AC"] true,
    zensdkProfile "solarflow_2400_ac_plus" ["SolarFlow 2400 AC+", "SolarFlow2400AC+"] true,
    zensdkProfile "solarflow_2400_pro" ["SolarFlow 2400 Pro", "SolarFlow2400Pro"] false,
    zensdkProfile "solarflow_4000_ac_plus"
      ["SolarFlow 4000 Mix AC+", "SolarFlow Mix 4000 AC+", "SolarFlow 4000 AC+",
        "SolarFlow4000MixAC+", "SolarFlowMix4000AC+", "SolarFlow4000AC+"] true,
    zensdkProfile "solarflow_3000_ac_plus"
      ["SolarFlow 3000 Mix AC+", "SolarFlow Mix 3000 AC+", "SolarFlow3000MixAC+",
        "SolarFlowMix3000AC+"] true,
    legacyProfile "hyper_2000" ["Hyper 2000", "Hyper 2000 3.0", "Hyper2000"] .legacyObject true,
    legacyProfile "aio_2400" ["AIO 2400", "SolarFlow AIO ZY", "AIO2400"] .legacyObject false,
    legacyProfile "hub_1200" ["Hub 1200", "SolarFlow Hub 1200", "SolarFlow 2.0", "Hub1200"]
      .legacyHub false,
    legacyProfile "hub_2000" ["Hub 2000", "SolarFlow Hub 2000", "Hub2000"] .legacyHub false,
    deferredProfile "ace_1500" ["ACE 1500", "ACE1500"],
    deferredProfile "superbase_v4600" ["SuperBase V4600"],
    deferredProfile "superbase_v6400" ["SuperBase V6400"] ]

/-! ### Product texts -/

def isAsciiLower (c : Char) : Bool := 'a' ≤ c && c ≤ 'z'

def isAsciiUpper (c : Char) : Bool := 'A' ≤ c && c ≤ 'Z'

def isAsciiDigit (c : Char) : Bool := '0' ≤ c && c ≤ '9'

def isAsciiLetter (c : Char) : Bool := isAsciiLower c || isAsciiUpper c

/-- A blank at each place between a character of the first kind and one of the second. -/
def splitBetween (before after : Char → Bool) : List Char → List Char
  | [] => []
  | [c] => [c]
  | c :: d :: rest =>
      if before c && after d then c :: ' ' :: splitBetween before after (d :: rest)
      else c :: splitBetween before after (d :: rest)

/-- `value or ""` -/
def orEmpty (value : Option String) : String := value.getD ""

section Resolve

variable (texts : NameTexts)

/-- The model tokens of a product text: what stands between its runs of other characters. -/
def modelTokens (value : Option String) : List String :=
  let text := (orEmpty value).toList.flatMap fun c => if c = '+' then " plus ".toList else [c]
  let text := splitBetween (fun c => isAsciiLower c || isAsciiDigit c) isAsciiUpper text
  let text := splitBetween isAsciiLetter isAsciiDigit text
  let text := splitBetween isAsciiDigit isAsciiLetter text
  let text := (texts.lower (String.ofList text)).toList
  ((text.splitOnP fun c => !(isAsciiLetter c || isAsciiDigit c)).filter (· ≠ [])).map String.ofList

def normalize (value : Option String) : String := " ".intercalate (modelTokens texts value)

inductive Confidence where
  | exact
  | canonical
  | ambiguous
  | unknown
  | conflict
deriving DecidableEq

/-- `WRITABLE_CONFIDENCES` -/
def Confidence.identifies (confidence : Confidence) : Bool :=
  confidence == .exact || confidence == .canonical

structure HardwareProfileResolution where
  profileId : Option String
  confidence : Confidence
  evidence : String
  matchedAlias : Option String
  sourceValue : Option String
deriving DecidableEq

/-- `_CANONICAL_RAW.get` -/
def canonicalRaw (raw : String) : Option ZendureHardwareProfile :=
  hardwareProfiles.find? fun profile =>
    decide (texts.lower (pyStrip profile.canonicalName) = raw)

/-- `_CANONICAL_INDEX.get` -/
def canonicalIndex (name : String) : Option ZendureHardwareProfile :=
  hardwareProfiles.find? fun profile => decide (normalize texts (some profile.canonicalName) = name)

/-- `_ALIAS_INDEX.get`: the first alias that normalizes to the name. -/
def aliasIndex (name : String) : Option (ZendureHardwareProfile × String) :=
  hardwareProfiles.findSome? fun profile =>
    (profile.aliases.find? fun spelling => decide (normalize texts (some spelling) = name)).map
      (profile, ·)

def familyBrandTokens : List String :=
  ["hub", "hyper", "aio", "ace", "superbase", "solar", "flow", "solarflow"]

def isAmbiguousFamily (tokens : List String) : Bool :=
  !tokens.isEmpty && tokens.all (· ∈ familyBrandTokens)

def resolveHardwareProfileDetail (product : Option String) : HardwareProfileResolution :=
  match canonicalRaw texts (texts.lower (pyStrip (orEmpty product))) with
  | some profile =>
      ⟨some profile.canonicalName, .canonical, "canonical:" ++ profile.canonicalName, none, product⟩
  | none =>
    let name := normalize texts product
    if name = "" then ⟨none, .unknown, "empty", none, product⟩
    else
      match aliasIndex texts name with
      | some (profile, spelling) =>
          ⟨some profile.canonicalName, .exact, "alias:" ++ spelling, some spelling, product⟩
      | none =>
        match canonicalIndex texts name with
        | some profile =>
            ⟨some profile.canonicalName, .canonical, "canonical:" ++ profile.canonicalName, none,
              product⟩
        | none =>
            if isAmbiguousFamily (modelTokens texts product) then
              ⟨none, .ambiguous, "ambiguous_family:" ++ name, none, product⟩
            else ⟨none, .unknown, "no_match", none, product⟩

structure HardwareProfileEvidence where
  source : String
  value : String
  resolvedProfile : Option String
  confidence : Confidence
deriving DecidableEq

def makeHardwareProfileEvidence (source value : String) : HardwareProfileEvidence :=
  let detail := resolveHardwareProfileDetail texts (some value)
  ⟨source, value, detail.profileId, detail.confidence⟩

def decisiveEvidenceSources : List String := ["user_selection", "existing_config"]

/-- The resolution one observation stands for. -/
def HardwareProfileEvidence.resolution (evidence : HardwareProfileEvidence) (profileId : String) :
    HardwareProfileResolution :=
  ⟨some profileId, evidence.confidence, evidence.source ++ ":" ++ profileId, none,
    some evidence.value⟩

def resolveHardwareProfileEvidence (evidences : List HardwareProfileEvidence) :
    HardwareProfileResolution :=
  let identified := evidences.filterMap fun evidence =>
    if evidence.confidence.identifies then evidence.resolvedProfile.map (evidence, ·) else none
  match identified with
  | [] => ⟨none, .unknown, "no_evidence", none, none⟩
  | first :: _ =>
    match decisiveEvidenceSources.findSome? fun source =>
        identified.find? fun ev => decide (ev.1.source = source) with
    | some decisive => decisive.1.resolution decisive.2
    | none =>
      let distinct := (identified.map Prod.snd).dedup
      if 1 < distinct.length then
        ⟨none, .conflict, "conflict:" ++ ",".intercalate (distinct.insertionSort (· ≤ ·)), none,
          none⟩
      else first.1.resolution first.2

def hardwareProfileByName (canonicalName : String) : Option ZendureHardwareProfile :=
  match canonicalRaw texts (texts.lower (pyStrip canonicalName)) with
  | some profile => some profile
  | none =>
    hardwareProfiles.find? fun profile =>
      decide (profile.canonicalName = "_".intercalate (modelTokens texts (some canonicalName)))

end Resolve

/-! ### The telemetry family and the broker -/

/-- The family of topics a device was seen on; the families of the external catalog are `external`. -/
inductive TopicFamily where
  | zensdkHaScalar
  | legacyZendureJson
  | legacyZendureJsonAlt
  | zendureCloudScalar
  | unknown
  | external (name : String)
deriving DecidableEq

/-- `JSON_FAMILIES` -/
def TopicFamily.isJson (family : TopicFamily) : Bool :=
  family == .legacyZendureJson || family == .legacyZendureJsonAlt

inductive BlockReason where
  | hardwareProfileMissing
  | hardwareProfileUnknown
  | hardwareProfileDeferred
  | transportWriteNotImplemented
  | brokerSourceUnknown
  | brokerSourceWriteUnverified
deriving DecidableEq

def BlockReason.code : BlockReason → String
  | .hardwareProfileMissing => "hardware_profile_missing"
  | .hardwareProfileUnknown => "hardware_profile_unknown"
  | .hardwareProfileDeferred => "hardware_profile_deferred"
  | .transportWriteNotImplemented => "transport_write_not_implemented"
  | .brokerSourceUnknown => "broker_source_unknown"
  | .brokerSourceWriteUnverified => "broker_source_write_unverified"

/-- `_UNKNOWN_BLOCK_REASONS` -/
def BlockReason.meansUnknown (reason : BlockReason) : Bool :=
  reason == .hardwareProfileMissing || reason == .hardwareProfileUnknown

inductive WriteFamily where
  | propertiesWrite
  | functionInvoke
deriving DecidableEq

def writeFamilyForProfile : PowerWriteProfile → Option WriteFamily
  | .zensdkProperties => some .propertiesWrite
  | .legacyHub => some .functionInvoke
  | .legacyObject => some .functionInvoke
  | .telemetryOnly => none

structure BrokerSourceWriteSupport where
  supported : Bool
  brokerSource : Option BrokerSource
  blockReason : Option BlockReason
deriving DecidableEq

structure PowerWriteCapability where
  supported : Bool
  profileId : Option String
  writeProfile : Option PowerWriteProfile
  supportedOperations : List PowerDirection.Operation
  blockReason : Option BlockReason
  modelSupported : Bool := false
  transportSupported : Bool := false
  telemetryFamily : TopicFamily
  writeFamily : Option WriteFamily := none
  brokerSource : Option BrokerSource
  brokerSourceSupported : Bool
deriving DecidableEq

inductive CapabilityStatus where
  | supported
  | unsupported
  | unknown
deriving DecidableEq

structure MqttOutputControlCapability where
  status : CapabilityStatus
  reason : String
  writeProtocol : Option String := none
  outputControlObserved : Bool
  hardwareProfile : Option String := none
  powerWriteProfile : Option PowerWriteProfile := none
  blockReason : Option BlockReason
  modelSupported : Bool := false
  transportSupported : Bool := false
  telemetryFamily : TopicFamily
  writeFamily : Option WriteFamily := none
  brokerSource : Option BrokerSource
  brokerSourceSupported : Bool := false
deriving DecidableEq

def MqttOutputControlCapability.supported (capability : MqttOutputControlCapability) : Bool :=
  capability.status == .supported

section Capability

variable (texts : NameTexts)

def normalizeBrokerSource (brokerSource : Option String) : Option BrokerSource :=
  let value := brokerSource.elim "" fun source => texts.lower (pyStrip source)
  if value = "local_mqtt" then some .localMqtt
  else if value = "zendure_cloud_mqtt" then some .zendureCloudMqtt
  else none

def resolveBrokerSourceWriteSupport (brokerSource : Option String) (telemetryFamily : TopicFamily) :
    BrokerSourceWriteSupport :=
  match normalizeBrokerSource texts brokerSource with
  | none => ⟨false, none, some .brokerSourceUnknown⟩
  | some .zendureCloudMqtt => ⟨true, some .zendureCloudMqtt, none⟩
  | some .localMqtt =>
      if telemetryFamily.isJson then ⟨true, some .localMqtt, none⟩
      else ⟨false, some .localMqtt, some .brokerSourceWriteUnverified⟩

/-- `resolve_power_write_capability`, asked for no particular operation. -/
def resolvePowerWriteCapability (topicFamily : TopicFamily) (hardwareProfile : String)
    (brokerSource : Option String) : PowerWriteCapability :=
  let source := resolveBrokerSourceWriteSupport texts brokerSource topicFamily
  let name := pyStrip hardwareProfile
  if name = "" then
    { supported := false, profileId := none, writeProfile := none, supportedOperations := []
      blockReason := some .hardwareProfileMissing, telemetryFamily := topicFamily
      brokerSource := source.brokerSource, brokerSourceSupported := source.supported }
  else
    match hardwareProfileByName texts name with
    | none =>
      { supported := false, profileId := none, writeProfile := none, supportedOperations := []
        blockReason := some .hardwareProfileUnknown, telemetryFamily := topicFamily
        brokerSource := source.brokerSource, brokerSourceSupported := source.supported }
    | some profile =>
      if !profile.writable then
        { supported := false, profileId := some profile.canonicalName
          writeProfile := some profile.powerWriteProfile, supportedOperations := []
          blockReason := some (if profile.validationStatus = .deferred then .hardwareProfileDeferred
            else .hardwareProfileUnknown)
          telemetryFamily := topicFamily, brokerSource := source.brokerSource
          brokerSourceSupported := source.supported }
      else
        match writeFamilyForProfile profile.powerWriteProfile with
        | none =>
          { supported := false, profileId := some profile.canonicalName
            writeProfile := some profile.powerWriteProfile, supportedOperations := []
            blockReason := some .transportWriteNotImplemented, modelSupported := true
            telemetryFamily := topicFamily, brokerSource := source.brokerSource
            brokerSourceSupported := source.supported }
        | some writeFamily =>
          { supported := source.supported, profileId := some profile.canonicalName
            writeProfile := some profile.powerWriteProfile
            supportedOperations := profile.supportedOperations
            blockReason := if source.supported then none else source.blockReason
            modelSupported := true, transportSupported := true, telemetryFamily := topicFamily
            writeFamily := some writeFamily, brokerSource := source.brokerSource
            brokerSourceSupported := source.supported }

/-- `mqtt_output_control_capability`, with no write protocol given. -/
def mqttOutputControlCapability (topicFamily : TopicFamily) (brokerSource : Option String)
    (hardwareProfile : Option String) (observedCapabilities : List String) :
    MqttOutputControlCapability :=
  let observed := decide ("output_control" ∈ observedCapabilities)
  match hardwareProfile.filter fun name => decide (pyStrip name ≠ "") with
  | some name =>
    let cap := resolvePowerWriteCapability texts topicFamily name brokerSource
    { status := if cap.supported then .supported
        else if cap.blockReason.any BlockReason.meansUnknown then .unknown else .unsupported
      reason := if cap.supported then cap.writeProfile.elim "" PowerWriteProfile.code
        else cap.blockReason.elim "" BlockReason.code
      outputControlObserved := observed
      hardwareProfile := cap.profileId, powerWriteProfile := cap.writeProfile
      blockReason := if cap.supported then none else cap.blockReason
      modelSupported := cap.modelSupported, transportSupported := cap.transportSupported
      telemetryFamily := cap.telemetryFamily, writeFamily := cap.writeFamily
      brokerSource := cap.brokerSource, brokerSourceSupported := cap.brokerSourceSupported }
  | none =>
    { status := .unknown, reason := "write_method_missing", outputControlObserved := observed
      blockReason := some .hardwareProfileMissing, telemetryFamily := topicFamily
      brokerSource := normalizeBrokerSource texts brokerSource }

def proposalOutputControl (cap : MqttOutputControlCapability) : Bool × String :=
  (cap.supported, cap.reason)

variable {texts}

end Capability

end SolarFlowEms.Discovery
