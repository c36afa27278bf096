import SolarFlowEms.Library.StrippedText
import SolarFlowEms.Migration.PlanDevice

/-!
# What the migration leaves as it was

An entry that may be controlled has one of two routes: a pinned model that is written on its
canonical topic, or the operator's own topic.  The migration keeps the first, and it keeps the
second where the entry has no product key.  With a product key it takes the operator's topic for a
leftover and removes it, and the entry has no topic left.
-/

namespace SolarFlowEms.Migration

open Python Documents Mqtt Discovery PowerWriteProfile
open SolarFlowEms.Runtime (dictPop dictGet_dictPop)

/-! ### How the control of an entry publishes -/

def canonicalProfileWriteTopic : Option String → Option String → Option String
  | some productKey, some deviceId =>
    some ("iot/" ++ productKey ++ "/" ++ deviceId ++ "/properties/write")
  | _, _ => none

/-- What `_control_capability` says of an entry. -/
structure ControlCapability where
  supported : Bool
  writeProfile : Option PowerWriteProfile
  operations : List PowerDirection.Operation
  blockReason : Option BlockReason
deriving DecidableEq

section

variable (texts : NameTexts)

/-- `_effective_write_topic_info`, as far as the topic. -/
def effectiveWriteTopic (device : PyValue) : Option String :=
  if (pinnedProfile texts device).isNone && isCustomEscapeHatch texts device then
    zendureMqttWriteTopic device
  else
    canonicalProfileWriteTopic (zendureMqttProductKey device)
      (zendureMqttRouteDeviceId texts device)

def hardwareProfileInvalid (device : PyValue) : Bool :=
  match pinnedProfile texts device with
  | none => (zendureMqttHardwareProfile device).isSome
  | some profile =>
    (zendureMqttPowerWriteProfile device).any
      (· ≠ code profile.powerWriteProfile)

/-- `_control_capability`, over a broker of the source. -/
def controlCapability (device : PyValue) (source : Option BrokerSource) : ControlCapability :=
  if hardwareProfileInvalid texts device then
    ⟨false, none, [], some .hardwareProfileUnknown⟩
  else
    match zendureMqttHardwareProfile device with
    | some name =>
      let cap := capabilityFor texts device name source
      ⟨cap.supported, cap.writeProfile,
        [.charge, .discharge, .idle].filter (· ∈ cap.supportedOperations), cap.blockReason⟩
    | none =>
      if isCustomEscapeHatch texts device then ⟨true, none, [.discharge, .idle], none⟩
      else ⟨false, none, [], some .hardwareProfileMissing⟩

/-- **What works of an entry still works the same way**: it asks for control and is enabled as
before, it publishes to the same topic, and the same profile is written with the same authority. -/
structure KeepsControl (sources sources' : List (String × String)) (device device' : PyValue) :
    Prop where
  control : isControlZendureMqttDeviceConfig texts device' = true
  enabled : configEntryEnabled device' = configEntryEnabled device
  topic : effectiveWriteTopic texts device' = effectiveWriteTopic texts device
  source : zendureMqttEffectiveBrokerSource texts device' sources' =
    zendureMqttEffectiveBrokerSource texts device sources
  capability :
    controlCapability texts device' (zendureMqttEffectiveBrokerSource texts device' sources') =
      controlCapability texts device (zendureMqttEffectiveBrokerSource texts device sources)

/-- No error that the migration answers for.  An entry that validates without any error has none. -/
def ValidControl (context : BrokerContext) (device : PyValue) : Prop :=
  ∀ issue ∈ validateZendureMqttControlDeviceConfig texts device context,
    isMigrationError issue = false

/-- The entry has the operator's own topic for its route, and a product key besides. -/
def LosesTopic (device : PyValue) : Prop :=
  zendureMqttHardwareProfile device = none ∧ zendureMqttProductKey device ≠ none

instance (device : PyValue) : Decidable (LosesTopic device) :=
  inferInstanceAs (Decidable (_ ∧ _))

end

/-! ### The two routes -/

section Routes

variable (texts : NameTexts)

/-- The entry is controlled through its pinned model. -/
structure PinnedRoute (device : PyValue) (source : Option BrokerSource) (name : String)
    (profile : ZendureHardwareProfile) : Prop where
  pinned : zendureMqttHardwareProfile device = some name
  known : hardwareProfileByName texts name = some profile
  supported : (capabilityFor texts device name source).supported = true
  productKey : zendureMqttProductKey device ≠ none
  deviceId : zendureMqttRouteDeviceId texts device ≠ none
  stored : (zendureMqttPowerWriteProfile device).all
    (· = code profile.powerWriteProfile) = true

/-- The entry is controlled through the operator's own topic. -/
structure CustomRoute (device : PyValue) (topic : String) : Prop where
  unpinned : zendureMqttHardwareProfile device = none
  custom : isCustomEscapeHatch texts device = true
  own : zendureMqttWriteTopic device = some topic
  valid : publishTopicInvalid topic = false
  deviceId : zendureMqttRouteDeviceId texts device ≠ none

variable {texts} {device : PyValue} {source : Option BrokerSource} {name topic : String}
  {profile : ZendureHardwareProfile}

theorem PinnedRoute.pinnedProfile_eq (h : PinnedRoute texts device source name profile) :
    pinnedProfile texts device = some profile := by
  rw [pinnedProfile, h.pinned]
  exact h.known

theorem CustomRoute.pinnedProfile_eq (h : CustomRoute texts device topic) :
    pinnedProfile texts device = none := by
  rw [pinnedProfile, h.unpinned]
  rfl

/-! ### What a supported capability says -/

theorem pyStrip_of_rawText {value : PyValue} {text : String} (h : rawText value = some text) :
    pyStrip text = text := by
  obtain ⟨raw, -, hraw⟩ := Option.bind_eq_some_iff.mp h
  split at hraw
  · cases hraw
  · obtain rfl : pyStrip raw = text := Option.some_inj.mp hraw
    exact pyStrip_pyStrip raw

theorem pyStrip_of_hardwareProfile (h : zendureMqttHardwareProfile device = some name) :
    pyStrip name = name := by
  rcases Option.or_eq_some_iff.mp h with htop | ⟨-, hnested⟩
  · exact pyStrip_of_rawText htop
  · exact pyStrip_of_rawText hnested

theorem supported_capability {family : TopicFamily} {brokerSource : Option String}
    (hname : pyStrip name = name)
    (h : (resolvePowerWriteCapability texts family name brokerSource).supported = true) :
    ∃ profile, hardwareProfileByName texts name = some profile ∧ profile.writable = true ∧
      (writeFamilyForProfile profile.powerWriteProfile).isSome = true ∧
      (resolvePowerWriteCapability texts family name brokerSource).modelSupported = true ∧
      (resolvePowerWriteCapability texts family name brokerSource).writeProfile =
        some profile.powerWriteProfile := by
  unfold resolvePowerWriteCapability at h ⊢
  rw [hname] at h ⊢
  by_cases hblank : name = ""
  · rw [if_pos hblank] at h
    cases h
  rw [if_neg hblank] at h ⊢
  cases hprofile : hardwareProfileByName texts name with
  | none =>
    rw [hprofile] at h
    cases h
  | some profile =>
    rw [hprofile] at h
    simp only at h ⊢
    by_cases hwritable : profile.writable = true
    · rw [if_neg (by simp [hwritable])] at h ⊢
      cases hfamily : writeFamilyForProfile profile.powerWriteProfile with
      | none =>
        rw [hfamily] at h
        cases h
      | some family =>
        exact ⟨profile, rfl, hwritable, by rw [hfamily]; rfl, rfl, rfl⟩
    · rw [if_pos (by simp [hwritable])] at h
      cases h

theorem PinnedRoute.capability (h : PinnedRoute texts device source name profile) :
    profileBackedControl texts device = true ∧
      (capabilityFor texts device name source).modelSupported = true ∧
      (capabilityFor texts device name source).writeProfile = some profile.powerWriteProfile := by
  obtain ⟨found, hfound, hwritable, hfamily, hmodel, hprofile⟩ :=
    supported_capability (pyStrip_of_hardwareProfile h.pinned) h.supported
  obtain rfl : profile = found := Option.some_inj.mp (h.known.symm.trans hfound)
  refine ⟨?_, hmodel, hprofile⟩
  rw [profileBackedControl, h.pinnedProfile_eq]
  simp [hwritable, hfamily]

/-! ### A valid entry has one of the routes -/

def Clean (issues : List Issue) : Prop := ∀ issue ∈ issues, isMigrationError issue = false

theorem clean_append (issues issues' : List Issue) :
    Clean (issues ++ issues') ↔ Clean issues ∧ Clean issues' := List.forall_mem_append

theorem clean_nil : Clean [] := List.forall_mem_nil _

theorem clean_of_codes {issues : List Issue}
    (h : ∀ issue ∈ issues, issue.code ∉ migrationValidationCodes) : Clean issues := by
  intro issue hissue
  simp [isMigrationError, h issue hissue]

theorem clean_errorIf {code : String} (hcode : code ∈ migrationValidationCodes)
    (condition : Bool) : Clean (errorIf condition code) ↔ condition = false := by
  cases condition with
  | false => exact ⟨fun _ => rfl, fun _ => clean_nil⟩
  | true => simp [Clean, errorIf, isMigrationError, hcode]

theorem clean_errorIf_of_notMem {code : String} (hcode : code ∉ migrationValidationCodes)
    (condition : Bool) : Clean (errorIf condition code) := by
  apply clean_of_codes
  intro issue hissue
  cases condition with
  | false => cases hissue
  | true =>
    obtain rfl := List.mem_singleton.mp hissue
    exact hcode

theorem clean_singleton {code : String} (hcode : code ∈ migrationValidationCodes) :
    ¬ Clean [⟨.error, code⟩] := by
  simp [Clean, isMigrationError, hcode]

theorem clean_brokerRefIssue (context : BrokerContext) : Clean (brokerRefIssue device context) := by
  rw [brokerRefIssue]
  split
  · exact clean_errorIf_of_notMem (by simp [migrationValidationCodes]) _
  · split
    · simp [Clean, isMigrationError]
    · exact clean_nil

theorem clean_sourceMismatchIssue (sources : List (String × String)) :
    Clean (sourceMismatchIssue texts device sources) := by
  rw [sourceMismatchIssue.eq_def]
  split
  · exact clean_errorIf_of_notMem (by simp [migrationValidationCodes]) _
  · exact clean_nil

theorem clean_structuralIssues (context : BrokerContext) :
    Clean (structuralIssues texts device context) ↔
      Clean (powerWriteProfileMetadataIssues texts device) := by
  have hmqtt : Clean (if (field device "mqtt").dict?.isSome then
      errorIf (zendureMqttTopicFamily device = none) "topic_family_missing"
      else [⟨.error, "mqtt_missing"⟩]) := by
    split
    · exact clean_errorIf_of_notMem (by simp [migrationValidationCodes]) _
    · exact @clean_errorIf_of_notMem "mqtt_missing" (by simp [migrationValidationCodes]) true
  have hroute : Clean ((zendureMqttRouteSegmentInvalidKeys device).map
      fun _ => ⟨.error, "mqtt_route_segment_invalid"⟩) := by
    apply clean_of_codes
    intro issue hissue
    obtain ⟨key, -, rfl⟩ := List.mem_map.mp hissue
    simp [migrationValidationCodes]
  have hname : Clean (errorIf (rawText (field device "name") = none) "name_missing") :=
    clean_errorIf_of_notMem (by simp [migrationValidationCodes]) _
  have hid : Clean (errorIf (zendureMqttDeviceIdentifier device = none)
      "device_identifier_missing") := clean_errorIf_of_notMem (by simp [migrationValidationCodes]) _
  simp only [structuralIssues, clean_append, hname, hmqtt, hid, hroute, clean_brokerRefIssue,
    clean_sourceMismatchIssue, true_and]

theorem clean_powerWriteProfileMetadataIssues :
    Clean (powerWriteProfileMetadataIssues texts device) ↔
      ∀ profile, pinnedProfile texts device = some profile →
        (zendureMqttPowerWriteProfile device).all
          (· = code profile.powerWriteProfile) = true := by
  rw [powerWriteProfileMetadataIssues.eq_def]
  cases hprofile : pinnedProfile texts device with
  | none =>
    refine ⟨fun _ profile h => ?_, fun _ => clean_nil⟩
    cases h
  | some profile =>
    cases hstored : zendureMqttPowerWriteProfile device with
    | none =>
      refine ⟨fun _ _ _ => ?_, fun _ => clean_nil⟩
      rfl
    | some stored =>
      simp only [clean_errorIf (show "power_write_profile_mismatch" ∈ migrationValidationCodes by
        simp [migrationValidationCodes])]
      simp

theorem blockReason_mem (reason : Option BlockReason) :
    reason.elim "write_protocol_unsupported" BlockReason.code ∈ migrationValidationCodes := by
  cases reason with
  | none => simp [migrationValidationCodes]
  | some reason => cases reason <;> simp [migrationValidationCodes, BlockReason.code]

theorem clean_profileIssues (source : Option BrokerSource) (name : String) :
    Clean (profileIssues texts device source name) ↔
      hardwareProfileByName texts name ≠ none ∧
        (capabilityFor texts device name source).supported = true := by
  rw [profileIssues]
  split
  · rename_i hunknown
    exact ⟨fun h => absurd h (clean_singleton (by simp [migrationValidationCodes])),
      fun h => absurd hunknown h.1⟩
  · rename_i hknown
    simp only
    split
    · rename_i hsupported
      refine ⟨fun _ => ⟨hknown, hsupported⟩, fun _ => ?_⟩
      split
      · simp [Clean, isMigrationError]
      · exact clean_nil
    · rename_i hsupported
      exact ⟨fun h => absurd h (clean_singleton (blockReason_mem _)),
        fun h => absurd h.2 hsupported⟩

theorem clean_protocolIssues :
    Clean (protocolIssues texts device) ↔ isCustomEscapeHatch texts device = true ∧
      ∃ topic, zendureMqttWriteTopic device = some topic ∧ publishTopicInvalid topic = false := by
  have hcustom : isCustomEscapeHatch texts device = true ↔
      resolveWriteProtocol texts (zendureMqttWriteProtocol device) ≠ none := by
    rw [isCustomEscapeHatch, decide_eq_true_iff]
    refine ⟨fun h => by rw [h]; exact Option.some_ne_none _, fun h => ?_⟩
    obtain ⟨protocol, hprotocol⟩ := Option.ne_none_iff_exists'.mp h
    rw [hprotocol, of_decide_eq_true (Option.filter_eq_some_iff.mp hprotocol).2]
  rw [protocolIssues, hcustom]
  split
  · rename_i hnone
    exact ⟨fun h => absurd h (clean_singleton (by simp [migrationValidationCodes])),
      fun h => absurd hnone h.1⟩
  · rename_i hsome
    cases htopic : zendureMqttWriteTopic device with
    | none =>
      refine ⟨fun h => absurd h (clean_singleton (by simp [migrationValidationCodes])), ?_⟩
      rintro ⟨-, topic, htopic, -⟩
      cases htopic
    | some topic =>
      simp only [clean_errorIf (show "write_topic_invalid" ∈ migrationValidationCodes by
        simp [migrationValidationCodes])]
      simp [hsome]

theorem clean_writeTargetIssue :
    Clean (writeTargetIssue texts device) ↔ (zendureMqttProductKey device = none →
      zendureMqttWriteTopic device ≠ none ∧ profileBackedControl texts device = false) := by
  rw [writeTargetIssue, clean_errorIf (by simp [migrationValidationCodes])]
  simp

theorem clean_controlWriteCapabilityIssues (source : Option BrokerSource) :
    Clean (controlWriteCapabilityIssues texts device source) ↔
      match zendureMqttHardwareProfile device with
      | some name => hardwareProfileByName texts name ≠ none ∧
          (capabilityFor texts device name source).supported = true
      | none => isCustomEscapeHatch texts device = true ∧ ∃ topic,
          zendureMqttWriteTopic device = some topic ∧ publishTopicInvalid topic = false := by
  rw [controlWriteCapabilityIssues]
  cases zendureMqttHardwareProfile device with
  | none => exact clean_protocolIssues
  | some name => exact clean_profileIssues source name

theorem validControl_iff_clean {context : BrokerContext}
    (hcontrol : isControlZendureMqttDeviceConfig texts device = true) :
    ValidControl texts context device ↔
      Clean (powerWriteProfileMetadataIssues texts device) ∧
        zendureMqttRouteDeviceId texts device ≠ none ∧ Clean (writeTargetIssue texts device) ∧
        Clean (controlWriteCapabilityIssues texts device
          (zendureMqttEffectiveBrokerSource texts device context.brokerSources)) := by
  obtain ⟨htype, hwrite⟩ := Bool.and_eq_true_iff.mp hcontrol
  have hdict : device.dict? ≠ none := by
    intro hnone
    rw [isZendureMqttDeviceConfig, hnone] at htype
    cases htype
  have hcatalog : Clean (catalogFamilyIssue device) :=
    clean_errorIf_of_notMem (by simp [migrationValidationCodes]) _
  have hrequested : Clean (errorIf (!writeOutputLimitRequested device) "control_not_requested") :=
    (clean_errorIf (by simp [migrationValidationCodes]) _).mpr (by rw [hwrite]; rfl)
  have hid : Clean (errorIf (zendureMqttRouteDeviceId texts device = none)
      "mqtt_device_id_missing") ↔ zendureMqttRouteDeviceId texts device ≠ none := by
    rw [clean_errorIf (by simp [migrationValidationCodes]), decide_eq_false_iff_not]
  show Clean _ ↔ _
  rw [validateZendureMqttControlDeviceConfig, if_neg hdict, if_neg (by simp [htype])]
  simp only [clean_append, clean_structuralIssues, hcatalog, hrequested, hid, and_true, and_assoc]

/-- **A valid entry is controlled through its model or through the operator's own topic.** -/
theorem validControl_iff {context : BrokerContext}
    (hcontrol : isControlZendureMqttDeviceConfig texts device = true) :
    ValidControl texts context device ↔ (∃ topic, CustomRoute texts device topic) ∨
      ∃ name profile, PinnedRoute texts device
        (zendureMqttEffectiveBrokerSource texts device context.brokerSources) name profile := by
  rw [validControl_iff_clean hcontrol, clean_powerWriteProfileMetadataIssues,
    clean_writeTargetIssue, clean_controlWriteCapabilityIssues]
  constructor
  · rintro ⟨hstored, hid, htarget, hroute⟩
    cases hname : zendureMqttHardwareProfile device with
    | none =>
      rw [hname] at hroute
      obtain ⟨hcustom, topic, htopic, hvalid⟩ := hroute
      exact .inl ⟨topic, hname, hcustom, htopic, hvalid, hid⟩
    | some name =>
      rw [hname] at hroute
      obtain ⟨hknown, hsupported⟩ := hroute
      obtain ⟨profile, hprofile⟩ := Option.ne_none_iff_exists'.mp hknown
      have hpinned : pinnedProfile texts device = some profile := by
        rw [pinnedProfile, hname]
        exact hprofile
      obtain ⟨found, hfound, hwritable, hfamily, -⟩ :=
        supported_capability (pyStrip_of_hardwareProfile hname) hsupported
      obtain rfl : profile = found := Option.some_inj.mp (hprofile.symm.trans hfound)
      have hkey : zendureMqttProductKey device ≠ none := by
        intro hnone
        have hbacked := (htarget hnone).2
        rw [profileBackedControl, hpinned] at hbacked
        simp [hwritable, Option.isSome_iff_ne_none.mp hfamily] at hbacked
      exact .inr ⟨name, profile, hname, hprofile, hsupported, hkey, hid, hstored profile hpinned⟩
  · rintro (⟨topic, hroute⟩ | ⟨name, profile, hroute⟩)
    · refine ⟨fun profile hpinned => ?_, hroute.deviceId, fun _ => ⟨?_, ?_⟩, ?_⟩
      · rw [hroute.pinnedProfile_eq] at hpinned
        cases hpinned
      · rw [hroute.own]
        exact Option.some_ne_none topic
      · rw [profileBackedControl, hroute.pinnedProfile_eq]
        rfl
      · rw [hroute.unpinned]
        exact ⟨hroute.custom, topic, hroute.own, hroute.valid⟩
    · refine ⟨fun found hpinned => ?_, hroute.deviceId, fun hnone => ?_, ?_⟩
      · obtain rfl := Option.some_inj.mp (hroute.pinnedProfile_eq.symm.trans hpinned)
        exact hroute.stored
      · exact absurd hnone hroute.productKey
      · rw [hroute.pinned]
        exact ⟨by rw [hroute.known]; exact Option.some_ne_none profile, hroute.supported⟩

end Routes

/-! ### What a change of an entry leaves as it was -/

section Frames

variable {texts : NameTexts} {device device' : PyValue}

theorem getValue_dictSet (entries : Entries) (key : String) (value : PyValue) (key' : String) :
    getValue (dictSet entries key value) key' = if key' = key then value else getValue entries key' := by
  rw [getValue, dictGet_dictSet]
  split
  · rfl
  · rfl

theorem getValue_dictPop (entries : Entries) (key name : String) :
    getValue (dictPop entries key) name = if name = key then .none else getValue entries name := by
  rw [getValue, dictGet_dictPop]
  split
  · rfl
  · rfl

theorem getValue_popIf_of_ne {key name : String} (hne : name ≠ key) (condition : Bool)
    (entries : Entries) : getValue (popIf condition key entries) name = getValue entries name := by
  rw [popIf]
  split
  · rw [getValue_dictPop, if_neg hne]
  · rfl

theorem getValue_changeMqtt {key : String} (hkey : key ≠ "mqtt") (change : Entries → Entries)
    (entries : Entries) : getValue (changeMqtt change entries) key = getValue entries key := by
  rw [changeMqtt.eq_def]
  split
  · rw [getValue_dictSet, if_neg hkey]
  · rfl

/-- The entries under `mqtt` are changed, where a change of no entries adds none. -/
theorem mapping_changeMqtt {change : Entries → Entries} (hnil : change [] = [])
    (entries : Entries) : mapping (getValue (changeMqtt change entries) "mqtt") =
      change (mapping (getValue entries "mqtt")) := by
  rw [changeMqtt.eq_def]
  split
  · rename_i mqtt hmqtt
    rw [getValue_dictSet, if_pos rfl, hmqtt]
    rfl
  · rename_i hother
    cases hmqtt : getValue entries "mqtt" with
    | dict mqtt => exact absurd hmqtt (hother mqtt)
    | none | bool _ | int _ | float _ | str _ | list _ => exact hnil.symm

/-- The keys that name a model at the top of an entry, and the block that is changed as a whole. -/
def changedKeys : List String := ["hardware_profile", "power_write_profile", "mqtt"]

/-- The keys under `mqtt` that go. -/
def changedMqttKeys : List String := ["write_topic", "write_protocol", "power_write_profile"]

/-- Two entries that differ only in the keys that a change of the route touches. -/
structure SameRoute (device device' : PyValue) : Prop where
  dict : device'.dict?.isSome = device.dict?.isSome
  top : ∀ key, key ∉ changedKeys → field device' key = field device key
  mqtt : ∀ key, key ∉ changedMqttKeys → mqttField device' key = mqttField device key

namespace SameRoute

variable (h : SameRoute device device')
include h

theorem mqttRaw_eq {key : String} (hkey : key ∉ changedMqttKeys) :
    mqttRaw device' key = mqttRaw device key := by
  rw [mqttRaw, mqttRaw, h.mqtt key hkey]

theorem control : isControlZendureMqttDeviceConfig texts device' =
    isControlZendureMqttDeviceConfig texts device := by
  rw [isControlZendureMqttDeviceConfig, isControlZendureMqttDeviceConfig,
    isZendureMqttDeviceConfig, isZendureMqttDeviceConfig, writeOutputLimitRequested,
    writeOutputLimitRequested, h.dict, h.top "type" (by decide), h.top "capabilities" (by decide)]

theorem enabled : configEntryEnabled device' = configEntryEnabled device := by
  rw [configEntryEnabled, configEntryEnabled, h.top "enabled" (by decide)]

theorem productKey : zendureMqttProductKey device' = zendureMqttProductKey device :=
  h.mqttRaw_eq (by decide)

theorem topicFamily : zendureMqttTopicFamily device' = zendureMqttTopicFamily device :=
  h.mqttRaw_eq (by decide)

theorem deviceId : zendureMqttRouteDeviceId texts device' =
    zendureMqttRouteDeviceId texts device := by
  rw [zendureMqttRouteDeviceId, zendureMqttRouteDeviceId, h.mqtt "device_id" (by decide)]

theorem source (sources : List (String × String)) :
    zendureMqttEffectiveBrokerSource texts device' sources =
      zendureMqttEffectiveBrokerSource texts device sources := by
  rw [zendureMqttEffectiveBrokerSource, zendureMqttEffectiveBrokerSource, zendureMqttBrokerRef,
    zendureMqttBrokerRef, zendureMqttSource, zendureMqttSource, h.mqttRaw_eq (by decide),
    h.mqttRaw_eq (by decide)]

theorem capabilityFor_eq (name : String) (source : Option BrokerSource) :
    capabilityFor texts device' name source = capabilityFor texts device name source := by
  rw [capabilityFor, capabilityFor, h.topicFamily]

end SameRoute

theorem PinnedRoute.of_same {source : Option BrokerSource} {name : String}
    {profile : ZendureHardwareProfile} (hroute : PinnedRoute texts device source name profile)
    (h : SameRoute device device') (hname : zendureMqttHardwareProfile device' = some name)
    (hstored : (zendureMqttPowerWriteProfile device').all
      (· = code profile.powerWriteProfile) = true) :
    PinnedRoute texts device' source name profile where
  pinned := hname
  known := hroute.known
  supported := by
    rw [h.capabilityFor_eq]
    exact hroute.supported
  productKey := by
    rw [h.productKey]
    exact hroute.productKey
  deviceId := by
    rw [h.deviceId]
    exact hroute.deviceId
  stored := hstored

theorem PinnedRoute.hardwareProfileInvalid_eq {source : Option BrokerSource} {name : String}
    {profile : ZendureHardwareProfile} (hroute : PinnedRoute texts device source name profile) :
    hardwareProfileInvalid texts device = false := by
  have hstored := hroute.stored
  rw [hardwareProfileInvalid, hroute.pinnedProfile_eq]
  cases hpower : zendureMqttPowerWriteProfile device with
  | none => rfl
  | some stored =>
    rw [hpower] at hstored
    simpa using hstored

/-- **Two entries with one pinned route are controlled alike.** -/
theorem PinnedRoute.keepsControl {sources : List (String × String)} {name : String}
    {profile : ZendureHardwareProfile} (h : SameRoute device device')
    (hcontrol : isControlZendureMqttDeviceConfig texts device = true)
    (hroute : PinnedRoute texts device (zendureMqttEffectiveBrokerSource texts device sources)
      name profile)
    (hroute' : PinnedRoute texts device' (zendureMqttEffectiveBrokerSource texts device sources)
      name profile) : KeepsControl texts sources sources device device' where
  control := h.control.trans hcontrol
  enabled := h.enabled
  topic := by
    rw [effectiveWriteTopic, effectiveWriteTopic, hroute.pinnedProfile_eq,
      hroute'.pinnedProfile_eq, h.productKey, h.deviceId]
    rfl
  source := h.source sources
  capability := by
    rw [controlCapability, controlCapability, hroute.hardwareProfileInvalid_eq,
      hroute'.hardwareProfileInvalid_eq, hroute.pinned, hroute'.pinned, h.source]
    simp only [h.capabilityFor_eq]

end Frames

/-! ### The changes of a valid entry -/

section Changes

variable {texts : NameTexts} {entries : Entries} {name : String} {profile : ZendureHardwareProfile}

def withoutTopic (entries : Entries) : Entries := changeMqtt (dictPop · "write_topic") entries

theorem mqttField_withoutTopic (key : String) :
    mqttField (.dict (withoutTopic entries)) key =
      if key = "write_topic" then .none else mqttField (.dict entries) key := by
  show getValue (mapping (getValue (withoutTopic entries) "mqtt")) key = _
  rw [withoutTopic, mapping_changeMqtt rfl, getValue_dictPop]
  rfl

theorem sameRoute_withoutTopic : SameRoute (.dict entries) (.dict (withoutTopic entries)) where
  dict := rfl
  top key hkey := getValue_changeMqtt (fun h => hkey (by simp [changedKeys, h])) _ _
  mqtt key hkey := by
    rw [mqttField_withoutTopic, if_neg fun h => hkey (by simp [changedMqttKeys, h])]

theorem zendureMqttWriteTopic_withoutTopic :
    zendureMqttWriteTopic (.dict (withoutTopic entries)) = none := by
  rw [zendureMqttWriteTopic, mqttRaw, mqttField_withoutTopic, if_pos rfl]
  rfl

theorem zendureMqttHardwareProfile_withoutTopic :
    zendureMqttHardwareProfile (.dict (withoutTopic entries)) =
      zendureMqttHardwareProfile (.dict entries) := by
  rw [zendureMqttHardwareProfile, zendureMqttHardwareProfile, mqttRaw, mqttRaw,
    mqttField_withoutTopic, if_neg (by decide)]
  congr 2
  exact getValue_changeMqtt (by decide) _ _

theorem zendureMqttPowerWriteProfile_withoutTopic :
    zendureMqttPowerWriteProfile (.dict (withoutTopic entries)) =
      zendureMqttPowerWriteProfile (.dict entries) := by
  rw [zendureMqttPowerWriteProfile, zendureMqttPowerWriteProfile, mqttRaw, mqttRaw,
    mqttField_withoutTopic, if_neg (by decide)]
  congr 2
  exact getValue_changeMqtt (by decide) _ _

theorem isCustomEscapeHatch_withoutTopic :
    isCustomEscapeHatch texts (.dict (withoutTopic entries)) =
      isCustomEscapeHatch texts (.dict entries) := by
  rw [isCustomEscapeHatch, isCustomEscapeHatch, zendureMqttWriteProtocol,
    zendureMqttWriteProtocol, mqttRaw, mqttRaw, mqttField_withoutTopic, if_neg (by decide)]

def pinOf (name : String) (profile : ZendureHardwareProfile) : Change :=
  ⟨.pinProfile, some name, some (code profile.powerWriteProfile),
    "zendure_mqtt_control_model_pinned"⟩

variable {change : Change} {key text : String}

theorem field_applyPin (hkey : key ≠ "mqtt") :
    field (.dict (applyPin change entries)) key =
      if key = "power_write_profile" then applyPin.ofText change.powerWriteProfile
      else if key = "hardware_profile" then applyPin.ofText change.hardwareProfile
      else field (.dict entries) key := by
  show getValue (applyPin change entries) key = _
  rw [applyPin, getValue_changeMqtt hkey, getValue_dictSet, getValue_dictSet]
  rfl

theorem mqttField_applyPin (hkey : key ∉ changedMqttKeys) :
    mqttField (.dict (applyPin change entries)) key = mqttField (.dict entries) key := by
  obtain ⟨htopic, hprotocol, hprofile⟩ : key ≠ "write_topic" ∧ key ≠ "write_protocol" ∧
      key ≠ "power_write_profile" := by simpa [changedMqttKeys] using hkey
  have hnil (topic nested : Bool) : popIf topic "write_topic"
      (popIf nested "power_write_profile" (dictPop [] "write_protocol")) = [] := by
    cases topic <;> cases nested <;> rfl
  show getValue (mapping (getValue (applyPin change entries) "mqtt")) key = _
  rw [applyPin, mapping_changeMqtt (hnil _ _), getValue_popIf_of_ne htopic,
    getValue_popIf_of_ne hprofile, getValue_dictPop, if_neg hprotocol, getValue_dictSet,
    if_neg (by decide), getValue_dictSet, if_neg (by decide)]
  rfl

theorem sameRoute_applyPin (change : Change) :
    SameRoute (.dict entries) (.dict (applyPin change entries)) where
  dict := rfl
  top key hkey := by
    obtain ⟨hhardware, hpower, hmqtt⟩ : key ≠ "hardware_profile" ∧ key ≠ "power_write_profile" ∧
        key ≠ "mqtt" := by simpa [changedKeys] using hkey
    rw [field_applyPin hmqtt, if_neg hpower, if_neg hhardware]
  mqtt _ hkey := mqttField_applyPin hkey

theorem rawText_of_stripped (hstrip : pyStrip text = text) (hne : text ≠ "") :
    rawText (.str text) = some text := by
  show (if pyStrip text = "" then none else some (pyStrip text)) = _
  rw [hstrip, if_neg hne]

theorem ne_empty_of_rawText {value : PyValue} (h : rawText value = some text) :
    text ≠ "" := by
  obtain ⟨raw, -, hraw⟩ := Option.bind_eq_some_iff.mp h
  split at hraw
  · cases hraw
  · rename_i hne
    rwa [Option.some_inj.mp hraw] at hne

theorem ne_empty_of_hardwareProfile {device : PyValue}
    (h : zendureMqttHardwareProfile device = some name) : name ≠ "" := by
  rcases Option.or_eq_some_iff.mp h with htop | ⟨-, hnested⟩
  · exact ne_empty_of_rawText htop
  · exact ne_empty_of_rawText hnested

theorem rawText_code (powerWriteProfile : PowerWriteProfile) :
    rawText (.str (code powerWriteProfile)) =
      some (code powerWriteProfile) := by
  cases powerWriteProfile <;> decide

theorem pinned_applyPin (hname : zendureMqttHardwareProfile (.dict entries) = some name) :
    zendureMqttHardwareProfile (.dict (applyPin (pinOf name profile) entries)) = some name ∧
      zendureMqttPowerWriteProfile (.dict (applyPin (pinOf name profile) entries)) =
        some (code profile.powerWriteProfile) := by
  constructor
  · rw [zendureMqttHardwareProfile, field_applyPin (by decide), if_neg (by decide), if_pos rfl]
    show (rawText (.str name)).or _ = _
    rw [rawText_of_stripped (pyStrip_of_hardwareProfile hname) (ne_empty_of_hardwareProfile hname)]
    rfl
  · rw [zendureMqttPowerWriteProfile, field_applyPin (by decide), if_pos rfl]
    show (rawText (.str (code profile.powerWriteProfile))).or _ = _
    rw [rawText_code]
    rfl

/-! ### What is planned for a valid entry -/

variable {device : PyValue} {source : Option BrokerSource} {topic : String}

theorem CustomRoute.alreadySafe_eq (h : CustomRoute texts device topic) :
    alreadySafe texts device source = true := by
  have hcomplete : addressingComplete texts device false = true := by
    rw [addressingComplete, decide_eq_true_iff, zendureMqttControlAddressability,
      if_neg Bool.false_ne_true, h.own]
    simp only
    rw [if_neg (by simp [h.valid]), if_neg h.deviceId]
  rw [alreadySafe, h.pinnedProfile_eq]
  simp only
  rw [customWriteAlreadySafe, h.custom, h.own, hcomplete]
  simp [h.valid]

theorem PinnedRoute.addressingComplete_eq (h : PinnedRoute texts device source name profile) :
    addressingComplete texts device true = true := by
  rw [addressingComplete, decide_eq_true_iff, zendureMqttControlAddressability, if_pos rfl,
    if_neg h.productKey, if_neg h.deviceId]

theorem PinnedRoute.planUnsafe_eq (h : PinnedRoute texts device source name profile) :
    planUnsafe texts device source = pinOf name profile := by
  have hintended : intendedModel texts device = (some name, some name) := by
    rw [intendedModel, h.pinnedProfile_eq, h.pinned]
  obtain ⟨-, hmodel, hprofile⟩ := h.capability
  have hplan : planModel texts device source name (some name) = some (pinOf name profile) := by
    rw [planModel, h.supported, hmodel, hprofile, h.addressingComplete_eq]
    rfl
  rw [planUnsafe, hintended, Option.bind_some, hplan]

theorem planDevice_of_safe (hcontrol : isControlZendureMqttDeviceConfig texts device = true)
    (hsafe : alreadySafe texts device source = true) :
    planDevice texts device source = if obsoleteWriteTopic device = none then none
      else some ⟨.normalizeWriteTopic, zendureMqttHardwareProfile device, none,
        "zendure_mqtt_control_write_topic_normalized"⟩ := by
  rw [planDevice, if_neg (by simp [hcontrol]), if_pos hsafe]

variable {sources : List (String × String)}

theorem migrateDevice_of_none
    (h : planDevice texts device (zendureMqttEffectiveBrokerSource texts device sources) = none) :
    migrateDevice texts sources device = device := by
  rw [migrateDevice.eq_def, h]
  cases device <;> rfl

theorem migrateDevice_of_some (h : planDevice texts (.dict entries)
      (zendureMqttEffectiveBrokerSource texts (.dict entries) sources) = some change) :
    migrateDevice texts sources (.dict entries) = .dict (applyChange texts entries change) := by
  rw [migrateDevice.eq_def, h]

section

variable (hcontrol : isControlZendureMqttDeviceConfig texts (.dict entries) = true)
include hcontrol

theorem migrateDevice_of_safe
    (hsafe : alreadySafe texts (.dict entries)
      (zendureMqttEffectiveBrokerSource texts (.dict entries) sources) = true) :
    migrateDevice texts sources (.dict entries) =
      if obsoleteWriteTopic (.dict entries) = none then .dict entries
      else .dict (withoutTopic entries) := by
  have hplan := planDevice_of_safe hcontrol hsafe
  by_cases htopic : obsoleteWriteTopic (.dict entries) = none
  · rw [if_pos htopic] at hplan ⊢
    exact migrateDevice_of_none hplan
  · rw [if_neg htopic] at hplan ⊢
    exact migrateDevice_of_some hplan

/-- **An entry with a pinned model keeps its route**, whatever is left over in it. -/
theorem PinnedRoute.migrateDevice
    (h : PinnedRoute texts (.dict entries)
      (zendureMqttEffectiveBrokerSource texts (.dict entries) sources) name profile) :
    SameRoute (.dict entries) (migrateDevice texts sources (.dict entries)) ∧
      PinnedRoute texts (migrateDevice texts sources (.dict entries))
        (zendureMqttEffectiveBrokerSource texts (.dict entries) sources) name profile := by
  by_cases hsafe : alreadySafe texts (.dict entries)
      (zendureMqttEffectiveBrokerSource texts (.dict entries) sources) = true
  · rw [migrateDevice_of_safe hcontrol hsafe]
    split
    · exact ⟨⟨rfl, fun _ _ => rfl, fun _ _ => rfl⟩, h⟩
    · refine ⟨sameRoute_withoutTopic, h.of_same sameRoute_withoutTopic ?_ ?_⟩
      · rw [zendureMqttHardwareProfile_withoutTopic]
        exact h.pinned
      · rw [zendureMqttPowerWriteProfile_withoutTopic]
        exact h.stored
  · have hplan : planDevice texts (.dict entries) (zendureMqttEffectiveBrokerSource texts
        (.dict entries) sources) = some (pinOf name profile) := by
      rw [planDevice, if_neg (by simp [hcontrol]), if_neg hsafe, h.planUnsafe_eq]
    obtain ⟨hname, hstored⟩ := @pinned_applyPin entries name profile h.pinned
    have hsame : SameRoute (.dict entries) (.dict (applyPin (pinOf name profile) entries)) :=
      sameRoute_applyPin _
    rw [migrateDevice_of_some hplan]
    refine ⟨hsame, h.of_same hsame hname ?_⟩
    show (zendureMqttPowerWriteProfile (.dict (applyPin (pinOf name profile) entries))).all _ = true
    rw [hstored]
    simp

theorem CustomRoute.migrateDevice_of_keyless
    (h : CustomRoute texts (.dict entries) topic)
    (hkey : zendureMqttProductKey (.dict entries) = none) :
    migrateDevice texts sources (.dict entries) = .dict entries := by
  rw [migrateDevice_of_safe hcontrol h.alreadySafe_eq, if_pos]
  rw [obsoleteWriteTopic, if_pos hkey]

theorem CustomRoute.migrateDevice_of_keyed
    (h : CustomRoute texts (.dict entries) topic)
    (hkey : zendureMqttProductKey (.dict entries) ≠ none) :
    migrateDevice texts sources (.dict entries) = .dict (withoutTopic entries) := by
  rw [migrateDevice_of_safe hcontrol h.alreadySafe_eq, if_neg]
  rw [obsoleteWriteTopic, if_neg hkey, h.own]
  exact Option.some_ne_none topic

end

end Changes

/-! ### One entry -/

section OneEntry

variable {texts : NameTexts} {device : PyValue} {context : BrokerContext}

theorem dict_of_control (h : isControlZendureMqttDeviceConfig texts device = true) :
    ∃ entries, device = .dict entries := by
  cases device with
  | dict entries => exact ⟨entries, rfl⟩
  | none | bool _ | int _ | float _ | str _ | list _ => cases h

section

variable (hcontrol : isControlZendureMqttDeviceConfig texts device = true)
  (hvalid : ValidControl texts context device)
include hcontrol hvalid

theorem migrateDevice_cases {migrated : PyValue}
    (hmigrated : migrateDevice texts context.brokerSources device = migrated) :
    (¬ LosesTopic device ∧ ValidControl texts context migrated ∧
      KeepsControl texts context.brokerSources context.brokerSources device migrated) ∨
    (LosesTopic device ∧ ¬ ValidControl texts context migrated ∧
      ¬ KeepsControl texts context.brokerSources context.brokerSources device migrated) := by
  subst hmigrated
  obtain ⟨entries, rfl⟩ := dict_of_control hcontrol
  rcases (validControl_iff hcontrol).mp hvalid with ⟨topic, hroute⟩ | ⟨name, profile, hroute⟩
  · by_cases hkey : zendureMqttProductKey (.dict entries) = none
    · rw [hroute.migrateDevice_of_keyless hcontrol hkey]
      exact .inl ⟨fun hloses => hloses.2 hkey, hvalid, ⟨hcontrol, rfl, rfl, rfl, rfl⟩⟩
    · rw [hroute.migrateDevice_of_keyed hcontrol hkey]
      refine .inr ⟨⟨hroute.unpinned, hkey⟩, fun hstill => ?_, fun hkeeps => ?_⟩
      · have hcontrol' := sameRoute_withoutTopic.control.trans hcontrol
        rcases (validControl_iff hcontrol').mp hstill with ⟨own, hlost⟩ | ⟨name, profile, hlost⟩
        · have hown := hlost.own
          rw [zendureMqttWriteTopic_withoutTopic] at hown
          cases hown
        · have hpinned := hlost.pinned
          rw [zendureMqttHardwareProfile_withoutTopic, hroute.unpinned] at hpinned
          cases hpinned
      · have hpinned : pinnedProfile texts (.dict (withoutTopic entries)) = none := by
          rw [pinnedProfile, zendureMqttHardwareProfile_withoutTopic, hroute.unpinned]
          rfl
        have htopic := hkeeps.topic
        rw [effectiveWriteTopic, effectiveWriteTopic, hpinned, hroute.pinnedProfile_eq,
          isCustomEscapeHatch_withoutTopic, hroute.custom, zendureMqttWriteTopic_withoutTopic,
          hroute.own] at htopic
        cases htopic
  · obtain ⟨hsame, hroute'⟩ := hroute.migrateDevice hcontrol
    refine .inl ⟨fun hloses => ?_, ?_, hroute.keepsControl hsame hcontrol hroute'⟩
    · have hpinned := hroute.pinned
      rw [hloses.1] at hpinned
      cases hpinned
    · refine (validControl_iff (hsame.control.trans hcontrol)).mpr (.inr ⟨name, profile, ?_⟩)
      rw [hsame.source]
      exact hroute'

/-- **A valid entry works on and is valid after the migration exactly if it keeps its topic.** -/
theorem migrateDevice_iff :
    (KeepsControl texts context.brokerSources context.brokerSources device
      (migrateDevice texts context.brokerSources device) ↔ ¬ LosesTopic device) ∧
    (ValidControl texts context (migrateDevice texts context.brokerSources device) ↔
      ¬ LosesTopic device) := by
  rcases migrateDevice_cases hcontrol hvalid rfl with ⟨hloses, hstill, hkeeps⟩ | ⟨hloses, hnot, hnot'⟩
  · exact ⟨iff_of_true hkeeps hloses, iff_of_true hstill hloses⟩
  · exact ⟨iff_of_false hnot' fun h => h hloses, iff_of_false hnot fun h => h hloses⟩

end

end OneEntry

/-! ### The config -/

section Configs

variable (texts : NameTexts) (config : PyValue)

theorem iterDevices_migrated : iterDevices (migrated texts config) =
    (iterDevices config).map (migrateDevice texts (brokerSourcesFromConfig texts config)) := by
  rw [migrated.eq_def]
  split
  · rename_i entries
    have hfield (config : Entries) : field (.dict config) "devices" = getValue config "devices" := rfl
    split
    · rename_i devices hdevices
      rw [iterDevices, iterDevices, hfield, hfield, getValue_dictSet, if_pos rfl, hdevices]
      rfl
    · rename_i hother
      rw [iterDevices, hfield]
      cases hdevices : getValue entries "devices" with
      | list devices => exact absurd hdevices (hother devices)
      | none | bool _ | int _ | float _ | str _ | dict _ => rfl
  · rename_i hother
    cases config with
    | dict entries => exact absurd rfl (hother entries)
    | none | bool _ | int _ | float _ | str _ | list _ => rfl

theorem brokerSources_migrated :
    brokerSourcesFromConfig texts (migrated texts config) = brokerSourcesFromConfig texts config := by
  have hbrokers : field (migrated texts config) "zendure_mqtt" = field config "zendure_mqtt" := by
    rw [migrated.eq_def]
    split
    · split
      · show getValue (dictSet _ _ _) _ = _
        rw [getValue_dictSet, if_neg (by decide)]
        rfl
      · rfl
    · rfl
  rw [brokerSourcesFromConfig, brokerSourcesFromConfig, hbrokers]

def IsChecked (device : PyValue) : Prop :=
  isControlZendureMqttDeviceConfig texts device = true ∧ configEntryEnabled device = true

theorem validateZendureMqttControlConfigs_eq_nil_iff :
    validateZendureMqttControlConfigs texts config = [] ↔
      ∀ device ∈ iterDevices config, IsChecked texts device →
        ValidControl texts (migrationContext texts config) device := by
  have hchecked (device : PyValue) (index : ℕ) :
      (if isControlZendureMqttDeviceConfig texts device && configEntryEnabled device then
        ((validateZendureMqttControlDeviceConfig texts device
          (migrationContext texts config)).filter isMigrationError).map (index, ·)
      else []) = [] ↔ (IsChecked texts device →
        ValidControl texts (migrationContext texts config) device) := by
    rw [IsChecked, ← Bool.and_eq_true_iff]
    split
    · rename_i hchecked
      simp [hchecked, ValidControl]
    · rename_i hchecked
      simp [hchecked]
  rw [validateZendureMqttControlConfigs, List.flatMap_eq_nil_iff]
  simp only [hchecked]
  constructor
  · intro h device hdevice
    obtain ⟨i, hi, rfl⟩ := List.mem_iff_getElem.mp hdevice
    exact h (_, i) (List.mem_zipIdx_iff_getElem?.mpr (List.getElem?_eq_getElem hi))
  · intro h device hdevice
    exact h _ (List.mem_of_getElem? (List.mem_zipIdx_iff_getElem?.mp hdevice))

theorem migrationContext_migrated :
    migrationContext texts (migrated texts config) = migrationContext texts config := by
  rw [migrationContext, migrationContext, brokerSources_migrated]

theorem brokerSources_migrationContext :
    (migrationContext texts config).brokerSources = brokerSourcesFromConfig texts config := rfl

theorem migrates_iff : (∃ result, migrateZendureMqttControlConfigs texts config = .ok result) ↔
    validateZendureMqttControlConfigs texts (migrated texts config) = [] := by
  rw [migrateZendureMqttControlConfigs]
  cases validateZendureMqttControlConfigs texts (migrated texts config) with
  | nil => exact ⟨fun _ => rfl, fun _ => ⟨_, rfl⟩⟩
  | cons error errors =>
    constructor
    · rintro ⟨result, hresult⟩
      cases hresult
    · intro hnil
      cases hnil

/-! ### What the migration makes of entries that are not checked -/

variable {texts config} {device : PyValue} {entries : Entries}

theorem getValue_dropModelKeys_of_ne {key : String} (hhardware : key ≠ "hardware_profile")
    (hpower : key ≠ "power_write_profile") (entries : Entries) :
    getValue (dropModelKeys entries) key = getValue entries key := by
  show getValue (popIf _ "power_write_profile" (popIf _ "hardware_profile" entries)) key = _
  rw [getValue_popIf_of_ne hpower, getValue_popIf_of_ne hhardware]

theorem getValue_withoutWrites_of_ne {key : String} (hkey : key ≠ "capabilities")
    (entries : Entries) : getValue (withoutWrites entries) key = getValue entries key := by
  rw [withoutWrites.eq_def]
  split
  · rw [getValue_dictSet, if_neg hkey]
  · rfl

theorem getValue_applyChange_enabled (change : Change) :
    getValue (applyChange texts entries change) "enabled" = getValue entries "enabled" := by
  rw [applyChange.eq_def]
  split
  · exact getValue_changeMqtt (by decide) _ _
  · rw [applyPin, getValue_changeMqtt (by decide), getValue_dictSet, if_neg (by decide),
      getValue_dictSet, if_neg (by decide)]
  · rw [applyDisable.eq_def]
    split
    · rw [getValue_changeMqtt (by decide), getValue_dropModelKeys_of_ne (by decide) (by decide),
        getValue_withoutWrites_of_ne (by decide)]
    · rw [getValue_changeMqtt (by decide), getValue_popIf_of_ne (by decide),
        getValue_withoutWrites_of_ne (by decide)]

theorem isChecked_of_migrateDevice {sources : List (String × String)}
    (h : IsChecked texts (migrateDevice texts sources device)) : IsChecked texts device := by
  by_cases hcontrol : isControlZendureMqttDeviceConfig texts device = true
  · refine ⟨hcontrol, ?_⟩
    obtain ⟨entries, rfl⟩ := dict_of_control hcontrol
    cases hplan : planDevice texts (.dict entries)
        (zendureMqttEffectiveBrokerSource texts (.dict entries) sources) with
    | none =>
      rw [migrateDevice_of_none hplan] at h
      exact h.2
    | some change =>
      have henabled := h.2
      rw [migrateDevice_of_some hplan, configEntryEnabled] at henabled
      have hsame : field (.dict (applyChange texts entries change)) "enabled" =
          field (.dict entries) "enabled" := getValue_applyChange_enabled change
      rwa [hsame] at henabled
  · have hplan (source : Option BrokerSource) : planDevice texts device source = none := by
      rw [planDevice, if_pos (by simp [hcontrol])]
    rw [migrateDevice_of_none (hplan _)] at h
    exact absurd h.1 hcontrol

theorem isChecked_migrateDevice {context : BrokerContext} (h : IsChecked texts device)
    (hvalid : ValidControl texts context device) :
    IsChecked texts (migrateDevice texts context.brokerSources device) := by
  obtain ⟨hcontrol, henabled⟩ := h
  obtain ⟨entries, rfl⟩ := dict_of_control hcontrol
  have hsame : SameRoute (.dict entries)
      (migrateDevice texts context.brokerSources (.dict entries)) := by
    rcases (validControl_iff hcontrol).mp hvalid with ⟨topic, hroute⟩ | ⟨name, profile, hroute⟩
    · rw [migrateDevice_of_safe hcontrol hroute.alreadySafe_eq]
      split
      · exact ⟨rfl, fun _ _ => rfl, fun _ _ => rfl⟩
      · exact sameRoute_withoutTopic
    · exact (hroute.migrateDevice hcontrol).1
  exact ⟨hsame.control.trans hcontrol, hsame.enabled.trans henabled⟩

end Configs

/-- **The migration keeps what works, but for the operator's own topic beside a product key**: in
every config it returns, a valid entry that asks for control keeps it, with its topic, its profile
and its authority, exactly if it is pinned to a model or has no product key; and a config whose
checked entries are all valid is migrated exactly if each of them is such an entry. -/
theorem migration_keeps_iff (texts : NameTexts) (config : PyValue) :
    (∀ config' changes, migrateZendureMqttControlConfigs texts config = .ok (config', changes) →
      ∀ (i : ℕ) (device : PyValue), (iterDevices config)[i]? = some device →
        isControlZendureMqttDeviceConfig texts device = true →
        ValidControl texts (migrationContext texts config) device →
        ∃ device', (iterDevices config')[i]? = some device' ∧
          (KeepsControl texts (brokerSourcesFromConfig texts config)
            (brokerSourcesFromConfig texts config') device device' ↔ ¬ LosesTopic device)) ∧
      ((∀ device ∈ iterDevices config, IsChecked texts device →
          ValidControl texts (migrationContext texts config) device) →
        ((∃ result, migrateZendureMqttControlConfigs texts config = .ok result) ↔
          ∀ device ∈ iterDevices config, IsChecked texts device → ¬ LosesTopic device)) := by
  constructor
  · intro config' changes hmigrate i device hdevice hcontrol hvalid
    have hconfig : config' = migrated texts config := by
      rw [migrateZendureMqttControlConfigs] at hmigrate
      split at hmigrate
      · exact (Prod.mk.inj (Except.ok.inj hmigrate)).1.symm
      · cases hmigrate
    refine ⟨migrateDevice texts (brokerSourcesFromConfig texts config) device, ?_, ?_⟩
    · rw [hconfig, iterDevices_migrated, List.getElem?_map, hdevice]
      rfl
    · rw [hconfig, brokerSources_migrated, ← brokerSources_migrationContext]
      exact (migrateDevice_iff hcontrol hvalid).1
  · intro hvalid
    rw [migrates_iff, validateZendureMqttControlConfigs_eq_nil_iff, iterDevices_migrated,
      migrationContext_migrated, List.forall_mem_map, ← brokerSources_migrationContext]
    constructor
    · intro h device hdevice hchecked
      have hbefore := hvalid device hdevice hchecked
      have hafter := h device hdevice (isChecked_migrateDevice hchecked hbefore)
      rwa [(migrateDevice_iff hchecked.1 hbefore).2] at hafter
    · intro h device hdevice hchecked
      have hbefore := isChecked_of_migrateDevice hchecked
      rw [(migrateDevice_iff hbefore.1 (hvalid device hdevice hbefore)).2]
      exact h device hdevice hbefore

/-! ### An entry that loses its topic -/

/-- A device on the operator's own topic, with the product key it reports under. -/
def ownTopicDevice (enabled : Bool) : PyValue :=
  .dict [("name", .str "hub"), ("type", .str "zendure_mqtt"), ("enabled", .bool enabled),
    ("capabilities", .dict [("write_output_limit", .bool true)]),
    ("mqtt", .dict [("topic_family", .str "legacy_zendure_json"), ("device_id", .str "D1"),
      ("product_key", .str "P1"), ("write_protocol", .str "custom_properties_write"),
      ("write_topic", .str "site/hub/write")])]

def ownTopicConfig (enabled : Bool) : PyValue :=
  .dict [("devices", .list [ownTopicDevice enabled])]

/-- **The migration refuses a config whose one entry is valid, and where the entry is disabled it
removes its only topic.** -/
theorem own_topic_removed :
    (∀ enabled, isControlZendureMqttDeviceConfig asciiTexts (ownTopicDevice enabled) = true ∧
      validateZendureMqttControlDeviceConfig asciiTexts (ownTopicDevice enabled)
        (migrationContext asciiTexts (ownTopicConfig enabled)) = [] ∧
      effectiveWriteTopic asciiTexts (ownTopicDevice enabled) = some "site/hub/write") ∧
    migrateZendureMqttControlConfigs asciiTexts (ownTopicConfig true) =
      .error [(0, ⟨.error, "write_topic_required"⟩)] ∧
    ∃ config' changes, migrateZendureMqttControlConfigs asciiTexts (ownTopicConfig false) =
      .ok (config', changes) ∧ (iterDevices config').map (effectiveWriteTopic asciiTexts) = [none] := by
  refine ⟨fun enabled => ?_, ?_, ?_⟩
  · cases enabled <;> decide
  · have herrors : validateZendureMqttControlConfigs asciiTexts
        (migrated asciiTexts (ownTopicConfig true)) = [(0, ⟨.error, "write_topic_required"⟩)] := by
      decide
    rw [migrateZendureMqttControlConfigs, herrors]
  · have hnone : validateZendureMqttControlConfigs asciiTexts
        (migrated asciiTexts (ownTopicConfig false)) = [] := by decide
    refine ⟨_, _, by rw [migrateZendureMqttControlConfigs, hnone], ?_⟩
    decide

end SolarFlowEms.Migration
