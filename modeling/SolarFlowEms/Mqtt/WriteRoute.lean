import SolarFlowEms.Library.PyValue
import SolarFlowEms.PowerDirection

/-!
# What one device may be written

The pinned hardware profile, never the topic family, decides how a power command is
written and what confirms it.  A write that cannot be built fails closed: nothing is
published, and the error says why.
-/

namespace SolarFlowEms.Mqtt

open Python PowerDirection

/-! ### Profiles and configuration -/

inductive PowerWriteProfile where
  | zensdkProperties
  | legacyHub
  | legacyObject
  | telemetryOnly
deriving DecidableEq

structure HardwareProfile where
  powerWriteProfile : PowerWriteProfile
  supportsDischarge : Bool
  supportsIdle : Bool
  supportsCharge : Bool
deriving DecidableEq

inductive BrokerSource where
  | localMqtt
  | zendureCloudMqtt
deriving DecidableEq

/-- What a device client is constructed with.  A missing key is empty, a missing maximum 0. -/
structure ClientConfig where
  deviceId : String
  productKey : String
  writeTopic : Option String
  /-- `write_protocol` resolved to the operator's own topic. -/
  customPropertiesWrite : Bool
  hardwareProfile : Option HardwareProfile
  hardwareProfileInvalid : Bool
  source : Option BrokerSource
  /-- The observed telemetry family is one of the JSON report families. -/
  jsonTelemetryFamily : Bool
  maxPower : ℚ
  commandAckTimeoutS : ℚ
  confirmationTimeoutS : ℚ
  confirmationToleranceW : Option ℤ
  safetyPreemptMarginW : ℤ
  telemetryConfirmationOverride : Option Bool
deriving DecidableEq

namespace ClientConfig

variable (cfg : ClientConfig)

def resolvedWriteProfile : Option PowerWriteProfile :=
  if cfg.hardwareProfileInvalid then none else cfg.hardwareProfile.map (·.powerWriteProfile)

/-- Only the `function/invoke` profiles have a verified reply contract. -/
def supportsAcknowledgement : Bool :=
  cfg.resolvedWriteProfile = some .legacyHub || cfg.resolvedWriteProfile = some .legacyObject

def telemetryConfirmationSupported : Bool :=
  match cfg.telemetryConfirmationOverride with
  | some supported => supported
  | none => cfg.resolvedWriteProfile.any (· ≠ .telemetryOnly)

def defaultConfirmationToleranceW : ℤ := 25

def toleranceW : ℤ :=
  match cfg.confirmationToleranceW with
  | some tolerance => if 0 < tolerance then tolerance else defaultConfirmationToleranceW
  | none => defaultConfirmationToleranceW

/-! ### Publish topics -/

def maxPublishTopicBytes : ℕ := 512

/-- A publish topic carries no wildcard and no NUL and is bounded in length. -/
def publishTopicValid (topic : String) : Bool :=
  let text := pyStrip topic
  !text.isEmpty && text.toList.all (fun c => c ≠ '+' && c ≠ '#' && c ≠ Char.ofNat 0) &&
    text.utf8ByteSize ≤ maxPublishTopicBytes

/-- The operator's own topic, where one is given that can be published to. -/
def customTopicValid : Bool := cfg.writeTopic.any publishTopicValid

/-- The topic a profile-backed write goes to; a configured one never redirects it. -/
def canonicalProfileWriteTopic : String :=
  "iot/" ++ cfg.productKey ++ "/" ++ cfg.deviceId ++ "/properties/write"

/-! ### Errors of a write that cannot be built -/

def payloadAddressable : Bool := !(pyStrip cfg.deviceId).isEmpty

def operationSupported (profile : HardwareProfile) : Operation → Bool
  | .discharge => profile.supportsDischarge
  | .idle => profile.supportsIdle
  | .charge => profile.supportsCharge

/-- The cloud broker carries every write; a local one only where the device's own reports
were seen on it. -/
def brokerSourceError : Option String :=
  match cfg.source with
  | none => some "broker_source_unknown"
  | some .zendureCloudMqtt => none
  | some .localMqtt =>
    if cfg.jsonTelemetryFamily then none else some "broker_source_write_unverified"

/-- The error of an operation the pinned model may not be sent. -/
def requireSupportedOperation (profile : HardwareProfile) (operation : Operation) :
    Except String Unit :=
  if profile.powerWriteProfile = .telemetryOnly then .error "telemetry_only_hardware"
  else
    match cfg.brokerSourceError with
    | some error => .error error
    | none =>
      if operationSupported profile operation then .ok ()
      else if operation = .charge then .error "charge_target_unsupported"
      else .error "unsupported_power_operation"

/-- The configured maximum bounds both directions; 0 W is always within it. -/
def enforcePowerLimit (targetW : ℤ) : Except String Unit :=
  if targetW = 0 ∨ cfg.maxPower ≤ 0 ∨ (|targetW| : ℚ) ≤ cfg.maxPower then .ok ()
  else .error "target_above_maximum"

/-- Whether `targetW` could be published now, before a message is built. -/
def precheckTarget (targetW : ℤ) : Except String Unit :=
  if cfg.hardwareProfileInvalid then .error "unknown_hardware_profile"
  else
    match cfg.hardwareProfile with
    | some profile => do
      cfg.requireSupportedOperation profile (operationForTarget targetW)
      cfg.enforcePowerLimit targetW
    | none =>
      if operationForTarget targetW = .charge then .error "charge_target_unsupported"
      else do
        cfg.enforcePowerLimit targetW
        if !cfg.customPropertiesWrite then .error "no_write_protocol"
        else if !cfg.customTopicValid then .error "invalid_write_topic"
        else .ok ()

/-- The telemetry values that prove a `properties/write` command applied. -/
def zensdkExpectedProperties (targetW : ℤ) : List (String × ℤ) :=
  if targetW < 0 then
    [("smartMode", 1), ("acMode", 1), ("outputLimit", 0), ("inputLimit", |targetW|)]
  else [("smartMode", 1), ("acMode", 2), ("outputLimit", targetW), ("inputLimit", 0)]

/-- An invoke command is proven by its own `outputLimit`, a charge by the direction and the
power it draws. -/
def invokeExpectedProperties (targetW : ℤ) : List (String × ℤ) :=
  if targetW < 0 then [("acMode", 1), ("inputLimit", |targetW|)] else []

/-- Build the write of a signed target: the values that prove it applied, or the error. -/
def buildWrite (targetW : ℤ) : Except String (List (String × ℤ)) := do
  cfg.precheckTarget targetW
  match cfg.hardwareProfile with
  | some profile =>
    if profile.powerWriteProfile = .legacyHub ∨ profile.powerWriteProfile = .legacyObject then
      if cfg.productKey.isEmpty ∨ cfg.deviceId.isEmpty then .error "unsupported_power_operation"
      else .ok (invokeExpectedProperties targetW)
    else if !cfg.payloadAddressable ∨ cfg.productKey.isEmpty ∨
        !publishTopicValid cfg.canonicalProfileWriteTopic then .error "no_write_protocol"
    else .ok (zensdkExpectedProperties targetW)
  | none => if !cfg.payloadAddressable then .error "no_write_protocol" else .ok []

theorem precheckTarget_of_buildWrite {targetW : ℤ} {expected : List (String × ℤ)}
    (h : cfg.buildWrite targetW = .ok expected) : cfg.precheckTarget targetW = .ok () := by
  unfold buildWrite at h
  cases hcheck : cfg.precheckTarget targetW with
  | ok u => rfl
  | error e => rw [hcheck] at h; cases h

/-- A Hyper 2000 on the cloud broker: it acknowledges its commands, and its reports confirm
them. -/
def hyper2000 : ClientConfig where
  deviceId := "dev"
  productKey := "key"
  writeTopic := none
  customPropertiesWrite := false
  hardwareProfile := some
    { powerWriteProfile := .legacyObject, supportsDischarge := true, supportsIdle := true
      supportsCharge := true }
  hardwareProfileInvalid := false
  source := some .zendureCloudMqtt
  jsonTelemetryFamily := true
  maxPower := 800
  commandAckTimeoutS := 10
  confirmationTimeoutS := 30
  confirmationToleranceW := none
  safetyPreemptMarginW := 300
  telemetryConfirmationOverride := none

end ClientConfig

end SolarFlowEms.Mqtt
