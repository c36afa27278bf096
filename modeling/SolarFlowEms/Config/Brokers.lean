import SolarFlowEms.Config.Upgrade
import SolarFlowEms.Library.Fallible

/-!
# Broker profiles and the MQTT settings of the grid meter

A configuration names its MQTT brokers in one block: the block itself is the default broker,
its `brokers` are the named ones.  A grid meter that is read over MQTT refers to one of them or
carries the connection itself.  Ports, flags and TLS modes are read strictly: what is no port or
no JSON boolean is an error and no default.
-/

namespace SolarFlowEms.Config

open Python Documents Fallible

/-! ### What the loader uses of its library -/

/-- An address as `ipaddress.ip_address` reads it. -/
inductive IpAddress where
  | v4 (address : ℕ)
  | v6 (address : ℕ)
deriving DecidableEq

/-- Beyond the texts of the upgrade: `float(text)`, `ipaddress.ip_address(text)`, and
`urlparse(text).hostname or ""`, which is missing for a text that cannot be parsed. -/
structure LoaderTexts extends ConfigTexts where
  float : String → Option PyFloat
  ipAddress : String → Option IpAddress
  urlHostname : String → Option String

/-- How a load ends that has no result. -/
inductive LoadFailure where
  | valueError (message : String)
  | typeError
  | keyError (key : String)
  | overflowError
  | attributeError
  | noConfiguration
  | writeFailed
  | upgrade (failure : UpgradeFailure)
deriving DecidableEq

abbrev Loaded (α : Type*) := Except LoadFailure α

section

variable (texts : LoaderTexts)

/-- `str(value or "")`. -/
def textOr (value : PyValue) : String := if truthy value then texts.str value else ""

/-- `str(value or default).strip().lower()`. -/
def wordOr (value : PyValue) (default : String) : String :=
  (pyStrip (if truthy value then texts.str value else default)).toLower

/-- `value in (None, "")`. -/
def isNoneOrEmpty (value : PyValue) : Bool := value.isNone || value.eqStr ""

/-! ### Flags -/

/-- A real JSON boolean, and nothing that would only pass for one. -/
def requireJsonBool (value : PyValue) (fieldName : String) : Loaded Bool :=
  match value with
  | .bool b => .ok b
  | other => .error (.valueError (fieldName ++ " must be a JSON boolean (true or false), got " ++
      texts.repr other))

def optionalJsonBool (value : PyValue) (fieldName : String) (default : Bool) : Loaded Bool :=
  if value.isNone then .ok default else requireJsonBool texts value fieldName

def flag? (value : PyValue) (fieldName : String) : Loaded (Option Bool) :=
  if value.isNone then .ok none else some <$> requireJsonBool texts value fieldName

def safeBool (value : PyValue) (default : Bool) : Bool :=
  match value with
  | .bool b => b
  | .none => default
  | other =>
    let normalized := (pyStrip (texts.str other)).toLower
    if normalized ∈ ["on", "true", "1", "yes", "enabled"] then true
    else if normalized ∈ ["off", "false", "0", "no", "disabled"] then false
    else default

/-- `int(float(value))`, or the default. -/
def safeInt (value : PyValue) (default : ℤ) : ℤ :=
  let truncated : PyFloat → ℤ
    | .finite q => q.num.tdiv q.den
    | _ => default
  match value with
  | .bool b => if b then 1 else 0
  | .int z => z
  | .float x => truncated x
  | .str s => ((texts.float s).map truncated).getD default
  | _ => default

/-! ### Ports -/

def mqttPortMin : ℤ := 1

def mqttPortMax : ℤ := 65535

def defaultMqttPort (tls : Bool) : ℤ := if tls then 8883 else 1883

def portInRange (port : ℤ) : Loaded ℤ :=
  if mqttPortMin ≤ port ∧ port ≤ mqttPortMax then .ok port
  else .error (.valueError s!"MQTT port must be between {mqttPortMin} and {mqttPortMax}, got {port}")

def absentPort : Option ℤ → Loaded ℤ
  | some port => .ok port
  | none => .error (.valueError "MQTT port is required")

def parseMqttPort (value : PyValue) (default : Option ℤ) : Loaded ℤ :=
  let noInteger : Loaded ℤ :=
    .error (.valueError ("MQTT port must be an integer, got " ++ texts.repr value))
  let noWholeNumber : Loaded ℤ :=
    .error (.valueError ("MQTT port must be a whole number, got " ++ texts.repr value))
  match value with
  | .none => absentPort default
  | .bool _ => .error (.valueError "MQTT port must be an integer, not a boolean")
  | .int port => portInRange port
  | .float (.finite q) => if q.den = 1 then portInRange q.num else noWholeNumber
  | .float _ => noWholeNumber
  | .str s =>
    if pyStrip s = "" then absentPort default
    else
      match texts.int (pyStrip s) with
      | some port => portInRange port
      | none => noInteger
  | _ => noInteger

/-! ### TLS modes -/

/-- Whether a connection is encrypted, and whether without verification. -/
structure TlsMode where
  tls : Bool
  insecure : Bool
deriving DecidableEq

def mqttTlsPlainAliases : List String := ["", "plaintext", "plain", "disabled", "none", "tcp"]

def mqttTlsSystemCaAliases : List String := ["system_ca", "tls", "mqtts", "ssl", "secure"]

def normalizeMqttTlsMode (tlsMode : PyValue) : Loaded TlsMode :=
  let mode := wordOr texts tlsMode ""
  if mode ∈ mqttTlsPlainAliases then .ok ⟨false, false⟩
  else if mode ∈ mqttTlsSystemCaAliases then .ok ⟨true, false⟩
  else if mode = "insecure_no_verify" then .ok ⟨true, true⟩
  else .error (.valueError ("unknown MQTT TLS mode: " ++ texts.repr tlsMode))

/-- An explicit flag must not contradict the mode. -/
def agreesWithMode (name : String) (tlsMode : PyValue) (flag : Option Bool) (ofMode : Bool) :
    Loaded Unit :=
  match flag with
  | none => .ok ()
  | some b =>
    if b = ofMode then .ok ()
    else .error (.valueError (name ++ "=" ++ texts.repr (.bool b) ++ " contradicts tls_mode=" ++
      texts.repr tlsMode))

/-- The mode, where there is one, and else the flags. -/
def reconcileTls (tlsMode : PyValue) (tls tlsInsecure : Option Bool) : Loaded TlsMode :=
  if !tlsMode.isNone && pyStrip (texts.str tlsMode) ≠ "" then do
    let mode ← normalizeMqttTlsMode texts tlsMode
    agreesWithMode texts "tls" tlsMode tls mode.tls
    agreesWithMode texts "tls_insecure" tlsMode tlsInsecure mode.insecure
    return mode
  else
    let resolvedTls := tls.getD false
    let resolvedInsecure := tlsInsecure.getD false
    if resolvedInsecure && !resolvedTls then
      .error (.valueError "tls_insecure is set but TLS is disabled")
    else .ok ⟨resolvedTls, resolvedInsecure⟩

def resolveMqttTlsMetadata (tlsMode tls tlsInsecure : PyValue) : Loaded TlsMode := do
  let tls ← flag? texts tls "tls"
  let tlsInsecure ← flag? texts tlsInsecure "tls_insecure"
  reconcileTls texts tlsMode tls tlsInsecure

theorem reconcileTls_of_mode {tlsMode : PyValue} {tls tlsInsecure : Option Bool} {mode : TlsMode}
    (hmode : (!tlsMode.isNone && pyStrip (texts.str tlsMode) ≠ "") = true)
    (h : reconcileTls texts tlsMode tls tlsInsecure = .ok mode) :
    normalizeMqttTlsMode texts tlsMode = .ok mode ∧
      agreesWithMode texts "tls" tlsMode tls mode.tls = .ok () ∧
      agreesWithMode texts "tls_insecure" tlsMode tlsInsecure mode.insecure = .ok () := by
  rw [reconcileTls, if_pos hmode] at h
  obtain ⟨found, hfound, h⟩ := bind_eq_ok.mp h
  obtain ⟨_, htls, h⟩ := bind_eq_ok.mp h
  obtain ⟨_, hinsecure, h⟩ := bind_eq_ok.mp h
  obtain rfl := Except.ok.inj h
  exact ⟨hfound, htls, hinsecure⟩

end

/-! ### Broker profiles -/

inductive BrokerOrigin where
  | legacyDefault
  | namedProfile
deriving DecidableEq

structure EffectiveMqttBrokerProfile where
  brokerRef : String
  config : Entries
  origin : BrokerOrigin

def defaultBrokerRef : String := "default"

/-- `isinstance(host, str) and bool(host.strip())`. -/
def hasHost (profile : Entries) : Bool :=
  match getValue profile "host" with
  | .str host => pyStrip host ≠ ""
  | _ => false

/-- The named brokers of the block. -/
def namedBrokers (zmqtt : Entries) : Entries :=
  match getValue zmqtt "brokers" with
  | .dict brokers => brokers
  | _ => []

def legacyDefaultBrokerPresent (zmqtt : Entries) : Bool :=
  hasHost zmqtt || (namedBrokers zmqtt).isEmpty

/-- A named broker.  The name of the default broker is reserved and names none. -/
def namedProfile : String × PyValue → Option EffectiveMqttBrokerProfile
  | (ref, .dict profile) =>
    if ref = defaultBrokerRef then none else some ⟨ref, profile, .namedProfile⟩
  | _ => none

def iterEffectiveMqttBrokerProfiles (config : Entries) : List EffectiveMqttBrokerProfile :=
  match getValue config "zendure_mqtt" with
  | .dict zmqtt =>
    (if legacyDefaultBrokerPresent zmqtt then [⟨defaultBrokerRef, zmqtt, .legacyDefault⟩] else []) ++
      (namedBrokers zmqtt).filterMap namedProfile
  | _ => []

def getEffectiveMqttBrokerProfile (config : Entries) (brokerRef : String) :
    Option EffectiveMqttBrokerProfile :=
  (iterEffectiveMqttBrokerProfiles config).find? fun profile => profile.brokerRef = brokerRef

section

variable (texts : LoaderTexts)

def effectiveBrokerEnabled (profile : EffectiveMqttBrokerProfile) : Bool :=
  match profile.origin with
  | .legacyDefault => hasHost profile.config
  | .namedProfile =>
    match optionalJsonBool texts (getValue profile.config "enabled") "enabled" true with
    | .ok enabled => enabled
    | .error _ => false

structure BrokerConnection where
  host : String
  port : ℤ
  tls : Bool
  tlsInsecure : Bool
  username : String
  password : String
  credentialsRef : PyValue
  source : String
  enabled : Bool

def brokerConnection (effective : EffectiveMqttBrokerProfile) : Loaded BrokerConnection := do
  let profile := effective.config
  let mode ← resolveMqttTlsMetadata texts (getValue profile "tls_mode") (getValue profile "tls")
    (getValue profile "tls_insecure")
  let port ← parseMqttPort texts (getValue profile "port") (some (defaultMqttPort mode.tls))
  return {
    host := pyStrip (textOr texts (getValue profile "host"))
    port := port
    tls := mode.tls
    tlsInsecure := mode.insecure
    username := textOr texts (getValue profile "username")
    password := textOr texts (getValue profile "password")
    credentialsRef := getValue profile "credentials_ref"
    source := wordOr texts (getValue profile "source") "local_mqtt"
    enabled := effectiveBrokerEnabled texts effective }

/-- What a broker's name stands for, or nothing where it names no broker. -/
def zendureMqttBrokerConnection (config : Entries) (brokerRef : String) :
    Loaded (Option BrokerConnection) :=
  match getEffectiveMqttBrokerProfile config brokerRef with
  | none => .ok none
  | some effective => some <$> brokerConnection texts effective

/-! ### The MQTT settings of a grid meter -/

def mqttGridMeterTypes : List String := ["mqtt", "zendure_smartmeter_d0"]

def mqttGridMeterKeys : List String :=
  ["host", "port", "tls", "tls_insecure", "username", "password", "topic", "payload_format",
    "value_path", "max_age_seconds", "_mqtt_client_factory"]

/-- The connection fields that a broker owns, in the order in which they are reported. -/
def mqttBrokerConnectionFields : List String :=
  ["credentials_ref", "host", "password", "port", "tls", "tls_insecure", "tls_mode", "username"]

/-- The block's own settings, and what the meter has beside the block. -/
def gridMeterMqttSettings (gridMeter : Entries) : Entries :=
  let nested := ((getValue gridMeter "mqtt").dict?).getD []
  mqttGridMeterKeys.foldl (fun settings key =>
    match dictGet settings key, dictGet gridMeter key with
    | none, some value => dictSet settings key value
    | _, _ => settings) nested

def mqttBrokerReferenceConflictFields (settings : Entries) : List String :=
  mqttBrokerConnectionFields.filter fun field => !isNoneOrEmpty (getValue settings field)

def ambiguousBrokerReference (fields : List String) (path : String) : LoadFailure :=
  .valueError (path ++ " uses broker_ref but also inlines connection field(s): " ++
    String.intercalate ", " fields ++ ". Keep connection settings in the broker profile only.")

/-- `broker_ref.strip()`, of a reference that is there. -/
def brokerRef? (settings : Entries) : Option String :=
  match getValue settings "broker_ref" with
  | .str ref => if pyStrip ref = "" then none else some (pyStrip ref)
  | _ => none

/-- The settings with the connection of the broker that they refer to. -/
def withBrokerConnection (settings : Entries) (ref : String) :
    Option BrokerConnection → Loaded Entries
  | none => .error (.valueError ("grid_meter.mqtt.broker_ref '" ++ ref ++
      "' is not a configured zendure_mqtt broker profile"))
  | some connection =>
    if !connection.enabled then
      .error (.valueError ("grid_meter.mqtt.broker_ref '" ++ ref ++ "' is disabled"))
    else if connection.source ≠ "local_mqtt" then
      .error (.valueError ("grid_meter.mqtt.broker_ref '" ++ ref ++ "' is not a local_mqtt " ++
        "broker; Zendure Cloud MQTT grid meters are not supported"))
    else
      let resolved := settings.filter fun entry => entry.1 ≠ "broker_ref"
      let resolved := dictSet resolved "host" (.str connection.host)
      let resolved := dictSet resolved "port" (.int connection.port)
      let resolved := dictSet resolved "tls" (.bool connection.tls)
      let resolved := dictSet resolved "tls_insecure" (.bool connection.tlsInsecure)
      let resolved := dictSet resolved "username" (.str connection.username)
      let resolved := dictSet resolved "password" (.str connection.password)
      .ok (dictSet resolved "credentials_ref" connection.credentialsRef)

/-- The settings, with the broker that they refer to, where they refer to one. -/
def resolveBrokerRef (config settings : Entries) : Option String → Loaded Entries
  | none => .ok settings
  | some ref =>
    let conflicting := mqttBrokerReferenceConflictFields settings
    if conflicting.isEmpty then do
      withBrokerConnection settings ref (← zendureMqttBrokerConnection texts config ref)
    else .error (ambiguousBrokerReference conflicting "grid_meter.mqtt")

def resolveGridMeterMqttSettings (config : Entries) : Loaded Entries :=
  let settings := gridMeterMqttSettings (((getValue config "grid_meter").dict?).getD [])
  resolveBrokerRef texts config settings (brokerRef? settings)

/-- `settings[key] = str(settings[key])`, of a value that is there. -/
def stringify (settings : Entries) (key : String) : Entries :=
  match dictGet settings key with
  | none => settings
  | some value => if value.isNone then settings else dictSet settings key (.str (texts.str value))

/-- The reference to stored credentials: stripped, missing where it is empty. -/
def normalizedCredentialsRef (settings : Entries) : Loaded (Option String) :=
  match getValue settings "credentials_ref" with
  | .none => .ok none
  | .str ref => .ok (if pyStrip ref = "" then none else some (pyStrip ref))
  | _ => .error (.valueError "MQTT grid meter credentials_ref must be a string")

def withCredentialsRef (settings : Entries) : Loaded Entries := do
  match ← normalizedCredentialsRef settings with
  | none => return settings.filter fun entry => entry.1 ≠ "credentials_ref"
  | some ref =>
    if ["username", "password"].any fun key => !isNoneOrEmpty (getValue settings key) then
      .error (.valueError "MQTT grid meter credentials_ref conflicts with inline credentials")
    else return dictSet settings "credentials_ref" (.str ref)

/-- The port of the meter's own connection, an error naming the setting. -/
def gridMeterPort (settings : Entries) (tls : Bool) : Loaded ℤ :=
  match parseMqttPort texts (getValue settings "port") (some (defaultMqttPort tls)) with
  | .ok port => .ok port
  | .error (.valueError message) =>
    .error (.valueError ("MQTT grid meter has an invalid grid_meter.mqtt.port: " ++ message))
  | .error failure => .error failure

def normalizeMqttGridMeterSettings (gridMeter : Entries) (meterType : String) : Loaded Entries := do
  let settings ← withCredentialsRef (gridMeterMqttSettings gridMeter)
  let settings := ["host", "username", "password", "topic", "payload_format", "value_path"].foldl
    (stringify texts) settings
  if pyStrip (textOr texts (getValue settings "host")) = "" then
    .error (.valueError "MQTT grid meter requires grid_meter.mqtt.host")
  else if pyStrip (textOr texts (getValue settings "topic")) = "" then
    .error (.valueError "MQTT grid meter requires grid_meter.mqtt.topic")
  else
    let mode ← resolveMqttTlsMetadata texts (getValue settings "tls_mode") (getValue settings "tls")
      (getValue settings "tls_insecure")
    let port ← gridMeterPort texts settings mode.tls
    let settings := dictSet settings "port" (.int port)
    let payloadFormat := wordOr texts (getValue settings "payload_format") "number"
    if payloadFormat ∉ ["number", "json"] then
      .error (.valueError "MQTT grid meter payload_format must be number or json")
    else if meterType = "zendure_smartmeter_d0" ∧ payloadFormat ≠ "number" then
      .error (.valueError "Zendure SmartMeter D0 grid meter requires payload_format number")
    else
      let settings := dictSet settings "payload_format" (.str payloadFormat)
      let settings := if payloadFormat = "json" then settings
        else settings.filter fun entry => entry.1 ≠ "value_path"
      let maxAge := (dictGet settings "max_age_seconds").getD (.int 15)
      let settings := dictSet settings "max_age_seconds" (.int (max 1 (safeInt texts maxAge 15)))
      let settings := dictSet settings "tls" (.bool mode.tls)
      return dictSet settings "tls_insecure" (.bool mode.insecure)

end

end SolarFlowEms.Config
