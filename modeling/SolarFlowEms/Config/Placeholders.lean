import Mathlib.Data.List.Infix
import SolarFlowEms.Config.Brokers

/-!
# Setup fields that still hold the template's values

The template names sample addresses and serials.  While a field that the setup needs holds one
of them, or nothing, the configuration is held in safe mode: it is loaded with the control off
and every write forbidden, whatever it says about them.
-/

namespace SolarFlowEms.Config

open Python Documents

section

variable (texts : LoaderTexts)

/-! ### Template-like values -/

def templatePlaceholderValues : List String :=
  ["0.0.0.0", "example.com", "localhost", "your_sn", "your_token_here"]

/-- `198.51.100.0/24`. -/
def inTemplateNetwork (address : ℕ) : Bool := address / 256 = (198 * 256 + 51) * 256 + 100

/-- An address of the range that the template takes its samples from, also mapped to IPv6. -/
def isTemplateAddress (value : String) : Bool :=
  match texts.ipAddress value with
  | some (.v4 address) => inTemplateNetwork address
  | some (.v6 address) => address / 2 ^ 32 = 0xFFFF && inTemplateNetwork (address % 2 ^ 32)
  | none => false

/-- `part in text`. -/
def contains (text part : String) : Bool := decide (part.toList <:+: text.toList)

/-- `text.rstrip(".")`. -/
def stripDots (text : String) : String :=
  String.ofList (text.toList.reverse.dropWhile (· = '.')).reverse

def isTemplatePlaceholderHost (host : String) : Bool :=
  let value := stripDots (pyStrip host).toLower
  host ≠ "" && (value ∈ templatePlaceholderValues ||
    decide (".example.com".toList <:+ value.toList) || isTemplateAddress texts value)

/-- A template value; of an address, also one that cannot be parsed. -/
def isTemplatePlaceholderValue (value : PyValue) (address : Bool) : Bool :=
  let text := pyStrip (texts.str value)
  let lowered := text.toLower
  if value.isNone || text = "" then false
  else if lowered ∈ templatePlaceholderValues || isTemplateAddress texts lowered then true
  else if contains lowered "your_" || contains lowered "your-" then true
  else
    match texts.urlHostname (if contains text "://" then text else "//" ++ text) with
    | none => address
    | some host => isTemplatePlaceholderHost texts host.toLower

def missingOrPlaceholder (value : PyValue) (address : Bool) : Bool :=
  value.isNone || pyStrip (texts.str value) = "" || isTemplatePlaceholderValue texts value address

/-! ### The fields that a setup needs -/

/-- `str(item.get("type", "")).strip().lower()`. -/
def entryType (item : Entries) : String :=
  (pyStrip (texts.str ((dictGet item "type").getD (.str "")))).toLower

def isMqttTelemetryDeviceConfig (item : Entries) : Bool :=
  entryType texts item ∈ ["zendure_mqtt", "external_mqtt"]

/-- An address and a serial, of a device that has them by design. -/
def devicePlaceholderPaths (index : ℕ) (device : Entries) : List String :=
  if isMqttTelemetryDeviceConfig texts device then []
  else
    (if missingOrPlaceholder texts (getValue device "ip") true then [s!"devices[{index}].ip"]
      else []) ++
      if !isReadOnlyDeviceConfig texts.toConfigTexts (.dict device) &&
          missingOrPlaceholder texts (getValue device "sn") false
      then [s!"devices[{index}].sn"] else []

/-- The host of a meter's own connection or of the broker that the meter refers to.  A reference
that no broker answers is an error of the load and no placeholder. -/
def brokerPlaceholderPaths (config settings : Entries) : List String :=
  match brokerRef? settings with
  | none =>
    if missingOrPlaceholder texts (getValue settings "host") true then ["grid_meter.mqtt.host"]
    else []
  | some ref =>
    match zendureMqttBrokerConnection texts config ref with
    | .ok (some connection) =>
      if missingOrPlaceholder texts (.str connection.host) true then
        [if ref = defaultBrokerRef then "zendure_mqtt.host"
          else "zendure_mqtt.brokers." ++ ref ++ ".host"]
      else []
    | _ => []

/-- The url of a Tasmota reader, or its address where it has no url, and where the power is. -/
def tasmotaPlaceholderPaths (gridMeter : Entries) : List String :=
  let byIp := pyStrip (textOr texts (getValue gridMeter "url")) = "" &&
    truthy (getValue gridMeter "ip")
  let field := if byIp then "ip" else "url"
  (if missingOrPlaceholder texts (getValue gridMeter field) byIp then ["grid_meter." ++ field]
    else []) ++
    if missingOrPlaceholder texts (getValue gridMeter "power_path") false then
      ["grid_meter.power_path"] else []

def gridMeterPlaceholderPaths (config gridMeter : Entries) : List String :=
  let meterType := wordOr texts (getValue gridMeter "type") "shelly"
  if meterType ∈ mqttGridMeterTypes then
    let settings := gridMeterMqttSettings gridMeter
    brokerPlaceholderPaths texts config settings ++
      if missingOrPlaceholder texts (getValue settings "topic") false then
        ["grid_meter.mqtt.topic"] else []
  else if meterType = "tasmota_http" then tasmotaPlaceholderPaths texts gridMeter
  else if missingOrPlaceholder texts (getValue gridMeter "ip") true then ["grid_meter.ip"]
  else []

def configuredDevices (config : Entries) : List Entries :=
  (((getValue config "devices").list?).getD []).filterMap PyValue.dict?

def templatePlaceholderPaths (config : Entries) : List String :=
  let devices := configuredDevices config
  (devices.zipIdx.flatMap fun device => devicePlaceholderPaths texts device.2 device.1) ++
    match getValue config "grid_meter" with
    | .dict gridMeter =>
      if devices.isEmpty then [] else gridMeterPlaceholderPaths texts config gridMeter
    | _ => []

/-! ### Safe mode -/

/-- What safe mode sets, and to what. -/
def safeModeFlags : List (String × Bool) :=
  [("enabled", false), ("dry_run", true), ("allow_hardware_writes", false),
    ("allow_mqtt_local_control_writes", false), ("allow_mqtt_zendure_control_writes", false),
    ("allow_state_reconciliation_writes", false)]

def forceSafeMode (system : Entries) : Entries :=
  safeModeFlags.foldl (fun system flag => dictSet system flag.1 (.bool flag.2)) system

def applyTemplatePlaceholderSafety (config : Entries) : Entries :=
  if (templatePlaceholderPaths texts config).isEmpty then config
  else dictSet config "system" (.dict (forceSafeMode (((getValue config "system").dict?).getD [])))

end

theorem dictGet_setFlags (flags : List (String × Bool)) (hnodup : (flags.map Prod.fst).Nodup)
    (system : Entries) (name : String) :
    dictGet (flags.foldl (fun system flag => dictSet system flag.1 (.bool flag.2)) system) name =
      ((flags.lookup name).map PyValue.bool).or (dictGet system name) := by
  induction flags generalizing system with
  | nil => rfl
  | cons flag flags ih =>
    rw [List.map_cons, List.nodup_cons] at hnodup
    rw [List.foldl_cons, ih hnodup.2, dictGet_dictSet]
    show _ = ((List.lookup name ((flag.1, flag.2) :: flags)).map PyValue.bool).or _
    rw [List.lookup_cons]
    by_cases hname : name = flag.1
    · have hrest : flags.lookup name = none := by
        rw [List.lookup_eq_none_iff]
        intro other hother
        rw [hname]
        refine bne_iff_ne.mpr fun heq => hnodup.1 ?_
        exact List.mem_map.mpr ⟨other, hother, heq.symm⟩
      rw [hrest, hname, beq_self_eq_true, if_pos rfl]
      rfl
    · rw [beq_false_of_ne hname, if_neg hname]

theorem dictGet_forceSafeMode (system : Entries) (name : String) :
    dictGet (forceSafeMode system) name =
      ((safeModeFlags.lookup name).map PyValue.bool).or (dictGet system name) :=
  dictGet_setFlags safeModeFlags (by decide) system name

/-- **A held configuration keeps every other section**, and its other settings of the system. -/
theorem getValue_applyTemplatePlaceholderSafety (texts : LoaderTexts) (config : Entries)
    {key : String} (hkey : key ≠ "system") :
    getValue (applyTemplatePlaceholderSafety texts config) key = getValue config key := by
  rw [applyTemplatePlaceholderSafety]
  split_ifs with hempty
  · rfl
  · rw [getValue, dictGet_dictSet, if_neg hkey, getValue]

end SolarFlowEms.Config
