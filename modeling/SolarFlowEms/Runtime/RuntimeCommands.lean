import SolarFlowEms.Config.Upgrade
import SolarFlowEms.Schedule.Escapes

/-!
# What a runtime edit may set

Every runtime edit is validated field by field before it is saved: a switch, a whole number or a
number in a range, one of some words, or a device setting, which can also be handed back to the
device.  A value that a field does not take is refused.  What is no refusal are the exceptions of
the conversions: an infinity made an integer, an integer too large for a float, and the text of a
value that is nested too deeply.
-/

namespace SolarFlowEms.Runtime

open Python Documents
open Schedule (Parsed refuse escape deviceSettings offgridSocketModes)

/-! ### Fields -/

/-- What a field takes. -/
inductive FieldRule where
  | bool
  | int (minimum maximum : ℤ)
  | float (minimum maximum : ℚ)
  | enum (words : List String)
  | setting (words : List String)

def genericMaxPowerW : ℤ := 5000

def deviceAcFields : List (String × FieldRule) :=
  [("runtime_role", .enum ["ac_output", "ac_input"]),
    ("ac_charge_power_w", .int 0 genericMaxPowerW)]

def deviceSettingFields : List (String × FieldRule) :=
  deviceSettings.map fun setting => (setting.1, .setting setting.2.2)

/-- What the writers know of the installation. -/
structure ValidationContext where
  /-- The ceiling of each device. -/
  deviceMaxPower : List (String × ℤ)
  fallbackDeviceMaxPower : ℤ
  /-- Devices whose AC mode the EMS cannot switch. -/
  acRoleUnsupported : List String

/-- `_device_fields`, with the AC fields and the settings. -/
def deviceFields (context : ValidationContext) (device : String) : List (String × FieldRule) :=
  [("enabled", .bool),
    ("max_power", .int 0
      (max 0 ((context.deviceMaxPower.lookup device).getD context.fallbackDeviceMaxPower))),
    ("offgrid_socket_mode", .enum offgridSocketModes),
    ("pv_priority_factor", .float (1 / 100) 100), ("ac_charge_enabled", .bool)] ++
    deviceAcFields ++ deviceSettingFields

/-! ### Conversions -/

/-- What the validation uses of the language on texts. -/
structure RuntimeTexts where
  /-- `repr(value)` of what is no string, which ends in an exception where the value is nested too
  deeply for the interpreter. -/
  repr : PyValue → Except PyException String
  /-- `int(text)`, which is a `ValueError` for no integer. -/
  int : String → Option ℤ
  /-- `float(text)`, which is a `ValueError` for no number. -/
  float : String → Option PyFloat
  /-- `text.lower()`. -/
  lower : String → String
  /-- A bound as a message shows it. -/
  number : ℚ → String

/-- The first integer that rounds to no float: halfway beyond the largest. -/
def floatOverflow : ℕ := 2 ^ 1024 - 2 ^ 970

/-- `int(x)`: towards 0. -/
def truncate (x : ℚ) : ℤ := if 0 ≤ x then x.floor else x.ceil

section

variable (texts : RuntimeTexts) (key : String)

/-- `str(value)`. -/
def strText : PyValue → Parsed String
  | .str s => .ok s
  | value => (texts.repr value).mapError .escaped

/-- `str(value).strip().lower()`. -/
def normalizedText (value : PyValue) : Parsed String := do
  return texts.lower (pyStrip (← strText texts value))

/-- `value or ""`. -/
def orEmpty (value : PyValue) : PyValue := if Config.truthy value then value else .str ""

/-- `int(value)`, where it is the value. -/
def wholeNumber : PyValue → Parsed ℤ
  | .int z => .ok z
  | .float (.finite x) =>
    if (truncate x : ℚ) = x then .ok (truncate x) else refuse (key ++ " must be an integer")
  | .float .posInf => escape .overflowError
  | .float .negInf => escape .overflowError
  | .str s =>
    match texts.int s with
    | some z =>
      if pyStrip s = toString z then .ok z else refuse (key ++ " must be an integer")
    | none => refuse (key ++ " must be an integer")
  -- A bool by its type, NaN by `ValueError`, the rest by `TypeError`.
  | _ => refuse (key ++ " must be an integer")

/-- `float(value)`. -/
def floatNumber : PyValue → Parsed PyFloat
  | .int z => if z.natAbs < floatOverflow then .ok (.finite z) else escape .overflowError
  | .float x => .ok x
  | .str s =>
    match texts.float s with
    | some x => .ok x
    | none => refuse (key ++ " must be numeric")
  | _ => refuse (key ++ " must be numeric")

def unmanaged : PyValue → Parsed Bool
  | .none => .ok true
  | value => do return decide ((← normalizedText texts value) = Schedule.unmanaged)

/-- The text that is looked up among the words of a setting; a bool is none of them. -/
def settingText : PyValue → Parsed String
  | .bool _ => .ok ""
  | value => normalizedText texts value

def settingWord (words : List String) (value : PyValue) : Parsed PyValue := do
  let normalized ← settingText texts value
  if normalized ∈ words then .ok (.str normalized)
  else refuse (key ++ " must be one of: " ++ ", ".intercalate (words ++ [Schedule.unmanaged]))

def validateValue (value : PyValue) : FieldRule → Parsed PyValue
  | .bool =>
    match value with
    | .bool b => .ok (.bool b)
    | _ => refuse (key ++ " must be a boolean")
  | .int minimum maximum => do
    let parsed ← wholeNumber texts key value
    if parsed < minimum ∨ maximum < parsed then
      refuse s!"{key} must be between {minimum} and {maximum}"
    else .ok (.int parsed)
  | .float minimum maximum => do
    match ← floatNumber texts key value with
    | .finite parsed =>
      if parsed < minimum ∨ maximum < parsed then
        refuse (key ++ " must be between " ++ texts.number minimum ++ " and " ++
          texts.number maximum)
      else .ok (.float (.finite parsed))
    | _ => refuse (key ++ " must be finite")
  | .enum words => do
    let normalized ← normalizedText texts (orEmpty value)
    if normalized ∈ words then .ok (.str normalized)
    else refuse (key ++ " must be one of: " ++ ", ".intercalate words)
  | .setting words => do
    if ← unmanaged texts value then .ok .none
    else settingWord texts key words value

end

/-! ### Payloads -/

section

variable (texts : RuntimeTexts)

/-- `_validate_value` of a field that is sent, by what the field takes. -/
def validateEntry (fields : List (String × FieldRule)) (entry : String × PyValue) :
    Parsed (String × PyValue) :=
  match fields.lookup entry.1 with
  | some rule => do return (entry.1, ← validateValue texts entry.1 entry.2 rule)
  | none => refuse ("unknown field: " ++ entry.1)

def validatePayload (payload : PyValue) (fields : List (String × FieldRule)) : Parsed Entries :=
  match payload with
  | .dict [] => refuse "request body must contain at least one field"
  | .dict entries =>
    match firstUnknown (fields.map Prod.fst) entries with
    | some unknown => refuse ("unknown field: " ++ unknown)
    | none => entries.mapM (validateEntry texts fields)
  | _ => refuse "request body must be a JSON object"

def backToAcOutput (key : String) (value : PyValue) : Parsed Bool :=
  if key = "runtime_role" then do
    return decide ((← normalizedText texts (orEmpty value)) = "ac_output")
  else .ok false

/-- The first of the fields that are set to what the device does not allow. -/
def firstRefused (fields : List (String × FieldRule)) (allowed : String → PyValue → Parsed Bool)
    (entries : Entries) : Parsed (Option String) := do
  let checked ← (entries.filter (·.1 ∈ fields.map Prod.fst)).mapM fun entry => do
    return (entry.1, ← allowed entry.1 entry.2)
  return ((checked.filter (!·.2)).map Prod.fst).min?

/-- What is refused for a device that is connected over MQTT. -/
def refuseOverMqtt (device : String) (entries : Entries) : Parsed Unit := do
  match ← firstRefused deviceAcFields (backToAcOutput texts) entries with
  | some key =>
    refuse (key ++ " is not available for " ++ device ++
      ": it is connected over MQTT, where the EMS cannot switch the AC mode")
  | none =>
    match ← firstRefused deviceSettingFields (fun _ => unmanaged texts) entries with
    | some key =>
      refuse (key ++ " is not available for " ++ device ++
        ": it is connected over MQTT, where the EMS writes no device settings")
    | none => .ok ()

/-- What is refused before the values are looked at. -/
def refuseForDevice (context : ValidationContext) (device : String) : PyValue → Parsed Unit
  | .dict entries =>
    if device ∈ context.acRoleUnsupported then refuseOverMqtt texts device entries else .ok ()
  | _ => .ok ()

def validateDeviceValues (context : ValidationContext) (device : String) (payload : PyValue) :
    Parsed Entries := do
  refuseForDevice texts context device payload
  validatePayload texts payload (deviceFields context device)

end

end SolarFlowEms.Runtime
