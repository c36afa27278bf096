import SolarFlowEms.Schedule.Recurrence

/-!
# What a rule can do

The catalogue of actions.  An action sets one or two runtime keys of the system or of a
device, takes values of one kind, and runs one or two commands for a value.  The keys an
action sets are its slot: the latest switch point wins per slot.
-/

namespace SolarFlowEms.Schedule

open Python

inductive ValueType where
  | switch
  | watts
  | factor
  | choice
  | charge
deriving DecidableEq

structure ScheduleAction where
  id : String
  scope : String
  keys : List String
  valueType : ValueType
  command : String
  choices : List String
  perDevice : Bool
deriving DecidableEq

def systemAction (id scope key : String) (valueType : ValueType) (command : String) :
    ScheduleAction :=
  { id, scope, keys := [key], valueType, command, choices := [], perDevice := false }

def deviceAction (id : String) (keys : List String) (valueType : ValueType) (command : String)
    (choices : List String) : ScheduleAction :=
  { id, scope := "device", keys, valueType, command, choices, perDevice := true }

def unmanaged : String := "unmanaged"

def offgridSocketModes : List String := ["off", "eco", "standard"]

/-- The settings of the inverter itself: their key, their command and their words. -/
def deviceSettings : List (String × String × List String) :=
  [("light", "light", ["on", "off"]), ("fan", "fan", ["auto", "1", "2", "off"]),
    ("buzzer", "buzzer", ["on", "off"]), ("auto_heat", "auto-heat", ["on", "off"])]

def actions : List ScheduleAction :=
  [systemAction "total_output_limit" "system" "max_total_power" .watts "max-power",
    deviceAction "device_output_limit" ["max_power"] .watts "max-power" [],
    deviceAction "pv_priority" ["pv_priority_factor"] .factor "pv-priority-factor" [],
    deviceAction "offgrid_socket" ["offgrid_socket_mode"] .choice "offgrid" offgridSocketModes,
    deviceAction "charge_from_grid" ["runtime_role", "ac_charge_power_w"] .charge "" [],
    systemAction "surplus_charging" "ac_charge_control" "enabled" .switch "",
    deviceAction "device_surplus_charging" ["ac_charge_enabled"] .switch "ac-charge" [],
    systemAction "winter_mode" "winter" "enabled" .switch "",
    systemAction "ems_control" "system" "enabled" .switch "",
    deviceAction "device_control" ["enabled"] .switch "" []]
  ++ deviceSettings.map (fun (key, command, words) =>
    deviceAction key [key] .choice command (words ++ [unmanaged]))
  ++ [systemAction "minimum_output_limit" "system" "min_output_limit" .watts "min-output-limit"]

/-! ### Texts of values -/

/-- What the code uses of its library on whole JSON values: each goes through a nested value
and ends in a `RecursionError` where the value is too deep for the interpreter. -/
structure ValueTexts where
  /-- `repr(value)`. -/
  repr : PyValue → Except PyException String
  /-- The first eight hex digits of the SHA-256 of `json.dumps(value, sort_keys=True)`. -/
  contentHash : PyValue → Except PyException String

namespace ValueTexts

variable (texts : ValueTexts)

/-- `repr(value)` as part of a message. -/
def reprText (value : PyValue) : Parsed String := (texts.repr value).mapError .escaped

/-- `str(value)` as part of a message: a string is its own text. -/
def strText : PyValue → Parsed String
  | .str s => .ok s
  | value => texts.reprText value

end ValueTexts

/-! ### Looking up an action and its commands -/

def scheduleAction (texts : ValueTexts) (actionId : PyValue) : Parsed ScheduleAction :=
  match actions.find? fun action => actionId.eqStr action.id with
  | some action => .ok action
  | none => do refuse ("unknown schedule action " ++ (← texts.strText actionId))

def actionKeyPaths (action : ScheduleAction) (device : String) : List String :=
  let holder := if action.scope = "device" then "devices." ++ device else action.scope
  action.keys.map fun key => holder ++ "." ++ key

/-- The one name for the runtime keys an action sets. -/
def actionSlot (action : ScheduleAction) (device : String) : String :=
  ",".intercalate (actionKeyPaths action device)

/-- `math.isfinite(value)` of a number.  An integer is made a float first, and one that would
round to 2 ** 1024 or beyond is too large for that. -/
def isFinite : PyValue → Except PyException Bool
  | .int z => if z.natAbs < 2 ^ 1024 - 2 ^ 970 then .ok true else .error .overflowError
  | .float (.finite _) => .ok true
  | _ => .ok false

/-- The watts of a value: a whole number from 0, and no bool. -/
def wholeWatts (action : ScheduleAction) (value : PyValue) : Parsed ℤ :=
  match value with
  | .int z => if 0 ≤ z then .ok z else refuse (action.id ++ " takes whole watts from 0")
  | _ => refuse (action.id ++ " takes whole watts from 0")

/-- The commands, in order, that a switch point of `action` runs, each with its value. -/
def actionCommands (action : ScheduleAction) (value : PyValue) :
    Parsed (List (String × PyValue)) :=
  match action.valueType with
  | .switch =>
    match value with
    | .bool b =>
      if action.command = "ac-charge" then .ok [("ac-charge", .str (if b then "on" else "off"))]
      else .ok [(if b then "enable" else "disable", .none)]
    | _ => refuse (action.id ++ " takes on or off")
  | .charge => do
    let watts ← wholeWatts action value
    if watts = 0 then return [("ac-mode", .str "output")]
    else return [("ac-charge-power", .int watts), ("ac-mode", .str "input")]
  | .watts => do return [(action.command, .int (← wholeWatts action value))]
  | .choice =>
    if action.choices.any value.eqStr then .ok [(action.command, value)]
    else refuse (action.id ++ " takes one of: " ++ ", ".intercalate action.choices)
  | .factor =>
    match value.number? with
    | none => refuse (action.id ++ " takes a number")
    | some _ => do
      let finite ← (isFinite value).mapError .escaped
      require finite (action.id ++ " takes a number")
      return [(action.command, value)]

end SolarFlowEms.Schedule
