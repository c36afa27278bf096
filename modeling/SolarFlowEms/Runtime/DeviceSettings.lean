import Mathlib.Algebra.Order.Ring.Rat
import SolarFlowEms.Config.Upgrade

/-!
# Settings of the inverter that the operator sets

Light, fan, buzzer and battery heating.  Where the operator set a value and the device shows another,
the properties that differ are written; one setting at a time, and no further one of a device whose
write raised.  What the device does not take is sent again, in rounds.
-/

namespace SolarFlowEms.DeviceSettings

open Python
open SolarFlowEms.Config (ConfigTexts)

/-! ### The settings -/

inductive Setting where
  | light
  | fan
  | buzzer
  | autoHeat
deriving DecidableEq

def Setting.key : Setting → String
  | .light => "light"
  | .fan => "fan"
  | .buzzer => "buzzer"
  | .autoHeat => "auto_heat"

/-- One value of a setting and the property values that make it. -/
structure SettingValue where
  word : String
  properties : List (String × ℤ)
deriving DecidableEq

def switchValues (property : String) : List SettingValue :=
  [⟨"on", [(property, 1)]⟩, ⟨"off", [(property, 0)]⟩]

def Setting.values : Setting → List SettingValue
  | .light => switchValues "lampSwitch"
  | .fan =>
    [⟨"auto", [("Fanmode", 1), ("Fanspeed", 0)]⟩, ⟨"1", [("Fanmode", 1), ("Fanspeed", 1)]⟩,
      ⟨"2", [("Fanmode", 1), ("Fanspeed", 2)]⟩, ⟨"off", [("Fanmode", 0)]⟩]
  | .buzzer => switchValues "buzzerSwitch"
  | .autoHeat => switchValues "autoHeat"

def settings : List Setting := [.light, .fan, .buzzer, .autoHeat]

def Setting.properties (setting : Setting) : List String :=
  setting.values.flatMap fun value => value.properties.map Prod.fst

def Setting.value (setting : Setting) (word : String) : Option SettingValue :=
  setting.values.find? fun value => value.word = word

/-! ### Reports and stored values -/

/-- The properties that a report carries as whole numbers. -/
abbrev Reported := String → Option ℤ

def SettingValue.shown (value : SettingValue) (reported : Reported) : Bool :=
  value.properties.all fun property => reported property.1 = some property.2

def reportedWord (setting : Setting) (reported : Reported) : Option String :=
  (setting.values.find? fun value => value.shown reported).map SettingValue.word

/-- `changes_for`: the properties that differ, where the report has each. -/
def changesFor (setting : Setting) (word : String) (reported : Reported) :
    Option (List (String × ℤ)) :=
  match setting.value word with
  | none => none
  | some value =>
    if value.properties.all fun property => (reported property.1).isSome then
      some (value.properties.filter fun property => reported property.1 ≠ some property.2)
    else none

def unmanaged : String := "unmanaged"

/-- `str(stored)`, of an integral float as the integer. -/
def storedText (texts : ConfigTexts) : PyValue → String
  | .float (.finite x) => texts.str (if x.den = 1 then .int x.num else .float (.finite x))
  | stored => texts.str stored

/-- `normalized_word`: the word, and whether the value is one. -/
def normalizedWord (texts : ConfigTexts) (setting : Setting) (stored : PyValue) :
    Option String × Bool :=
  if stored.isNone then (none, true)
  else
    let word := (pyStrip (storedText texts stored)).toLower
    if word = unmanaged then (none, true)
    else if word ∈ setting.values.map SettingValue.word then (some word, true)
    else (none, false)

/-! ### What is kept of the sends -/

def resendSeconds : ℚ := 30

def maxAttempts : ℕ := 3

def holdSeconds : ℚ := 3600

/-- `_Sent`. -/
structure Sent where
  word : String
  attempts : ℕ
  last : ℚ
  warned : Bool
deriving DecidableEq

def due (word : String) (now : ℚ) : Option Sent → Bool × Option Sent
  | none => (true, none)
  | some sent =>
    if sent.word ≠ word then (true, some sent)
    else if now - sent.last < resendSeconds then (false, some sent)
    else if sent.attempts < maxAttempts then (true, some sent)
    else if now - sent.last < holdSeconds then (false, some { sent with warned := true })
    else (true, some { sent with warned := true, attempts := 0 })

def count (word : String) (now : ℚ) : Option Sent → Sent
  | none => ⟨word, 1, now, false⟩
  | some sent =>
    if sent.word ≠ word then ⟨word, 1, now, false⟩
    else { sent with attempts := sent.attempts + 1, last := now }

/-- What the reconciler keeps, by the device and the setting. -/
structure State where
  sent : String → Setting → Option Sent
  held : String → Setting → Option (List (String × ℤ))

def State.initial : State := ⟨fun _ _ => none, fun _ _ => none⟩

/-- The records of one slot are replaced. -/
def State.put (s : State) (device : String) (setting : Setting) (sent : Option Sent)
    (held : Option (List (String × ℤ))) : State where
  sent device' setting' :=
    if device' = device ∧ setting' = setting then sent else s.sent device' setting'
  held device' setting' :=
    if device' = device ∧ setting' = setting then held else s.held device' setting'

/-! ### A call -/

/-- How a write ends. -/
inductive Outcome where
  | answered
  | refused
  | raised
deriving DecidableEq

/-- The arguments of a call, the time, and how each write of it would end. -/
structure Call where
  device : String
  supportsStateReconciliation : Bool
  modelSettings : List String
  reported : Reported
  stored : Setting → PyValue
  allowed : Bool
  now : ℚ
  outcome : Setting → Outcome

/-- A write that went out. -/
structure Write where
  device : String
  setting : Setting
  word : String
  changes : List (String × ℤ)
  now : ℚ
deriving DecidableEq

section

variable (texts : ConfigTexts) (call : Call)

/-- `offered_settings`, of one setting. -/
def Call.offers (setting : Setting) : Bool :=
  call.supportsStateReconciliation && setting.key ∈ call.modelSettings &&
    setting.properties.all fun name => (call.reported name).isSome

def Call.wanted (setting : Setting) : Option String :=
  (normalizedWord texts setting (call.stored setting)).1

def Call.shows (setting : Setting) (word : String) : Bool :=
  call.offers setting && reportedWord setting call.reported = some word

/-- One setting of a call: the records after it, and the write that goes out. -/
def visit (setting : Setting) (s : State) : State × Option Write :=
  let sent := s.sent call.device setting
  let held := s.held call.device setting
  match call.wanted texts setting with
  | none => (s.put call.device setting none none, none)
  | some word =>
    if call.shows setting word then (s.put call.device setting none none, none)
    else if !call.offers setting then (s, none)
    else
      let asked := due word call.now sent
      if !asked.1 then (s.put call.device setting asked.2 held, none)
      else
        let changes := (changesFor setting word call.reported).getD []
        if !call.allowed then (s.put call.device setting asked.2 (some changes), none)
        else
          (s.put call.device setting (some (count word call.now asked.2)) none,
            some ⟨call.device, setting, word, changes, call.now⟩)

/-- The settings in their order, until a write raises. -/
def visitAll : List Setting → State → State × List Write
  | [], s => (s, [])
  | setting :: rest, s =>
    match (visit texts call setting s).2 with
    | none => visitAll rest (visit texts call setting s).1
    | some write =>
      if call.outcome setting = .raised then ((visit texts call setting s).1, [write])
      else
        let later := visitAll rest (visit texts call setting s).1
        (later.1, write :: later.2)

/-- `reconcile`, with the writes that go out. -/
def reconcile (s : State) : State × List Write := visitAll texts call settings s

end

/-- The state after a run of calls, and the writes of the run in their order. -/
def runCalls (texts : ConfigTexts) : State → List Call → State × List Write
  | s, [] => (s, [])
  | s, call :: rest =>
    let first := reconcile texts call s
    let later := runCalls texts first.1 rest
    (later.1, first.2 ++ later.2)

end SolarFlowEms.DeviceSettings
