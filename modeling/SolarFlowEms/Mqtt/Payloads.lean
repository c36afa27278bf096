import SolarFlowEms.Discovery.HardwareProfiles
import SolarFlowEms.Runtime.RuntimeCommands

/-!
# Payloads of telemetry messages

Anything can stand in a payload.  A scalar payload is read as a number where it is the text of one
that a float can hold, and is kept as it came otherwise.  A report is a JSON object, with its numbers
read by the same rule and what no float holds read as missing.  A payload of a catalog device counts
only where it is a plain decimal number of plausible size.  Reading may raise in the middle; which
exceptions each reader catches is part of it.
-/

namespace SolarFlowEms.Mqtt.Telemetry

open Python Documents
open SolarFlowEms.Runtime (floatOverflow)

/-- A computation that may raise. -/
abbrev Py := Except PyException

/-- What a JSON text holds before its numbers are read; the later entry of a repeated key is kept. -/
inductive RawJson where
  | null
  | bool (b : Bool)
  | intText (text : String)
  | floatText (text : String)
  | constant (name : String)
  | str (text : String)
  | list (items : List RawJson)
  | dict (entries : List (String × RawJson))

/-- `int(text)` and `float(text)`, which are missing for a `ValueError`, the float nearest to a number
in range, and the parser of `json.loads` without the reading of numbers, which raises only where the
text is no JSON or nested too deeply. -/
structure PayloadTexts extends Discovery.NameTexts where
  int : String → Option ℤ
  float : String → Option PyFloat
  nearest : ℚ → ℚ
  loads : String → Py RawJson
  loads_error : ∀ text e, loads text = .error e → e = .valueError ∨ e = .recursionError

section

variable (texts : PayloadTexts)

/-! ### Numbers -/

/-- `float(number)`. -/
def floatOf (number : ℤ) : Py ℚ :=
  if number.natAbs < floatOverflow then .ok (texts.nearest number) else .error .overflowError

def withinFloatRange (number : ℤ) : Py Bool :=
  match floatOf texts number with
  | .ok _ => .ok true
  | .error .overflowError => .ok false
  | .error e => .error e

/-- `number / 10`. -/
def tenth : PyValue → Py PyValue
  | .int z =>
    if z.natAbs < 10 * floatOverflow then .ok (.float (.finite (texts.nearest (z / 10))))
    else .error .overflowError
  | .float (.finite x) => .ok (.float (.finite (texts.nearest (x / 10))))
  | .float x => .ok (.float x)
  | _ => .error .typeError

/-! ### Scalar payloads -/

/-- `coerce_scalar` of a text. -/
def coerceText (payload : String) : Py PyValue :=
  let text := pyStrip payload
  if text = "" then .ok (.str payload)
  else
    match texts.int text with
    | some number => do return if ← withinFloatRange texts number then .int number else .str payload
    | none =>
      match texts.float text with
      | some (.finite x) => .ok (.float (.finite x))
      | _ => .ok (.str payload)

/-- `coerce_scalar` of bytes. -/
def coercePayload (payload : ByteArray) : Py PyValue :=
  match String.fromUTF8? payload with
  | none => .ok .none
  | some text => coerceText texts text

/-- `coerce_scalar` of a value. -/
def coerceScalar : PyValue → Py PyValue
  | .str text => coerceText texts text
  | value => .ok value

/-! ### Reports -/

def maxPayloadBytes : ℕ := 256 * 1024

def floatRangeInt (text : String) : Py PyValue :=
  match texts.int text with
  | none => .error .valueError
  | some number => do return if ← withinFloatRange texts number then .int number else .none

def finiteFloat (text : String) : Py PyValue :=
  match texts.float text with
  | none => .error .valueError
  | some (.finite x) => .ok (.float (.finite x))
  | some _ => .ok .none

mutual

/-- A JSON value with its numbers read. -/
def hooked : RawJson → Py PyValue
  | .null => .ok .none
  | .bool b => .ok (.bool b)
  | .intText text => floatRangeInt texts text
  | .floatText text => finiteFloat texts text
  | .constant _ => .ok .none
  | .str text => .ok (.str text)
  | .list items => do return .list (← hookedItems items)
  | .dict entries => do return .dict (← hookedEntries entries)

def hookedItems : List RawJson → Py (List PyValue)
  | [] => .ok []
  | item :: rest => do
    let value ← hooked item
    let values ← hookedItems rest
    return value :: values

def hookedEntries : List (String × RawJson) → Py Entries
  | [] => .ok []
  | (key, item) :: rest => do
    let value ← hooked item
    let values ← hookedEntries rest
    return (key, value) :: values

end

/-- What the parser's `except` catches. -/
def isCaught : PyException → Bool
  | .valueError | .typeError | .recursionError => true
  | .overflowError => false

def caughtAsNone : Py PyValue → Py PyValue
  | .ok value => .ok value
  | .error e => if isCaught e then .ok .none else .error e

/-- `json.loads` with the hooks. -/
def loadJson (text : String) : Py PyValue := caughtAsNone (texts.loads text >>= hooked texts)

/-- `_coerce_json` of bytes. -/
def coerceJson (payload : ByteArray) : Py PyValue :=
  if maxPayloadBytes < payload.size then .ok .none
  else
    match String.fromUTF8? payload with
    | none => .ok .none
    | some text => if maxPayloadBytes < text.length then .ok .none else loadJson texts text

/-- `ParsedReport`, as far as it is merged. -/
structure ParsedReport where
  serialNumber : Option String := none
  product : Option String := none
  properties : Entries := []
  batteryPacks : List Entries := []

def textOf (value : PyValue) : Option String := value.str?.filter (· ≠ "")

def extractPacks (data properties : Entries) : List Entries :=
  let packs := if (getValue data "packData").isNone then getValue properties "packData"
    else getValue data "packData"
  match packs with
  | .list items => items.filterMap PyValue.dict?
  | .dict pack => [pack]
  | _ => []

/-- The report in a JSON object. -/
def reportOf (data : Entries) : ParsedReport :=
  let properties := (getValue data "properties").dict?.getD []
  { serialNumber := ["sn", "serialNumber", "deviceSn"].findSome? fun key => textOf (getValue data key)
    product := textOf (getValue data "product")
    properties
    batteryPacks := extractPacks data properties }

def parseReportPayload (payload : ByteArray) : Py ParsedReport := do
  match ← coerceJson texts payload with
  | .dict data => return reportOf data
  | _ => return {}

/-! ### Plain numbers -/

def isAsciiDigit (c : Char) : Bool := '0' ≤ c && c ≤ '9'

/-- `[0-9]{1,16}`. -/
def isDigitRun (chars : List Char) : Bool :=
  chars.all isAsciiDigit && 1 ≤ chars.length && chars.length ≤ 16

def digitsValue (chars : List Char) : ℕ :=
  chars.foldl (fun value c => 10 * value + (c.toNat - 48)) 0

/-- `_PLAIN_NUMBER.fullmatch(text)`, with the number that the text then is. -/
def plainDecimal (text : String) : Option PyValue :=
  let negative := text.toList.head? = some '-'
  let chars := if negative then text.toList.drop 1 else text.toList
  let whole := chars.takeWhile (· ≠ '.')
  match chars.dropWhile (· ≠ '.') with
  | [] =>
    if isDigitRun whole then
      some (.int (if negative then -digitsValue whole else digitsValue whole))
    else none
  | _ :: fraction =>
    if isDigitRun whole && isDigitRun fraction then
      let value : ℚ := digitsValue whole + digitsValue fraction / 10 ^ fraction.length
      some (.float (.finite (texts.nearest (if negative then -value else value))))
    else none

def maxReading : ℕ := 1000000

/-- A number that is finite and no larger than a reading can be. -/
def asReading : PyValue → Option PyValue
  | .int z => if z.natAbs ≤ maxReading then some (.int z) else none
  | .float (.finite x) => if |x| ≤ maxReading then some (.float (.finite x)) else none
  | _ => none

/-- `plain_number` of a value. -/
def plainNumber : PyValue → Option PyValue
  | .str text => (plainDecimal texts (pyStrip text)).bind asReading
  | value => asReading value

/-- `plain_number` of bytes. -/
def plainPayload (payload : ByteArray) : Option PyValue :=
  (String.fromUTF8? payload).bind fun text => plainNumber texts (.str text)

end

end SolarFlowEms.Mqtt.Telemetry
