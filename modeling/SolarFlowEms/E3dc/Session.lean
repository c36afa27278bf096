import Mathlib.Algebra.Order.Ring.Rat
import SolarFlowEms.E3dc.ModbusClient

/-!
# The session of an E3/DC

The grid meter and the device tile ask one session for the reading of their cycle.  Whichever asks
first polls the device, the other is handed what was read, and nobody is handed a reading twice.  A
poll that fails closes the connection and waits before the next one, twice as long each time.  The
inverter block waits on its own, and its failure leaves the reading without it.
-/

namespace SolarFlowEms.E3dc

/-! ### Registers -/

def powerFirst : ℤ := 40068

def powerCount : ℕ := 18

def inverterFirst : ℤ := 41000

def inverterCount : ℕ := 34

/-- `decode_uint16`, at an offset. -/
def uint16At (registers : List ℕ) (offset : ℕ) : ℤ := registers.getD offset 0

/-- `decode_int32_word_swapped`, at an offset: the low word stands first. -/
def int32At (registers : List ℕ) (offset : ℕ) : ℤ :=
  let raw := registers.getD (offset + 1) 0 * 65536 + registers.getD offset 0
  if 0x80000000 ≤ raw then raw - 0x100000000 else raw

def pvPower (power : List ℕ) : ℤ := int32At power 0

def batteryPower (power : List ℕ) : ℤ := int32At power 2

def gridPower (power : List ℕ) : ℤ := int32At power 6

def batterySoc (power : List ℕ) : ℤ := uint16At power 15

def activePower (inverter : List ℕ) : ℤ :=
  int32At inverter 6 + int32At inverter 8 + int32At inverter 10

/-! ### State -/

/-- A reading, and which poll made it: the object that it is. -/
structure E3dcReading where
  poll : ℕ
  pvW : ℤ
  batteryW : ℤ
  gridW : ℤ
  soc : ℤ
  inverterW : Option ℤ
  taken : ℚ
deriving DecidableEq

/-- The fields of the session.  `ticks` counts the readings of the clock, and `polls` the readings
of the device. -/
structure Session where
  client : Client
  mapping : Option Mapping
  lastReading : Option E3dcReading
  lastError : Option String
  consecutiveFailures : ℕ
  retryAt : Option ℚ
  consumedBy : List String
  inverterFailures : ℕ
  inverterRetryAt : Option ℚ
  ticks : ℕ
  polls : ℕ

def Session.initial : Session where
  client := .initial
  mapping := none
  lastReading := none
  lastError := none
  consecutiveFailures := 0
  retryAt := none
  consumedBy := []
  inverterFailures := 0
  inverterRetryAt := none
  ticks := 0
  polls := 0

def cycleReuseSeconds : ℚ := 1 / 2

def maximumRetrySeconds : ℚ := 30

def maximumRetryDoublings : ℕ := 16

/-- How long to wait after a number of failures in a row. -/
def backOff (failures : ℕ) : ℚ :=
  min (2 ^ min (failures - 1) maximumRetryDoublings) maximumRetrySeconds

/-- Where and under which unit the device is, and the clock by its readings. -/
structure Site where
  net : Network
  unitId : ℕ
  clock : ℕ → ℚ

abbrev Polling (α : Type) := Program Session Failure α

def onClient {α : Type} (x : Modbus α) : Polling α := fun s =>
  ((x s.client).1, { s with client := (x s.client).2 })

/-- A step that cannot fail. -/
def change (f : Session → Session) : Polling Unit := fun s => (.ok (), f s)

section

variable (site : Site)

/-- `self._clock()`. -/
def readClock : Polling ℚ := fun s => (.ok (site.clock s.ticks), { s with ticks := s.ticks + 1 })

def current : Polling Session := fun s => (.ok s, s)

/-! ### A poll -/

def connectAndDetect : Polling Mapping := do
  onClient (connect site.net)
  let mapping ← onClient (detectMagicMapping site.net site.unitId)
  change ({ · with mapping := some mapping })
  let _ ← onClient (readIdentification site.net mapping)
  return mapping

/-- The mapping of the connection, which is opened where there is none. -/
def mapped : Polling Mapping := do
  match (← current).mapping with
  | some mapping => return mapping
  | none => connectAndDetect site

def inverterDue (readInverter : Bool) : Polling Bool := do
  if !readInverter then return false
  else
    match (← current).inverterRetryAt with
    | none => return true
    | some retryAt => return decide (retryAt ≤ (← readClock site))

def inverterFailed : Polling Unit := do
  let now ← readClock site
  change fun s =>
    { s with
      inverterFailures := s.inverterFailures + 1
      inverterRetryAt := some (now + backOff (s.inverterFailures + 1)) }

/-- `_read_inverter`. -/
def readInverterPower (mapping : Mapping) : Polling (Option ℤ) := do
  match ← Program.attempting (onClient (readRegisters site.net (mapping.wireAddress inverterFirst)
      inverterCount mapping.functionCode mapping.unitId)) with
  | .ok inverter =>
    change ({ · with inverterFailures := 0, inverterRetryAt := none })
    return some (activePower inverter)
  | .error (.exceptionResponse _ _) =>
    inverterFailed site
    return none
  | .error _ =>
    inverterFailed site
    change fun s => { s with client := s.client.close, mapping := none }
    return none

def inverterPower (readInverter : Bool) (mapping : Mapping) : Polling (Option ℤ) := do
  if ← inverterDue site readInverter then readInverterPower site mapping else return none

def poll (readInverter : Bool) : Polling E3dcReading := do
  let mapping ← mapped site
  let power ← onClient (readRegisters site.net (mapping.wireAddress powerFirst) powerCount
    mapping.functionCode mapping.unitId)
  let inverterW ← inverterPower site readInverter mapping
  let taken ← readClock site
  change fun s => { s with polls := s.polls + 1 }
  return {
    poll := (← current).polls
    pvW := pvPower power
    batteryW := batteryPower power
    gridW := gridPower power
    soc := batterySoc power
    inverterW, taken }

def pollSucceeded (reading : E3dcReading) (s : Session) : Session :=
  { s with consecutiveFailures := 0, retryAt := none, lastError := none, lastReading := some reading }

def pollFailed (failure : Failure) (s : Session) : Session :=
  { s with
    consecutiveFailures := s.consecutiveFailures + 1
    mapping := none
    client := s.client.close
    lastError := some failure.text
    retryAt := some (site.clock s.ticks + backOff (s.consecutiveFailures + 1))
    ticks := s.ticks + 1 }

/-! ### A cycle -/

/-- What a role is handed: a reading, or the reason why there is none. -/
structure Handed where
  reading : Option E3dcReading
  reason : Option String
deriving DecidableEq

/-- A call of a role, and whether the inverter is to be read. -/
structure Cycle where
  role : String
  readInverter : Bool

/-- The reading of this cycle that another role took, if the role may have it. -/
def sharedReading (role : String) (now : ℚ) (s : Session) : Option E3dcReading :=
  if s.consecutiveFailures ≠ 0 then none
  else s.lastReading.filter fun last =>
    decide (role ∉ s.consumedBy) && decide (now - last.taken < cycleReuseSeconds)

def backingOff (now : ℚ) (s : Session) : Bool := s.retryAt.any fun retryAt => decide (now < retryAt)

def ticked (s : Session) : Session := { s with ticks := s.ticks + 1 }

def readingForCycle (cycle : Cycle) (s : Session) : Handed × Session :=
  let now := site.clock s.ticks
  match sharedReading cycle.role now s with
  | some last => (⟨some last, none⟩, { ticked s with consumedBy := cycle.role :: s.consumedBy })
  | none =>
    if backingOff now s then (⟨none, s.lastError⟩, ticked s)
    else
      match poll site cycle.readInverter (ticked s) with
      | (.error failure, s) => (⟨none, (pollFailed site failure s).lastError⟩, pollFailed site failure s)
      | (.ok reading, s) =>
        (⟨some reading, none⟩, { pollSucceeded reading s with consumedBy := [cycle.role] })

/-! ### Runs -/

/-- A call of a run: the session before and after it, and what it handed out. -/
structure Call where
  cycle : Cycle
  before : Session
  handed : Handed
  after : Session

/-- The calls of a run in their order. -/
def runCycles : Session → List Cycle → List Call
  | _, [] => []
  | s, cycle :: rest =>
    let result := readingForCycle site cycle s
    ⟨cycle, s, result.1, result.2⟩ :: runCycles result.2 rest

def Call.now (call : Call) : ℚ := site.clock call.before.ticks

end

end SolarFlowEms.E3dc
