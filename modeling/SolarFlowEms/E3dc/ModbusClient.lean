import Mathlib.Data.Int.Notation
import Mathlib.Data.Nat.Notation
import SolarFlowEms.Library.Program

/-!
# The read-only Modbus client of an E3/DC

A request goes out under the next transaction id, and its answer is one frame: a header of six
bytes and a body as long as the header says.  Every failure but a refusal in a frame of its own
leaves the connection in the middle of something.

What the network does is given by connection: whether it opens, and byte by byte what a receive
finds there, so that a frame may be late, doubled, cut off or another's.  The client keeps, next to
its own fields, the requests it sent and the frames it received.
-/

namespace SolarFlowEms.E3dc

/-! ### The network -/

inductive ConnectResult where
  | connected
  | refused (message : String)
  | unusable (message : String)
deriving DecidableEq

/-- What a receive finds next on a connection. -/
inductive RecvEvent where
  | byte (b : UInt8)
  | timeout
  | error (message : String)
  | closed
deriving DecidableEq

/-- How the connections open in their order, what stands on each of them byte by byte, and why a
send fails if it does. -/
structure Network where
  endpoint : String
  connect : ℕ → ConnectResult
  event : ℕ → ℕ → RecvEvent
  sendError : ℕ → Option String

/-- What the client raises: a Modbus error, an exception response of the device, or an error of the
interpreter's library. -/
inductive Failure where
  | modbus (message : String)
  | exceptionResponse (functionCode exceptionCode : ℕ)
  | other (message : String)
deriving DecidableEq

def modbusExceptionText : List (ℕ × String) :=
  [(1, "illegal function"), (2, "illegal data address"), (3, "illegal data value"),
    (4, "server device failure"), (5, "acknowledge"), (6, "server device busy"),
    (8, "memory parity error"), (10, "gateway path unavailable"),
    (11, "gateway target device failed to respond")]

/-- `str(exc)`. -/
def Failure.text : Failure → String
  | .modbus message => message
  | .exceptionResponse _ code =>
    s!"modbus exception {code} (" ++ (modbusExceptionText.lookup code).getD "unknown" ++ ")"
  | .other message => message

/-! ### The client -/

structure Request where
  transactionId : ℕ
  unitId : ℕ
  functionCode : ℕ
  address : ℕ
  count : ℕ
deriving DecidableEq

/-- A frame that was received whole: on which connection and from which byte on, and the request
before it. -/
structure Exchange where
  connection : ℕ
  start : ℕ
  request : Request
  header : List UInt8
  body : List UInt8

structure Client where
  connects : ℕ
  socket : Option ℕ
  position : ℕ
  transactionId : ℕ
  sent : List Request
  exchanges : List Exchange

def Client.initial : Client := ⟨0, none, 0, 0, [], []⟩

abbrev Modbus (α : Type) := Program Client Failure α

def readHoldingRegisters : ℕ := 3

def readInputRegisters : ℕ := 4

def readOnlyFunctionCodes : List ℕ := [readHoldingRegisters, readInputRegisters]

def maxRegistersPerRead : ℕ := 125

def Client.close (c : Client) : Client := { c with socket := none }

section

variable (net : Network)

def connect : Modbus Unit := fun c =>
  let number := c.connects + 1
  match net.connect number with
  | .refused message =>
    (.error (.modbus s!"cannot connect to {net.endpoint}: {message}"),
      { c with connects := number, socket := none })
  | .unusable message =>
    (.error (.other message), { c with connects := number, socket := some number, position := 0 })
  | .connected => (.ok (), { c with connects := number, socket := some number, position := 0 })

/-- One byte of `_receive_exactly`; how the bytes are cut into receives does not matter. -/
def receiveByte : Modbus UInt8 := fun c =>
  match c.socket with
  | none => (.error (.other "not connected"), c)
  | some connection =>
    let after := { c with position := c.position + 1 }
    match net.event connection c.position with
    | .byte b => (.ok b, after)
    | .timeout => (.error (.modbus "timeout waiting for the Modbus response"), after)
    | .error message => (.error (.modbus s!"socket error while reading: {message}"), after)
    | .closed => (.error (.modbus "device closed the connection"), after)

def receiveExactly : ℕ → Modbus (List UInt8)
  | 0 => pure []
  | count + 1 => do
    let b ← receiveByte net
    let rest ← receiveExactly count
    return b :: rest

/-- Numbers of two bytes, the most significant first. -/
def words : List UInt8 → List ℕ
  | high :: low :: rest => (high.toNat * 256 + low.toNat) :: words rest
  | _ => []

/-- What a whole frame is as the answer to a request. -/
def answerOf (request : Request) (header body : List UInt8) : Except Failure (List ℕ) :=
  let transactionId := (words header).getD 0 0
  let answered := (body.getD 1 0).toNat
  let byteCount := (body.getD 2 0).toNat
  if transactionId ≠ request.transactionId then
    .error (.modbus s!"transaction id mismatch (sent {request.transactionId}, got {transactionId})")
  else if answered = request.functionCode ||| 128 then
    if body.length < 3 then .error (.modbus "truncated Modbus exception response")
    else .error (.exceptionResponse request.functionCode byteCount)
  else if answered ≠ request.functionCode then
    .error (.modbus s!"device answered function code {answered}")
  else if body.length < 3 then .error (.modbus "truncated Modbus response")
  else if byteCount ≠ request.count * 2 ∨ body.length < 3 + byteCount then
    .error (.modbus s!"device returned {byteCount} bytes for {request.count} registers")
  else .ok (words ((body.drop 3).take byteCount))

/-- The frame was received, and is an answer to the request or not. -/
def received (start : ℕ) (request : Request) (header body : List UInt8) : Modbus (List ℕ) := fun c =>
  let exchange : Exchange := ⟨c.connects, start, request, header, body⟩
  (answerOf request header body, { c with exchanges := exchange :: c.exchanges })

/-- The answer of a request: its frame, from where the connection stands. -/
def readAnswer (request : Request) (start : ℕ) : Modbus (List ℕ) := do
  let header ← receiveExactly net 6
  let protocolId := (words header).getD 1 0
  let length := (words header).getD 2 0
  if protocolId ≠ 0 then Program.raise (.modbus s!"unexpected Modbus protocol id {protocolId}")
  else if ¬ (2 ≤ length ∧ length ≤ 253) then
    Program.raise (.modbus s!"implausible Modbus frame length {length}")
  else do
    let body ← receiveExactly net length
    received start request header body

/-- The request goes out, under the next transaction id. -/
def sendRequest (address count functionCode unitId : ℕ) : Modbus Request := fun c =>
  let request : Request := ⟨(c.transactionId + 1) % 65536, unitId, functionCode, address, count⟩
  let numbered := { c with transactionId := request.transactionId }
  if 255 < unitId then (.error (.other "ubyte format requires 0 <= number <= 255"), numbered)
  else
    let after := { numbered with sent := request :: c.sent }
    match net.sendError c.sent.length with
    | some message => (.error (.modbus s!"socket error while sending: {message}"), after)
    | none => (.ok request, after)

/-- The position on the open connection. -/
def connectedAt : Modbus ℕ := fun c =>
  match c.socket with
  | none => (.error (.modbus "not connected"), c)
  | some _ => (.ok c.position, c)

def readRegisters (address : ℤ) (count functionCode unitId : ℕ) : Modbus (List ℕ) :=
  if functionCode ∉ readOnlyFunctionCodes then
    Program.raise (.modbus s!"function code {functionCode} is not a read; refused")
  else if ¬ (1 ≤ count ∧ count ≤ maxRegistersPerRead) then
    Program.raise (.modbus s!"register count {count} outside 1..{maxRegistersPerRead}")
  else if ¬ (0 ≤ address ∧ address ≤ 0xFFFF) ∨ address + count - 1 > 0xFFFF then
    Program.raise
      (.modbus s!"address range {address}..{address + count - 1} outside 0..65535")
  else do
    let start ← connectedAt
    let request ← sendRequest net address.toNat count functionCode unitId
    readAnswer net request start

/-! ### The mapping -/

/-- The addressing that answered on this installation. -/
structure Mapping where
  unitId : ℕ
  functionCode : ℕ
  addressOffset : ℤ
  magicValue : ℕ
deriving DecidableEq

def Mapping.wireAddress (mapping : Mapping) (manualAddress : ℤ) : ℤ :=
  manualAddress + mapping.addressOffset

def magicAddress : ℤ := 40001

def magicValue : ℕ := 0xE3DC

def sunspecFirstWord : ℕ := 0x5375

def addressOffsetCandidates : List ℤ := [-1, 0, -2, -3, 1]

/-- `0x{value:04X}`. -/
def hexWord (value : ℕ) : String :=
  let digits := (Nat.toDigits 16 value).map Char.toUpper
  "0x" ++ String.ofList (List.replicate (4 - digits.length) '0' ++ digits)

/-- No candidate is left. -/
def notFound (unitId : ℕ) (answers : List String) : Failure :=
  if answers.any (· = hexWord sunspecFirstWord) then
    .modbus "device answers in SunSpec mode; set the Modbus TCP protocol to E3DC"
  else
    .modbus (s!"magic word {hexWord magicValue} not found at unit id {unitId} (last answer: " ++
      answers.getLastD "no answer" ++ ")")

/-- The failure that ends the search. -/
def searchFailure (answers : List String) (message : String) : Failure :=
  match answers.getLast? with
  | some last =>
    .modbus (s!"connection to {net.endpoint} lost after it answered (last answer: " ++ last ++
      "): " ++ message)
  | none => .modbus (s!"no Modbus answer from {net.endpoint}: " ++ message)

/-- The candidates in their order, after these answers. -/
def detectFrom (unitId : ℕ) (answers : List String) : List ℤ → Modbus Mapping
  | [] => Program.raise (notFound unitId answers)
  | offset :: rest => do
    match ← Program.attempting
        (readRegisters net (magicAddress + offset) 1 readHoldingRegisters unitId) with
    | .ok registers =>
      let value := registers.getD 0 0
      if value = magicValue then return ⟨unitId, readHoldingRegisters, offset, value⟩
      else detectFrom unitId (answers ++ [hexWord value]) rest
    | .error (.exceptionResponse functionCode code) =>
      detectFrom unitId (answers ++ [(Failure.exceptionResponse functionCode code).text]) rest
    | .error (.modbus message) => Program.raise (searchFailure net answers message)
    | .error (.other message) => Program.raise (.other message)

def detectMagicMapping (unitId : ℕ) : Modbus Mapping :=
  detectFrom net unitId [] addressOffsetCandidates

def identificationFirst : ℤ := 40001

def identificationCount : ℕ := 67

/-- `read_identification`: the registers of the block, unless it is refused. -/
def readIdentification (mapping : Mapping) : Modbus (Option (List ℕ)) := do
  match ← Program.attempting (readRegisters net (mapping.wireAddress identificationFirst)
      identificationCount mapping.functionCode mapping.unitId) with
  | .ok registers => return some registers
  | .error (.exceptionResponse _ _) => return none
  | .error failure => Program.raise failure

end

end SolarFlowEms.E3dc
