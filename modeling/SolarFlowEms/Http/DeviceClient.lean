import SolarFlowEms.Mqtt.DeviceClient

/-!
# The HTTP device client

One client writes one device over its local API.  A charge is put on record before it is sent,
and while it is on record a target that is not negative is its exit, held back between its
resend windows.  Every request is answered, with a status, or fails with an exception that the
caller sees.
-/

namespace SolarFlowEms.Http

open Python PowerDirection
open Mqtt (HardwareProfile PowerWriteProfile DispatchResult Snapshot ClientConfig)
open Mqtt.ClientState (ChargeExit chargeExitPending observableNumber numberOrZero directionReport)

def defaultSafetyPreemptMarginW : ℤ := 300

structure HttpConfig where
  /-- The profile that the pinned model and the observed product resolve to. -/
  resolvedHardwareProfile : Option String → Option HardwareProfile

/-- What became of one request. -/
inductive Response where
  | answered (statusCode : ℕ)
  | raised
deriving DecidableEq

/-- `zendure_write_succeeded`. -/
def Response.succeeded : Response → Bool
  | .answered statusCode => statusCode < 300
  | .raised => false

structure HttpClient where
  charge : ChargeRecord
  observedInChargeMode : Bool
  observedProduct : Option String
deriving DecidableEq

/-- What one call leaves: the client, the properties it posted, and the result it returns
unless the request raised. -/
structure HttpOutcome where
  client : HttpClient
  posted : Option (List (String × ℤ))
  result : Option DispatchResult
deriving DecidableEq

def exitResendSeconds : ℚ := 30

namespace HttpClient

def new : HttpClient where
  charge := ChargeRecord.new exitResendSeconds
  observedInChargeMode := false
  observedProduct := none

variable (cfg : HttpConfig) (c : HttpClient)

def published (targetW : ℤ) : DispatchResult :=
  { status := .published, targetW := some targetW, messageId := none, commandState := none
    reason := none, correlationId := none }

def failed (targetW : ℤ) : DispatchResult :=
  { status := .failed, targetW := some targetW, messageId := none, commandState := some "rejected"
    reason := some "http_write_failed", correlationId := none }

/-- The result of a request, none where it raised. -/
def resultOf (targetW : ℤ) : Response → Option DispatchResult
  | .raised => none
  | .answered statusCode =>
    some (if (Response.answered statusCode).succeeded then published targetW else failed targetW)

/-- What the record learns of an exit that was answered; one that raised is due again at
once. -/
def chargeAfterExit (targetW : ℤ) (held foundExit : Bool) (now : ℚ) : Response → ChargeRecord
  | .raised => c.charge
  | .answered _ =>
    if held then c.charge.reductionSent targetW
    else
      let charge := c.charge.exitSent now (some targetW)
      if foundExit then charge.foundExitSent now else charge

/-- An exit of a charge, or the one exit to an AC input found after a start. -/
def dispatchExit (targetW : ℤ) (chargeExit : Option ChargeExit) (now : ℚ) (response : Response) :
    HttpOutcome :=
  let final := decide (chargeExit = some .final)
  let foundExit := decide (chargeExit = some .toOutput)
  let held := !final &&
    if c.charge.isOpen then !c.charge.exitDue now else foundExit && !c.charge.foundExitDue now
  if held && !c.charge.reducesExit targetW defaultSafetyPreemptMarginW 0 then
    ⟨c, none, some (.ofCoalesced targetW none chargeExitPending none)⟩
  else
    let properties :=
      if c.charge.isOpen ∧ chargeExit = some .inInput then [("inputLimit", 0)]
      else ClientConfig.zensdkExpectedProperties targetW
    ⟨{ c with charge := c.chargeAfterExit targetW held foundExit now response },
      some properties, resultOf targetW response⟩

/-- A charge command, on record before it is sent. -/
def dispatchCharge (targetW : ℤ) (response : Response) : HttpOutcome :=
  match cfg.resolvedHardwareProfile c.observedProduct with
  | none => ⟨c, none, some (.ofRejected (some targetW) "unknown_hardware_profile" none)⟩
  | some profile =>
    if !profile.supportsCharge then
      ⟨c, none, some (.ofRejected (some targetW) "charge_target_unsupported" none)⟩
    else if profile.powerWriteProfile ≠ .zensdkProperties then
      ⟨c, none, some (.ofRejected (some targetW) "transport_write_not_implemented" none)⟩
    else
      let properties :=
        if c.charge.isOpen && c.observedInChargeMode then [("inputLimit", |targetW|)]
        else ClientConfig.zensdkExpectedProperties targetW
      ⟨{ c with charge := c.charge.chargeSent |targetW| }, some properties,
        resultOf targetW response⟩

/-- Dispatch a signed power target. -/
def dispatchOutputLimit (targetW : ℤ) (chargeExit : Option ChargeExit) (now : ℚ)
    (response : Response) : HttpOutcome :=
  if targetW < 0 then c.dispatchCharge cfg targetW response
  else if c.charge.isOpen ∨ chargeExit = some .final ∨ chargeExit = some .toOutput then
    c.dispatchExit targetW chargeExit now response
  else ⟨c, some [("outputLimit", targetW)], resultOf targetW response⟩

/-- The report of a fetch: the product it names and its properties. -/
structure Report where
  product : Option String
  properties : List (String × PyValue)

def Report.snapshot (report : Report) : Snapshot :=
  { metrics := report.properties, metricMonotonic := [], observedMetrics := []
    lastSeenMonotonic := none }

def Report.setpointReported (report : Report) : Bool :=
  (observableNumber report.properties "inputLimit").isSome

/-- Read the device, `none` where the request or its report fails. -/
def fetch : Option Report → HttpClient
  | none => { c with observedInChargeMode := false }
  | some report =>
    let direction := directionReport report.snapshot
    { charge := c.charge.observe direction report.setpointReported
      observedInChargeMode := direction.acMode.value = 1 &&
        (numberOrZero report.properties "smartMode").value = 1
      observedProduct := report.product.or c.observedProduct }

end HttpClient

/-- One call of the client. -/
inductive HttpCall where
  | dispatch (targetW : ℤ) (chargeExit : Option ChargeExit) (now : ℚ) (response : Response)
  | fetch (report : Option HttpClient.Report)
  | releaseChargeRecord

def HttpClient.call (cfg : HttpConfig) (c : HttpClient) : HttpCall → HttpOutcome
  | .dispatch targetW chargeExit now response =>
    c.dispatchOutputLimit cfg targetW chargeExit now response
  | .fetch report => ⟨c.fetch report, none, none⟩
  | .releaseChargeRecord => ⟨{ c with charge := c.charge.release }, none, none⟩

end SolarFlowEms.Http
