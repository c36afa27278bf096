import SolarFlowEms.ChargeRecord
import SolarFlowEms.Library.Run
import SolarFlowEms.Mqtt.CommandState
import SolarFlowEms.Mqtt.WriteRoute

/-!
# The MQTT device client

One client writes one device.  A single command is in flight; a changed target waits as the
one pending target, preempts the command in flight, or replaces it where no reply will come.
Replies, telemetry and timeouts settle the command, and the record of the EMS's own charge
holds further exits back.  The control loop, the fetch executor and the network thread call
the client under one lock, so its calls happen one at a time, in any order.

The records of all commands are kept in the order they were built; the client's active
command is the index of one of them.
-/

namespace SolarFlowEms.Mqtt

open Python PowerDirection

/-! ### State and outcome -/

inductive DispatchStatus where
  | published
  | coalescedActive
  | queuedLatest
  | rejected
  | failed
deriving DecidableEq

/-- The outcome of one dispatch as the controller sees it. -/
structure DispatchResult where
  status : DispatchStatus
  targetW : Option ℤ
  messageId : Option ℕ
  commandState : Option String
  reason : Option String
  correlationId : Option String
deriving DecidableEq

namespace DispatchResult

/-- `bool(result)`: published, coalesced or queued. -/
def accepted (result : DispatchResult) : Bool :=
  result.status = .published || result.status = .coalescedActive || result.status = .queuedLatest

def ofRejected (targetW : Option ℤ) (reason : String) (correlationId : Option String) :
    DispatchResult :=
  { status := .rejected, targetW, messageId := none, commandState := some "rejected"
    reason := some reason, correlationId }

def ofPublished (record : CommandRecord) : DispatchResult :=
  { status := .published, targetW := some record.targetW, messageId := some record.messageId
    commandState := some record.state.text, reason := none
    correlationId := some record.correlationId }

def ofFailed (record : CommandRecord) : DispatchResult :=
  { status := .failed, targetW := some record.targetW, messageId := some record.messageId
    commandState := some "rejected", reason := some "publish_failed"
    correlationId := some record.correlationId }

def ofCoalesced (targetW : ℤ) (messageId : Option ℕ) (commandState : String)
    (correlationId : Option String) : DispatchResult :=
  { status := .coalescedActive, targetW := some targetW, messageId
    commandState := some commandState, reason := some "coalesced_active_target", correlationId }

def ofQueued (targetW : ℤ) (commandState : String) (correlationId : String) : DispatchResult :=
  { status := .queuedLatest, targetW := some targetW, messageId := none
    commandState := some commandState, reason := some "queued_behind_active"
    correlationId := some correlationId }

end DispatchResult

/-- What the local transport answers to the message of one call. -/
structure Transport where
  messageId : ℕ
  publishCompleted : ℚ
  accepted : Bool
deriving DecidableEq

/-- The target waiting behind the command in flight, under the correlation it was queued
with. -/
structure Pending where
  targetW : ℤ
  correlationId : String
deriving DecidableEq

structure ClientState where
  records : List CommandRecord
  active : Option ℕ
  activeCorrelationId : Option String
  pending : Option Pending
  dispatchSequence : ℕ
  charge : ChargeRecord
deriving DecidableEq

/-- What one call leaves: the client, the result it returns, and the target it published. -/
structure Outcome where
  client : ClientState
  result : Option DispatchResult
  sent : Option ℤ
deriving DecidableEq

namespace ClientState

def new (cfg : ClientConfig) : ClientState where
  records := []
  active := none
  activeCorrelationId := none
  pending := none
  dispatchSequence := 0
  charge := ChargeRecord.new cfg.confirmationTimeoutS

variable (cfg : ClientConfig) (s : ClientState)

def activeRecord : Option CommandRecord := s.active.bind (s.records[·]?)

/-- Change the active command's record. -/
def putActive (record : CommandRecord) : ClientState :=
  match s.active with
  | none => s
  | some i => { s with records := s.records.set i record }

def freeSlot : ClientState := { s with active := none, activeCorrelationId := none }

def nextDispatchCorrelationId : ClientState × String :=
  ({ s with dispatchSequence := s.dispatchSequence + 1 },
    "dispatch-" ++ toString (s.dispatchSequence + 1))

/-- `correlation_id or self._next_dispatch_correlation_id()`. -/
def correlationOrNext : Option String → ClientState × String
  | some correlationId => (s, correlationId)
  | none => s.nextDispatchCorrelationId

def discardPendingTarget : ClientState := { s with pending := none }

/-! ### Publishing -/

/-- What the charge record learns from an accepted publish. -/
def chargeAfterPublish (targetW : ℤ) (foundExit reduction : Bool) (now : ℚ) : ChargeRecord :=
  if targetW < 0 then s.charge.chargeSent |targetW|
  else if reduction then s.charge.reductionSent targetW
  else
    let charge := s.charge.exitSent now (some targetW)
    if foundExit then charge.foundExitSent now else charge

/-- The state of a record after its message was handed to the transport.  A profile with
neither a reply nor telemetry to wait for completes at once. -/
def recordAfterPublish (record : CommandRecord) (transport : Transport) : CommandRecord :=
  if transport.accepted then
    let record := record.markPublished transport.publishCompleted
    if !cfg.supportsAcknowledgement && !cfg.telemetryConfirmationSupported then
      (record.completeUnconfirmed transport.publishCompleted).getD record
    else record
  else record.markPublishFailed

/-- Build and publish one correlated command. -/
def publishTarget (targetW : ℤ) (now : ℚ) (correlationId : Option String)
    (foundExit reduction : Bool) (transport : Transport) : Outcome :=
  let (s, correlationId) := s.correlationOrNext correlationId
  match cfg.buildWrite targetW with
  | .error error =>
    ⟨s, some (.ofRejected (some targetW) error (some correlationId)), none⟩
  | .ok expectedProperties =>
    let record := recordAfterPublish cfg
      { messageId := transport.messageId, deviceId := cfg.deviceId
        operation := operationForTarget targetW, targetW, createdMonotonic := now
        state := .queued, correlationId, expectedProperties
        publishedMonotonic := none, acknowledgedMonotonic := none
        confirmedMonotonic := none, timeoutMonotonic := none }
      transport
    let s := { s with
      records := s.records ++ [record]
      active := if record.isActive then some s.records.length else none
      activeCorrelationId := if record.isActive then some correlationId else none }
    if transport.accepted then
      ⟨{ s with charge :=
          s.chargeAfterPublish targetW foundExit reduction transport.publishCompleted },
        some (.ofPublished record), some targetW⟩
    else ⟨s, some (.ofFailed record), none⟩

/-- Publish the pending target once the slot is free. -/
def flushPendingTarget (now : ℚ) (transport : Transport) : Outcome :=
  match s.active, s.pending with
  | none, some pending =>
    s.discardPendingTarget.publishTarget cfg pending.targetW now (some pending.correlationId)
      false false transport
  | _, _ => ⟨s, none, none⟩

/-! ### Settling the command in flight -/

/-- Settle the deadline of the command in flight.  The pending target stays where it is: the
controller has not decided this cycle yet. -/
def expireActiveCommand (now : ℚ) : ClientState :=
  match s.activeRecord with
  | none => s
  | some record =>
    let released :=
      if cfg.supportsAcknowledgement then
        match record.applyTimeout now cfg.commandAckTimeoutS with
        | some record => some record
        | none =>
          if cfg.telemetryConfirmationSupported then
            record.applyConfirmationTimeout now cfg.confirmationTimeoutS false
          else none
      else if cfg.telemetryConfirmationSupported then
        record.applyConfirmationTimeout now cfg.confirmationTimeoutS true
      else none
    match released with
    | none => s
    | some record => (s.putActive record).freeSlot

def confirmationMetric : String := "outputLimit"

/-- The time of the metric a single-value confirmation rests on. -/
def trustedMetricTime (snapshot : Snapshot) : Option ℚ :=
  match snapshot.metricMonotonic.lookup confirmationMetric with
  | some time => some time
  | none => if confirmationMetric ∈ snapshot.observedMetrics then snapshot.lastSeenMonotonic else none

/-- Confirm the command in flight from a fresh snapshot that carries its metric. -/
def confirmFromSnapshot (snapshot : Snapshot) (now : ℚ) : ClientState :=
  match s.activeRecord with
  | none => s
  | some record =>
    if record.confirmed || !cfg.telemetryConfirmationSupported then s
    else
      match dictGet snapshot.metrics confirmationMetric with
      | none => s
      | some observed =>
        let allowFromPublished := !cfg.supportsAcknowledgement
        let confirmed :=
          if record.expectedProperties = [] then
            record.confirmFromTelemetry observed cfg.toleranceW now (trustedMetricTime snapshot)
              allowFromPublished
          else
            record.confirmFromExpectedProperties snapshot cfg.toleranceW now allowFromPublished
        match confirmed with
        | none => s
        | some record => (s.putActive record).freeSlot

/-! ### Reading a report -/

/-- Numbers at and above this are read as missing. -/
def exactFloatLimit : ℚ := 2 ^ 53

/-- A number `parse_device` may read. -/
def observableNumber (metrics : List (String × PyValue)) (key : String) : Option Number :=
  match dictGet metrics key with
  | some (.int z) => if |(z : ℚ)| < exactFloatLimit then some (.int z) else none
  | some (.float (.finite x)) => if |x| < exactFloatLimit then some (.float x) else none
  | _ => none

/-- `props.get(key) or 0`. -/
def numberOrZero (metrics : List (String × PyValue)) (key : String) : Number :=
  match observableNumber metrics key with
  | some number => if number.value = 0 then .int 0 else number
  | none => .int 0

def directionReport (snapshot : Snapshot) : DirectionReport where
  acMode := numberOrZero snapshot.metrics "acMode"
  acStatus := numberOrZero snapshot.metrics "acStatus"
  inputLimitW := numberOrZero snapshot.metrics "inputLimit"
  gridInput := numberOrZero snapshot.metrics "gridInputPower"
  acModeReported := (observableNumber snapshot.metrics "acMode").isSome

/-- Read the broker's snapshot, `none` where it holds no fresh one. -/
def fetch (now : ℚ) (snapshot : Option Snapshot) : ClientState :=
  match snapshot with
  | none => s.expireActiveCommand cfg now
  | some snapshot =>
    let s := s.confirmFromSnapshot cfg snapshot now
    let s := { s with
      charge := s.charge.observe (directionReport snapshot)
        (observableNumber snapshot.metrics "inputLimit").isSome }
    s.expireActiveCommand cfg now

/-- Correlate a reply to the active command; `none` where the payload is no JSON object. -/
def handleReply (reply : Option (List (String × PyValue))) (now : ℚ) (transport : Transport) :
    Outcome :=
  match s.activeRecord, reply with
  | some record, some reply =>
    if !cfg.supportsAcknowledgement then ⟨s, none, none⟩
    else
      match record.applyReply reply now with
      | none => ⟨s, none, none⟩
      | some record =>
        let record :=
          if record.state = .acknowledged ∧ cfg.telemetryConfirmationSupported = false then
            (record.completeUnconfirmed now).getD record
          else record
        let s := s.putActive record
        if record.isTerminal then s.freeSlot.flushPendingTarget cfg now transport
        else ⟨s, none, none⟩
  | _, _ => ⟨s, none, none⟩

/-! ### Dispatch -/

/-- The shapes of an exit the controller names. -/
inductive ChargeExit where
  | toOutput
  | inInput
  | final
deriving DecidableEq

def chargeExitPending : String := "charge_exit_pending"

/-- A target that must not wait behind the command in flight. -/
def shouldPreempt (activeTargetW newTargetW : ℤ) : Bool :=
  safetyReduction activeTargetW newTargetW cfg.safetyPreemptMarginW cfg.toleranceW

/-- No reply will come, so the newest target is the honest intent. -/
def shouldSupersedeLatest (active : CommandRecord) : Bool :=
  active.state = .published && !cfg.supportsAcknowledgement

def reducesHeldExit (targetW : ℤ) : Bool :=
  s.charge.reducesExit targetW cfg.safetyPreemptMarginW cfg.toleranceW

def exitHeld (now : ℚ) (foundExit : Bool) : Bool :=
  if s.charge.isOpen then !s.charge.exitDue now
  else foundExit && !s.charge.foundExitDue now

/-- Retire the command in flight, and with it the target that waits behind it. -/
def supersedeActive (active : CommandRecord) (now : ℚ) : ClientState :=
  ((s.putActive ((active.markSuperseded now).getD active)).freeSlot).discardPendingTarget

/-- A dispatch that meets `active` in flight. -/
def dispatchBehind (active : CommandRecord) (targetW : ℤ) (chargeExit : Option ChargeExit)
    (now : ℚ) (transport : Transport) : Outcome :=
  let final := chargeExit = some .final
  let foundExit := decide (chargeExit = some .toOutput)
  let held := !final && s.charge.isOpen && s.charge.drawnExitsSpent
  if held && !shouldPreempt cfg active.targetW targetW then
    ⟨s.discardPendingTarget, some (.ofCoalesced targetW none chargeExitPending none), none⟩
  else if active.targetW = targetW ∧ ¬final then
    ⟨s.discardPendingTarget,
      some (.ofCoalesced targetW (some active.messageId) active.state.text s.activeCorrelationId),
      none⟩
  else if final ∨ shouldPreempt cfg active.targetW targetW then
    (s.supersedeActive active now).publishTarget cfg targetW now none foundExit
      (held && 0 ≤ targetW) transport
  else if shouldSupersedeLatest cfg active then
    (s.supersedeActive active now).publishTarget cfg targetW now none foundExit false transport
  else
    match s.pending with
    | some pending =>
      if pending.targetW = targetW then
        ⟨s, some (.ofQueued targetW active.state.text pending.correlationId), none⟩
      else
        let (s, correlationId) := s.discardPendingTarget.nextDispatchCorrelationId
        ⟨{ s with pending := some ⟨targetW, correlationId⟩ },
          some (.ofQueued targetW active.state.text correlationId), none⟩
    | none =>
      let (s, correlationId) := s.nextDispatchCorrelationId
      ⟨{ s with pending := some ⟨targetW, correlationId⟩ },
        some (.ofQueued targetW active.state.text correlationId), none⟩

/-- A dispatch that meets no command in flight. -/
def dispatchIdle (targetW : ℤ) (chargeExit : Option ChargeExit) (now : ℚ)
    (transport : Transport) : Outcome :=
  let foundExit := decide (chargeExit = some .toOutput)
  let held := decide (0 ≤ targetW) && decide (chargeExit ≠ some .final) && s.exitHeld now foundExit
  if held && !s.reducesHeldExit cfg targetW then
    ⟨s.discardPendingTarget, some (.ofCoalesced targetW none chargeExitPending none), none⟩
  else
    let correlationId :=
      (s.pending.filter (fun pending => pending.targetW = targetW)).map (·.correlationId)
    s.discardPendingTarget.publishTarget cfg targetW now correlationId foundExit held transport

/-- Publish a power write, or say why it waits. -/
def dispatchOutputLimit (value : PyValue) (chargeExit : Option ChargeExit) (now : ℚ)
    (transport : Transport) : Outcome :=
  let s := s.expireActiveCommand cfg now
  match value.int? with
  | none => ⟨s, some (.ofRejected none "invalid_power_target" none), none⟩
  | some targetW =>
    match cfg.precheckTarget targetW with
    | .error error => ⟨s, some (.ofRejected (some targetW) error none), none⟩
    | .ok _ =>
      match s.activeRecord.filter (·.isActive) with
      | some active => s.dispatchBehind cfg active targetW chargeExit now transport
      | none => s.dispatchIdle cfg targetW chargeExit now transport

end ClientState

/-! ### Calls -/

/-- One call of the client, by whichever thread. -/
inductive Call where
  | dispatch (value : PyValue) (chargeExit : Option ClientState.ChargeExit) (now : ℚ)
      (transport : Transport)
  | cancelPending
  | fetch (now : ℚ) (snapshot : Option Snapshot)
  | handleReply (payload : PyValue) (now : ℚ) (transport : Transport)
  | releaseChargeRecord

/-- What the local transport answers to the message of a call that may publish one. -/
def Call.transport? : Call → Option Transport
  | .dispatch _ _ _ transport => some transport
  | .handleReply _ _ transport => some transport
  | _ => none

/-- What one call does. -/
def ClientState.call (cfg : ClientConfig) (s : ClientState) : Call → Outcome
  | .dispatch value chargeExit now transport =>
    s.dispatchOutputLimit cfg value chargeExit now transport
  | .cancelPending => ⟨s.discardPendingTarget, none, none⟩
  | .fetch now snapshot => ⟨s.fetch cfg now snapshot, none, none⟩
  | .handleReply payload now transport => s.handleReply cfg payload.dict? now transport
  | .releaseChargeRecord => ⟨{ s with charge := s.charge.release }, none, none⟩

def ClientState.step (cfg : ClientConfig) (s : ClientState) (call : Call) : ClientState :=
  (s.call cfg call).client

end SolarFlowEms.Mqtt
