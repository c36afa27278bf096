import SolarFlowEms.Library.PyValue
import SolarFlowEms.PowerDirection

/-!
# The states of a power command

A power command is `queued`, then `published`, and from there acknowledged by a correlated
reply or confirmed by telemetry, rejected, timed out or superseded.  A broker publish is no
acceptance, and telemetry from before the publish confirms nothing.

Each transition of the source returns whether it applied and changes the record only then;
here it returns the changed record, or `none` where it does not apply.
-/

namespace SolarFlowEms.Mqtt

open Python PowerDirection

inductive CommandState where
  | queued
  | published
  | acknowledged
  | telemetryConfirmed
  | completedUnconfirmed
  | confirmationTimedOut
  | rejected
  | timedOut
  | superseded
deriving DecidableEq

namespace CommandState

/-- The text the source writes for a state. -/
def text : CommandState → String
  | queued => "queued"
  | published => "published"
  | acknowledged => "acknowledged"
  | telemetryConfirmed => "telemetry_confirmed"
  | completedUnconfirmed => "completed_unconfirmed"
  | confirmationTimedOut => "confirmation_timed_out"
  | rejected => "rejected"
  | timedOut => "timed_out"
  | superseded => "superseded"

def isTerminal : CommandState → Bool
  | telemetryConfirmed | completedUnconfirmed | confirmationTimedOut
  | rejected | timedOut | superseded => true
  | queued | published | acknowledged => false

/-- A command still awaiting a terminal outcome. -/
def isActive (state : CommandState) : Bool :=
  state = queued || state = published || state = acknowledged

/-- **Every state is active or terminal, and none is both.** -/
theorem isActive_eq_not_isTerminal (state : CommandState) : state.isActive = !state.isTerminal := by
  cases state <;> rfl

end CommandState

/-- One power command, its correlation identity and its timeline. -/
structure CommandRecord where
  messageId : ℕ
  deviceId : String
  operation : Operation
  targetW : ℤ
  createdMonotonic : ℚ
  state : CommandState
  correlationId : String
  /-- The telemetry values that prove the command applied; empty where there are none. -/
  expectedProperties : List (String × ℤ)
  publishedMonotonic : Option ℚ
  acknowledgedMonotonic : Option ℚ
  confirmedMonotonic : Option ℚ
  timeoutMonotonic : Option ℚ
deriving DecidableEq

namespace CommandRecord

variable (record : CommandRecord)

def isTerminal : Bool := record.state.isTerminal

def isActive : Bool := record.state.isActive

def confirmed : Bool := record.state = .telemetryConfirmed

theorem isActive_eq_not_isTerminal : record.isActive = !record.isTerminal :=
  record.state.isActive_eq_not_isTerminal

/-! ### Publish and supersede -/

/-- A successful broker publish, which is transport-level only. -/
def markPublished (now : ℚ) : CommandRecord :=
  if record.state = .queued then
    { record with state := .published, publishedMonotonic := some now }
  else record

/-- A failed broker publish is a rejection: the command never left the host. -/
def markPublishFailed : CommandRecord :=
  if record.state = .queued then { record with state := .rejected } else record

/-- Retire a command that a newer one has replaced. -/
def markSuperseded (now : ℚ) : Option CommandRecord :=
  if record.isActive then
    some { record with state := .superseded, timeoutMonotonic := some now }
  else none

/-! ### Replies -/

/-- `reply.get(key)`. -/
def replyField (reply : List (String × PyValue)) (key : String) : PyValue :=
  (dictGet reply key).getD .none

/-- A reply belongs to a command by `messageId` and `deviceId`. -/
def replyMatches (reply : List (String × PyValue)) : Bool :=
  (replyField reply "messageId").eqInt record.messageId &&
    (replyField reply "deviceId").eqStr record.deviceId

/-- `str(output or "").strip().lower() == "success"`: only a text reads as the word. -/
def outputIsSuccess : PyValue → Bool
  | .str s => (pyStrip s).toLower = "success"
  | _ => false

/-- Apply a reply of the device: only a `published` command takes one, and only its own. -/
def applyReply (reply : List (String × PyValue)) (now : ℚ) : Option CommandRecord :=
  if record.state ≠ .published then none
  else if !record.replyMatches reply then none
  else if (replyField reply "success").eqInt 1 || outputIsSuccess (replyField reply "output") then
    some { record with state := .acknowledged, acknowledgedMonotonic := some now }
  else some { record with state := .rejected }

/-! ### Timeouts -/

/-- A published command with no reply within `timeoutS`. -/
def applyTimeout (now timeoutS : ℚ) : Option CommandRecord :=
  if record.state = .published ∧ timeoutS ≤ now - record.createdMonotonic then
    some { record with state := .timedOut, timeoutMonotonic := some now }
  else none

/-- `timeoutS` has passed since `since`. -/
def deadlinePassed (since : Option ℚ) (now timeoutS : ℚ) : Bool :=
  match since with
  | none => false
  | some sentAt => timeoutS ≤ now - sentAt

/-- A command still awaiting telemetry: the deadline runs from the acknowledgement, or,
for a command that has none to wait for, from the publish. -/
def applyConfirmationTimeout (now timeoutS : ℚ) (fromPublished : Bool) : Option CommandRecord :=
  if record.state = .acknowledged ∧ deadlinePassed record.acknowledgedMonotonic now timeoutS then
    some { record with state := .confirmationTimedOut, timeoutMonotonic := some now }
  else if fromPublished ∧ record.state = .published ∧
      deadlinePassed record.publishedMonotonic now timeoutS then
    some { record with state := .confirmationTimedOut, timeoutMonotonic := some now }
  else none

/-- Complete a command that no telemetry can confirm. -/
def completeUnconfirmed (now : ℚ) : Option CommandRecord :=
  if record.state = .acknowledged ∨ record.state = .published then
    some { record with state := .completedUnconfirmed, confirmedMonotonic := some now }
  else none

end CommandRecord

/-! ### What a report proves -/

/-- What the service holds of a device's reports: the values, when each was last reported,
and which of them the latest report carried. -/
structure Snapshot where
  metrics : List (String × PyValue)
  metricMonotonic : List (String × ℚ)
  observedMetrics : List String
  lastSeenMonotonic : Option ℚ

inductive Freshness where
  | fresh
  | stale
  | missingCommandTime
  | missingMetricTime
  | untrustedSnapshot
  | notObserved
deriving DecidableEq

/-- Time provenance of one value: its own report time, or the snapshot's where the latest
report carried it, and not from before the publish. -/
def metricConfirmationFreshness (commandPublished metricObserved snapshotObserved : Option ℚ)
    (metricWasInSnapshot : Bool) : Freshness :=
  match commandPublished with
  | none => .missingCommandTime
  | some commandTime =>
    let observed :=
      if metricObserved = none ∧ metricWasInSnapshot then snapshotObserved else metricObserved
    match observed with
    | none => if snapshotObserved.isSome then .untrustedSnapshot else .missingMetricTime
    | some observedTime => if observedTime < commandTime then .stale else .fresh

def wattPropertyKeys : List String := ["outputLimit", "inputLimit", "gridInputPower"]

/-- The expected values checked only when a report carries them.  A charge is proven by its
`inputLimit`, everything else by its `outputLimit`. -/
def optionalExpectedKeys : Operation → List String
  | .charge => ["smartMode", "outputLimit"]
  | _ => ["smartMode", "inputLimit"]

def measuredChargePowerKey : String := "gridInputPower"

def observedNumber (metrics : List (String × PyValue)) (key : String) : Option PyFloat :=
  (dictGet metrics key).bind PyValue.number?

/-- The key that answers for `key`: a charge whose `inputLimit` is not reported is proven by
the AC input the device measures. -/
def evidenceKeyFor (operation : Operation) (key : String) (metrics : List (String × PyValue)) :
    String :=
  if operation = .charge ∧ key = "inputLimit" ∧ observedNumber metrics key = none ∧
      observedNumber metrics measuredChargePowerKey ≠ none then
    measuredChargePowerKey
  else key

/-- Watts match within the tolerance, every other value exactly. -/
def propertyMatches (key : String) (observed : PyFloat) (expected wattTolerance : ℤ) : Bool :=
  match observed with
  | .finite x =>
    if key ∈ wattPropertyKeys then |x - expected| ≤ wattTolerance else x = expected
  | _ => false

structure PropertyConfirmation where
  key : String
  required : Bool
  propMatches : Bool
  freshness : Freshness
  confirmed : Bool
deriving DecidableEq

namespace CommandRecord

variable (record : CommandRecord)

/-- The evidence one snapshot holds for one expected property. -/
def propertyConfirmation (snapshot : Snapshot) (toleranceW : ℤ) (expected : String × ℤ) :
    PropertyConfirmation :=
  let required := expected.1 ∉ optionalExpectedKeys record.operation
  let key := evidenceKeyFor record.operation expected.1 snapshot.metrics
  match observedNumber snapshot.metrics key with
  | none =>
    { key, required, propMatches := false, freshness := .notObserved
      confirmed := !required && (dictGet snapshot.metrics key).isNone }
  | some observed =>
    let propMatches := propertyMatches key observed expected.2 toleranceW
    let freshness := metricConfirmationFreshness record.publishedMonotonic
      (snapshot.metricMonotonic.lookup key) snapshot.lastSeenMonotonic
      (key ∈ snapshot.observedMetrics)
    { key, required, propMatches, freshness
      confirmed := propMatches && freshness = .fresh }

/-- An acknowledged command may be confirmed, and a published one where no reply comes. -/
def eligible (allowFromPublished : Bool) : Bool :=
  record.state = .acknowledged || (allowFromPublished && record.state = .published)

/-- Confirm a command whose every expected property is proven. -/
def confirmFromExpectedProperties (snapshot : Snapshot) (toleranceW : ℤ) (now : ℚ)
    (allowFromPublished : Bool) : Option CommandRecord :=
  if !record.eligible allowFromPublished then none
  else
    let evidence := record.expectedProperties.map (record.propertyConfirmation snapshot toleranceW)
    if evidence = [] then none
    else if evidence.all (·.confirmed) then
      some { record with state := .telemetryConfirmed, confirmedMonotonic := some now }
    else none

/-- Confirm a command by the one value that shows its target. -/
def confirmFromTelemetry (observed : PyValue) (toleranceW : ℤ) (now : ℚ)
    (telemetryMonotonic : Option ℚ) (allowFromPublished : Bool) : Option CommandRecord :=
  if !record.eligible allowFromPublished then none
  else
    match observed.number? with
    | some (.finite x) =>
      if metricConfirmationFreshness record.publishedMonotonic telemetryMonotonic none false ≠
          .fresh then none
      else if |x - record.targetW| ≤ toleranceW then
        some { record with state := .telemetryConfirmed, confirmedMonotonic := some now }
      else none
    | _ => none

/-! ### What a transition may do -/

variable {record} {record' record'' : CommandRecord}

/-- **What can become of a record**: it stays as it is, or it was not terminal and is then
acknowledged for the first time, or settled for good. -/
def Follows (record record' : CommandRecord) : Prop :=
  record' = record ∨
    record.isTerminal = false ∧
      (record'.isTerminal = true ∨ record.state ≠ .acknowledged ∧ record'.state = .acknowledged)

theorem Follows.refl (record : CommandRecord) : record.Follows record := .inl rfl

theorem Follows.trans (h : record.Follows record') (h' : record'.Follows record'') :
    record.Follows record'' := by
  rcases h with rfl | ⟨hactive, hto⟩
  · exact h'
  · rcases h' with rfl | ⟨hactive', hto'⟩
    · exact .inr ⟨hactive, hto⟩
    · rcases hto with hterminal | ⟨-, hack⟩
      · rw [hterminal] at hactive'
        cases hactive'
      · rcases hto' with hterminal' | ⟨hne, -⟩
        · exact .inr ⟨hactive, .inl hterminal'⟩
        · exact absurd hack hne

/-- `record'` is what the client made of the active `record`: the same command, settled or
newly acknowledged. -/
structure Moves (record record' : CommandRecord) : Prop where
  isActive : record.isActive = true
  settles : record'.isTerminal = true ∨ record.state = .published ∧ record'.state = .acknowledged
  targetW : record'.targetW = record.targetW

theorem Moves.follows (h : record.Moves record') : record.Follows record' := by
  have hactive : record.isTerminal = false := by
    have := h.isActive
    rwa [isActive_eq_not_isTerminal, Bool.not_eq_true'] at this
  refine .inr ⟨hactive, h.settles.imp_right fun hack => ⟨?_, hack.2⟩⟩
  rw [hack.1]
  decide

theorem isActive_of_state (h : record.state = .published ∨ record.state = .acknowledged) :
    record.isActive = true := by
  unfold isActive
  rcases h with h | h <;> rw [h] <;> rfl

variable {now timeoutS : ℚ} {allowFromPublished : Bool} {toleranceW : ℤ}

theorem moves_of_markSuperseded (h : record.markSuperseded now = some record') :
    record.Moves record' ∧ record'.isTerminal = true := by
  unfold markSuperseded at h
  split at h
  · next hactive => cases h; exact ⟨⟨hactive, .inl rfl, rfl⟩, rfl⟩
  · cases h

theorem moves_of_applyReply {reply : List (String × PyValue)}
    (h : record.applyReply reply now = some record') : record.Moves record' := by
  unfold applyReply at h
  split_ifs at h with hstate _ _
  all_goals
    cases h
    rw [not_not] at hstate
  · exact ⟨isActive_of_state (.inl hstate), .inr ⟨hstate, rfl⟩, rfl⟩
  · exact ⟨isActive_of_state (.inl hstate), .inl rfl, rfl⟩

theorem moves_of_applyTimeout (h : record.applyTimeout now timeoutS = some record') :
    record.Moves record' ∧ record'.isTerminal = true := by
  unfold applyTimeout at h
  split at h
  · next hcond => cases h; exact ⟨⟨isActive_of_state (.inl hcond.1), .inl rfl, rfl⟩, rfl⟩
  · cases h

theorem moves_of_applyConfirmationTimeout {fromPublished : Bool}
    (h : record.applyConfirmationTimeout now timeoutS fromPublished = some record') :
    record.Moves record' ∧ record'.isTerminal = true := by
  unfold applyConfirmationTimeout at h
  split_ifs at h with hack hpub
  · cases h
    exact ⟨⟨isActive_of_state (.inr hack.1), .inl rfl, rfl⟩, rfl⟩
  · cases h
    exact ⟨⟨isActive_of_state (.inl hpub.2.1), .inl rfl, rfl⟩, rfl⟩

theorem moves_of_completeUnconfirmed (h : record.completeUnconfirmed now = some record') :
    record.Moves record' ∧ record'.isTerminal = true := by
  unfold completeUnconfirmed at h
  split at h
  · next hcond => cases h; exact ⟨⟨isActive_of_state hcond.symm, .inl rfl, rfl⟩, rfl⟩
  · cases h

theorem isActive_of_eligible
    (h : record.eligible allowFromPublished = true) : record.isActive = true := by
  unfold eligible at h
  rcases Bool.or_eq_true_iff.mp h with hack | hpub
  · exact isActive_of_state (.inr (of_decide_eq_true hack))
  · exact isActive_of_state (.inl (of_decide_eq_true (Bool.and_eq_true_iff.mp hpub).2))

theorem moves_of_confirmFromExpectedProperties {snapshot : Snapshot}
    (h : record.confirmFromExpectedProperties snapshot toleranceW now allowFromPublished =
      some record') : record.Moves record' ∧ record'.isTerminal = true := by
  unfold confirmFromExpectedProperties at h
  dsimp only at h
  split_ifs at h with heligible _ _
  cases h
  exact ⟨⟨isActive_of_eligible (by simpa using heligible), .inl rfl, rfl⟩, rfl⟩

theorem moves_of_confirmFromTelemetry {observed : PyValue} {telemetryMonotonic : Option ℚ}
    (h : record.confirmFromTelemetry observed toleranceW now telemetryMonotonic
      allowFromPublished = some record') : record.Moves record' ∧ record'.isTerminal = true := by
  unfold confirmFromTelemetry at h
  split at h
  · cases h
  · next heligible =>
    split at h
    · split_ifs at h with _ _
      cases h
      exact ⟨⟨isActive_of_eligible (by simpa using heligible), .inl rfl, rfl⟩, rfl⟩
    · cases h

end CommandRecord

end SolarFlowEms.Mqtt
