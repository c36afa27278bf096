import SolarFlowEms.Mqtt.Calls

/-!
# What confirms a command

A command is acknowledged only by a reply of its own device to its own message, and only
while it is published.  Telemetry confirms it only where every value that its profile requires
was observed no earlier than the publish and is the commanded one, and where the profile has
a reply contract only after the reply.  The publish is the one of the call that added the command:
its record bears the time at which the transport had accepted it.  A command that was superseded,
rejected or timed out stays so.

* `acknowledgedBy_of_applyReply`, `confirms_of_expectedProperties` - what a transition asks for
* `publishTarget_confirm` - what a publish adds, stamped by its own transport
* `step_confirm` - what one call may make of the commands
* `confirmation_sound` - every run
-/

namespace SolarFlowEms.Mqtt

open Python PowerDirection Run

namespace CommandRecord

variable {cfg : ClientConfig} {call : Call} {record record' record'' : CommandRecord}

/-! ### Evidence -/

/-- When the value of a key was last observed: at its own report time, or at the time of the
latest report where that carried it. -/
def ObservedAt (snapshot : Snapshot) (key : String) (time : ℚ) : Prop :=
  snapshot.metricMonotonic.lookup key = some time ∨
    snapshot.metricMonotonic.lookup key = none ∧ key ∈ snapshot.observedMetrics ∧
      snapshot.lastSeenMonotonic = some time

/-- The commanded value: within the tolerance for watts, exactly for a mode. -/
def Commanded (key : String) (value : ℚ) (expected toleranceW : ℤ) : Prop :=
  if key ∈ wattPropertyKeys then |value - expected| ≤ toleranceW else value = expected

/-- The keys that may answer for one of the commanded values: its own, and for the power of a
charge that the report does not limit the measured AC input. -/
def AnswersFor (operation : Operation) (snapshot : Snapshot) (key evidence : String) : Prop :=
  evidence = key ∨
    operation = .charge ∧ key = "inputLimit" ∧ observedNumber snapshot.metrics key = none ∧
      evidence = measuredChargePowerKey

/-- A commanded value was observed no earlier than the publish. -/
def Proven (record : CommandRecord) (snapshot : Snapshot) (toleranceW : ℤ)
    (expected : String × ℤ) : Prop :=
  ∃ evidence value published time, AnswersFor record.operation snapshot expected.1 evidence ∧
    observedNumber snapshot.metrics evidence = some (.finite value) ∧
    Commanded evidence value expected.2 toleranceW ∧
    record.publishedMonotonic = some published ∧ ObservedAt snapshot evidence time ∧
    published ≤ time

def confirmingProperties (record : CommandRecord) : List (String × ℤ) :=
  if record.expectedProperties = [] then [(ClientState.confirmationMetric, record.targetW)]
  else record.expectedProperties

def requiredProperties (record : CommandRecord) : List (String × ℤ) :=
  record.confirmingProperties.filter (·.1 ∉ optionalExpectedKeys record.operation)

/-- The call is a reply to the command, which is published. -/
def AcknowledgedBy (call : Call) (record : CommandRecord) : Prop :=
  record.state = .published ∧ ∃ payload now transport reply, call = .handleReply payload now transport ∧
    payload.dict? = some reply ∧ (replyField reply "messageId").eqInt record.messageId = true ∧
    (replyField reply "deviceId").eqStr record.deviceId = true

/-- The call fetches a report that proves the command, after its reply where one is due. -/
structure ConfirmedBy (cfg : ClientConfig) (call : Call) (record : CommandRecord) : Prop where
  eligible : record.state = .acknowledged ∨
    record.state = .published ∧ cfg.supportsAcknowledgement = false
  exists_report : ∃ now snapshot, call = .fetch now (some snapshot) ∧
    (∀ expected ∈ record.requiredProperties, record.Proven snapshot cfg.toleranceW expected) ∧
    ∀ expected ∈ record.confirmingProperties, record.Proven snapshot cfg.toleranceW expected ∨
      dictGet snapshot.metrics expected.1 = none

/-- The same command, whatever became of it. -/
structure SameCommand (record record' : CommandRecord) : Prop where
  messageId : record'.messageId = record.messageId
  deviceId : record'.deviceId = record.deviceId
  operation : record'.operation = record.operation
  targetW : record'.targetW = record.targetW
  expectedProperties : record'.expectedProperties = record.expectedProperties
  publishedMonotonic : record'.publishedMonotonic = record.publishedMonotonic

theorem SameCommand.refl (record : CommandRecord) : record.SameCommand record :=
  ⟨rfl, rfl, rfl, rfl, rfl, rfl⟩

/-- **What one call may make of a command.** -/
structure Confirms (cfg : ClientConfig) (call : Call) (record record' : CommandRecord) : Prop where
  same : record.SameCommand record'
  terminal : record.isTerminal = true → record' = record
  acknowledged : record'.state = .acknowledged ∨
      record'.acknowledgedMonotonic ≠ record.acknowledgedMonotonic →
    record' = record ∨ AcknowledgedBy call record
  confirmed : record'.state = .telemetryConfirmed →
    record' = record ∨ ConfirmedBy cfg call record

theorem Confirms.refl (cfg : ClientConfig) (call : Call) (record : CommandRecord) :
    Confirms cfg call record record :=
  ⟨.refl record, fun _ => rfl, fun _ => .inl rfl, fun _ => .inl rfl⟩

theorem Confirms.trans (h : Confirms cfg call record record')
    (hsettled : record' = record ∨ record'.isTerminal = true)
    (h' : Confirms cfg call record' record'') : Confirms cfg call record record'' := by
  rcases hsettled with rfl | hterminal
  · exact h'
  · rwa [h'.terminal hterminal]

/-! ### The transitions -/

/-- A command that leaves the slot without a confirmation. -/
structure Drops (record record' : CommandRecord) : Prop where
  isActive : record.isActive = true
  isTerminal : record'.isTerminal = true
  same : record.SameCommand record'
  acknowledgedMonotonic : record'.acknowledgedMonotonic = record.acknowledgedMonotonic
  not_confirmed : record'.state ≠ .telemetryConfirmed

theorem not_isTerminal_of_isActive (h : record.isActive = true) : ¬ record.isTerminal = true := by
  rw [isActive_eq_not_isTerminal, Bool.not_eq_true'] at h
  simp [h]

theorem ne_acknowledged_of_isTerminal (h : record.isTerminal = true) :
    record.state ≠ .acknowledged := by
  intro hstate
  rw [isTerminal, hstate] at h
  cases h

theorem Drops.confirms (h : Drops record record') (cfg : ClientConfig) (call : Call) :
    Confirms cfg call record record' where
  same := h.same
  terminal := fun hterminal => absurd hterminal (not_isTerminal_of_isActive h.isActive)
  acknowledged := by
    intro hack
    rcases hack with hstate | htime
    · exact absurd hstate (ne_acknowledged_of_isTerminal h.isTerminal)
    · exact absurd h.acknowledgedMonotonic htime
  confirmed := fun hstate => absurd hstate h.not_confirmed

variable {now timeoutS : ℚ} {key : String} {toleranceW : ℤ} {snapshot : Snapshot}
  {expected : String × ℤ}

theorem drops_of_markSuperseded (h : record.markSuperseded now = some record') :
    Drops record record' := by
  have hmoves := moves_of_markSuperseded h
  rw [markSuperseded] at h
  split at h
  · cases h
    exact ⟨hmoves.1.isActive, hmoves.2, ⟨rfl, rfl, rfl, rfl, rfl, rfl⟩, rfl, nofun⟩
  · cases h

theorem drops_of_applyTimeout
    (h : record.applyTimeout now timeoutS = some record') : Drops record record' := by
  have hmoves := moves_of_applyTimeout h
  rw [applyTimeout] at h
  split at h
  · cases h
    exact ⟨hmoves.1.isActive, hmoves.2, ⟨rfl, rfl, rfl, rfl, rfl, rfl⟩, rfl, nofun⟩
  · cases h

theorem drops_of_applyConfirmationTimeout {fromPublished : Bool}
    (h : record.applyConfirmationTimeout now timeoutS fromPublished = some record') :
    Drops record record' := by
  have hmoves := moves_of_applyConfirmationTimeout h
  rw [applyConfirmationTimeout] at h
  split_ifs at h
  · cases h
    exact ⟨hmoves.1.isActive, hmoves.2, ⟨rfl, rfl, rfl, rfl, rfl, rfl⟩, rfl, nofun⟩
  · cases h
    exact ⟨hmoves.1.isActive, hmoves.2, ⟨rfl, rfl, rfl, rfl, rfl, rfl⟩, rfl, nofun⟩

/-! ### Replies -/

/-- **Only its own reply acknowledges a published command.** -/
theorem acknowledgedBy_of_applyReply {payload : PyValue} {reply : List (String × PyValue)}
    (transport : Transport) (hpayload : payload.dict? = some reply)
    (h : record.applyReply reply now = some record') :
    AcknowledgedBy (.handleReply payload now transport) record ∧ record.SameCommand record' ∧
      record'.state ≠ .telemetryConfirmed := by
  rw [applyReply] at h
  split_ifs at h with hstate hmatches hsuccess
  all_goals
    rw [not_not] at hstate
    rw [Bool.not_eq_true', Bool.not_eq_false, replyMatches, Bool.and_eq_true] at hmatches
    cases h
  · exact ⟨⟨hstate, payload, now, transport, reply, rfl, hpayload, hmatches⟩,
      ⟨rfl, rfl, rfl, rfl, rfl, rfl⟩, nofun⟩
  · exact ⟨⟨hstate, payload, now, transport, reply, rfl, hpayload, hmatches⟩,
      ⟨rfl, rfl, rfl, rfl, rfl, rfl⟩, nofun⟩

theorem AcknowledgedBy.confirms (h : AcknowledgedBy call record)
    (hsame : record.SameCommand record') (hnot : record'.state ≠ .telemetryConfirmed) :
    Confirms cfg call record record' where
  same := hsame
  terminal := fun hterminal =>
    absurd hterminal (not_isTerminal_of_isActive (isActive_of_state (.inl h.1)))
  acknowledged := fun _ => .inr h
  confirmed := fun hstate => absurd hstate hnot

/-! ### Telemetry -/

theorem fresh_observed {published observed seen : Option ℚ} {inSnapshot : Bool}
    (h : metricConfirmationFreshness published observed seen inSnapshot = .fresh) :
    ∃ t time, published = some t ∧ t ≤ time ∧
      (observed = some time ∨ observed = none ∧ inSnapshot = true ∧ seen = some time) := by
  rw [metricConfirmationFreshness.eq_def] at h
  split at h
  · cases h
  · next t =>
    dsimp only at h
    split at h
    · split at h <;> cases h
    · next time htime =>
      split at h
      · cases h
      · next hge =>
        refine ⟨t, time, rfl, not_lt.mp hge, ?_⟩
        split at htime
        · next hcond => exact .inr ⟨hcond.1, hcond.2, htime⟩
        · exact .inl htime

theorem answersFor_evidenceKeyFor (operation : Operation) (key : String) (snapshot : Snapshot) :
    AnswersFor operation snapshot key (evidenceKeyFor operation key snapshot.metrics) := by
  rw [evidenceKeyFor]
  split
  · next h => exact .inr ⟨h.1, h.2.1, h.2.2.1, rfl⟩
  · exact .inl rfl

theorem evidenceKeyFor_of_unobserved {operation : Operation} {metrics : List (String × PyValue)}
    (h : observedNumber metrics (evidenceKeyFor operation key metrics) = none) :
    evidenceKeyFor operation key metrics = key := by
  rw [evidenceKeyFor] at h ⊢
  split at h
  · next hcond => exact absurd h hcond.2.2.2
  · next hcond => rw [if_neg hcond]

theorem commanded_of_propertyMatches {observed : PyFloat} {expected : ℤ}
    (h : propertyMatches key observed expected toleranceW = true) :
    ∃ value, observed = .finite value ∧ Commanded key value expected toleranceW := by
  cases observed with
  | finite value =>
    refine ⟨value, rfl, ?_⟩
    rw [propertyMatches] at h
    rw [Commanded]
    split at h
    · next hkey =>
      rw [if_pos hkey]
      exact of_decide_eq_true h
    · next hkey =>
      rw [if_neg hkey]
      exact of_decide_eq_true h
  | posInf | negInf | nan => cases h

theorem proven_of_confirmed
    (h : (record.propertyConfirmation snapshot toleranceW expected).confirmed = true) :
    record.Proven snapshot toleranceW expected ∨
      expected.1 ∈ optionalExpectedKeys record.operation ∧
        dictGet snapshot.metrics expected.1 = none := by
  have hanswers := answersFor_evidenceKeyFor record.operation expected.1 snapshot
  rw [propertyConfirmation] at h
  dsimp only at h
  split at h
  · next hnone =>
    obtain ⟨hoptional, hmissing⟩ := Bool.and_eq_true_iff.mp h
    rw [evidenceKeyFor_of_unobserved hnone] at hmissing
    exact .inr ⟨by simpa using hoptional, Option.isNone_iff_eq_none.mp hmissing⟩
  · next observed hobserved =>
    obtain ⟨hmatches, hfresh⟩ := Bool.and_eq_true_iff.mp h
    obtain ⟨value, rfl, hcommanded⟩ := commanded_of_propertyMatches hmatches
    obtain ⟨t, time, hpublished, hle, htime⟩ := fresh_observed (of_decide_eq_true hfresh)
    refine .inl ⟨_, value, t, time, hanswers, hobserved, hcommanded, hpublished, ?_, hle⟩
    exact htime.imp_right fun hseen => ⟨hseen.1, of_decide_eq_true hseen.2.1, hseen.2.2⟩

theorem of_eligible {cfg : ClientConfig}
    (h : record.eligible (!cfg.supportsAcknowledgement) = true) :
    record.state = .acknowledged ∨
      record.state = .published ∧ cfg.supportsAcknowledgement = false := by
  rw [eligible] at h
  rcases Bool.or_eq_true_iff.mp h with hack | hpublished
  · exact .inl (of_decide_eq_true hack)
  · obtain ⟨hnot, hstate⟩ := Bool.and_eq_true_iff.mp hpublished
    exact .inr ⟨of_decide_eq_true hstate, Bool.not_eq_true' _ ▸ hnot⟩

theorem mem_confirmingProperties_of_required (h : expected ∈ record.requiredProperties) :
    expected ∈ record.confirmingProperties ∧
      expected.1 ∉ optionalExpectedKeys record.operation := by
  obtain ⟨hmem, hrequired⟩ := List.mem_filter.mp h
  exact ⟨hmem, of_decide_eq_true hrequired⟩

theorem confirmedBy_of_proven (heligible : record.eligible (!cfg.supportsAcknowledgement) = true)
    (h : ∀ expected ∈ record.confirmingProperties, record.Proven snapshot cfg.toleranceW expected ∨
      expected.1 ∈ optionalExpectedKeys record.operation ∧
        dictGet snapshot.metrics expected.1 = none) :
    ConfirmedBy cfg (.fetch now (some snapshot)) record := by
  refine ⟨of_eligible heligible, now, snapshot, rfl, ?_, ?_⟩
  · intro expected hexpected
    obtain ⟨hmem, hrequired⟩ := mem_confirmingProperties_of_required hexpected
    exact (h expected hmem).resolve_right fun hoptional => hrequired hoptional.1
  · intro expected hexpected
    exact (h expected hexpected).imp_right fun hoptional => hoptional.2

theorem ConfirmedBy.confirms (h : ConfirmedBy cfg call record) (hsame : record.SameCommand record')
    (hterminal : record'.isTerminal = true) (hmonotonic :
      record'.acknowledgedMonotonic = record.acknowledgedMonotonic) :
    Confirms cfg call record record' where
  same := hsame
  terminal := by
    intro hsettled
    have hactive : record.isActive = true :=
      isActive_of_state (h.eligible.elim .inr fun hpublished => .inl hpublished.1)
    exact absurd hsettled (not_isTerminal_of_isActive hactive)
  acknowledged := by
    intro hack
    rcases hack with hstate | htime
    · exact absurd hstate (ne_acknowledged_of_isTerminal hterminal)
    · exact absurd hmonotonic htime
  confirmed := fun _ => .inr h

theorem confirms_of_expectedProperties
    (h : record.confirmFromExpectedProperties snapshot cfg.toleranceW now
      (!cfg.supportsAcknowledgement) = some record') :
    Confirms cfg (.fetch now (some snapshot)) record record' := by
  rw [confirmFromExpectedProperties] at h
  dsimp only at h
  split_ifs at h with heligible hempty hall
  cases h
  refine (confirmedBy_of_proven (by simpa using heligible) ?_).confirms ⟨rfl, rfl, rfl, rfl, rfl, rfl⟩
    rfl rfl
  have hne : record.expectedProperties ≠ [] := fun hnil => hempty (by rw [hnil]; rfl)
  rw [confirmingProperties, if_neg hne]
  intro expected hexpected
  exact proven_of_confirmed (List.all_eq_true.mp hall _ (List.mem_map_of_mem hexpected))

/-- **A command without expected values is confirmed by its own output.** -/
theorem confirms_of_telemetry {observed : PyValue}
    (hmetric : dictGet snapshot.metrics ClientState.confirmationMetric = some observed)
    (hexpected : record.expectedProperties = [])
    (h : record.confirmFromTelemetry observed cfg.toleranceW now
      (ClientState.trustedMetricTime snapshot) (!cfg.supportsAcknowledgement) = some record') :
    Confirms cfg (.fetch now (some snapshot)) record record' := by
  rw [confirmFromTelemetry] at h
  split at h
  · cases h
  · next heligible =>
    split at h
    · next value hvalue =>
      split_ifs at h with hfresh hclose
      cases h
      refine (confirmedBy_of_proven (by simpa using heligible) ?_).confirms
        ⟨rfl, rfl, rfl, rfl, rfl, rfl⟩ rfl rfl
      rw [confirmingProperties, if_pos hexpected]
      intro expected hmem
      rw [List.mem_singleton.mp hmem]
      rw [not_not] at hfresh
      obtain ⟨t, time, hpublished, hle, htime⟩ := fresh_observed hfresh
      have htrusted : ClientState.trustedMetricTime snapshot = some time :=
        htime.resolve_right fun hseen => Bool.false_ne_true hseen.2.1
      refine .inl ⟨_, value, t, time, .inl rfl, ?_, ?_, hpublished, ?_, hle⟩
      · rw [observedNumber, hmetric]
        exact hvalue
      · rw [Commanded, if_pos (show ClientState.confirmationMetric ∈ wattPropertyKeys by decide)]
        exact hclose
      · rw [ClientState.trustedMetricTime] at htrusted
        split at htrusted
        · next reported hreported =>
          exact .inl (hreported.trans htrusted)
        · next hreported =>
          split at htrusted
          · next hseen => exact .inr ⟨hreported, hseen, htrusted⟩
          · cases htrusted
    · cases h

end CommandRecord

namespace ClientState

open CommandRecord

variable {cfg : ClientConfig} {call : Call} {s s' s'' : ClientState} {record record' : CommandRecord}

/-! ### The records of one call -/

/-- A command as it is built for its target, neither acknowledged nor confirmed. -/
structure Built (cfg : ClientConfig) (record : CommandRecord) : Prop where
  deviceId : record.deviceId = cfg.deviceId
  operation : record.operation = operationForTarget record.targetW
  expectedProperties : cfg.buildWrite record.targetW = .ok record.expectedProperties

/-- The call handed the command's message to the transport, and its record bears the time at which
that had accepted it. -/
def PublishedBy (call : Call) (record : CommandRecord) : Prop :=
  ∃ transport, call.transport? = some transport ∧ record.messageId = transport.messageId ∧
    record.publishedMonotonic =
      if transport.accepted then some transport.publishCompleted else none

/-- A command that a call adds. -/
structure New (cfg : ClientConfig) (call : Call) (record : CommandRecord) : Prop
    extends Built cfg record where
  published : PublishedBy call record
  state : record.state ≠ .acknowledged ∧ record.state ≠ .telemetryConfirmed
  acknowledgedMonotonic : record.acknowledgedMonotonic = none

/-- What one call may make of the commands, and which it may add. -/
structure RecordsConfirm (cfg : ClientConfig) (call : Call) (s s' : ClientState) : Prop where
  kept : ∀ (i : ℕ) (r : CommandRecord), s.records[i]? = some r →
    ∃ r', s'.records[i]? = some r' ∧ Confirms cfg call r r'
  added : ∀ (i : ℕ) (r : CommandRecord), s'.records[i]? = some r → s.records[i]? = none →
    New cfg call r

/-- No command is added, and each stays as it is or is settled. -/
structure RecordsSettle (cfg : ClientConfig) (call : Call) (s s' : ClientState) : Prop where
  length : s'.records.length = s.records.length
  kept : ∀ (i : ℕ) (r : CommandRecord), s.records[i]? = some r →
    ∃ r', s'.records[i]? = some r' ∧ Confirms cfg call r r' ∧ (r' = r ∨ r'.isTerminal = true)

theorem RecordsSettle.of_records_eq (h : s'.records = s.records) : RecordsSettle cfg call s s' where
  length := by rw [h]
  kept := fun _ r hr => ⟨r, h ▸ hr, .refl cfg call r, .inl rfl⟩

theorem RecordsSettle.then (h : RecordsSettle cfg call s s') (h' : RecordsConfirm cfg call s' s'') :
    RecordsConfirm cfg call s s'' where
  kept := by
    intro i r hr
    obtain ⟨r', hr', hconfirms, hsettled⟩ := h.kept i r hr
    obtain ⟨r'', hr'', hconfirms'⟩ := h'.kept i r' hr'
    exact ⟨r'', hr'', hconfirms.trans hsettled hconfirms'⟩
  added := by
    intro i r hr hnone
    refine h'.added i r hr ?_
    rw [List.getElem?_eq_none_iff] at hnone ⊢
    exact h.length ▸ hnone

theorem RecordsSettle.confirm (h : RecordsSettle cfg call s s') : RecordsConfirm cfg call s s' where
  kept := by
    intro i r hr
    obtain ⟨r', hr', hconfirms, -⟩ := h.kept i r hr
    exact ⟨r', hr', hconfirms⟩
  added := by
    intro i r hr hnone
    rw [List.getElem?_eq_none_iff, ← h.length, ← List.getElem?_eq_none_iff, hr] at hnone
    cases hnone

theorem RecordsConfirm.of_records_eq (h : s'.records = s.records) : RecordsConfirm cfg call s s' :=
  (RecordsSettle.of_records_eq h).confirm

theorem putActive_confirm (hactive : s.activeRecord = some record)
    (h : Confirms cfg call record record') : RecordsConfirm cfg call s (s.putActive record') := by
  obtain ⟨i, hi, hrecord⟩ := activeRecord_eq_some.mp hactive
  have hrecords : (s.putActive record').records = s.records.set i record' := by
    rw [putActive, hi]
  constructor
  · intro j r hr
    rw [hrecords]
    by_cases hij : i = j
    · subst hij
      rw [hrecord] at hr
      cases hr
      exact ⟨record', List.getElem?_set_self (List.getElem?_eq_some_iff.mp hrecord).1, h⟩
    · exact ⟨r, by rw [List.getElem?_set_ne hij, hr], .refl cfg call r⟩
  · intro j r hr hnone
    rw [hrecords, List.getElem?_eq_some_iff] at hr
    obtain ⟨hlt, -⟩ := hr
    rw [List.length_set] at hlt
    rw [List.getElem?_eq_none_iff] at hnone
    omega

theorem freeSlot_settle (hactive : s.activeRecord = some record)
    (h : Confirms cfg call record record') (hterminal : record'.isTerminal = true) :
    RecordsSettle cfg call s (s.putActive record').freeSlot := by
  obtain ⟨i, hi, hrecord⟩ := activeRecord_eq_some.mp hactive
  have hrecords : (s.putActive record').freeSlot.records = s.records.set i record' := by
    rw [freeSlot, putActive, hi]
  constructor
  · rw [hrecords, List.length_set]
  · intro j r hr
    rw [hrecords]
    by_cases hij : i = j
    · subst hij
      rw [hrecord] at hr
      cases hr
      exact ⟨record', List.getElem?_set_self (List.getElem?_eq_some_iff.mp hrecord).1, h,
        .inr hterminal⟩
    · exact ⟨r, by rw [List.getElem?_set_ne hij, hr], .refl cfg call r, .inl rfl⟩

/-! ### Settling and publishing -/

theorem RecordsSettle.trans (h : RecordsSettle cfg call s s') (h' : RecordsSettle cfg call s' s'') :
    RecordsSettle cfg call s s'' where
  length := h'.length.trans h.length
  kept := by
    intro i r hr
    obtain ⟨r', hr', hconfirms, hsettled⟩ := h.kept i r hr
    obtain ⟨r'', hr'', hconfirms', hsettled'⟩ := h'.kept i r' hr'
    refine ⟨r'', hr'', hconfirms.trans hsettled hconfirms', ?_⟩
    rcases hsettled' with rfl | hterminal
    · exact hsettled
    · exact .inr hterminal

variable (cfg call s) in
theorem expireActiveCommand_settle (now : ℚ) :
    RecordsSettle cfg call s (s.expireActiveCommand cfg now) := by
  rw [expireActiveCommand]
  cases hactive : s.activeRecord with
  | none => exact .of_records_eq rfl
  | some record =>
    dsimp only
    split
    · exact .of_records_eq rfl
    · next record' hreleased =>
      have hdrops : Drops record record' := by
        split_ifs at hreleased with hack hconfirm
        · split at hreleased
          · next htimeout =>
            cases hreleased
            exact drops_of_applyTimeout htimeout
          · exact drops_of_applyConfirmationTimeout hreleased
        · split at hreleased
          · next htimeout =>
            cases hreleased
            exact drops_of_applyTimeout htimeout
          · cases hreleased
        · exact drops_of_applyConfirmationTimeout hreleased
      exact freeSlot_settle hactive (hdrops.confirms cfg call) hdrops.isTerminal

variable (cfg s) in
theorem confirmFromSnapshot_settle (snapshot : Snapshot) (now : ℚ) :
    RecordsSettle cfg (.fetch now (some snapshot)) s (s.confirmFromSnapshot cfg snapshot now) := by
  rw [confirmFromSnapshot]
  cases hactive : s.activeRecord with
  | none => exact .of_records_eq rfl
  | some record =>
    dsimp only
    split
    · exact .of_records_eq rfl
    · split
      · exact .of_records_eq rfl
      · next observed hmetric =>
        split
        · exact .of_records_eq rfl
        · next record' hconfirmed =>
          split_ifs at hconfirmed with hexpected
          · exact freeSlot_settle hactive (confirms_of_telemetry hmetric hexpected hconfirmed)
              (moves_of_confirmFromTelemetry hconfirmed).2
          · exact freeSlot_settle hactive (confirms_of_expectedProperties hconfirmed)
              (moves_of_confirmFromExpectedProperties hconfirmed).2

theorem supersedeActive_settle (hactive : s.activeRecord = some record)
    (hisActive : record.isActive = true) (now : ℚ) :
    RecordsSettle cfg call s (s.supersedeActive record now) := by
  have hsuperseded : record.markSuperseded now =
      some { record with state := .superseded, timeoutMonotonic := some now } := if_pos hisActive
  have hdrops := drops_of_markSuperseded hsuperseded
  rw [supersedeActive, hsuperseded]
  exact (freeSlot_settle hactive (hdrops.confirms cfg call) hdrops.isTerminal).trans
    (.of_records_eq rfl)

variable {transport : Transport}

theorem recordAfterPublish_new (hbuilt : Built cfg record) (hqueued : record.state = .queued)
    (hunpublished : record.publishedMonotonic = none) (hnone : record.acknowledgedMonotonic = none)
    (hcall : call.transport? = some transport)
    (hmessage : record.messageId = transport.messageId) :
    New cfg call (recordAfterPublish cfg record transport) := by
  obtain ⟨hdevice, hoperation, hexpected⟩ := hbuilt
  have hunconfirmed : CommandState.completedUnconfirmed ≠ .acknowledged ∧
    CommandState.completedUnconfirmed ≠ .telemetryConfirmed := by decide
  have hpublished : CommandState.published ≠ .acknowledged ∧
    CommandState.published ≠ .telemetryConfirmed := by decide
  have hrejected : CommandState.rejected ≠ .acknowledged ∧
    CommandState.rejected ≠ .telemetryConfirmed := by decide
  rw [recordAfterPublish]
  split
  · next haccepted =>
    rw [CommandRecord.markPublished, if_pos hqueued]
    dsimp only
    split
    · rw [completeUnconfirmed, if_pos (.inr rfl)]
      exact ⟨⟨hdevice, hoperation, hexpected⟩, ⟨transport, hcall, hmessage, (if_pos haccepted).symm⟩,
        hunconfirmed, hnone⟩
    · exact ⟨⟨hdevice, hoperation, hexpected⟩, ⟨transport, hcall, hmessage, (if_pos haccepted).symm⟩,
        hpublished, hnone⟩
  · next hrefused =>
    rw [markPublishFailed, if_pos hqueued]
    exact ⟨⟨hdevice, hoperation, hexpected⟩,
      ⟨transport, hcall, hmessage, hunpublished.trans (if_neg hrefused).symm⟩, hrejected, hnone⟩

theorem append_confirm (hnew : New cfg call record) (h : s'.records = s.records ++ [record]) :
    RecordsConfirm cfg call s s' where
  kept := by
    intro i r hr
    refine ⟨r, ?_, .refl cfg call r⟩
    rw [h, List.getElem?_append_left (List.getElem?_eq_some_iff.mp hr).1, hr]
  added := by
    intro i r hr hnone
    rw [h, List.getElem?_append_right (List.getElem?_eq_none_iff.mp hnone)] at hr
    obtain rfl := List.mem_singleton.mp (List.mem_of_getElem? hr)
    exact hnew

/-- **A publish adds a command stamped by its own transport.** -/
theorem publishTarget_confirm (hcall : call.transport? = some transport)
    (targetW : ℤ) (now : ℚ) (correlationId : Option String) (foundExit reduction : Bool) :
    RecordsConfirm cfg call s
      (s.publishTarget cfg targetW now correlationId foundExit reduction transport).client := by
  obtain ⟨sequence, correlation, hcorrelation⟩ := s.correlationOrNext_eq correlationId
  rw [publishTarget, hcorrelation]
  dsimp only
  cases hbuild : cfg.buildWrite targetW with
  | error error => exact .of_records_eq rfl
  | ok expectedProperties =>
    dsimp only
    split
    · refine append_confirm (recordAfterPublish_new ?_ rfl rfl rfl hcall rfl) rfl
      exact ⟨rfl, rfl, hbuild⟩
    · refine append_confirm (recordAfterPublish_new ?_ rfl rfl rfl hcall rfl) rfl
      exact ⟨rfl, rfl, hbuild⟩

/-! ### Every call -/

theorem dispatchBehind_confirm (hactive : s.activeRecord = some record)
    (hisActive : record.isActive = true)
    (hcall : call.transport? = some transport) (targetW : ℤ) (chargeExit : Option ChargeExit)
    (now : ℚ) :
    RecordsConfirm cfg call s
      (s.dispatchBehind cfg record targetW chargeExit now transport).client := by
  have hsupersede : RecordsSettle cfg call s (s.supersedeActive record now) :=
    supersedeActive_settle hactive hisActive now
  unfold dispatchBehind
  extract_lets final foundExit held
  split_ifs with hheld hsame hpreempt hlatest
  · exact .of_records_eq rfl
  · exact .of_records_eq rfl
  · exact hsupersede.then (publishTarget_confirm hcall ..)
  · exact hsupersede.then (publishTarget_confirm hcall ..)
  · split
    · split
      · exact .of_records_eq rfl
      · exact .of_records_eq rfl
    · exact .of_records_eq rfl

theorem dispatchOutputLimit_confirm
    (hcall : call.transport? = some transport) (value : PyValue) (chargeExit : Option ChargeExit)
    (now : ℚ) :
    RecordsConfirm cfg call s (s.dispatchOutputLimit cfg value chargeExit now transport).client := by
  have hexpired := expireActiveCommand_settle cfg call s now
  refine hexpired.then ?_
  unfold dispatchOutputLimit
  extract_lets s₁
  cases value.int? with
  | none => exact .of_records_eq rfl
  | some targetW =>
    dsimp only
    cases cfg.precheckTarget targetW with
    | error error => exact .of_records_eq rfl
    | ok u =>
      dsimp only
      cases hactive : s₁.activeRecord.filter (·.isActive) with
      | some active =>
        obtain ⟨hrecord, hisActive⟩ := Option.filter_eq_some_iff.mp hactive
        exact dispatchBehind_confirm hrecord hisActive hcall targetW chargeExit now
      | none =>
        dsimp only
        unfold dispatchIdle
        extract_lets foundExit held correlationId
        have hdiscarded : RecordsSettle cfg call s₁ s₁.discardPendingTarget := .of_records_eq rfl
        split
        · exact hdiscarded.confirm
        · exact hdiscarded.then (publishTarget_confirm hcall ..)

theorem fetch_confirm (now : ℚ) (snapshot : Option Snapshot) :
    RecordsConfirm cfg (.fetch now snapshot) s (s.fetch cfg now snapshot) := by
  cases snapshot with
  | none => exact (expireActiveCommand_settle cfg _ s now).confirm
  | some snapshot =>
    have hconfirmed := confirmFromSnapshot_settle cfg s snapshot now
    have hobserved : RecordsSettle cfg (.fetch now (some snapshot)) (s.confirmFromSnapshot cfg snapshot now)
        { s.confirmFromSnapshot cfg snapshot now with
          charge := (s.confirmFromSnapshot cfg snapshot now).charge.observe (directionReport snapshot)
            (observableNumber snapshot.metrics "inputLimit").isSome } := .of_records_eq rfl
    exact ((hconfirmed.trans hobserved).trans (expireActiveCommand_settle cfg _ _ now)).confirm

theorem flushPendingTarget_confirm (hcall : call.transport? = some transport) (now : ℚ) :
    RecordsConfirm cfg call s (s.flushPendingTarget cfg now transport).client := by
  have hdiscarded : RecordsSettle cfg call s s.discardPendingTarget := .of_records_eq rfl
  rw [flushPendingTarget.eq_def]
  split
  · exact hdiscarded.then (publishTarget_confirm hcall ..)
  · exact .of_records_eq rfl

/-- **Only its own reply moves the command in flight.** -/
theorem handleReply_confirm (payload : PyValue) (now : ℚ) (transport : Transport) :
    RecordsConfirm cfg (.handleReply payload now transport) s
      (s.handleReply cfg payload.dict? now transport).client := by
  rw [handleReply.eq_def]
  split
  · next record reply hactive hpayload =>
    split
    · exact .of_records_eq rfl
    · split
      · exact .of_records_eq rfl
      · next acked hreply =>
        extract_lets record' s'
        obtain ⟨hby, hsame, hnot⟩ :=
          acknowledgedBy_of_applyReply transport hpayload hreply
        have hconfirms : Confirms cfg (.handleReply payload now transport) record record' := by
          show Confirms _ _ _ (if _ then _ else _)
          split
          · next hcond =>
            rw [completeUnconfirmed, if_pos (.inl hcond.1)]
            exact hby.confirms ⟨hsame.1, hsame.2, hsame.3, hsame.4, hsame.5, hsame.6⟩ nofun
          · exact hby.confirms hsame hnot
        cases hterminal : record'.isTerminal with
        | true =>
          exact (freeSlot_settle hactive hconfirms hterminal).then
            (flushPendingTarget_confirm rfl now)
        | false => exact putActive_confirm hactive hconfirms
  · exact .of_records_eq rfl

theorem step_confirm (cfg : ClientConfig) (s : ClientState) (call : Call) :
    RecordsConfirm cfg call s (s.step cfg call) := by
  cases call with
  | dispatch value chargeExit now transport =>
    exact dispatchOutputLimit_confirm rfl value chargeExit now
  | cancelPending => exact .of_records_eq rfl
  | fetch now snapshot => exact fetch_confirm now snapshot
  | handleReply payload now transport => exact handleReply_confirm payload now transport
  | releaseChargeRecord => exact .of_records_eq rfl

/-! ### Every run -/

/-- Every command is built from the profile for its target. -/
def RecordsBuilt (cfg : ClientConfig) (s : ClientState) : Prop := ∀ r ∈ s.records, Built cfg r

theorem RecordsConfirm.built (h : RecordsConfirm cfg call s s') (hbuilt : RecordsBuilt cfg s) :
    RecordsBuilt cfg s' := by
  intro r' hr'
  obtain ⟨i, hi⟩ := List.getElem?_of_mem hr'
  cases hr : s.records[i]? with
  | none => exact (h.added i r' hi hr).toBuilt
  | some r =>
    obtain ⟨r'', hr'', hconfirms⟩ := h.kept i r hr
    rw [hi] at hr''
    cases hr''
    obtain ⟨hdevice, hoperation, hexpected⟩ := hbuilt r (List.mem_of_getElem? hr)
    exact ⟨by rw [hconfirms.same.deviceId, hdevice],
      by rw [hconfirms.same.operation, hconfirms.same.targetW, hoperation],
      by rw [hconfirms.same.expectedProperties, hconfirms.same.targetW, hexpected]⟩

/-- **Confirmation is sound.**  In every run of a client, a call acknowledges a command only as
its own reply while it is published, confirms it only by a report of the values its profile
requires that are no older than the publish, and changes no settled command; a command that a
call adds is neither acknowledged nor confirmed, and was published by that call, at the time that
its record keeps from then on. -/
theorem confirmation_sound (cfg : ClientConfig) (calls : List Call) :
    EveryStep (step cfg) (fun s call => RecordsBuilt cfg s ∧ RecordsConfirm cfg call s (s.step cfg call))
      (new cfg) calls := by
  have hstep : ∀ s call, RecordsBuilt cfg s → True → RecordsBuilt cfg (s.step cfg call) :=
    fun s call hbuilt _ => (step_confirm cfg s call).built hbuilt
  have hnew : RecordsBuilt cfg (new cfg) := fun r hr => nomatch hr
  exact EveryStep.of_invariant hstep (fun s call hbuilt _ => ⟨hbuilt, step_confirm cfg s call⟩) hnew
    (everyStep_true _ _ _)

end ClientState

end SolarFlowEms.Mqtt
