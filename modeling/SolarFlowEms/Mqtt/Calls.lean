import SolarFlowEms.Mqtt.DeviceClient

/-!
# What one call of the client can do

Every call is one of a few shapes: it leaves the command in flight or settles it, and it
publishes nothing, or hands exactly one new command to the transport once the slot is free.
The invariants of the client are read off these shapes.
-/

namespace SolarFlowEms.Mqtt

open Python PowerDirection CommandRecord DispatchResult

namespace DispatchResult

@[simp] theorem accepted_ofRejected (targetW : Option ℤ) (reason : String)
    (correlationId : Option String) : (ofRejected targetW reason correlationId).accepted = false :=
  rfl

@[simp] theorem accepted_ofCoalesced (targetW : ℤ) (messageId : Option ℕ) (commandState : String)
    (correlationId : Option String) :
    (ofCoalesced targetW messageId commandState correlationId).accepted = true := rfl

@[simp] theorem accepted_ofQueued (targetW : ℤ) (commandState correlationId : String) :
    (ofQueued targetW commandState correlationId).accepted = true := rfl

end DispatchResult

namespace ClientState

variable {cfg : ClientConfig} {s s' : ClientState} {record record' : CommandRecord}

theorem activeRecord_eq_some :
    s.activeRecord = some record ↔ ∃ i, s.active = some i ∧ s.records[i]? = some record := by
  rw [activeRecord, Option.bind_eq_some_iff]

@[simp] theorem putActive_pending : (s.putActive record).pending = s.pending := by
  unfold putActive
  split <;> rfl

@[simp] theorem putActive_charge : (s.putActive record).charge = s.charge := by
  unfold putActive
  split <;> rfl

/-! ### Settling the command in flight -/

/-- The command in flight stays, or it settles and leaves the slot. -/
inductive Settled (s : ClientState) : ClientState → Prop where
  | same : Settled s s
  | settle {record record' : CommandRecord} (hactive : s.activeRecord = some record)
      (hmoves : record.Moves record') (hterminal : record'.isTerminal = true) :
      Settled s (s.putActive record').freeSlot

theorem Settled.pending (h : Settled s s') : s'.pending = s.pending := by
  cases h with
  | same => rfl
  | settle hactive hmoves hterminal => exact putActive_pending

theorem Settled.charge (h : Settled s s') : s'.charge = s.charge := by
  cases h with
  | same => rfl
  | settle hactive hmoves hterminal => exact putActive_charge

theorem supersedeActive_charge (active : CommandRecord) (now : ℚ) :
    (s.supersedeActive active now).charge = s.charge := putActive_charge

variable (cfg s) in
theorem expireActiveCommand_settled (now : ℚ) : Settled s (s.expireActiveCommand cfg now) := by
  unfold expireActiveCommand
  cases hactive : s.activeRecord with
  | none => exact .same
  | some record =>
    dsimp only
    split
    · exact .same
    · next record' hreleased =>
      -- Whichever deadline passed, it settled the record.
      obtain ⟨hmoves, hterminal⟩ : record.Moves record' ∧ record'.isTerminal = true := by
        split_ifs at hreleased with hack hconfirm
        · split at hreleased
          · next htimeout => cases hreleased; exact moves_of_applyTimeout htimeout
          · exact moves_of_applyConfirmationTimeout hreleased
        · split at hreleased
          · next htimeout => cases hreleased; exact moves_of_applyTimeout htimeout
          · cases hreleased
        · exact moves_of_applyConfirmationTimeout hreleased
      exact .settle hactive hmoves hterminal

variable (cfg s) in
theorem confirmFromSnapshot_settled (snapshot : Snapshot) (now : ℚ) :
    Settled s (s.confirmFromSnapshot cfg snapshot now) := by
  unfold confirmFromSnapshot
  cases hactive : s.activeRecord with
  | none => exact .same
  | some record =>
    dsimp only
    split
    · exact .same
    · split
      · exact .same
      · split
        · exact .same
        · next record' hconfirmed =>
          obtain ⟨hmoves, hterminal⟩ : record.Moves record' ∧ record'.isTerminal = true := by
            split_ifs at hconfirmed with hexpected
            · exact moves_of_confirmFromTelemetry hconfirmed
            · exact moves_of_confirmFromExpectedProperties hconfirmed
          exact .settle hactive hmoves hterminal

variable (cfg s) in
theorem fetch_settled (now : ℚ) (snapshot : Option Snapshot) :
    ∃ s₁, Settled s s₁ ∧ ∃ charge, Settled { s₁ with charge := charge } (s.fetch cfg now snapshot) ∧
      (charge = s.charge ∨ ∃ report reported, charge = s.charge.observe report reported) := by
  cases snapshot with
  | none => exact ⟨s, .same, s.charge, expireActiveCommand_settled cfg _ now, .inl rfl⟩
  | some snapshot =>
    have hconfirm : Settled s (s.confirmFromSnapshot cfg snapshot now) :=
      confirmFromSnapshot_settled cfg s snapshot now
    refine ⟨_, hconfirm, _, expireActiveCommand_settled cfg _ now, .inr ?_⟩
    exact ⟨directionReport snapshot, (observableNumber snapshot.metrics "inputLimit").isSome,
      by rw [hconfirm.charge]⟩

/-! ### Handing one command to the transport -/

/-- One command was built and handed over, or the build was blocked.  Only an accepted
command was sent, and only it is noted by the charge record. -/
inductive Submitted (s : ClientState) (targetW : ℤ) (foundExit reduction : Bool) :
    Outcome → Prop where
  | blocked (sequence : ℕ) (error correlationId : String) :
      Submitted s targetW foundExit reduction
        ⟨{ s with dispatchSequence := sequence },
          some (.ofRejected (some targetW) error (some correlationId)), none⟩
  | refused (sequence : ℕ) {record : CommandRecord} (hterminal : record.isTerminal = true) :
      Submitted s targetW foundExit reduction
        ⟨{ s with
            dispatchSequence := sequence, records := s.records ++ [record], active := none,
            activeCorrelationId := none },
          some (.ofFailed record), none⟩
  | sent (sequence : ℕ) {record : CommandRecord} (correlationId : Option String) (now : ℚ)
      (htarget : record.targetW = targetW) :
      Submitted s targetW foundExit reduction
        ⟨{ s with
            dispatchSequence := sequence, records := s.records ++ [record]
            active := if record.isActive then some s.records.length else none
            activeCorrelationId := correlationId
            charge := s.chargeAfterPublish targetW foundExit reduction now },
          some (.ofPublished record), some targetW⟩

theorem correlationOrNext_eq (s : ClientState) (correlationId : Option String) :
    ∃ sequence correlation,
      s.correlationOrNext correlationId = ({ s with dispatchSequence := sequence }, correlation) := by
  cases correlationId with
  | none => exact ⟨s.dispatchSequence + 1, _, rfl⟩
  | some correlationId => exact ⟨s.dispatchSequence, correlationId, rfl⟩

theorem recordAfterPublish_targetW (transport : Transport) :
    (recordAfterPublish cfg record transport).targetW = record.targetW := by
  unfold recordAfterPublish
  split
  · have hpublished : (record.markPublished transport.publishCompleted).targetW = record.targetW := by
      unfold markPublished
      split <;> rfl
    dsimp only
    split
    · cases hcomplete : (record.markPublished transport.publishCompleted).completeUnconfirmed
        transport.publishCompleted with
      | none => exact hpublished
      | some record' =>
        rw [Option.getD_some, (moves_of_completeUnconfirmed hcomplete).1.targetW,
          hpublished]
    · exact hpublished
  · unfold markPublishFailed
    split <;> rfl

theorem recordAfterPublish_refused {transport : Transport} (hqueued : record.state = .queued)
    (h : transport.accepted = false) : (recordAfterPublish cfg record transport).isTerminal = true := by
  simp [recordAfterPublish, h, markPublishFailed, hqueued, isTerminal,
    CommandState.isTerminal]

theorem publishTarget_submitted (targetW : ℤ) (now : ℚ) (correlationId : Option String)
    (foundExit reduction : Bool) (transport : Transport) :
    Submitted s targetW foundExit reduction
      (s.publishTarget cfg targetW now correlationId foundExit reduction transport) := by
  obtain ⟨sequence, correlation, hcorrelation⟩ := s.correlationOrNext_eq correlationId
  unfold publishTarget
  rw [hcorrelation]
  dsimp only
  cases cfg.buildWrite targetW with
  | error error => exact .blocked sequence error correlation
  | ok expectedProperties =>
    dsimp only
    cases haccepted : transport.accepted with
    | true =>
      rw [if_pos rfl]
      exact .sent sequence _ transport.publishCompleted (recordAfterPublish_targetW transport)
    | false =>
      have hterminal : ∀ record : CommandRecord, record.state = .queued →
          (recordAfterPublish cfg record transport).isTerminal = true :=
        fun record hqueued => recordAfterPublish_refused hqueued haccepted
      rw [if_neg (by decide), isActive_eq_not_isTerminal, hterminal _ rfl]
      exact .refused sequence (hterminal _ rfl)

/-! ### Dispatches -/

/-- No command is in flight, as a dispatch sees it. -/
def Idle (s : ClientState) : Prop := s.activeRecord.filter (·.isActive) = none

/-- What a dispatch that met the settled client `s` did with `targetW`. -/
inductive Dispatched (cfg : ClientConfig) (s : ClientState) (targetW : ℤ) : Outcome → Prop where
  | rejected {result : DispatchResult} (hresult : result.accepted = false) :
      Dispatched cfg s targetW ⟨s, some result, none⟩
  | coalesced {result : DispatchResult} (hresult : result.accepted = true) :
      Dispatched cfg s targetW ⟨s.discardPendingTarget, some result, none⟩
  | queued (sequence : ℕ) (correlationId : String) {result : DispatchResult}
      (hresult : result.accepted = true) :
      Dispatched cfg s targetW
        ⟨{ s with dispatchSequence := sequence, pending := some ⟨targetW, correlationId⟩ },
          some result, none⟩
  | superseding {active : CommandRecord} (now : ℚ) (foundExit : Bool) {reduction : Bool}
      {outcome : Outcome} (hactive : s.activeRecord = some active) (hisActive : active.isActive = true)
      (hreduction : reduction = true → s.charge.isOpen = true ∧ s.charge.drawnExitsSpent = true)
      (h : Submitted (s.supersedeActive active now) targetW foundExit reduction outcome) :
      Dispatched cfg s targetW outcome
  | idle (foundExit : Bool) {reduction : Bool} {outcome : Outcome} (hidle : s.Idle)
      (hreduction : reduction = true → s.reducesHeldExit cfg targetW = true)
      (h : Submitted s.discardPendingTarget targetW foundExit reduction outcome) :
      Dispatched cfg s targetW outcome

theorem dispatchBehind_dispatched {active : CommandRecord} (hactive : s.activeRecord = some active)
    (hisActive : active.isActive = true) (targetW : ℤ) (chargeExit : Option ChargeExit) (now : ℚ)
    (transport : Transport) :
    Dispatched cfg s targetW (s.dispatchBehind cfg active targetW chargeExit now transport) := by
  unfold dispatchBehind
  extract_lets final foundExit held
  split_ifs with hheld hsame hpreempt hlatest
  · exact .coalesced (accepted_ofCoalesced ..)
  · exact .coalesced (accepted_ofCoalesced ..)
  · refine .superseding now foundExit hactive hisActive ?_ (publishTarget_submitted ..)
    intro hreduction
    have hheldTrue : held = true := (Bool.and_eq_true_iff.mp hreduction).1
    obtain ⟨hopen, hspent⟩ := Bool.and_eq_true_iff.mp hheldTrue
    exact ⟨(Bool.and_eq_true_iff.mp hopen).2, hspent⟩
  · refine .superseding now foundExit hactive hisActive ?_ (publishTarget_submitted ..)
    intro hreduction
    cases hreduction
  · split
    · next pending hpending =>
      split
      · next htarget =>
        -- The same target stays queued under its own correlation.
        have hsame : s = { s with
            dispatchSequence := s.dispatchSequence
            pending := some ⟨targetW, pending.correlationId⟩ } := by
          rw [← htarget, ← hpending]
        rw [hsame]
        exact .queued s.dispatchSequence pending.correlationId (accepted_ofQueued ..)
      · exact .queued (s.dispatchSequence + 1) _ (accepted_ofQueued ..)
    · exact .queued (s.dispatchSequence + 1) _ (accepted_ofQueued ..)

theorem dispatchIdle_dispatched (hidle : s.Idle) (targetW : ℤ) (chargeExit : Option ChargeExit)
    (now : ℚ) (transport : Transport) :
    Dispatched cfg s targetW (s.dispatchIdle cfg targetW chargeExit now transport) := by
  unfold dispatchIdle
  extract_lets foundExit held correlationId
  split
  · exact .coalesced (accepted_ofCoalesced ..)
  · next hcond =>
    refine .idle foundExit hidle ?_ (publishTarget_submitted ..)
    intro hheld
    rw [hheld, Bool.true_and, Bool.not_eq_true, Bool.not_eq_false'] at hcond
    exact hcond

variable (cfg s) in
/-- **What a dispatch can do**: it settles the deadline of the command in flight, and then
rejects its value, coalesces it, queues it, or publishes it. -/
theorem dispatchOutputLimit_dispatched (value : PyValue) (chargeExit : Option ChargeExit) (now : ℚ)
    (transport : Transport) :
    (∃ result : DispatchResult, result.accepted = false ∧
        s.dispatchOutputLimit cfg value chargeExit now transport =
          ⟨s.expireActiveCommand cfg now, some result, none⟩) ∨
      ∃ targetW, value.int? = some targetW ∧
        Dispatched cfg (s.expireActiveCommand cfg now) targetW
          (s.dispatchOutputLimit cfg value chargeExit now transport) := by
  unfold dispatchOutputLimit
  extract_lets s₁
  cases hvalue : value.int? with
  | none => exact .inl ⟨_, accepted_ofRejected .., rfl⟩
  | some targetW =>
    dsimp only
    cases cfg.precheckTarget targetW with
    | error error => exact .inl ⟨_, accepted_ofRejected .., rfl⟩
    | ok u =>
      refine .inr ⟨targetW, rfl, ?_⟩
      dsimp only
      cases hactive : s₁.activeRecord.filter (·.isActive) with
      | none => exact dispatchIdle_dispatched hactive ..
      | some active =>
        obtain ⟨hrecord, hisActive⟩ := Option.filter_eq_some_iff.mp hactive
        exact dispatchBehind_dispatched hrecord hisActive ..

/-! ### Replies -/

/-- What a reply did: nothing, an acknowledgement, or it settled the command in flight and let
the pending target go out. -/
inductive Replied (s : ClientState) : Outcome → Prop where
  | ignored : Replied s ⟨s, none, none⟩
  | acknowledged {record record' : CommandRecord} (hactive : s.activeRecord = some record)
      (hmoves : record.Moves record') (hnot : record'.isTerminal = false) :
      Replied s ⟨s.putActive record', none, none⟩
  | settled {record record' : CommandRecord} (hactive : s.activeRecord = some record)
      (hmoves : record.Moves record') (hterminal : record'.isTerminal = true) :
      Replied s ⟨(s.putActive record').freeSlot, none, none⟩
  | flushed {record record' : CommandRecord} {pending : Pending} {outcome : Outcome}
      (hactive : s.activeRecord = some record) (hmoves : record.Moves record')
      (hterminal : record'.isTerminal = true) (hpending : s.pending = some pending)
      (h : Submitted (s.putActive record').freeSlot.discardPendingTarget pending.targetW false false
        outcome) : Replied s outcome

theorem flushPendingTarget_replied (hactive : s.activeRecord = some record)
    (hmoves : record.Moves record') (hterminal : record'.isTerminal = true) (now : ℚ)
    (transport : Transport) :
    Replied s ((s.putActive record').freeSlot.flushPendingTarget cfg now transport) := by
  have hpending : (s.putActive record').freeSlot.pending = s.pending := putActive_pending
  unfold flushPendingTarget
  rw [hpending]
  cases hp : s.pending with
  | none => exact .settled hactive hmoves hterminal
  | some pending => exact .flushed hactive hmoves hterminal hp (publishTarget_submitted ..)

theorem handleReply_replied (reply : Option (List (String × PyValue))) (now : ℚ)
    (transport : Transport) : Replied s (s.handleReply cfg reply now transport) := by
  unfold handleReply
  split
  · next record reply hactive =>
    split
    · exact .ignored
    · split
      · exact .ignored
      · next acked hreply =>
        extract_lets record' s'
        have hmoves : record.Moves record' := by
          have hacked : record.Moves acked := moves_of_applyReply hreply
          show record.Moves (if _ then _ else _)
          split
          · next hcond =>
            -- Nothing can confirm it, so the acknowledgement completes it.
            have hcompleted : acked.completeUnconfirmed now =
                some { acked with state := .completedUnconfirmed, confirmedMonotonic := some now } :=
              if_pos (.inl hcond.1)
            rw [hcompleted]
            exact ⟨hacked.isActive, .inl rfl, hacked.targetW⟩
          · exact hacked
        cases hterminal : record'.isTerminal with
        | true => exact flushPendingTarget_replied hactive hmoves hterminal now transport
        | false => exact .acknowledged hactive hmoves hterminal
  · exact .ignored

end ClientState

end SolarFlowEms.Mqtt
