import SolarFlowEms.Mqtt.Calls

/-!
# The latest intent wins

A ledger is kept beside the client: the value of the last accepted dispatch, forgotten when
it is cancelled, and every target published so far.  The pending target always is the
intent, so whatever a reply lets out is what the controller last asked for.
-/

namespace SolarFlowEms.Mqtt

open Python PowerDirection Run ClientState

/-- The client with what its callers asked for and what it published, newest first. -/
structure Ledger where
  client : ClientState
  intent : Option ℤ
  published : List ℤ

namespace Ledger

def new (cfg : ClientConfig) : Ledger := ⟨ClientState.new cfg, none, []⟩

/-- What the controller wants after a call that returned `result`. -/
def intentAfter (intent : Option ℤ) (call : Call) (result : Option DispatchResult) : Option ℤ :=
  match call with
  | .dispatch value _ _ _ => if result.any (·.accepted) then value.int? else intent
  | .cancelPending => none
  | _ => intent

/-- One call, entered in the ledger. -/
def enter (cfg : ClientConfig) (l : Ledger) (call : Call) : Ledger :=
  let outcome := l.client.call cfg call
  ⟨outcome.client, intentAfter l.intent call outcome.result,
    outcome.sent.toList ++ l.published⟩

variable {cfg : ClientConfig} {l : Ledger}

/-! ### The pending target is the intent -/

def PendingIsIntent (l : Ledger) : Prop := ∀ p, l.client.pending = some p → l.intent = some p.targetW

/-- What a call must satisfy: its pending target and what it sent are the intent it leaves. -/
def Honest (intent : Option ℤ) (outcome : Outcome) : Prop :=
  (∀ p, outcome.client.pending = some p → intent = some p.targetW) ∧
    ∀ v, outcome.sent = some v → intent = some v

variable {s : ClientState} {targetW : ℤ} {outcome : Outcome}

theorem honest_of_submitted {foundExit reduction : Bool}
    (h : Submitted s targetW foundExit reduction outcome)
    (hpending : s.pending = none) {intent : Option ℤ}
    (hintent : outcome.result.any (·.accepted) = true → intent = some targetW) :
    Honest intent outcome := by
  have hnone : ∀ p, s.pending = some p → intent = some p.targetW := by
    rw [hpending]
    exact nofun
  cases h with
  | blocked sequence error correlationId | refused sequence hterminal => exact ⟨hnone, nofun⟩
  | sent sequence correlationId now htarget =>
    refine ⟨hnone, fun v hv => ?_⟩
    cases hv
    exact hintent rfl

theorem honest_of_dispatched (h : Dispatched cfg s targetW outcome) {before : Option ℤ}
    (hbefore : ∀ p, s.pending = some p → before = some p.targetW) :
    Honest (if outcome.result.any (·.accepted) then some targetW else before) outcome := by
  cases h with
  | rejected hresult =>
    refine ⟨fun p hp => ?_, nofun⟩
    rw [Option.any_some, hresult]
    exact hbefore p hp
  | coalesced hresult => exact ⟨nofun, nofun⟩
  | queued sequence correlationId hresult =>
    refine ⟨fun p hp => ?_, nofun⟩
    cases hp
    rw [Option.any_some, hresult]
    rfl
  | superseding now foundExit hactive hisActive hreduction hsubmitted =>
    exact honest_of_submitted hsubmitted rfl fun haccepted => if_pos haccepted
  | idle foundExit hidle hreduction hsubmitted =>
    exact honest_of_submitted hsubmitted rfl fun haccepted => if_pos haccepted

theorem honest_of_replied (h : Replied s outcome)
    {intent : Option ℤ} (hintent : ∀ p, s.pending = some p → intent = some p.targetW) :
    Honest intent outcome := by
  cases h with
  | ignored => exact ⟨hintent, nofun⟩
  | acknowledged hactive hmoves hnot =>
    exact ⟨fun p hp => hintent p (putActive_pending.symm.trans hp), nofun⟩
  | settled hactive hmoves hterminal =>
    exact ⟨fun p hp => hintent p (putActive_pending.symm.trans hp), nofun⟩
  | flushed hactive hmoves hterminal hpending hsubmitted =>
    exact honest_of_submitted hsubmitted rfl fun _ => hintent _ hpending

/-- **Every call is honest**: it publishes the intent it leaves, and so does what it leaves
pending. -/
theorem enter_honest (h : l.PendingIsIntent) (call : Call) :
    Honest (l.enter cfg call).intent (l.client.call cfg call) := by
  cases call with
  | dispatch value chargeExit now transport =>
    have hbefore : ∀ p, (l.client.expireActiveCommand cfg now).pending = some p →
        l.intent = some p.targetW := by
      rw [(expireActiveCommand_settled cfg l.client now).pending]
      exact h
    show Honest
      (if (l.client.dispatchOutputLimit cfg value chargeExit now transport).result.any (·.accepted)
        then value.int? else l.intent)
      (l.client.dispatchOutputLimit cfg value chargeExit now transport)
    rcases dispatchOutputLimit_dispatched cfg l.client value chargeExit now transport with
      ⟨result, hresult, heq⟩ | ⟨targetW, hvalue, hdispatched⟩
    · rw [heq]
      refine ⟨fun p hp => ?_, nofun⟩
      rw [Option.any_some, hresult]
      exact hbefore p hp
    · rw [hvalue]
      exact honest_of_dispatched hdispatched hbefore
  | cancelPending => exact ⟨nofun, nofun⟩
  | fetch now snapshot =>
    obtain ⟨s₁, hconfirmed, charge, hexpired, -⟩ :=
      fetch_settled cfg l.client now snapshot
    refine ⟨fun p hp => h p ?_, nofun⟩
    rw [← hconfirmed.pending]
    exact hexpired.pending.symm.trans hp
  | handleReply payload now transport =>
    exact honest_of_replied (handleReply_replied _ now transport) h
  | releaseChargeRecord => exact ⟨h, nofun⟩

theorem pendingIsIntent_run (cfg : ClientConfig) (calls : List Call) :
    (run (enter cfg) (new cfg) calls).PendingIsIntent := by
  have hstep : ∀ (l : Ledger) (call : Call), l.PendingIsIntent → True →
      (l.enter cfg call).PendingIsIntent := fun l call h _ => (enter_honest h call).1
  exact run_invariant hstep nofun (everyStep_true _ _ _)

/-- **The latest intent wins.**  Whatever a client publishes, in whichever call and after
whatever run, is the value of the most recently accepted dispatch, not cancelled since. -/
theorem latest_intent_wins (cfg : ClientConfig) (calls : List Call) (call : Call) (v : ℤ)
    (hsent : ((run (enter cfg) (new cfg) calls).client.call cfg call).sent = some v) :
    (run (enter cfg) (new cfg) (calls ++ [call])).intent = some v := by
  rw [run_append]
  exact (enter_honest (pendingIsIntent_run cfg calls) call).2 v hsent

/-- 350 W wait behind 300 W that the device then rejects: the reply lets out the 350 W. -/
theorem latest_intent_wins_after_rejection :
    (run (enter .hyper2000) (new .hyper2000)
      ([.dispatch (.int 300) none 0 ⟨1, 0, true⟩, .dispatch (.int 350) none 5 ⟨2, 5, true⟩] ++
        [.handleReply (.dict [("messageId", .int 1), ("deviceId", .str "dev"),
          ("success", .int 0)]) 6 ⟨3, 6, true⟩])).intent = some 350 :=
  latest_intent_wins .hyper2000 _ _ 350 (by decide +kernel)

end Ledger

end SolarFlowEms.Mqtt
