import Mathlib.Data.Finset.Basic
import SolarFlowEms.Library.Table

/-!
# The control publisher's delivery tables

A publish that the MQTT library accepts is given a token of its own, since the library reuses
its message ids.  The publisher remembers the state of the latest tokens, which tokens wait
for an acknowledgement under each message id, and acknowledgements that came before the publish
that they answer had returned.  An id whose waiting message is lost from sight, by a
disconnection or because the history is full, is quarantined for the client's lifetime: an
acknowledgement under it says nothing any more.
-/

namespace SolarFlowEms.Mqtt

open Tables

/-- Process-local identity for exactly one accepted publish. -/
structure PublishDeliveryToken where
  connectionGeneration : ℕ
  sequence : ℕ
  mid : ℤ
  deriving DecidableEq

inductive Delivery
  | pending
  | delivered
  | disconnected
  | expired
  | unknown
  deriving DecidableEq

/-- What the state of a delivery is asked by. -/
inductive DeliveryEvidence
  | absent
  | token (token : PublishDeliveryToken)
  | mid (mid : ℤ)
  deriving DecidableEq

abbrev DeliveryStates := List (PublishDeliveryToken × Delivery)

/-- The part of the client that its delivery locks guard, and its connection flags.  An id
without waiting tokens has no entry in the table, here the empty list, and an
acknowledgement that was not counted has count zero. -/
structure ControlClient where
  hasClient : Bool
  connected : Bool
  deliveredMids : Finset ℤ
  deliveredOrder : List ℤ
  deliveryStates : DeliveryStates
  pendingDeliveryTokens : ℤ → List PublishDeliveryToken
  quarantinedDeliveryMids : Finset ℤ
  earlyPubacks : ℕ × ℤ → ℕ
  connectionGeneration : ℕ
  publishSequence : ℕ
  publishInProgressGeneration : Option ℕ

def deliveredMidHistory : ℕ := 512

def deliveryTokenHistory : ℕ := 512

def maxMqttPacketIdentifier : ℤ := 65535

/-- The identifiers that MQTT gives a message. -/
def IsPacketIdentifier (mid : ℤ) : Prop := 1 ≤ mid ∧ mid ≤ maxMqttPacketIdentifier

instance (mid : ℤ) : Decidable (IsPacketIdentifier mid) :=
  inferInstanceAs (Decidable (1 ≤ mid ∧ mid ≤ maxMqttPacketIdentifier))

namespace DeliveryStates

/-- A dictionary's assignment: in place for a known token, at the end for a new one. -/
def assign (states : DeliveryStates) (token : PublishDeliveryToken) (state : Delivery) :
    DeliveryStates :=
  upsertRow states token state

/-- Pending tokens that meet a condition get another state. -/
def endPending (states : DeliveryStates) (p : PublishDeliveryToken → Bool) (state : Delivery) :
    DeliveryStates :=
  states.map fun entry => if p entry.1 && entry.2 == .pending then (entry.1, state) else entry

variable {states : DeliveryStates} {token token' : PublishDeliveryToken} {state state' : Delivery}
  {p : PublishDeliveryToken → Bool}

theorem lookup_assign :
    (states.assign token state).lookup token' =
      if token' = token then some state else states.lookup token' :=
  lookup_upsertRow states token state token'

theorem mem_assign (h : (token', state') ∈ states.assign token state) :
    (token' = token ∧ state' = state) ∨ (token', state') ∈ states :=
  mem_upsertRow h

theorem mem_endPending (h : (token', state') ∈ states.endPending p state) :
    (token', state') ∈ states ∨ (p token' = true ∧ state' = state ∧ (token', .pending) ∈ states) := by
  rw [endPending, List.mem_map] at h
  obtain ⟨entry, hmem, heq⟩ := h
  split_ifs at heq with hp
  · obtain ⟨rfl, rfl⟩ := Prod.mk.inj heq
    rw [Bool.and_eq_true, beq_iff_eq] at hp
    exact .inr ⟨hp.1, rfl, hp.2 ▸ hmem⟩
  · exact .inl (heq ▸ hmem)

theorem lookup_endPending_of_not (hp : p token' = false) :
    (states.endPending p state).lookup token' = states.lookup token' := by
  induction states with
  | nil => rfl
  | cons entry states ih =>
    obtain ⟨token'', state''⟩ := entry
    rw [endPending] at ih ⊢
    rw [List.map_cons, List.lookup_cons]
    by_cases h : token' = token''
    · subst h
      simp [hp]
    · split_ifs
      all_goals
        rw [List.lookup_cons, beq_false_of_ne h]
        exact ih

theorem endPending_assign (hstate : state' ≠ .pending) :
    (states.assign token state').endPending p state =
      (states.endPending p state).assign token state' := by
  induction states with
  | nil => simp [assign, upsertRow, endPending, hstate]
  | cons entry states ih =>
    obtain ⟨token'', state''⟩ := entry
    have hcons : endPending ((token'', state'') :: states) p state =
        (if p token'' && state'' == .pending then (token'', state) else (token'', state'')) ::
          endPending states p state := rfl
    have hhead : (if p token'' && state'' == .pending then (token'', state)
        else (token'', state'')).1 = token'' := by
      split_ifs <;> rfl
    rw [assign, assign] at ih
    rw [hcons, assign, assign, upsertRow, upsertRow, hhead]
    by_cases h : token'' = token
    · simp [h, endPending, hstate]
    · rw [if_neg h, if_neg h, ← ih]
      rfl

end DeliveryStates

namespace ControlClient

/-- A client that was never started. -/
def fresh : ControlClient where
  hasClient := false
  connected := false
  deliveredMids := ∅
  deliveredOrder := []
  deliveryStates := []
  pendingDeliveryTokens := fun _ => []
  quarantinedDeliveryMids := ∅
  earlyPubacks := fun _ => 0
  connectionGeneration := 0
  publishSequence := 0
  publishInProgressGeneration := none

/-- The raw message ids that were acknowledged lately. -/
def rememberMid (c : ControlClient) (mid : ℤ) : ControlClient :=
  let full := c.deliveredOrder.length = deliveredMidHistory
  let mids :=
    match c.deliveredOrder with
    | oldest :: _ => if full then c.deliveredMids.erase oldest else c.deliveredMids
    | [] => c.deliveredMids
  let order := if full then c.deliveredOrder.tail else c.deliveredOrder
  { c with deliveredOrder := order ++ [mid], deliveredMids := insert mid mids }

/-- The first waiting token whose state is still remembered, and the tokens behind it. -/
def nextPending (states : DeliveryStates) :
    List PublishDeliveryToken → Option PublishDeliveryToken × List PublishDeliveryToken
  | [] => (none, [])
  | candidate :: pending =>
    if (states.lookup candidate).isSome then (some candidate, pending)
    else nextPending states pending

/-- The acknowledgement callback. -/
def onPublish (c : ControlClient) (mid : ℤ) : ControlClient :=
  if mid ∈ c.quarantinedDeliveryMids then c
  else
    let next := nextPending c.deliveryStates (c.pendingDeliveryTokens mid)
    let c := { c.rememberMid mid with
      pendingDeliveryTokens := Function.update c.pendingDeliveryTokens mid next.2 }
    match next.1 with
    | some token =>
      if c.deliveryStates.lookup token = some .pending then
        { c with deliveryStates := c.deliveryStates.assign token .delivered }
      else c
    | none =>
      if c.publishInProgressGeneration = some c.connectionGeneration then
        let key := (c.connectionGeneration, mid)
        { c with earlyPubacks := Function.update c.earlyPubacks key (c.earlyPubacks key + 1) }
      else c

def deliveryConfirmed (c : ControlClient) : DeliveryEvidence → Bool
  | .absent => false
  | .token token => c.deliveryStates.lookup token == some .delivered
  | .mid mid => mid ∈ c.deliveredMids

def deliveryStatus (c : ControlClient) : DeliveryEvidence → Delivery
  | .absent => .unknown
  | .token token => (c.deliveryStates.lookup token).getD .expired
  | .mid mid => if mid ∈ c.deliveredMids then .delivered else .unknown

/-- Make an ambiguous message id permanently non-attributable. -/
def quarantineDeliveryMid (c : ControlClient) (mid : ℤ) : ControlClient :=
  if IsPacketIdentifier mid then
    let pending := c.pendingDeliveryTokens mid
    { c with
      quarantinedDeliveryMids := insert mid c.quarantinedDeliveryMids
      pendingDeliveryTokens := Function.update c.pendingDeliveryTokens mid []
      deliveryStates := c.deliveryStates.endPending (fun token => decide (token ∈ pending)) .expired
      earlyPubacks := fun key => if key.2 = mid then 0 else c.earlyPubacks key }
  else c

/-- The pending tokens that meet a condition are disconnected and their ids quarantined. -/
def disconnectPending (c : ControlClient) (p : PublishDeliveryToken → Bool) : ControlClient :=
  let mids := (c.deliveryStates.filter fun entry => p entry.1 && entry.2 == .pending).map (·.1.mid)
  let c := { c with deliveryStates := c.deliveryStates.endPending p .disconnected }
  mids.foldl quarantineDeliveryMid c

def onConnectLocked (c : ControlClient) : ControlClient :=
  let c := c.disconnectPending fun _ => true
  { c with connectionGeneration := c.connectionGeneration + 1, earlyPubacks := fun _ => 0 }

def onDisconnectLocked (c : ControlClient) : ControlClient :=
  let c := c.disconnectPending fun token => token.connectionGeneration = c.connectionGeneration
  { c with earlyPubacks := fun _ => 0 }

/-- Forget the oldest states until the history fits.  The first argument bounds the rounds of
the loop; each forgets one state. -/
def pruneDeliveryStates : ℕ → ControlClient → ControlClient
  | 0, c => c
  | rounds + 1, c =>
    if c.deliveryStates.length ≤ deliveryTokenHistory then c
    else
      match c.deliveryStates with
      | [] => c
      | (token, state) :: states =>
        let c := { c with deliveryStates := states }
        if state = .pending ∨ state = .disconnected then
          pruneDeliveryStates rounds (c.quarantineDeliveryMid token.mid)
        else
          pruneDeliveryStates rounds { c with
            pendingDeliveryTokens := Function.update c.pendingDeliveryTokens token.mid
              ((c.pendingDeliveryTokens token.mid).filter (· ≠ token)) }

/-! ### The acknowledgement callback -/

section

variable {c : ControlClient} {mid : ℤ}

theorem onPublish_waiting {token : PublishDeliveryToken} (hmid : mid ∉ c.quarantinedDeliveryMids)
    (hone : c.pendingDeliveryTokens mid = [token])
    (hstate : c.deliveryStates.lookup token = some .pending) :
    c.onPublish mid = { c.rememberMid mid with
      pendingDeliveryTokens := Function.update c.pendingDeliveryTokens mid []
      deliveryStates := c.deliveryStates.assign token .delivered } := by
  have hnext : nextPending c.deliveryStates (c.pendingDeliveryTokens mid) = (some token, []) := by
    rw [hone, nextPending, hstate]
    rfl
  rw [onPublish, if_neg hmid, hnext]
  exact if_pos hstate

theorem onPublish_nothing_waits (hmid : mid ∉ c.quarantinedDeliveryMids)
    (hnil : c.pendingDeliveryTokens mid = []) :
    c.onPublish mid = { c.rememberMid mid with
      pendingDeliveryTokens := Function.update c.pendingDeliveryTokens mid []
      earlyPubacks :=
        if c.publishInProgressGeneration = some c.connectionGeneration then
          Function.update c.earlyPubacks (c.connectionGeneration, mid)
            (c.earlyPubacks (c.connectionGeneration, mid) + 1)
        else c.earlyPubacks } := by
  have hnext : nextPending c.deliveryStates (c.pendingDeliveryTokens mid) = (none, []) := by
    rw [hnil, nextPending]
  rw [onPublish, if_neg hmid, hnext]
  show (if c.publishInProgressGeneration = some c.connectionGeneration then _ else _) = _
  split_ifs <;> rfl

end

/-! ### The quarantine -/

section

variable {c : ControlClient} {mid : ℤ} (h : IsPacketIdentifier mid)

include h

theorem quarantinedDeliveryMids_quarantine :
    (c.quarantineDeliveryMid mid).quarantinedDeliveryMids =
      insert mid c.quarantinedDeliveryMids := by
  rw [quarantineDeliveryMid, if_pos h]

theorem pendingDeliveryTokens_quarantine :
    (c.quarantineDeliveryMid mid).pendingDeliveryTokens =
      Function.update c.pendingDeliveryTokens mid [] := by
  rw [quarantineDeliveryMid, if_pos h]

theorem deliveryStates_quarantine :
    (c.quarantineDeliveryMid mid).deliveryStates =
      c.deliveryStates.endPending (fun token => decide (token ∈ c.pendingDeliveryTokens mid))
        .expired := by
  rw [quarantineDeliveryMid, if_pos h]

theorem earlyPubacks_quarantine :
    (c.quarantineDeliveryMid mid).earlyPubacks =
      fun key => if key.2 = mid then 0 else c.earlyPubacks key := by
  rw [quarantineDeliveryMid, if_pos h]

end

@[simp] theorem connectionGeneration_quarantine (c : ControlClient) (mid : ℤ) :
    (c.quarantineDeliveryMid mid).connectionGeneration = c.connectionGeneration := by
  rw [quarantineDeliveryMid]
  split_ifs <;> rfl

@[simp] theorem publishSequence_quarantine (c : ControlClient) (mid : ℤ) :
    (c.quarantineDeliveryMid mid).publishSequence = c.publishSequence := by
  rw [quarantineDeliveryMid]
  split_ifs <;> rfl

@[simp] theorem inProgress_quarantine (c : ControlClient) (mid : ℤ) :
    (c.quarantineDeliveryMid mid).publishInProgressGeneration =
      c.publishInProgressGeneration := by
  rw [quarantineDeliveryMid]
  split_ifs <;> rfl

/-- What a publish that is about to be handed over records. -/
def beginPublish (c : ControlClient) : ControlClient :=
  { c with publishInProgressGeneration := some c.connectionGeneration }

/-- A publish that returned without a message id to register. -/
def endPublish (c : ControlClient) : ControlClient :=
  { c with publishInProgressGeneration := none }

/-- The state that an accepted publish is registered in, with the early acknowledgements of its
id already taken from the table. -/
def registeredState (c : ControlClient) (generation : ℕ) (mid : ℤ) : Delivery :=
  if mid ∈ c.quarantinedDeliveryMids then .expired
  else if c.earlyPubacks (generation, mid) ≠ 0 then .delivered
  else if c.connected = false ∨ generation ≠ c.connectionGeneration then .disconnected
  else .pending

def nextToken (c : ControlClient) (generation : ℕ) (mid : ℤ) : PublishDeliveryToken :=
  ⟨generation, c.publishSequence + 1, mid⟩

/-- The registration of an accepted publish in a state, up to its consequences for other
tokens. -/
def issue (c : ControlClient) (generation : ℕ) (mid : ℤ) (state : Delivery) : ControlClient :=
  let token := c.nextToken generation mid
  { c with
    publishSequence := c.publishSequence + 1
    earlyPubacks := fun _ => 0
    pendingDeliveryTokens :=
      if state = .pending then
        Function.update c.pendingDeliveryTokens mid (c.pendingDeliveryTokens mid ++ [token])
      else c.pendingDeliveryTokens
    deliveryStates := c.deliveryStates.assign token state }

/-- What an accepted publish does under the delivery lock. -/
def registerPublish (c : ControlClient) (generation : ℕ) (mid : ℤ) : ControlClient :=
  let state := c.registeredState generation mid
  let issued := c.issue generation mid state
  let settled := if state = .disconnected then issued.quarantineDeliveryMid mid else issued
  let settled := { settled with publishInProgressGeneration := none }
  pruneDeliveryStates settled.deliveryStates.length settled

theorem quarantine_issue (c : ControlClient) (generation : ℕ) {mid : ℤ}
    (h : IsPacketIdentifier mid) :
    (c.issue generation mid .disconnected).quarantineDeliveryMid mid =
      (c.quarantineDeliveryMid mid).issue generation mid .disconnected := by
  have hearly : (fun key : ℕ × ℤ => if key.2 = mid then 0 else 0) = fun _ => 0 := by
    funext key
    exact ite_self 0
  have hstates : (c.deliveryStates.assign (c.nextToken generation mid) .disconnected).endPending
      (fun token => decide (token ∈ c.pendingDeliveryTokens mid)) .expired =
        (c.deliveryStates.endPending (fun token => decide (token ∈ c.pendingDeliveryTokens mid))
          .expired).assign (c.nextToken generation mid) .disconnected :=
    DeliveryStates.endPending_assign (by decide)
  rw [quarantineDeliveryMid, if_pos h, quarantineDeliveryMid, if_pos h]
  simp only [issue, nextToken, reduceCtorEq, if_false] at hstates ⊢
  rw [hearly, hstates]

end ControlClient

end SolarFlowEms.Mqtt
