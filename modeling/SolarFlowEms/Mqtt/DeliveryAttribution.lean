import SolarFlowEms.Library.Run
import SolarFlowEms.Mqtt.ControlClient

/-!
# Whose acknowledgement a delivery is

A callback names a message id only, and the library uses an id again for another message.  A
token is nevertheless reported delivered only after the callback of its own submission, and by
that callback: an id is either quarantined, or the one token that waits under it belongs to the
one message of the open connection that may still be acknowledged.
-/

namespace SolarFlowEms.Mqtt

open Run Tables DeliveryStates ControlClient

namespace ControlClient

variable {c c' c'' : ControlClient} {mid : ℤ} {token : PublishDeliveryToken}
  {p : PublishDeliveryToken → Bool}

/-! ### Taking back attributions -/

/-- What holds of the tables between any two critical sections. -/
structure Filed (c : ControlClient) : Prop where
  mid_eq : ∀ mid, ∀ token ∈ c.pendingDeliveryTokens mid, token.mid = mid
  waiting : ∀ mid, mid ∉ c.quarantinedDeliveryMids → ∀ token ∈ c.pendingDeliveryTokens mid,
    c.deliveryStates.lookup token = some .pending
  isPacketIdentifier : ∀ entry ∈ c.deliveryStates, IsPacketIdentifier entry.1.mid
  sequence_le : ∀ entry ∈ c.deliveryStates, entry.1.sequence ≤ c.publishSequence

/-- Some ids are quarantined and some states forgotten; under every other id nothing that
waits is touched, and nothing becomes delivered. -/
structure Revokes (c c' : ControlClient) : Prop where
  quarantined : c.quarantinedDeliveryMids ⊆ c'.quarantinedDeliveryMids
  sublist : ∀ mid, (c'.pendingDeliveryTokens mid).Sublist (c.pendingDeliveryTokens mid)
  kept : ∀ mid, mid ∉ c'.quarantinedDeliveryMids → ∀ token ∈ c.pendingDeliveryTokens mid,
    c.deliveryStates.lookup token = some .pending →
      token ∈ c'.pendingDeliveryTokens mid ∧ c'.deliveryStates.lookup token = some .pending
  known : ∀ token state, (token, state) ∈ c'.deliveryStates →
    ∃ state', (token, state') ∈ c.deliveryStates
  delivered : ∀ token, (token, .delivered) ∈ c'.deliveryStates →
    (token, .delivered) ∈ c.deliveryStates
  early : ∀ key, c'.earlyPubacks key ≠ 0 → c.earlyPubacks key ≠ 0
  early_eq : ∀ key, key.2 ∉ c'.quarantinedDeliveryMids →
    c'.earlyPubacks key = c.earlyPubacks key
  connectionGeneration : c'.connectionGeneration = c.connectionGeneration
  publishSequence : c'.publishSequence = c.publishSequence
  inProgress : c'.publishInProgressGeneration = c.publishInProgressGeneration

theorem Revokes.refl (c : ControlClient) : Revokes c c where
  quarantined := Finset.Subset.refl _
  sublist := fun _ => .refl _
  kept := fun _ _ _ hmem hstate => ⟨hmem, hstate⟩
  known := fun _ state hmem => ⟨state, hmem⟩
  delivered := fun _ hmem => hmem
  early := fun _ h => h
  early_eq := fun _ _ => rfl
  connectionGeneration := rfl
  publishSequence := rfl
  inProgress := rfl

theorem Revokes.trans (h : Revokes c c') (h' : Revokes c' c'') : Revokes c c'' where
  quarantined := h.quarantined.trans h'.quarantined
  sublist := fun mid => (h'.sublist mid).trans (h.sublist mid)
  kept := by
    intro mid hmid token hmem hstate
    have hmid' : mid ∉ c'.quarantinedDeliveryMids := fun hin => hmid (h'.quarantined hin)
    obtain ⟨hmem', hstate'⟩ := h.kept mid hmid' token hmem hstate
    exact h'.kept mid hmid token hmem' hstate'
  known := by
    intro token state hmem
    obtain ⟨state', hmem'⟩ := h'.known token state hmem
    exact h.known token state' hmem'
  delivered := fun token hmem => h.delivered token (h'.delivered token hmem)
  early := fun key hkey => h.early key (h'.early key hkey)
  early_eq := by
    intro key hkey
    have hkey' : key.2 ∉ c'.quarantinedDeliveryMids := fun hin => hkey (h'.quarantined hin)
    rw [h'.early_eq key hkey, h.early_eq key hkey']
  connectionGeneration := h'.connectionGeneration.trans h.connectionGeneration
  publishSequence := h'.publishSequence.trans h.publishSequence
  inProgress := h'.inProgress.trans h.inProgress

theorem Revokes.filed (h : Revokes c c') (hc : Filed c) : Filed c' where
  mid_eq := fun mid token hmem => hc.mid_eq mid token ((h.sublist mid).subset hmem)
  waiting := by
    intro mid hmid token hmem
    have hold := (h.sublist mid).subset hmem
    have hmid' : mid ∉ c.quarantinedDeliveryMids := fun hin => hmid (h.quarantined hin)
    exact (h.kept mid hmid token hold (hc.waiting mid hmid' token hold)).2
  isPacketIdentifier := by
    intro entry hentry
    obtain ⟨state, hmem⟩ := h.known entry.1 entry.2 hentry
    exact hc.isPacketIdentifier (entry.1, state) hmem
  sequence_le := by
    intro entry hentry
    obtain ⟨state, hmem⟩ := h.known entry.1 entry.2 hentry
    rw [h.publishSequence]
    exact hc.sequence_le (entry.1, state) hmem

theorem Revokes.pending_eq (h : Revokes c c') (hc : Filed c)
    (hmid : mid ∉ c'.quarantinedDeliveryMids) (hlen : (c.pendingDeliveryTokens mid).length ≤ 1) :
    c'.pendingDeliveryTokens mid = c.pendingDeliveryTokens mid := by
  have hmid' : mid ∉ c.quarantinedDeliveryMids := fun hin => hmid (h.quarantined hin)
  cases hpending : c.pendingDeliveryTokens mid with
  | nil => exact List.sublist_nil.mp (hpending ▸ h.sublist mid)
  | cons token pending =>
    have hmem : token ∈ c.pendingDeliveryTokens mid := by simp [hpending]
    have hkept := (h.kept mid hmid token hmem (hc.waiting mid hmid' token hmem)).1
    have hsub := h.sublist mid
    rw [hpending, List.length_cons] at hlen
    obtain rfl : pending = [] := List.length_eq_zero_iff.mp (by omega)
    rw [hpending] at hsub
    rcases List.sublist_singleton.mp hsub with hnil | hone
    · simp [hnil] at hkept
    · exact hone

def WaitsUnderOwnMid (c : ControlClient) : Prop :=
  ∀ mid, ∀ token ∈ c.pendingDeliveryTokens mid, token.mid = mid

theorem Revokes.waitsUnderOwnMid (h : Revokes c c') (hc : WaitsUnderOwnMid c) :
    WaitsUnderOwnMid c' := by
  intro mid token hmem
  exact hc mid token ((h.sublist mid).subset hmem)

theorem quarantine_revokes (hc : WaitsUnderOwnMid c) (mid : ℤ) :
    Revokes c (c.quarantineDeliveryMid mid) := by
  by_cases hvalid : IsPacketIdentifier mid
  case neg =>
    rw [quarantineDeliveryMid, if_neg hvalid]
    exact .refl c
  have hquarantined := quarantinedDeliveryMids_quarantine (c := c) hvalid
  have hpending := pendingDeliveryTokens_quarantine (c := c) hvalid
  have hstates := deliveryStates_quarantine (c := c) hvalid
  have hearly := earlyPubacks_quarantine (c := c) hvalid
  refine ⟨?_, ?_, ?_, ?_, ?_, ?_, ?_, by simp, by simp, by simp⟩
  · rw [hquarantined]
    exact Finset.subset_insert _ _
  · intro other
    rw [hpending, Function.update_apply]
    split_ifs
    · exact List.nil_sublist _
    · exact .refl _
  · intro other hother token hmem hstate
    rw [hquarantined, Finset.mem_insert, not_or] at hother
    have hnot : token ∉ c.pendingDeliveryTokens mid := by
      intro hin
      exact hother.1 ((hc other token hmem).symm.trans (hc mid token hin))
    rw [hpending, hstates, Function.update_of_ne hother.1,
      lookup_endPending_of_not (decide_eq_false hnot)]
    exact ⟨hmem, hstate⟩
  · intro token state hmem
    rw [hstates] at hmem
    rcases mem_endPending hmem with hold | ⟨-, -, hold⟩
    · exact ⟨state, hold⟩
    · exact ⟨.pending, hold⟩
  · intro token hmem
    rw [hstates] at hmem
    rcases mem_endPending hmem with hold | ⟨-, hstate, -⟩
    · exact hold
    · cases hstate
  · intro key hkey
    simp only [hearly] at hkey
    split_ifs at hkey
    · exact absurd rfl hkey
    · exact hkey
  · intro key hkey
    rw [hquarantined, Finset.mem_insert, not_or] at hkey
    simp only [hearly, if_neg hkey.1]

theorem foldl_quarantine_revokes (hc : WaitsUnderOwnMid c) (mids : List ℤ) :
    Revokes c (mids.foldl quarantineDeliveryMid c) := by
  induction mids generalizing c with
  | nil => exact .refl c
  | cons mid mids ih =>
    have hfirst := quarantine_revokes hc mid
    exact hfirst.trans (ih (hfirst.waitsUnderOwnMid hc))

theorem mem_foldl_quarantine {mids : List ℤ} (hc : WaitsUnderOwnMid c) (hmem : mid ∈ mids)
    (hvalid : IsPacketIdentifier mid) :
    mid ∈ (mids.foldl quarantineDeliveryMid c).quarantinedDeliveryMids := by
  induction mids generalizing c with
  | nil => cases hmem
  | cons first mids ih =>
    have hfirst := (quarantine_revokes hc first).waitsUnderOwnMid hc
    rcases List.mem_cons.mp hmem with rfl | hrest
    · apply (foldl_quarantine_revokes hfirst mids).quarantined
      rw [quarantinedDeliveryMids_quarantine hvalid]
      exact Finset.mem_insert_self _ _
    · exact ih hfirst hrest

theorem mem_quarantined_disconnectPending (hc : Filed c) (hp : p token = true)
    (hmem : (token, .pending) ∈ c.deliveryStates) :
    token.mid ∈ (c.disconnectPending p).quarantinedDeliveryMids := by
  have hown : WaitsUnderOwnMid
      { c with deliveryStates := c.deliveryStates.endPending p .disconnected } := hc.mid_eq
  refine mem_foldl_quarantine hown ?_ (hc.isPacketIdentifier _ hmem)
  rw [List.mem_map]
  refine ⟨(token, .pending), ?_, rfl⟩
  rw [List.mem_filter]
  exact ⟨hmem, by simp [hp]⟩

theorem disconnectPending_revokes (hc : Filed c) (p : PublishDeliveryToken → Bool) :
    Revokes c (c.disconnectPending p) := by
  have hown : WaitsUnderOwnMid
      { c with deliveryStates := c.deliveryStates.endPending p .disconnected } := hc.mid_eq
  have h := foldl_quarantine_revokes hown
    ((c.deliveryStates.filter fun entry => p entry.1 && entry.2 == .pending).map (·.1.mid))
  refine ⟨h.quarantined, h.sublist, ?_, ?_, ?_, h.early, h.early_eq, h.connectionGeneration,
    h.publishSequence, h.inProgress⟩
  · intro mid hmid token hmem hstate
    by_cases hp : p token = true
    · have hin := mem_quarantined_disconnectPending hc hp (mem_of_lookup hstate)
      rw [hc.mid_eq mid token hmem] at hin
      exact absurd hin hmid
    · apply h.kept mid hmid token hmem
      show (c.deliveryStates.endPending p .disconnected).lookup token = some .pending
      rw [lookup_endPending_of_not (eq_false_of_ne_true hp)]
      exact hstate
  · intro token state hmem
    obtain ⟨state', hmem'⟩ := h.known token state hmem
    rcases mem_endPending hmem' with hold | ⟨-, -, hold⟩
    · exact ⟨state', hold⟩
    · exact ⟨.pending, hold⟩
  · intro token hmem
    rcases mem_endPending (h.delivered token hmem) with hold | ⟨-, hstate, -⟩
    · exact hold
    · cases hstate

theorem pending_disconnectPending_true (hc : Filed c)
    (hmid : mid ∉ (c.disconnectPending fun _ => true).quarantinedDeliveryMids) :
    (c.disconnectPending fun _ => true).pendingDeliveryTokens mid = [] := by
  have hrev := disconnectPending_revokes hc fun _ => true
  rw [List.eq_nil_iff_forall_not_mem]
  intro token hmem
  have hold := (hrev.sublist mid).subset hmem
  have hmid' : mid ∉ c.quarantinedDeliveryMids := fun hin => hmid (hrev.quarantined hin)
  have hstate := mem_of_lookup (hc.waiting mid hmid' token hold)
  have hin := mem_quarantined_disconnectPending hc (p := fun _ => true) rfl hstate
  rw [hc.mid_eq mid token hold] at hin
  exact hmid hin

theorem forget_lost_revokes {states : DeliveryStates} {state : Delivery} (hc : Filed c)
    (hstates : c.deliveryStates = (token, state) :: states) :
    Revokes c ({ c with deliveryStates := states }.quarantineDeliveryMid token.mid) := by
  have hown : WaitsUnderOwnMid { c with deliveryStates := states } := hc.mid_eq
  have h := quarantine_revokes hown token.mid
  have hvalid : IsPacketIdentifier token.mid :=
    hc.isPacketIdentifier (token, state) (hstates ▸ List.mem_cons_self)
  refine ⟨h.quarantined, h.sublist, ?_, ?_, ?_, h.early, h.early_eq, h.connectionGeneration,
    h.publishSequence, h.inProgress⟩
  · intro mid hmid other hmem hstate
    apply h.kept mid hmid other hmem
    rw [quarantinedDeliveryMids_quarantine hvalid, Finset.mem_insert, not_or] at hmid
    have hne : other ≠ token := by
      rintro rfl
      exact hmid.1 (hc.mid_eq mid other hmem).symm
    rw [hstates, List.lookup_cons, beq_false_of_ne hne] at hstate
    exact hstate
  · intro other state' hmem
    obtain ⟨state'', hmem'⟩ := h.known other state' hmem
    exact ⟨state'', hstates ▸ List.mem_cons_of_mem _ hmem'⟩
  · intro other hmem
    exact hstates ▸ List.mem_cons_of_mem _ (h.delivered other hmem)

theorem forget_settled_revokes {states : DeliveryStates} {state : Delivery}
    (hstates : c.deliveryStates = (token, state) :: states) (hstate : state ≠ .pending) :
    Revokes c { c with
      deliveryStates := states
      pendingDeliveryTokens := Function.update c.pendingDeliveryTokens token.mid
        ((c.pendingDeliveryTokens token.mid).filter (· ≠ token)) } := by
  refine ⟨Finset.Subset.refl _, ?_, ?_, ?_, ?_, fun _ h => h, fun _ _ => rfl, rfl, rfl, rfl⟩
  · intro mid
    show (Function.update c.pendingDeliveryTokens token.mid
      ((c.pendingDeliveryTokens token.mid).filter (· ≠ token)) mid).Sublist _
    rw [Function.update_apply]
    split_ifs with hmid
    · exact hmid ▸ List.filter_sublist
    · exact .refl _
  · intro mid hmid other hmem hpending
    have hne : other ≠ token := by
      rintro rfl
      rw [hstates, List.lookup_cons, beq_self_eq_true] at hpending
      exact hstate (Option.some.inj hpending)
    rw [hstates, List.lookup_cons, beq_false_of_ne hne] at hpending
    refine ⟨?_, hpending⟩
    show other ∈ Function.update c.pendingDeliveryTokens token.mid
      ((c.pendingDeliveryTokens token.mid).filter (· ≠ token)) mid
    rw [Function.update_apply]
    split_ifs with heq
    · rw [List.mem_filter]
      exact ⟨heq ▸ hmem, by simpa using hne⟩
    · exact hmem
  · intro other state' hmem
    exact ⟨state', hstates ▸ List.mem_cons_of_mem _ hmem⟩
  · intro other hmem
    exact hstates ▸ List.mem_cons_of_mem _ hmem

/-- **The pruning only takes attributions back.** -/
theorem pruneDeliveryStates_revokes (hc : Filed c) (rounds : ℕ) :
    Revokes c (pruneDeliveryStates rounds c) := by
  induction rounds generalizing c with
  | zero => exact .refl c
  | succ rounds ih =>
    rw [pruneDeliveryStates]
    split_ifs with hlen
    · exact .refl c
    cases hstates : c.deliveryStates with
    | nil => exact .refl c
    | cons entry states =>
      obtain ⟨token, state⟩ := entry
      show Revokes c (if _ then _ else _)
      split_ifs with hlost
      · have hrev := forget_lost_revokes hc hstates
        exact hrev.trans (ih (hrev.filed hc))
      · have hrev := forget_settled_revokes hstates (not_or.mp hlost).1
        exact hrev.trans (ih (hrev.filed hc))

/-! ### Registering -/

variable {generation : ℕ} {state : Delivery} {other : PublishDeliveryToken} {mid' : ℤ}

/-- The state of a registration fits what is known of the message. -/
structure Fits (c : ControlClient) (generation : ℕ) (mid : ℤ) (state : Delivery) : Prop where
  delivered : state = .delivered → c.earlyPubacks (generation, mid) ≠ 0
  pending : state = .pending →
    c.earlyPubacks (generation, mid) = 0 ∧ generation = c.connectionGeneration
  lost : state ≠ .delivered → state ≠ .pending → mid ∈ c.quarantinedDeliveryMids

theorem fits_registeredState (hstate : c.registeredState generation mid ≠ .disconnected) :
    c.Fits generation mid (c.registeredState generation mid) := by
  rw [registeredState] at *
  split_ifs at * with hmid hearly hlost
  · exact ⟨nofun, nofun, fun _ _ => hmid⟩
  · exact ⟨fun _ => hearly, nofun, fun h => absurd rfl h⟩
  · exact absurd rfl hstate
  · rw [not_or, not_not] at hlost
    exact ⟨nofun, fun _ => ⟨not_not.mp hearly, hlost.2⟩, fun _ h => absurd rfl h⟩

/-- Under the id of the message the new token waits behind the others, if it waits at all. -/
theorem pending_issue : (c.issue generation mid state).pendingDeliveryTokens mid' =
    c.pendingDeliveryTokens mid' ++
      if state = .pending ∧ mid' = mid then [c.nextToken generation mid] else [] := by
  by_cases hstate : state = .pending <;> by_cases hmid : mid' = mid <;>
    simp [issue, hstate, hmid]

theorem mem_pending_issue : other ∈ (c.issue generation mid state).pendingDeliveryTokens mid' ↔
    other ∈ c.pendingDeliveryTokens mid' ∨
      (state = .pending ∧ mid' = mid) ∧ other = c.nextToken generation mid := by
  rw [pending_issue, List.mem_append, List.mem_ite_nil_right, List.mem_singleton]

theorem Filed.lookup_issue (hc : Filed c) {known : Delivery}
    (h : c.deliveryStates.lookup other = some known) :
    (c.issue generation mid state).deliveryStates.lookup other = some known := by
  refine lookup_assign.trans ((if_neg fun heq => ?_).trans h)
  have hle := hc.sequence_le _ (mem_of_lookup h)
  rw [heq] at hle
  exact Nat.not_succ_le_self _ hle

theorem Filed.issue (hc : Filed c) (hvalid : IsPacketIdentifier mid) :
    Filed (c.issue generation mid state) where
  mid_eq := by
    intro mid' other hmem
    rcases mem_pending_issue.mp hmem with hmem | ⟨⟨-, rfl⟩, rfl⟩
    · exact hc.mid_eq mid' other hmem
    · rfl
  waiting := by
    intro mid' hmid' other hmem
    rcases mem_pending_issue.mp hmem with hmem | ⟨⟨rfl, -⟩, rfl⟩
    · exact hc.lookup_issue (hc.waiting mid' hmid' other hmem)
    · exact lookup_assign.trans (if_pos rfl)
  isPacketIdentifier := by
    intro entry hentry
    rcases mem_assign hentry with ⟨heq, -⟩ | hmem
    · rw [heq]
      exact hvalid
    · exact hc.isPacketIdentifier entry hmem
  sequence_le := by
    intro entry hentry
    rcases mem_assign hentry with ⟨heq, -⟩ | hmem
    · rw [heq]
      exact le_rfl
    · exact (hc.sequence_le entry hmem).trans (Nat.le_succ _)

end ControlClient

/-! ### The publishers, the library and its network thread -/

/-- What the network thread is doing.  A callback is interrupted between its locked part and
the rest of it by publishers only. -/
inductive Network
  | down
  | opening
  | up
  | closing
  deriving DecidableEq

/-- What handing a message to the library comes to: an exception or a return code, or a message
that was accepted, under a message id or without one. -/
inductive Handed
  | failed
  | accepted (mid : Option ℤ)
  deriving DecidableEq

/-- The publisher that holds the publish lock. -/
inductive Publisher
  | idle
  | begun (generation : ℕ)
  | answered (generation : ℕ) (handed : Handed)
  deriving DecidableEq

def Publisher.generation? : Publisher → Option ℕ
  | .idle => none
  | .begun generation => some generation
  | .answered generation _ => some generation

/-- A message that the library accepted under an id, the connection that it goes out on and
whether its acknowledgement callback happened. -/
structure Submission where
  mid : ℤ
  connection : ℕ
  acknowledged : Bool
  deriving DecidableEq

def Submission.acknowledge (submission : Submission) : Submission :=
  { submission with acknowledged := true }

/-- The client among its threads.  The submissions are in the order of their acceptance, which
is that of their registration: `tokens` are the tokens that the first of them were given.
`earlyBy` is the submission whose callback was counted last under an early key, and `credits`
are the tokens that became delivered and the submission whose callback each was credited to. -/
structure World where
  client : ControlClient
  network : Network
  waiting : ℕ
  publisher : Publisher
  submissions : List Submission
  tokens : List PublishDeliveryToken
  earlyBy : ℕ × ℤ → Option ℕ
  credits : List (PublishDeliveryToken × Option ℕ)

inductive Action
  | start
  | stop
  | arrive
  | begin
  | hand (handed : Handed)
  | finish
  | acknowledge (submission : ℕ)
  | connect
  | connectReturns (refused : Bool)
  | disconnect
  | disconnectReturns
  deriving DecidableEq

namespace World

/-- Nothing has happened. -/
def fresh : World where
  client := .fresh
  network := .down
  waiting := 0
  publisher := .idle
  submissions := []
  tokens := []
  earlyBy := fun _ => none
  credits := []

/-- A connection is open from its connect callback on until its disconnect callback. -/
def Open (w : World) : Prop := w.network = .opening ∨ w.network = .up

instance (w : World) : Decidable w.Open :=
  inferInstanceAs (Decidable (w.network = .opening ∨ w.network = .up))

/-- The connection that a message accepted now goes out on: the open one, or the next. -/
def connection (w : World) : ℕ :=
  if w.Open then w.client.connectionGeneration else w.client.connectionGeneration + 1

def newlyDelivered (before after : ControlClient) : List PublishDeliveryToken :=
  (after.deliveryStates.filter fun entry =>
    entry.2 = .delivered ∧ entry ∉ before.deliveryStates).map (·.1)

/-- One critical section of a thread, or one step of it outside of them.  What a thread cannot
do now is no step. -/
def step (w : World) : Action → World
  | .start => { w with client := { w.client with hasClient := true } }
  | .stop => { w with client := { w.client with hasClient := false, connected := false } }
  | .arrive =>
    if w.client.hasClient = true ∧ w.client.connected = true then
      { w with waiting := w.waiting + 1 }
    else w
  | .begin =>
    if 0 < w.waiting ∧ w.publisher = .idle then
      { w with
        waiting := w.waiting - 1
        client := w.client.beginPublish
        publisher := .begun w.client.connectionGeneration }
    else w
  | .hand handed =>
    match w.publisher with
    | .begun generation =>
      { w with
        publisher := .answered generation handed
        submissions :=
          match handed with
          | .accepted (some mid) => w.submissions ++ [⟨mid, w.connection, false⟩]
          | _ => w.submissions }
    | _ => w
  | .finish =>
    match w.publisher with
    | .answered generation (.accepted (some mid)) =>
      let client := w.client.registerPublish generation mid
      { w with
        client := client
        publisher := .idle
        tokens := w.tokens ++ [w.client.nextToken generation mid]
        credits := w.credits ++ (newlyDelivered w.client client).map fun token =>
          (token, w.earlyBy (token.connectionGeneration, token.mid)) }
    | .answered _ _ => { w with client := w.client.endPublish, publisher := .idle }
    | _ => w
  | .acknowledge i =>
    match w.submissions[i]? with
    | some submission =>
      let client := w.client.onPublish submission.mid
      let key := (w.client.connectionGeneration, submission.mid)
      { w with
        client := client
        submissions := w.submissions.modify i .acknowledge
        earlyBy :=
          if w.client.earlyPubacks key < client.earlyPubacks key then
            Function.update w.earlyBy key (some i)
          else w.earlyBy
        credits := w.credits ++ (newlyDelivered w.client client).map fun token =>
          (token, some i) }
    | none => w
  | .connect =>
    if w.network = .down ∨ w.network = .up then
      { w with client := w.client.onConnectLocked, network := .opening }
    else w
  | .connectReturns refused =>
    if w.network = .opening then
      { w with
        client := { w.client with connected := !refused }
        network := if refused then .down else .up }
    else w
  | .disconnect =>
    if w.network = .down ∨ w.network = .up then
      { w with client := w.client.onDisconnectLocked, network := .closing }
    else w
  | .disconnectReturns =>
    if w.network = .closing then
      { w with client := { w.client with connected := false }, network := .down }
    else w

/-- What the MQTT library is relied on for.  The ids it gives are packet identifiers, and no
message of one connection is given the id of another that is outstanding.  It calls back for a
message that it accepted, once, and over an open connection: an acknowledgement follows the
connection's own and does not outlive the connection.  Nothing else is assumed of the order. -/
def Contract (w : World) : Action → Prop
  | .hand (.accepted (some mid)) =>
    IsPacketIdentifier mid ∧
      ∀ submission ∈ w.submissions, submission.connection = w.connection →
        submission.mid = mid → submission.acknowledged = true
  | .acknowledge i =>
    w.network = .up ∧
      ∃ submission, w.submissions[i]? = some submission ∧ submission.acknowledged = false
  | _ => True

/-- The messages are registered one by one in the order of their acceptance. -/
structure Ordered (publisher : Publisher) (submissions : List Submission)
    (tokens : List PublishDeliveryToken) : Prop where
  tokens_le : tokens.length ≤ submissions.length
  handed : ∀ generation mid, publisher = .answered generation (.accepted (some mid)) →
    IsPacketIdentifier mid ∧ ∃ submission, submissions[tokens.length]? = some submission ∧
      submission.mid = mid
  registered : submissions.length ≤ tokens.length ∨
    ∃ generation mid, publisher = .answered generation (.accepted (some mid)) ∧
      submissions.length = tokens.length + 1
  mid_eq : ∀ (i : ℕ) token submission, tokens[i]? = some token →
    submissions[i]? = some submission → token.mid = submission.mid
  sequence_eq : ∀ (i : ℕ) token, tokens[i]? = some token → token.sequence = i + 1

/-- **What the tables say of the messages.**  An id that is not quarantined has every message
that was not acknowledged among its waiting tokens; while a connection is open at most one
token waits under it, the one of a message of that connection. -/
structure Ledger (w : World) : Prop where
  filed : w.client.Filed
  ordered : Ordered w.publisher w.submissions w.tokens
  publishSequence : w.client.publishSequence = w.tokens.length
  inProgress : w.client.publishInProgressGeneration = w.publisher.generation?
  generation_le : ∀ generation, w.publisher.generation? = some generation →
    generation ≤ w.client.connectionGeneration
  covered : ∀ (i : ℕ) token submission, w.tokens[i]? = some token →
    w.submissions[i]? = some submission →
    submission.mid ∉ w.client.quarantinedDeliveryMids → submission.acknowledged = true ∨
      token ∈ w.client.pendingDeliveryTokens submission.mid
  delivered : ∀ token, (token, .delivered) ∈ w.client.deliveryStates →
    ∃ (i : ℕ) (submission : Submission), w.tokens[i]? = some token ∧
      w.submissions[i]? = some submission ∧ submission.acknowledged = true
  credits : ∀ credit ∈ w.credits, ∃ i : ℕ, credit.2 = some i ∧ w.tokens[i]? = some credit.1
  early : ∀ key, w.client.earlyPubacks key ≠ 0 →
    w.publisher = .answered key.1 (.accepted (some key.2)) ∧
      w.earlyBy key = some w.tokens.length ∧
      ∃ submission, w.submissions[w.tokens.length]? = some submission ∧
        submission.acknowledged = true
  single : w.Open → ∀ mid, mid ∉ w.client.quarantinedDeliveryMids →
    w.client.pendingDeliveryTokens mid = [] ∨
      ∃ (i : ℕ) (token : PublishDeliveryToken) (submission : Submission),
        w.client.pendingDeliveryTokens mid = [token] ∧ w.tokens[i]? = some token ∧
        w.submissions[i]? = some submission ∧ submission.acknowledged = false ∧
        submission.connection = w.client.connectionGeneration
  vacant : w.Open → ∀ generation, w.publisher.generation? = some generation →
    generation ≠ w.client.connectionGeneration →
      ∀ mid, mid ∉ w.client.quarantinedDeliveryMids → w.client.pendingDeliveryTokens mid = []
  inFlight : w.Open → ∀ mid,
    w.publisher = .answered w.client.connectionGeneration (.accepted (some mid)) →
    mid ∉ w.client.quarantinedDeliveryMids → w.client.pendingDeliveryTokens mid = [] ∧
      ∀ submission, w.submissions[w.tokens.length]? = some submission →
        submission.connection = w.client.connectionGeneration ∧
        (submission.acknowledged = true →
          w.client.earlyPubacks (w.client.connectionGeneration, mid) ≠ 0)

variable {w : World} {c' : ControlClient} {mid : ℤ} {i : ℕ}

theorem ledger_fresh : Ledger fresh where
  filed := {
    mid_eq := by simp [fresh, ControlClient.fresh]
    waiting := by simp [fresh, ControlClient.fresh]
    isPacketIdentifier := by simp [fresh, ControlClient.fresh]
    sequence_le := by simp [fresh, ControlClient.fresh] }
  ordered := {
    tokens_le := le_refl _
    handed := by simp [fresh]
    registered := .inl (le_refl _)
    mid_eq := by simp [fresh]
    sequence_eq := by simp [fresh] }
  publishSequence := rfl
  inProgress := rfl
  generation_le := by simp [fresh, Publisher.generation?]
  covered := by simp [fresh]
  delivered := by simp [fresh, ControlClient.fresh]
  credits := by simp [fresh]
  early := by simp [fresh, ControlClient.fresh]
  single := by simp [fresh, ControlClient.fresh]
  vacant := by simp [fresh, ControlClient.fresh]
  inFlight := by simp [fresh]

variable {generation j : ℕ} {submission : Submission}

section

variable (h : Ledger w)
include h

theorem Ledger.flags (hasClient connected : Bool) (waiting : ℕ) {network : Network}
    (hopen : network = .opening ∨ network = .up → w.Open) :
    Ledger { w with
      client := { w.client with hasClient := hasClient, connected := connected }
      network := network
      waiting := waiting } :=
  { h with
    filed := { h.filed with }
    single := fun ho => h.single (hopen ho)
    vacant := fun ho => h.vacant (hopen ho)
    inFlight := fun ho => h.inFlight (hopen ho) }

theorem Ledger.length_pending_le (hopen : w.Open) (hmid : mid ∉ w.client.quarantinedDeliveryMids) :
    (w.client.pendingDeliveryTokens mid).length ≤ 1 := by
  rcases h.single hopen mid hmid with hnil | ⟨i, token, submission, hone, -⟩
  · simp [hnil]
  · simp [hone]

/-- **Taking attributions back keeps the ledger.** -/
theorem Ledger.revoke (hrev : w.client.Revokes c') :
    Ledger { w with client := c' } where
  filed := hrev.filed h.filed
  ordered := h.ordered
  publishSequence := hrev.publishSequence.trans h.publishSequence
  inProgress := hrev.inProgress.trans h.inProgress
  generation_le := by
    intro generation hgen
    exact (h.generation_le generation hgen).trans_eq hrev.connectionGeneration.symm
  covered := by
    intro i token submission htoken hsub hmid
    have hmid' : submission.mid ∉ w.client.quarantinedDeliveryMids :=
      fun hin => hmid (hrev.quarantined hin)
    rcases h.covered i token submission htoken hsub hmid' with hack | hmem
    · exact .inl hack
    · exact .inr (hrev.kept _ hmid token hmem (h.filed.waiting _ hmid' token hmem)).1
  delivered := fun token hmem => h.delivered token (hrev.delivered token hmem)
  credits := h.credits
  early := fun key hkey => h.early key (hrev.early key hkey)
  single := by
    intro hopen mid hmid
    have hmid' : mid ∉ w.client.quarantinedDeliveryMids := fun hin => hmid (hrev.quarantined hin)
    show c'.pendingDeliveryTokens mid = [] ∨ _
    rw [hrev.pending_eq h.filed hmid (h.length_pending_le hopen hmid'),
      hrev.connectionGeneration]
    exact h.single hopen mid hmid'
  vacant := by
    intro hopen generation hgen hne mid hmid
    have hmid' : mid ∉ w.client.quarantinedDeliveryMids := fun hin => hmid (hrev.quarantined hin)
    have hnil := h.vacant hopen generation hgen
      (fun heq => hne (heq.trans hrev.connectionGeneration.symm)) mid hmid'
    exact List.sublist_nil.mp (hnil ▸ hrev.sublist mid)
  inFlight := by
    intro hopen mid hpub hmid
    have hmid' : mid ∉ w.client.quarantinedDeliveryMids := fun hin => hmid (hrev.quarantined hin)
    have hpub' : w.publisher =
        .answered w.client.connectionGeneration (.accepted (some mid)) :=
      hrev.connectionGeneration ▸ hpub
    obtain ⟨hnil, hsub⟩ := h.inFlight hopen mid hpub' hmid'
    refine ⟨List.sublist_nil.mp (hnil ▸ hrev.sublist mid), ?_⟩
    show ∀ submission, w.submissions[w.tokens.length]? = some submission →
      submission.connection = c'.connectionGeneration ∧ (submission.acknowledged = true →
        c'.earlyPubacks (c'.connectionGeneration, mid) ≠ 0)
    rw [hrev.connectionGeneration, hrev.early_eq _ hmid]
    exact hsub

/-! ### The network thread -/

theorem Ledger.connect : Ledger (w.step .connect) := by
  rw [step]
  split_ifs
  case neg => exact h
  have hrev := disconnectPending_revokes h.filed fun _ => true
  have hnil : ∀ mid, mid ∉ (w.client.disconnectPending fun _ => true).quarantinedDeliveryMids →
      (w.client.disconnectPending fun _ => true).pendingDeliveryTokens mid = [] :=
    fun mid hmid => pending_disconnectPending_true h.filed hmid
  have hr := h.revoke hrev
  have hne : ∀ generation, w.publisher.generation? = some generation →
      generation ≠ (w.client.disconnectPending fun _ => true).connectionGeneration + 1 := by
    intro generation hgen
    have := hr.generation_le generation hgen
    exact Nat.ne_of_lt (Nat.lt_succ_of_le this)
  exact { hr with
    filed := { hr.filed with }
    generation_le := fun generation hgen => (hr.generation_le generation hgen).trans (Nat.le_succ _)
    early := fun key hkey => absurd rfl hkey
    single := fun _ mid hmid => .inl (hnil mid hmid)
    vacant := fun _ _ _ _ mid hmid => hnil mid hmid
    inFlight := by
      intro _ mid hpub
      have hpub' : w.publisher = .answered
          ((w.client.disconnectPending fun _ => true).connectionGeneration + 1)
          (.accepted (some mid)) := hpub
      exact absurd rfl (hne _ (hpub' ▸ rfl)) }

theorem Ledger.disconnect : Ledger (w.step .disconnect) := by
  rw [step]
  split_ifs
  case neg => exact h
  have hr := h.revoke (disconnectPending_revokes h.filed
    fun token => token.connectionGeneration = w.client.connectionGeneration)
  exact { hr with
    filed := { hr.filed with }
    early := fun key hkey => absurd rfl hkey
    single := by rintro (hopen | hopen) <;> cases hopen
    vacant := by rintro (hopen | hopen) <;> cases hopen
    inFlight := by rintro (hopen | hopen) <;> cases hopen }

theorem Ledger.connectReturns (refused : Bool) :
    Ledger (w.step (.connectReturns refused)) := by
  rw [step]
  by_cases hnet : w.network = .opening
  · rw [if_pos hnet]
    exact h.flags w.client.hasClient (!refused) w.waiting fun _ => .inl hnet
  · rw [if_neg hnet]
    exact h

theorem Ledger.disconnectReturns : Ledger (w.step .disconnectReturns) := by
  rw [step]
  split_ifs
  · exact h.flags w.client.hasClient false w.waiting (by simp)
  · exact h

/-! ### The publishers -/

theorem Ledger.early_eq_zero
    (hpub : ∀ generation mid, w.publisher ≠ .answered generation (.accepted (some mid)))
    (key : ℕ × ℤ) : w.client.earlyPubacks key = 0 := by
  by_contra hkey
  exact hpub _ _ (h.early key hkey).1

theorem Ledger.length_submissions
    (hpub : ∀ generation mid, w.publisher ≠ .answered generation (.accepted (some mid))) :
    w.submissions.length = w.tokens.length := by
  rcases h.ordered.registered with hle | ⟨generation, mid, heq, -⟩
  · exact le_antisymm hle h.ordered.tokens_le
  · exact absurd heq (hpub generation mid)

theorem Ledger.begin : Ledger (w.step .begin) := by
  rw [step]
  split_ifs with hidle
  case neg => exact h
  have hpub : ∀ generation mid, w.publisher ≠ .answered generation (.accepted (some mid)) := by
    rw [hidle.2]
    exact fun _ _ heq => by cases heq
  exact { h with
    filed := { h.filed with }
    ordered := { h.ordered with
      handed := fun _ _ heq => by cases heq
      registered := .inl (h.length_submissions hpub).le }
    inProgress := rfl
    generation_le := fun _ heq => (Option.some.inj heq).symm.le
    early := fun key hkey => absurd (h.early_eq_zero hpub key) hkey
    vacant := fun _ _ heq hne => absurd (Option.some.inj heq).symm hne
    inFlight := fun _ _ heq => by cases heq }

/-- **Under the id of a message that is being handed over nothing waits**: a waiting token
would be that of an outstanding message of the same connection. -/
theorem Ledger.pending_eq_nil_of_contract (hopen : w.Open)
    (hcontract : w.Contract (.hand (.accepted (some mid))))
    (hmid : mid ∉ w.client.quarantinedDeliveryMids) :
    w.client.pendingDeliveryTokens mid = [] := by
  rcases h.single hopen mid hmid with hnil | ⟨i, token, submission, hone, htoken, hsub, hack, hconn⟩
  · exact hnil
  have hown : token.mid = mid := h.filed.mid_eq mid token (by simp [hone])
  have hmids := h.ordered.mid_eq i token submission htoken hsub
  have hconnection : w.connection = w.client.connectionGeneration := if_pos hopen
  have := hcontract.2 submission (List.mem_of_getElem? hsub) (hconn.trans hconnection.symm)
    (hmids.symm.trans hown)
  rw [hack] at this
  cases this

theorem Ledger.answered {handed : Handed}
    (hpub : w.publisher = .begun generation) (hhanded : ∀ mid, handed ≠ .accepted (some mid)) :
    Ledger { w with publisher := .answered generation handed } := by
  have hnot : ∀ generation mid, w.publisher ≠ .answered generation (.accepted (some mid)) := by
    rw [hpub]
    exact fun _ _ heq => by cases heq
  have hnot' : ∀ generation' mid,
      Publisher.answered generation handed ≠ .answered generation' (.accepted (some mid)) := by
    intro generation' mid heq
    exact hhanded mid (Publisher.answered.inj heq).2
  have hgen : w.publisher.generation? = some generation := by rw [hpub, Publisher.generation?]
  exact { h with
    ordered := { h.ordered with
      handed := fun generation' mid heq => absurd heq (hnot' generation' mid)
      registered := .inl (h.length_submissions hnot).le }
    inProgress := h.inProgress.trans hgen
    generation_le := fun generation' heq => h.generation_le generation' (hgen.trans heq)
    early := fun key hkey => absurd (h.early_eq_zero hnot key) hkey
    vacant := fun hopen generation' heq => h.vacant hopen generation' (hgen.trans heq)
    inFlight := fun _ mid heq => absurd heq (hnot' _ mid) }

theorem Ledger.accepted (hpub : w.publisher = .begun generation)
    (hcontract : w.Contract (.hand (.accepted (some mid)))) :
    Ledger { w with
      publisher := .answered generation (.accepted (some mid))
      submissions := w.submissions ++ [⟨mid, w.connection, false⟩] } := by
  have hnot : ∀ generation mid, w.publisher ≠ .answered generation (.accepted (some mid)) := by
    rw [hpub]
    exact fun _ _ heq => by cases heq
  have hlen := h.length_submissions hnot
  have hgen : w.publisher.generation? = some generation := by rw [hpub, Publisher.generation?]
  have hlast : (w.submissions ++ [⟨mid, w.connection, false⟩])[w.tokens.length]? =
      some ⟨mid, w.connection, false⟩ := by rw [← hlen, List.getElem?_concat_length]
  have hold : ∀ (i : ℕ) (token : PublishDeliveryToken), w.tokens[i]? = some token →
      (w.submissions ++ [⟨mid, w.connection, false⟩])[i]? = w.submissions[i]? := by
    intro i token htoken
    have hi : i < w.tokens.length := (List.getElem?_eq_some_iff.mp htoken).1
    exact List.getElem?_append_left (hlen ▸ hi)
  exact { h with
    ordered := { h.ordered with
      tokens_le := by simp [hlen]
      handed := by
        intro generation' mid' heq
        obtain rfl : mid = mid' :=
          Option.some.inj (Handed.accepted.inj (Publisher.answered.inj heq).2)
        exact ⟨hcontract.1, _, hlast, rfl⟩
      registered := .inr ⟨generation, mid, rfl, by simp [hlen]⟩
      mid_eq := by
        intro i token submission htoken hsub
        rw [hold i token htoken] at hsub
        exact h.ordered.mid_eq i token submission htoken hsub }
    inProgress := h.inProgress.trans hgen
    generation_le := fun generation' heq => h.generation_le generation' (hgen.trans heq)
    covered := by
      intro i token submission htoken hsub
      rw [hold i token htoken] at hsub
      exact h.covered i token submission htoken hsub
    delivered := by
      intro token hmem
      obtain ⟨i, submission, htoken, hsub, hack⟩ := h.delivered token hmem
      exact ⟨i, submission, htoken, (hold i token htoken).trans hsub, hack⟩
    early := fun key hkey => absurd (h.early_eq_zero hnot key) hkey
    single := by
      intro hopen mid' hmid'
      rcases h.single hopen mid' hmid' with hnil | ⟨i, token, submission, hone, htoken, hsub, hrest⟩
      · exact .inl hnil
      · exact .inr ⟨i, token, submission, hone, htoken, (hold i token htoken).trans hsub, hrest⟩
    vacant := fun hopen generation' heq => h.vacant hopen generation' (hgen.trans heq)
    inFlight := by
      intro hopen mid' heq hmid'
      obtain rfl : mid = mid' :=
        Option.some.inj (Handed.accepted.inj (Publisher.answered.inj heq).2)
      refine ⟨h.pending_eq_nil_of_contract hopen hcontract hmid', ?_⟩
      intro submission hsub
      obtain rfl := Option.some.inj (hlast.symm.trans hsub)
      exact ⟨if_pos hopen, fun hack => by cases hack⟩ }

theorem Ledger.hand {handed : Handed} (hcontract : w.Contract (.hand handed)) :
    Ledger (w.step (.hand handed)) := by
  cases hpub : w.publisher with
  | begun generation =>
    simp only [step, hpub]
    match handed, hcontract with
    | .failed, _ => exact h.answered hpub (fun _ heq => by cases heq)
    | .accepted none, _ => exact h.answered hpub (fun _ heq => by cases heq)
    | .accepted (some mid), hcontract => exact h.accepted hpub hcontract
  | idle =>
    simp only [step, hpub]
    exact h
  | answered generation handed =>
    simp only [step, hpub]
    exact h

theorem Ledger.ended
    (hpub : ∀ generation mid, w.publisher ≠ .answered generation (.accepted (some mid))) :
    Ledger { w with client := w.client.endPublish, publisher := .idle } :=
  { h with
    filed := { h.filed with }
    ordered := { h.ordered with
      handed := fun _ _ heq => by cases heq
      registered := .inl (h.length_submissions hpub).le }
    inProgress := rfl
    generation_le := fun _ heq => by cases heq
    early := fun key hkey => absurd (h.early_eq_zero hpub key) hkey
    vacant := fun _ _ heq => by cases heq
    inFlight := fun _ _ heq => by cases heq }

end

section Registering

variable {tokens : List PublishDeliveryToken} {token other : PublishDeliveryToken}
  {state : Delivery}

theorem getElem?_registered (h : tokens[i]? = some other) :
    (tokens ++ [token])[i]? = some other := by
  rw [List.getElem?_append_left (List.getElem?_eq_some_iff.mp h).1, h]

theorem of_getElem?_registered (h : (tokens ++ [token])[i]? = some other) :
    tokens[i]? = some other ∨ (i = tokens.length ∧ other = token) := by
  rw [List.getElem?_append] at h
  split_ifs at h with hi
  · exact .inl h
  · obtain ⟨hlt, heq⟩ := List.getElem?_eq_some_iff.mp h
    rw [List.length_singleton] at hlt
    exact .inr ⟨by omega, by simpa using heq.symm⟩

theorem Ordered.register {submissions : List Submission}
    (h : Ordered (.answered generation (.accepted (some token.mid))) submissions tokens)
    (hsequence : token.sequence = tokens.length + 1) :
    Ordered .idle submissions (tokens ++ [token]) := by
  obtain ⟨-, submission, hsub, hmid⟩ := h.handed _ _ rfl
  have hlength : (tokens ++ [token]).length = tokens.length + 1 := List.length_append
  exact {
    tokens_le := hlength.trans_le (List.getElem?_eq_some_iff.mp hsub).1
    handed := fun _ _ heq => by cases heq
    registered := by
      rcases h.registered with hle | ⟨_, _, -, hlen⟩
      · exact .inl (hle.trans (hlength ▸ Nat.le_succ _))
      · exact .inl (hlen.trans hlength.symm).le
    mid_eq := by
      intro i other submission' hother hsub'
      rcases of_getElem?_registered hother with hother | ⟨rfl, rfl⟩
      · exact h.mid_eq i other submission' hother hsub'
      · exact hmid.symm.trans (congrArg _ (Option.some.inj (hsub.symm.trans hsub')))
    sequence_eq := by
      intro i other hother
      rcases of_getElem?_registered hother with hother | ⟨rfl, rfl⟩
      · exact h.sequence_eq i other hother
      · exact hsequence }

variable (h : Ledger w) (hpub : w.publisher = .answered generation (.accepted (some mid)))
  (hfits : w.client.Fits generation mid state)

include h hpub hfits

theorem Ledger.covered_issue
    (htoken : (w.tokens ++ [w.client.nextToken generation mid])[i]? = some token)
    (hsub : w.submissions[i]? = some submission)
    (hmid : submission.mid ∉ w.client.quarantinedDeliveryMids) :
    submission.acknowledged = true ∨
      token ∈ (w.client.issue generation mid state).pendingDeliveryTokens submission.mid := by
  rw [mem_pending_issue]
  rcases of_getElem?_registered htoken with htoken | ⟨rfl, rfl⟩
  · exact (h.covered i token submission htoken hsub hmid).imp_right .inl
  obtain ⟨-, submission', hsub', rfl⟩ := h.ordered.handed generation mid hpub
  obtain rfl := Option.some.inj (hsub.symm.trans hsub')
  by_cases hdelivered : state = .delivered
  · obtain ⟨-, -, submission', hsub', hack⟩ := h.early _ (hfits.delivered hdelivered)
    exact .inl (Option.some.inj (hsub.symm.trans hsub') ▸ hack)
  · by_cases hpending : state = .pending
    · exact .inr (.inr ⟨⟨hpending, rfl⟩, rfl⟩)
    · exact absurd (hfits.lost hdelivered hpending) hmid

/-- The new token waits alone: under the id of a message that is handed over nothing waits. -/
theorem Ledger.single_issue (hopen : w.Open) {mid' : ℤ}
    (hmid : mid' ∉ w.client.quarantinedDeliveryMids) :
    (w.client.issue generation mid state).pendingDeliveryTokens mid' = [] ∨
      ∃ (i : ℕ) (token : PublishDeliveryToken) (submission : Submission),
        (w.client.issue generation mid state).pendingDeliveryTokens mid' = [token] ∧
        (w.tokens ++ [w.client.nextToken generation mid])[i]? = some token ∧
        w.submissions[i]? = some submission ∧ submission.acknowledged = false ∧
        submission.connection = w.client.connectionGeneration := by
  rw [pending_issue]
  by_cases hnew : state = .pending ∧ mid' = mid
  · rw [if_pos hnew]
    obtain ⟨hstate, rfl⟩ := hnew
    obtain ⟨hearly, rfl⟩ := hfits.pending hstate
    obtain ⟨-, submission, hsub, -⟩ := h.ordered.handed _ _ hpub
    obtain ⟨hnil, hflight⟩ := h.inFlight hopen mid' hpub hmid
    obtain ⟨hconn, hack⟩ := hflight submission hsub
    refine .inr ⟨w.tokens.length, _, submission, by rw [hnil, List.nil_append],
      List.getElem?_concat_length, hsub, ?_, hconn⟩
    exact Bool.eq_false_iff.mpr fun hacked => hack hacked hearly
  · rw [if_neg hnew, List.append_nil]
    rcases h.single hopen mid' hmid with hnil | ⟨i, token, submission, hone, htoken, hrest⟩
    · exact .inl hnil
    · exact .inr ⟨i, token, submission, hone, getElem?_registered htoken, hrest⟩

/-- **A registration keeps the ledger** where its state fits what is known of the message. -/
theorem Ledger.issue (credits : List (PublishDeliveryToken × Option ℕ))
    (hcredits : ∀ credit ∈ credits, state = .delivered ∧
      credit = (w.client.nextToken generation mid, w.earlyBy (generation, mid))) :
    Ledger { w with
      client := { w.client.issue generation mid state with publishInProgressGeneration := none }
      publisher := .idle
      tokens := w.tokens ++ [w.client.nextToken generation mid]
      credits := w.credits ++ credits } where
  filed := { h.filed.issue (h.ordered.handed generation mid hpub).1 with }
  ordered := (hpub ▸ h.ordered : Ordered _ _ _).register (congrArg (· + 1) h.publishSequence)
  publishSequence := by
    show w.client.publishSequence + 1 = (w.tokens ++ [_]).length
    rw [h.publishSequence, List.length_append, List.length_singleton]
  inProgress := rfl
  generation_le := fun _ heq => by cases heq
  covered := fun _ _ _ => h.covered_issue hpub hfits
  delivered := by
    intro other hmem
    rcases mem_assign hmem with ⟨heq, hstate⟩ | hmem
    · obtain ⟨-, -, submission, hsub, hack⟩ := h.early _ (hfits.delivered hstate.symm)
      exact ⟨w.tokens.length, submission, heq ▸ List.getElem?_concat_length, hsub, hack⟩
    · obtain ⟨i, submission, hother, hrest⟩ := h.delivered other hmem
      exact ⟨i, submission, getElem?_registered hother, hrest⟩
  credits := by
    intro credit hcredit
    rcases List.mem_append.mp hcredit with hcredit | hcredit
    · obtain ⟨i, hi, hother⟩ := h.credits credit hcredit
      exact ⟨i, hi, getElem?_registered hother⟩
    · obtain ⟨hstate, rfl⟩ := hcredits credit hcredit
      obtain ⟨-, hby, -⟩ := h.early _ (hfits.delivered hstate)
      exact ⟨w.tokens.length, hby, List.getElem?_concat_length⟩
  early := fun key hkey => absurd rfl hkey
  single := fun hopen _ => h.single_issue hpub hfits hopen
  vacant := fun _ _ heq => by cases heq
  inFlight := fun _ _ heq => by cases heq

end Registering

theorem mem_newlyDelivered {before after : ControlClient} {token : PublishDeliveryToken} :
    token ∈ newlyDelivered before after ↔ (token, .delivered) ∈ after.deliveryStates ∧
      (token, .delivered) ∉ before.deliveryStates := by
  rw [newlyDelivered, List.mem_map]
  constructor
  · intro h
    obtain ⟨⟨token', state⟩, hmem, rfl⟩ := h
    rw [List.mem_filter, decide_eq_true_eq] at hmem
    obtain ⟨hmem, rfl, hnot⟩ := hmem
    exact ⟨hmem, hnot⟩
  · intro h
    refine ⟨(token, .delivered), ?_, rfl⟩
    rw [List.mem_filter, decide_eq_true_eq]
    exact ⟨h.1, rfl, h.2⟩

/-- **The state of a registration fits what is known of the message**, where the id of a message
that is lost is quarantined first. -/
theorem Ledger.exists_issue (h : Ledger w)
    (hpub : w.publisher = .answered generation (.accepted (some mid))) :
    ∃ (c : ControlClient) (state : Delivery), w.client.Revokes c ∧ c.Fits generation mid state ∧
      ∃ rounds, w.client.registerPublish generation mid =
        pruneDeliveryStates rounds
          { c.issue generation mid state with publishInProgressGeneration := none } := by
  have hvalid := (h.ordered.handed generation mid hpub).1
  by_cases hstate : w.client.registeredState generation mid = .disconnected
  · refine ⟨w.client.quarantineDeliveryMid mid, .disconnected,
      quarantine_revokes h.filed.mid_eq mid, ⟨nofun, nofun, fun _ _ => ?_⟩, ?_⟩
    · rw [quarantinedDeliveryMids_quarantine hvalid]
      exact Finset.mem_insert_self _ _
    · rw [registerPublish, hstate, if_pos rfl,
        quarantine_issue w.client generation hvalid]
      exact ⟨_, rfl⟩
  · refine ⟨w.client, _, .refl _, fits_registeredState hstate, ?_⟩
    rw [registerPublish, if_neg hstate]
    exact ⟨_, rfl⟩

theorem Ledger.register (h : Ledger w)
    (hpub : w.publisher = .answered generation (.accepted (some mid))) :
    Ledger { w with
      client := w.client.registerPublish generation mid
      publisher := .idle
      tokens := w.tokens ++ [w.client.nextToken generation mid]
      credits := w.credits ++
        (newlyDelivered w.client (w.client.registerPublish generation mid)).map fun token =>
          (token, w.earlyBy (token.connectionGeneration, token.mid)) } := by
  obtain ⟨c, state, hrev, hfits, rounds, hfinal⟩ := h.exists_issue hpub
  have hissue := (h.revoke hrev).issue hpub hfits
  have htoken : c.nextToken generation mid = w.client.nextToken generation mid := by
    rw [nextToken, nextToken, hrev.publishSequence]
  have hprune := pruneDeliveryStates_revokes (hissue [] (by simp)).filed rounds
  rw [hfinal, ← htoken]
  refine (hissue _ ?_).revoke hprune
  intro credit hcredit
  obtain ⟨token, hmem, rfl⟩ := List.mem_map.mp hcredit
  rw [mem_newlyDelivered] at hmem
  rcases mem_assign (hprune.delivered token hmem.1) with ⟨rfl, heq⟩ | hold
  · exact ⟨heq.symm, rfl⟩
  · exact absurd (hrev.delivered token hold) hmem.2

theorem Ledger.finish (h : Ledger w) : Ledger (w.step .finish) := by
  cases hpub : w.publisher with
  | idle =>
    simp only [step, hpub]
    exact h
  | begun generation =>
    simp only [step, hpub]
    exact h
  | answered generation handed =>
    match handed with
    | .accepted (some mid) =>
      simp only [step, hpub]
      exact h.register hpub
    | .accepted none =>
      simp only [step, hpub]
      exact h.ended (by simp [hpub])
    | .failed =>
      simp only [step, hpub]
      exact h.ended (by simp [hpub])

/-! ### Acknowledgements -/

theorem Ledger.registered_or_handed (h : Ledger w) (hsub : w.submissions[i]? = some submission) :
    (∃ token, w.tokens[i]? = some token) ∨
      i = w.tokens.length ∧ ∃ generation,
        w.publisher = .answered generation (.accepted (some submission.mid)) := by
  have hlt := (List.getElem?_eq_some_iff.mp hsub).1
  rcases Nat.lt_or_ge i w.tokens.length with hi | hi
  · exact .inl ⟨w.tokens[i], List.getElem?_eq_getElem hi⟩
  rcases h.ordered.registered with hle | ⟨generation, mid, hpub, hlen⟩
  · omega
  · obtain rfl : i = w.tokens.length := by omega
    obtain ⟨-, submission', hsub', hmid⟩ := h.ordered.handed generation mid hpub
    obtain rfl := Option.some.inj (hsub.symm.trans hsub')
    exact .inr ⟨rfl, generation, hmid ▸ hpub⟩

/-- The acknowledgement of the message that is about to be registered is counted early. -/
def Counted (w : World) (i : ℕ) (submission : Submission) : Prop :=
  i = w.tokens.length ∧
    w.publisher = .answered w.client.connectionGeneration (.accepted (some submission.mid)) ∧
    submission.mid ∉ w.client.quarantinedDeliveryMids

/-- What the callback for a message does to the tables. -/
structure Acknowledges (w : World) (i : ℕ) (submission : Submission) (c' : ControlClient) :
    Prop where
  quarantined : c'.quarantinedDeliveryMids = w.client.quarantinedDeliveryMids
  connectionGeneration : c'.connectionGeneration = w.client.connectionGeneration
  publishSequence : c'.publishSequence = w.client.publishSequence
  inProgress : c'.publishInProgressGeneration = w.client.publishInProgressGeneration
  pending_ne : ∀ mid, mid ≠ submission.mid →
    c'.pendingDeliveryTokens mid = w.client.pendingDeliveryTokens mid
  pending_self : submission.mid ∉ w.client.quarantinedDeliveryMids →
    c'.pendingDeliveryTokens submission.mid = []
  own : submission.mid ∉ w.client.quarantinedDeliveryMids →
    ∀ token ∈ w.client.pendingDeliveryTokens submission.mid, w.tokens[i]? = some token
  sublist : ∀ mid, (c'.pendingDeliveryTokens mid).Sublist (w.client.pendingDeliveryTokens mid)
  lookup_ne : ∀ token, token.mid ≠ submission.mid →
    c'.deliveryStates.lookup token = w.client.deliveryStates.lookup token
  known : ∀ entry ∈ c'.deliveryStates, ∃ state, (entry.1, state) ∈ w.client.deliveryStates
  delivered : ∀ token, (token, .delivered) ∈ c'.deliveryStates →
    (token, .delivered) ∈ w.client.deliveryStates ∨ w.tokens[i]? = some token
  early_ne : ∀ key, key ≠ (w.client.connectionGeneration, submission.mid) →
    c'.earlyPubacks key = w.client.earlyPubacks key
  early_counted : w.Counted i submission →
    c'.earlyPubacks (w.client.connectionGeneration, submission.mid) =
      w.client.earlyPubacks (w.client.connectionGeneration, submission.mid) + 1
  early_not_counted : ¬ w.Counted i submission →
    c'.earlyPubacks (w.client.connectionGeneration, submission.mid) =
      w.client.earlyPubacks (w.client.connectionGeneration, submission.mid)

theorem Acknowledges.early (hc : Acknowledges w i submission c')
    {key : ℕ × ℤ} (hkey : c'.earlyPubacks key ≠ 0) :
    (w.Counted i submission ∧ key = (w.client.connectionGeneration, submission.mid)) ∨
      (w.client.earlyPubacks key ≠ 0 ∧
        ¬ (w.Counted i submission ∧ key = (w.client.connectionGeneration, submission.mid))) := by
  by_cases hnew : w.Counted i submission ∧ key = (w.client.connectionGeneration, submission.mid)
  · exact .inl hnew
  refine .inr ⟨?_, hnew⟩
  by_cases heq : key = (w.client.connectionGeneration, submission.mid)
  · subst heq
    rwa [hc.early_not_counted fun hcounted => hnew ⟨hcounted, rfl⟩] at hkey
  · rwa [hc.early_ne key heq] at hkey

theorem getElem?_acknowledge_of_ne {submissions : List Submission} (h : j ≠ i) :
    (submissions.modify i .acknowledge)[j]? = submissions[j]? := by
  rw [List.getElem?_modify_ne]
  exact h.symm

theorem getElem?_acknowledge {submissions : List Submission}
    (h : (submissions.modify i .acknowledge)[j]? = some submission) :
    ∃ submission', submissions[j]? = some submission' ∧ submission.mid = submission'.mid ∧
      submission.connection = submission'.connection ∧
      (j = i → submission.acknowledged = true) ∧ (j ≠ i → submission = submission') := by
  by_cases hj : j = i
  · subst hj
    rw [List.getElem?_modify_eq, Option.map_eq_map, Option.map_eq_some_iff] at h
    obtain ⟨submission', hsub, rfl⟩ := h
    exact ⟨submission', hsub, rfl, rfl, fun _ => rfl, fun hne => absurd rfl hne⟩
  · rw [getElem?_acknowledge_of_ne hj] at h
    exact ⟨submission, h, rfl, rfl, fun heq => absurd heq hj, fun _ => rfl⟩

theorem exists_acknowledged {submissions : List Submission}
    (h : submissions[j]? = some submission) (hack : submission.acknowledged = true ∨ j = i) :
    ∃ submission', (submissions.modify i .acknowledge)[j]? = some submission' ∧
      submission'.mid = submission.mid ∧ submission'.acknowledged = true := by
  by_cases hj : j = i
  · subst hj
    rw [List.getElem?_modify_eq, h]
    exact ⟨_, rfl, rfl, rfl⟩
  · rw [getElem?_acknowledge_of_ne hj]
    exact ⟨submission, h, rfl, hack.resolve_right hj⟩

theorem Ordered.acknowledge {publisher : Publisher} {submissions : List Submission}
    {tokens : List PublishDeliveryToken} (h : Ordered publisher submissions tokens) (i : ℕ) :
    Ordered publisher (submissions.modify i .acknowledge) tokens where
  tokens_le := by
    rw [List.length_modify]
    exact h.tokens_le
  handed := by
    intro generation mid hpub
    obtain ⟨hvalid, submission, hsub, hmid⟩ := h.handed generation mid hpub
    refine ⟨hvalid, ?_⟩
    by_cases hi : tokens.length = i
    · obtain ⟨submission', hsub', hmid', -⟩ := exists_acknowledged hsub (.inr hi)
      exact ⟨submission', hsub', hmid'.trans hmid⟩
    · exact ⟨submission, (getElem?_acknowledge_of_ne hi).trans hsub, hmid⟩
  registered := by
    rw [List.length_modify]
    exact h.registered
  mid_eq := by
    intro j token submission htoken hsub
    obtain ⟨submission', hsub', hmid, -⟩ := getElem?_acknowledge hsub
    exact (h.mid_eq j token submission' htoken hsub').trans hmid.symm
  sequence_eq := h.sequence_eq

section Acknowledging

variable (h : Ledger w) (hsub : w.submissions[i]? = some submission)
  (hc : Acknowledges w i submission c')

include h hsub hc

omit hsub in
theorem Acknowledges.filed : Filed c' where
  mid_eq := fun mid token hmem => h.filed.mid_eq mid token ((hc.sublist mid).subset hmem)
  waiting := by
    intro mid hmid token hmem
    rw [hc.quarantined] at hmid
    have hne : mid ≠ submission.mid := by
      rintro rfl
      rw [hc.pending_self hmid] at hmem
      cases hmem
    have hmem' := (hc.sublist mid).subset hmem
    rw [hc.lookup_ne token (by rwa [h.filed.mid_eq mid token hmem'])]
    exact h.filed.waiting mid hmid token hmem'
  isPacketIdentifier := by
    intro entry hentry
    obtain ⟨state, hmem⟩ := hc.known entry hentry
    exact h.filed.isPacketIdentifier (entry.1, state) hmem
  sequence_le := by
    intro entry hentry
    obtain ⟨state, hmem⟩ := hc.known entry hentry
    rw [hc.publishSequence]
    exact h.filed.sequence_le (entry.1, state) hmem

omit hsub in
theorem Ledger.covered_acknowledge {token : PublishDeliveryToken} {submission' : Submission}
    (htoken : w.tokens[j]? = some token)
    (hsub' : (w.submissions.modify i .acknowledge)[j]? = some submission')
    (hmid : submission'.mid ∉ w.client.quarantinedDeliveryMids) :
    submission'.acknowledged = true ∨ token ∈ c'.pendingDeliveryTokens submission'.mid := by
  obtain ⟨submission'', hsub'', -, -, hself, hother⟩ := getElem?_acknowledge hsub'
  by_cases hj : j = i
  · exact .inl (hself hj)
  obtain rfl := hother hj
  refine (h.covered j token submission' htoken hsub'' hmid).imp_right fun hmem => ?_
  by_cases hsame : submission'.mid = submission.mid
  · -- the one token that waits is that of the acknowledged message
    rw [hsame] at hmem hmid
    have hown := h.ordered.sequence_eq i token (hc.own hmid token hmem)
    have := h.ordered.sequence_eq j token htoken
    omega
  · rwa [hc.pending_ne _ hsame]

theorem Ledger.early_acknowledge {key : ℕ × ℤ} (hkey : c'.earlyPubacks key ≠ 0) :
    w.publisher = .answered key.1 (.accepted (some key.2)) ∧
      (if w.client.earlyPubacks (w.client.connectionGeneration, submission.mid) <
          c'.earlyPubacks (w.client.connectionGeneration, submission.mid) then
        Function.update w.earlyBy (w.client.connectionGeneration, submission.mid) (some i)
      else w.earlyBy) key = some w.tokens.length ∧
      ∃ submission', (w.submissions.modify i .acknowledge)[w.tokens.length]? = some submission' ∧
        submission'.acknowledged = true := by
  rcases hc.early hkey with ⟨hcounted, rfl⟩ | ⟨hold, hnot⟩
  · obtain ⟨submission', hsub', -, hack⟩ := exists_acknowledged hsub (.inr rfl)
    obtain ⟨rfl, hpub, -⟩ := id hcounted
    refine ⟨hpub, ?_, submission', hsub', hack⟩
    rw [hc.early_counted hcounted, if_pos (Nat.lt_succ_self _), Function.update_self]
  · obtain ⟨hpub, hby, submission', hsub', hack⟩ := h.early key hold
    obtain ⟨submission'', hsub'', -, hack'⟩ := exists_acknowledged (i := i) hsub' (.inl hack)
    refine ⟨hpub, ?_, submission'', hsub'', hack'⟩
    rw [← hby]
    split_ifs with hlt
    · have hcounted : w.Counted i submission := by
        by_contra hcounted
        exact lt_irrefl _ (hc.early_not_counted hcounted ▸ hlt)
      exact Function.update_of_ne (fun heq => hnot ⟨hcounted, heq⟩) _ _
    · rfl

theorem Ledger.single_acknowledge (hopen : w.Open)
    (hmid : mid ∉ w.client.quarantinedDeliveryMids) :
    c'.pendingDeliveryTokens mid = [] ∨
      ∃ (j : ℕ) (token : PublishDeliveryToken) (submission' : Submission),
        c'.pendingDeliveryTokens mid = [token] ∧ w.tokens[j]? = some token ∧
        (w.submissions.modify i .acknowledge)[j]? = some submission' ∧
        submission'.acknowledged = false ∧ submission'.connection = c'.connectionGeneration := by
  by_cases hself : mid = submission.mid
  · exact .inl (hself ▸ hc.pending_self (hself ▸ hmid))
  rw [hc.pending_ne mid hself, hc.connectionGeneration]
  refine (h.single hopen mid hmid).imp_right ?_
  rintro ⟨j, token, submission', hone, htoken, hsub', hrest⟩
  refine ⟨j, token, submission', hone, htoken, (getElem?_acknowledge_of_ne ?_).trans hsub', hrest⟩
  rintro rfl
  obtain rfl := Option.some.inj (hsub.symm.trans hsub')
  apply hself
  rw [← h.ordered.mid_eq j token submission htoken hsub]
  exact (h.filed.mid_eq mid token (by simp [hone])).symm

theorem Ledger.inFlight_acknowledge (hopen : w.Open) {submission' : Submission}
    (hpub : w.publisher = .answered w.client.connectionGeneration (.accepted (some mid)))
    (hmid : mid ∉ w.client.quarantinedDeliveryMids)
    (hsub' : (w.submissions.modify i .acknowledge)[w.tokens.length]? = some submission') :
    submission'.connection = c'.connectionGeneration ∧
      (submission'.acknowledged = true →
        c'.earlyPubacks (c'.connectionGeneration, mid) ≠ 0) := by
  rw [hc.connectionGeneration]
  obtain ⟨submission'', hsub'', -, hconn, -, hother⟩ := getElem?_acknowledge hsub'
  obtain ⟨hconn', hack⟩ := (h.inFlight hopen mid hpub hmid).2 submission'' hsub''
  refine ⟨hconn.trans hconn', fun hacked => ?_⟩
  by_cases hi : w.tokens.length = i
  · obtain ⟨-, submission₀, hsub₀, rfl⟩ := h.ordered.handed _ _ hpub
    rw [hi] at hsub₀
    obtain rfl := Option.some.inj (hsub.symm.trans hsub₀)
    rw [hc.early_counted ⟨hi.symm, hpub, hmid⟩]
    exact Nat.succ_ne_zero _
  · have hold := hack (hother hi ▸ hacked)
    by_cases hkey : mid = submission.mid
    · subst hkey
      rwa [hc.early_not_counted fun hcounted => hi hcounted.1.symm]
    · rwa [hc.early_ne _ fun heq => hkey (Prod.mk.inj heq).2]

/-- **An acknowledgement keeps the ledger** where the tables answer for it and it is credited to
the token of its own message. -/
theorem Ledger.acknowledge_of {credits : List (PublishDeliveryToken × Option ℕ)}
    (hcredits : ∀ credit ∈ credits, credit.2 = some i ∧ w.tokens[i]? = some credit.1) :
    Ledger { w with
      client := c'
      submissions := w.submissions.modify i .acknowledge
      earlyBy :=
        if w.client.earlyPubacks (w.client.connectionGeneration, submission.mid) <
            c'.earlyPubacks (w.client.connectionGeneration, submission.mid) then
          Function.update w.earlyBy (w.client.connectionGeneration, submission.mid) (some i)
        else w.earlyBy
      credits := w.credits ++ credits } where
  filed := hc.filed h
  ordered := h.ordered.acknowledge i
  publishSequence := hc.publishSequence.trans h.publishSequence
  inProgress := hc.inProgress.trans h.inProgress
  generation_le := fun generation hgen =>
    (h.generation_le generation hgen).trans_eq hc.connectionGeneration.symm
  covered := fun j token submission' htoken hsub' hmid =>
    h.covered_acknowledge hc htoken hsub' (hc.quarantined ▸ hmid)
  delivered := by
    intro token hmem
    rcases hc.delivered token hmem with hold | htoken
    · obtain ⟨j, submission', htoken, hsub', hack⟩ := h.delivered token hold
      obtain ⟨submission'', hsub'', -, hack'⟩ := exists_acknowledged (i := i) hsub' (.inl hack)
      exact ⟨j, submission'', htoken, hsub'', hack'⟩
    · obtain ⟨submission', hsub', -, hack⟩ := exists_acknowledged hsub (.inr rfl)
      exact ⟨i, submission', htoken, hsub', hack⟩
  credits := by
    intro credit hcredit
    rcases List.mem_append.mp hcredit with hcredit | hcredit
    · exact h.credits credit hcredit
    · exact ⟨i, hcredits credit hcredit⟩
  early := fun _ hkey => h.early_acknowledge hsub hc hkey
  single := fun hopen mid hmid =>
    h.single_acknowledge hsub hc hopen (hc.quarantined ▸ hmid)
  vacant := fun hopen generation hgen hne mid hmid => List.sublist_nil.mp
    (h.vacant hopen generation hgen (fun heq => hne (heq.trans hc.connectionGeneration.symm)) mid
      (hc.quarantined ▸ hmid) ▸ hc.sublist mid)
  inFlight := by
    intro hopen mid hpub hmid
    have hpub' : w.publisher = .answered w.client.connectionGeneration (.accepted (some mid)) :=
      hc.connectionGeneration ▸ hpub
    rw [hc.quarantined] at hmid
    refine ⟨List.sublist_nil.mp ((h.inFlight hopen mid hpub' hmid).1 ▸ hc.sublist mid), ?_⟩
    exact fun _ hsub' => h.inFlight_acknowledge hsub hc hopen hpub' hmid hsub'

end Acknowledging

theorem acknowledges_of_quarantined (hmid : submission.mid ∈ w.client.quarantinedDeliveryMids) :
    Acknowledges w i submission (w.client.onPublish submission.mid) := by
  have hsame : w.client.onPublish submission.mid = w.client := if_pos hmid
  rw [hsame]
  exact {
    quarantined := rfl
    connectionGeneration := rfl
    publishSequence := rfl
    inProgress := rfl
    pending_ne := fun _ _ => rfl
    pending_self := fun hnot => absurd hmid hnot
    own := fun hnot => absurd hmid hnot
    sublist := fun _ => .refl _
    lookup_ne := fun _ _ => rfl
    known := fun entry hentry => ⟨entry.2, hentry⟩
    delivered := fun _ hmem => .inl hmem
    early_ne := fun _ _ => rfl
    early_counted := fun hcounted => absurd hmid hcounted.2.2
    early_not_counted := fun _ => rfl }

theorem Ledger.acknowledges_waiting (h : Ledger w) (hopen : w.Open)
    {token : PublishDeliveryToken} (hmid : submission.mid ∉ w.client.quarantinedDeliveryMids)
    (hone : w.client.pendingDeliveryTokens submission.mid = [token])
    (htoken : w.tokens[i]? = some token) :
    Acknowledges w i submission (w.client.onPublish submission.mid) := by
  have hin : token ∈ w.client.pendingDeliveryTokens submission.mid := by simp [hone]
  have hown : token.mid = submission.mid := h.filed.mid_eq _ token hin
  have hstate := h.filed.waiting _ hmid token hin
  have hknown := mem_of_lookup hstate
  rw [onPublish_waiting hmid hone hstate]
  exact {
    quarantined := rfl
    connectionGeneration := rfl
    publishSequence := rfl
    inProgress := rfl
    pending_ne := fun _ hne => Function.update_of_ne hne _ _
    pending_self := fun _ => Function.update_self _ _ _
    own := by
      intro _ other hmem
      rw [hone] at hmem
      exact List.mem_singleton.mp hmem ▸ htoken
    sublist := by
      intro mid
      show (Function.update w.client.pendingDeliveryTokens submission.mid [] mid).Sublist _
      rw [Function.update_apply]
      split_ifs
      · exact List.nil_sublist _
      · exact .refl _
    lookup_ne := by
      intro other hother
      show (w.client.deliveryStates.assign token .delivered).lookup other = _
      rw [lookup_assign, if_neg]
      intro heq
      exact hother (heq ▸ hown)
    known := by
      intro entry hentry
      rcases mem_assign hentry with ⟨heq, -⟩ | hold
      · exact ⟨.pending, heq ▸ hknown⟩
      · exact ⟨entry.2, hold⟩
    delivered := by
      intro other hmem
      rcases mem_assign hmem with ⟨heq, -⟩ | hold
      · exact .inr (heq ▸ htoken)
      · exact .inl hold
    early_ne := fun _ _ => rfl
    early_counted := by
      intro hcounted
      have hnil := (h.inFlight hopen _ hcounted.2.1 hmid).1
      rw [hone] at hnil
      cases hnil
    early_not_counted := fun _ => rfl }

theorem Ledger.acknowledges_handed (h : Ledger w)
    (hmid : submission.mid ∉ w.client.quarantinedDeliveryMids)
    (hnil : w.client.pendingDeliveryTokens submission.mid = []) (hi : i = w.tokens.length)
    (hpub : w.publisher = .answered generation (.accepted (some submission.mid))) :
    Acknowledges w i submission (w.client.onPublish submission.mid) := by
  have hcounted : w.Counted i submission ↔
      w.client.publishInProgressGeneration = some w.client.connectionGeneration := by
    rw [Counted, h.inProgress, hpub, Publisher.answered.injEq, Publisher.generation?,
      Option.some.injEq]
    exact ⟨fun hc => hc.2.1.1, fun heq => ⟨hi, ⟨heq, rfl⟩, hmid⟩⟩
  rw [onPublish_nothing_waits hmid hnil]
  have hsublist : ∀ mid, (Function.update w.client.pendingDeliveryTokens submission.mid []
      mid).Sublist (w.client.pendingDeliveryTokens mid) := by
    intro mid
    rw [Function.update_apply]
    split_ifs
    · exact List.nil_sublist _
    · exact .refl _
  exact {
    quarantined := rfl
    connectionGeneration := rfl
    publishSequence := rfl
    inProgress := rfl
    pending_ne := fun _ hne => Function.update_of_ne hne _ _
    pending_self := fun _ => Function.update_self _ _ _
    own := by
      intro _ other hmem
      rw [hnil] at hmem
      cases hmem
    sublist := hsublist
    lookup_ne := fun _ _ => rfl
    known := fun entry hentry => ⟨entry.2, hentry⟩
    delivered := fun _ hmem => .inl hmem
    early_ne := by
      intro key hkey
      show (if _ then _ else _ : ℕ × ℤ → ℕ) key = _
      split_ifs
      · exact Function.update_of_ne hkey _ _
      · rfl
    early_counted := by
      intro hc
      show (if _ then _ else _ : ℕ × ℤ → ℕ) _ = _
      rw [if_pos (hcounted.mp hc), Function.update_self]
    early_not_counted := by
      intro hc
      show (if _ then _ else _ : ℕ × ℤ → ℕ) _ = _
      rw [if_neg fun heq => hc (hcounted.mpr heq)] }

/-- **The tables answer for every acknowledgement that may come.** -/
theorem Ledger.acknowledges (h : Ledger w)
    (hsub : w.submissions[i]? = some submission) (hack : submission.acknowledged = false)
    (hopen : w.Open) : Acknowledges w i submission (w.client.onPublish submission.mid) := by
  by_cases hmid : submission.mid ∈ w.client.quarantinedDeliveryMids
  · exact acknowledges_of_quarantined hmid
  rcases h.registered_or_handed hsub with ⟨token, htoken⟩ | ⟨hi, generation, hpub⟩
  · have hmem : token ∈ w.client.pendingDeliveryTokens submission.mid := by
      rcases h.covered i token submission htoken hsub hmid with hack' | hmem
      · rw [hack] at hack'
        cases hack'
      · exact hmem
    rcases h.single hopen _ hmid with hnil | ⟨j, other, submission', hone, hother, -⟩
    · rw [hnil] at hmem
      cases hmem
    · rw [hone, List.mem_singleton] at hmem
      exact h.acknowledges_waiting hopen hmid hone (hmem ▸ htoken)
  · have hnil : w.client.pendingDeliveryTokens submission.mid = [] := by
      by_cases hgen : generation = w.client.connectionGeneration
      · exact (h.inFlight hopen _ (hgen ▸ hpub) hmid).1
      · exact h.vacant hopen generation (by rw [hpub, Publisher.generation?]) hgen _ hmid
    exact h.acknowledges_handed hmid hnil hi hpub

theorem Ledger.acknowledge (h : Ledger w) (hcontract : w.Contract (.acknowledge i)) :
    Ledger (w.step (.acknowledge i)) := by
  obtain ⟨hup, submission, hsub, hack⟩ := hcontract
  have hc := h.acknowledges hsub hack (.inr hup)
  simp only [step, hsub]
  refine h.acknowledge_of hsub hc ?_
  intro credit hcredit
  obtain ⟨token, hmem, rfl⟩ := List.mem_map.mp hcredit
  rw [mem_newlyDelivered] at hmem
  exact ⟨rfl, (hc.delivered token hmem.1).resolve_left hmem.2⟩

/-! ### Every run -/

theorem Ledger.step (h : Ledger w) {action : Action} (hcontract : w.Contract action) :
    Ledger (w.step action) := by
  cases action with
  | start => exact h.flags true w.client.connected w.waiting id
  | stop => exact h.flags false false w.waiting id
  | arrive =>
    rw [World.step]
    split_ifs
    · exact h.flags w.client.hasClient w.client.connected (w.waiting + 1) id
    · exact h
  | begin => exact h.begin
  | hand handed => exact h.hand hcontract
  | finish => exact h.finish
  | acknowledge i => exact h.acknowledge hcontract
  | connect => exact h.connect
  | connectReturns refused => exact h.connectReturns refused
  | disconnect => exact h.disconnect
  | disconnectReturns => exact h.disconnectReturns

def ReportedDelivered (c : ControlClient) (token : PublishDeliveryToken) : Prop :=
  c.deliveryStatus (.token token) = .delivered ∨ c.deliveryConfirmed (.token token) = true

theorem mem_of_reportedDelivered {c : ControlClient} {token : PublishDeliveryToken}
    (h : ReportedDelivered c token) : (token, .delivered) ∈ c.deliveryStates := by
  apply mem_of_lookup
  rcases h with hstatus | hconfirmed
  · rw [deliveryStatus] at hstatus
    cases hlookup : c.deliveryStates.lookup token with
    | none => simp [hlookup] at hstatus
    | some state => simpa [hlookup] using hstatus
  · simpa [deliveryConfirmed] using hconfirmed

/-- **A delivery is credited to its own acknowledgement.**  Over every interleaving of
publishers, callbacks, connections and disconnections that the library's contract allows, a
token that is reported delivered is that of a message whose acknowledgement callback happened,
and every token that became delivered was credited to the callback of its own message. -/
theorem delivery_attribution (actions : List Action)
    (h : EveryStep World.step World.Contract fresh actions) :
    (∀ token, ReportedDelivered (run World.step fresh actions).client token →
      ∃ (i : ℕ) (submission : Submission),
        (run World.step fresh actions).tokens[i]? = some token ∧
        (run World.step fresh actions).submissions[i]? = some submission ∧
        submission.acknowledged = true) ∧
    ∀ token credited, (token, credited) ∈ (run World.step fresh actions).credits →
      ∃ i : ℕ, credited = some i ∧ (run World.step fresh actions).tokens[i]? = some token := by
  have hledger : Ledger (run World.step fresh actions) :=
    run_invariant (fun w _ hw hcontract => hw.step hcontract) ledger_fresh h
  constructor
  · intro token hreported
    exact hledger.delivered token (mem_of_reportedDelivered hreported)
  · intro token credited hmem
    exact hledger.credits (token, credited) hmem

/-- A message that is acknowledged before its publish returns, and after a reconnection another
one under the same id. -/
def reusedId : List Action :=
  [.start, .connect, .connectReturns false, .arrive, .begin, .hand (.accepted (some 5)),
    .acknowledge 0, .finish, .disconnect, .disconnectReturns, .connect, .connectReturns false,
    .arrive, .begin, .hand (.accepted (some 5)), .finish, .acknowledge 1]

theorem delivery_attribution_reused_id :
    ReportedDelivered (run World.step fresh reusedId).client ⟨2, 2, 5⟩ ∧
    ∃ (i : ℕ) (submission : Submission),
      (run World.step fresh reusedId).tokens[i]? = some ⟨2, 2, 5⟩ ∧
      (run World.step fresh reusedId).submissions[i]? = some submission ∧
      submission.acknowledged = true := by
  have hcontract : EveryStep World.step World.Contract fresh reusedId :=
    ⟨trivial, trivial, trivial, trivial, trivial, ⟨by decide, by decide⟩, ⟨rfl, _, rfl, rfl⟩,
      trivial, trivial, trivial, trivial, trivial, trivial, trivial, ⟨by decide, by decide⟩,
      trivial, ⟨rfl, _, rfl, rfl⟩, trivial⟩
  have hreported : ReportedDelivered (run World.step fresh reusedId).client ⟨2, 2, 5⟩ :=
    .inl (by decide)
  exact ⟨hreported, (delivery_attribution reusedId hcontract).1 _ hreported⟩

end World

end SolarFlowEms.Mqtt
