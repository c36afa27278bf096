import SolarFlowEms.Admin.TransitionStore

/-!
# What a call does to the record

A call leaves the file as it is, or puts on it a record the parser accepts.  Every call but
`begin` takes the record it finds, which is not terminal, and changes it in one of six ways: it
moves the stage along an edge, takes one of the two claims, records a failure, leaves the failure
for the stage the record names, or ends the record.  What defines the operation stays as it is.
-/

namespace SolarFlowEms.Admin.Transition

open Python Fallible

variable {texts : TransitionTexts}

/-! ### Outcomes -/

variable {message : String} {answer : Answer} {effect : Effect} {d r : DurableRecord}
  {change : TransitionRecord → TransitionRecord} {faults : Faults} {file : FileContent}
  {operationId id : Option String} {a : Attempt} {expected new : TransitionStage}

@[simp] theorem require_eq_ok {p : Prop} [Decidable p] {reason : String} {u : Unit} :
    require p reason message = .ok u ↔ p := by
  by_cases hp : p
  · simp [require, hp]
  · simp [require, hp, refuse]

theorem keep_eq_ok :
    keep answer = .ok effect ↔ effect = ⟨none, answer⟩ := by
  rw [keep]
  exact ⟨fun h => (Except.ok.inj h).symm, fun h => h ▸ rfl⟩

theorem of_keep_or {p : Prop} [Decidable p] {x : Outcome Effect}
    (h : (if p then keep answer else x) = .ok effect) (hne : effect ≠ ⟨none, answer⟩) :
    ¬ p ∧ x = .ok effect := by
  by_cases hp : p
  · rw [if_pos hp] at h
    exact absurd (keep_eq_ok.mp h) hne
  · rw [if_neg hp] at h
    exact ⟨hp, h⟩

theorem validated_eq_ok {candidate : TransitionRecord} :
    validated texts candidate = .ok d ↔ d.toTransitionRecord = candidate := by
  rw [validated, mapError_eq_ok, parseTransitionRecord_asDict]
  constructor
  · intro h
    obtain ⟨recovery, hrecovery, h⟩ := bind_eq_ok.mp h
    by_cases hconsistent : candidate.Consistent
    · rw [TransitionRecord.readRecovery_of hconsistent] at hrecovery
      obtain rfl := Except.ok.inj hrecovery
      obtain rfl := Except.ok.inj h
      rfl
    · obtain ⟨e, he⟩ := TransitionRecord.readRecovery_error hconsistent
      cases he.symm.trans hrecovery
  · intro h
    obtain rfl := h
    exact bind_eq_ok.mpr ⟨_, TransitionRecord.readRecovery_of d.consistent, rfl⟩

theorem parseTransitionRecord_durable (d : DurableRecord) :
    parseTransitionRecord texts d.asDict = .ok d := mapError_eq_ok.mp (validated_eq_ok.mpr rfl)

theorem writeProgress_eq_ok {r : TransitionRecord} {now : Reading} {answer : DurableRecord → Answer}
    (h : writeProgress texts r now change answer = .ok effect) :
    ∃ d expiresAt, effect = ⟨some d, answer d⟩ ∧ renewedExpiry texts r now = .ok expiresAt ∧
      d.toTransitionRecord = change { r with updatedAt := now.stamp, expiresAt } := by
  obtain ⟨candidate, hcandidate, h⟩ := bind_eq_ok.mp h
  obtain ⟨expiresAt, hexpiry, hchange⟩ := bind_eq_ok.mp hcandidate
  obtain rfl := Except.ok.inj hchange
  obtain ⟨d, hd, heffect⟩ := bind_eq_ok.mp h
  obtain rfl := Except.ok.inj heffect
  exact ⟨d, expiresAt, rfl, hexpiry, validated_eq_ok.mp hd⟩

/-! ### The record on file -/

/-- The record a file holds, where it can be read. -/
def onFile? (texts : TransitionTexts) (file : FileContent) : Option DurableRecord :=
  match readRecord texts Faults.none file with
  | .ok r => r
  | .error _ => none

@[simp] theorem onFile?_asDict (d : DurableRecord) :
    onFile? texts (.json d.asDict) = some d := by
  have hread : readRecord texts Faults.none (.json d.asDict) = .ok (some d) :=
    bind_eq_ok.mpr ⟨some d.asDict, rfl, bind_eq_ok.mpr
      ⟨d, mapError_eq_ok.mpr (parseTransitionRecord_durable d), rfl⟩⟩
  rw [onFile?, hread]

theorem readRaw_none {raw : Option PyValue}
    (h : readRaw faults file = .ok raw) : readRaw Faults.none file = .ok raw := by
  obtain ⟨unreadable, write⟩ := faults
  cases unreadable with
  | none => exact h
  | some message => cases h

theorem readRecord_eq_ok {r : Option DurableRecord}
    (h : readRecord texts faults file = .ok r) : onFile? texts file = r := by
  obtain ⟨raw, hraw, h⟩ := bind_eq_ok.mp h
  have hread : readRecord texts Faults.none file = .ok r :=
    bind_eq_ok.mpr ⟨raw, readRaw_none hraw, h⟩
  rw [onFile?, hread]

def Names (operationId : Option String) (r : DurableRecord) : Prop :=
  ∀ id ∈ operationId, r.operationId.val = id

theorem requireOperation_eq_ok {r' : DurableRecord}
    (h : requireOperation operationId r = .ok r') : r' = r ∧ Names operationId r := by
  cases operationId with
  | none =>
    obtain rfl := Except.ok.inj h
    exact ⟨rfl, fun id hid => by cases hid⟩
  | some id =>
    rw [requireOperation] at h
    by_cases hid : r.operationId.val = id
    · rw [if_pos hid] at h
      obtain rfl := Except.ok.inj h
      exact ⟨rfl, fun id' hid' => Option.mem_some_iff.mp hid' ▸ hid⟩
    · rw [if_neg hid] at h
      cases h

theorem recordLocked_eq_ok (h : recordLocked texts faults file operationId = .ok r) :
    onFile? texts file = some r ∧ Names operationId r := by
  obtain ⟨found, hfound, h⟩ := bind_eq_ok.mp h
  cases found with
  | none => cases h
  | some r' =>
    obtain ⟨rfl, hnames⟩ := requireOperation_eq_ok h
    exact ⟨readRecord_eq_ok hfound, hnames⟩

theorem of_recordLocked {α : Type}
    {f : DurableRecord → Outcome α} {x : α} (hr : onFile? texts file = some r)
    (h : recordLocked texts faults file id >>= f = .ok x) : f r = .ok x := by
  obtain ⟨r', hr', h⟩ := bind_eq_ok.mp h
  obtain rfl := Option.some.inj ((recordLocked_eq_ok hr').1.symm.trans hr)
  exact h

/-! ### The six ways a record changes -/

def claims (r : TransitionRecord) : Option Text × Option Text :=
  (r.adminUpdateClaimedAt, r.resourcesClaimedAt)

/-- How a call changes the stage, the failure and the claims of a record. -/
inductive Change (a : Attempt) (r d : DurableRecord) : Prop
  | stage {expected new : TransitionStage} (edge : new ∈ expected.edges) (start : r.stage = expected)
      (target : d.stage = new) (failure : d.recovery = r.recovery)
      (kept : claims d.toTransitionRecord = claims r.toTransitionRecord)
  | adminClaim {id : Option String} (call : a.call = .claimAdminUpdate id)
      (start : r.stage = .adminReconnectPending) (kept : d.stage = r.stage)
      (free : r.adminUpdateClaimedAt = none)
      (claimed : claims d.toTransitionRecord = (some a.stamp.stamp, r.resourcesClaimedAt))
  | resourcesClaim {id : Option String} (call : a.call = .claimResourceVerification id)
      (start : r.stage = .adminAligned) (kept : d.stage = r.stage)
      (free : r.resourcesClaimedAt = none)
      (claimed : claims d.toTransitionRecord = (r.adminUpdateClaimedAt, some a.stamp.stamp))
  | failure {id : Option String} {code message : String} {resumeStage : TransitionStage}
      (call : a.call = .markFailed id code message resumeStage)
      (start : r.stage ≠ .failedRecoverable) (target : d.stage = .failedRecoverable)
  | retry {id : Option String} (call : a.call = .retry id) (start : r.stage = .failedRecoverable)
  | cancellation {id : Option String} {inactive : Bool} {claimedAt : Option String}
      (call : a.call = .cancel id inactive claimedAt) (target : d.stage = .cancelled)

/-- Whether a call is `cancel`, which renews no deadline. -/
def Call.cancels : Call → Bool
  | .cancel _ _ _ => true
  | _ => false

/-- **What a call that is not `begin` makes of the record it finds.** -/
structure Moved (texts : TransitionTexts) (a : Attempt) (r d : DurableRecord) : Prop where
  live : r.stage.terminal = false
  operation : d.toOperation = r.toOperation
  kept : a.call.cancels = true → d.expiresAt = r.expiresAt
  renewed : a.call.cancels = false →
    renewedExpiry texts r.toTransitionRecord a.stamp = .ok d.expiresAt
  stamped : d.updatedAt = a.stamp.stamp
  change : Change a r d

/-- A change of the stage, the failure and the claims only. -/
def KeepsRest (change : TransitionRecord → TransitionRecord) : Prop :=
  ∀ c, (change c).toOperation = c.toOperation ∧ (change c).expiresAt = c.expiresAt ∧
    (change c).updatedAt = c.updatedAt

theorem moved_of_writeProgress {answer : DurableRecord → Answer}
    {answer' : Answer} (hcall : a.call.cancels = false) (hlive : r.stage.terminal = false)
    (h : writeProgress texts r.toTransitionRecord a.stamp change answer = .ok ⟨some d, answer'⟩)
    (hkeeps : KeepsRest change)
    (hchange : ∀ expiresAt, d.toTransitionRecord =
      change { r.toTransitionRecord with updatedAt := a.stamp.stamp, expiresAt } → Change a r d) :
    Moved texts a r d := by
  obtain ⟨d', expiresAt, heffect, hexpiry, hd⟩ := writeProgress_eq_ok h
  obtain ⟨rfl, -⟩ : d = d' ∧ answer' = answer d' := by simpa using heffect
  obtain ⟨hoperation, hexpires, hupdated⟩ :=
    hkeeps { r.toTransitionRecord with updatedAt := a.stamp.stamp, expiresAt }
  rw [← hd] at hoperation hexpires hupdated
  refine ⟨hlive, hoperation, fun hcancels => ?_, fun _ => hexpires ▸ hexpiry, hupdated,
    hchange expiresAt hd⟩
  rw [hcall] at hcancels
  cases hcancels

theorem moved_of_edge {answer' : DurableRecord → Answer} (hcall : a.call.cancels = false)
    (hlive : r.stage.terminal = false) (hedge : new ∈ expected.edges) (hstart : r.stage = expected)
    (h : writeProgress texts r.toTransitionRecord a.stamp ({ · with stage := new }) answer' =
      .ok ⟨some d, answer⟩) : Moved texts a r d := by
  apply moved_of_writeProgress hcall hlive h (fun c => ⟨rfl, rfl, rfl⟩)
  intro expiresAt hd
  exact .stage hedge hstart (by rw [hd]) (by rw [hd]) (by rw [hd]; rfl)

theorem advance_moved (hcall : a.call.cancels = false)
    (h : advance texts expected new r a.stamp = .ok ⟨some d, answer⟩) : Moved texts a r d := by
  obtain ⟨_, hlive, h⟩ := bind_eq_ok.mp h
  obtain ⟨_, hedge, h⟩ := bind_eq_ok.mp h
  obtain ⟨-, h⟩ := of_keep_or h nofun
  obtain ⟨_, hexpected, h⟩ := bind_eq_ok.mp h
  exact moved_of_edge hcall (require_eq_ok.mp hlive) (require_eq_ok.mp hedge)
    (require_eq_ok.mp hexpected) h

theorem claim_moved (hcall : a.call.cancels = false)
    (h : claim texts expected new r a.check a.stamp = .ok ⟨some d, answer⟩) :
    Moved texts a r d := by
  obtain ⟨_, hlive, h⟩ := bind_eq_ok.mp h
  obtain ⟨_, hedge, h⟩ := bind_eq_ok.mp h
  obtain ⟨-, h⟩ := of_keep_or h nofun
  obtain ⟨_, -, h⟩ := bind_eq_ok.mp h
  obtain ⟨_, hexpected, h⟩ := bind_eq_ok.mp h
  exact moved_of_edge hcall (require_eq_ok.mp hlive) (require_eq_ok.mp hedge)
    (require_eq_ok.mp hexpected) h

theorem claimAdminUpdate_moved (hcall : a.call = .claimAdminUpdate id)
    (h : claimAdminUpdate texts r a.check a.stamp = .ok ⟨some d, answer⟩) : Moved texts a r d := by
  obtain ⟨_, hlive, h⟩ := bind_eq_ok.mp h
  obtain ⟨_, -, h⟩ := bind_eq_ok.mp h
  obtain ⟨_, hstage, h⟩ := bind_eq_ok.mp h
  obtain ⟨hfree, h⟩ := of_keep_or h nofun
  apply moved_of_writeProgress (hcall ▸ rfl) (require_eq_ok.mp hlive) h (fun c => ⟨rfl, rfl, rfl⟩)
  intro expiresAt hd
  exact .adminClaim hcall (require_eq_ok.mp hstage) (by rw [hd])
    (Option.not_isSome_iff_eq_none.mp hfree) (by rw [hd]; rfl)

theorem claimResourceVerification_moved (hcall : a.call = .claimResourceVerification id)
    (h : claimResourceVerification texts r a.check a.stamp = .ok ⟨some d, answer⟩) :
    Moved texts a r d := by
  obtain ⟨_, hlive, h⟩ := bind_eq_ok.mp h
  obtain ⟨_, -, h⟩ := bind_eq_ok.mp h
  obtain ⟨-, h⟩ := of_keep_or h nofun
  obtain ⟨_, hstage, h⟩ := bind_eq_ok.mp h
  obtain ⟨hfree, h⟩ := of_keep_or h nofun
  apply moved_of_writeProgress (hcall ▸ rfl) (require_eq_ok.mp hlive) h (fun c => ⟨rfl, rfl, rfl⟩)
  intro expiresAt hd
  exact .resourcesClaim hcall (require_eq_ok.mp hstage) (by rw [hd])
    (Option.not_isSome_iff_eq_none.mp hfree) (by rw [hd]; rfl)

theorem resumeAfterAdminReconnect_moved {running : RunningAdmin} (hcall : a.call.cancels = false)
    (h : resumeAfterAdminReconnect texts running r a.stamp = .ok ⟨some d, answer⟩) :
    Moved texts a r d := by
  obtain ⟨_, hlive, h⟩ := bind_eq_ok.mp h
  obtain ⟨_, -, h⟩ := bind_eq_ok.mp h
  obtain ⟨_, -, h⟩ := bind_eq_ok.mp h
  obtain ⟨-, h⟩ := of_keep_or h nofun
  obtain ⟨_, hstage, h⟩ := bind_eq_ok.mp h
  exact moved_of_edge hcall (require_eq_ok.mp hlive) List.mem_cons_self (require_eq_ok.mp hstage) h

theorem markFailed_moved {code : String} {code' message' : Text} {resumeStage : TransitionStage}
    (hcall : a.call = .markFailed id code message resumeStage)
    (h : markFailed texts code' message' resumeStage r a.stamp = .ok ⟨some d, answer⟩) :
    Moved texts a r d := by
  obtain ⟨_, hlive, h⟩ := bind_eq_ok.mp h
  by_cases hfailed : r.stage = .failedRecoverable
  · rw [if_pos hfailed] at h
    cases (of_keep_or h nofun).2
  · rw [if_neg hfailed] at h
    by_cases hallowed : resumeStage ∈ r.stage.recoveryStages
    · rw [dif_pos hallowed] at h
      apply moved_of_writeProgress (hcall ▸ rfl) (require_eq_ok.mp hlive) h (fun c => ⟨rfl, rfl, rfl⟩)
      intro expiresAt hd
      exact .failure hcall hfailed (by rw [hd])
    · rw [dif_neg hallowed] at h
      cases h

theorem retry_moved
    (hcall : a.call = .retry id) (h : retry texts r a.check a.stamp = .ok ⟨some d, answer⟩) :
    Moved texts a r d := by
  obtain ⟨_, hlive, h⟩ := bind_eq_ok.mp h
  obtain ⟨_, -, h⟩ := bind_eq_ok.mp h
  cases hfailure : r.recovery with
  | none =>
    rw [hfailure] at h
    cases h
  | some failure =>
    rw [hfailure] at h
    apply moved_of_writeProgress (hcall ▸ rfl) (require_eq_ok.mp hlive) h (fun c => ⟨rfl, rfl, rfl⟩)
    intro expiresAt hd
    exact .retry hcall (r.consistent.mp (hfailure ▸ rfl))

theorem cancel_moved {inactive : Bool} {claimedAt : Option String}
    (hcall : a.call = .cancel id inactive claimedAt)
    (h : cancel texts inactive claimedAt r a.check a.stamp = .ok ⟨some d, answer⟩) :
    Moved texts a r d := by
  rw [cancel] at h
  obtain ⟨-, h⟩ := of_keep_or h nofun
  obtain ⟨_, hlive, h⟩ := bind_eq_ok.mp h
  obtain ⟨_, -, h⟩ := bind_eq_ok.mp h
  obtain ⟨d', hd, h⟩ := bind_eq_ok.mp h
  obtain rfl : d' = d := by simpa [pure, Except.pure] using (Effect.mk.inj (Except.ok.inj h)).1
  have hd := validated_eq_ok.mp hd
  refine ⟨require_eq_ok.mp hlive, ?_, fun _ => ?_, fun hcancels => ?_, ?_,
    .cancellation hcall ?_⟩
  · rw [hd]
  · rw [hd]
  · rw [hcall] at hcancels
    cases hcancels
  · rw [hd]
  · rw [hd]

/-! ### Calls on the file -/

/-- The record a call puts on file, where it puts one there. -/
def durableWrite (texts : TransitionTexts) (file : FileContent) (a : Attempt) :
    Option DurableRecord :=
  match decision texts a file, a.faults.write with
  | .ok ⟨some d, _⟩, .none => some d
  | .ok ⟨some d, _⟩, .after _ => some d
  | _, _ => none

/-- Whether a call is `begin`. -/
def Call.begins : Call → Bool
  | .begin _ => true
  | _ => false

/-- **The file behind a call is the one before it, or holds the record the call wrote.** -/
theorem next_eq (file : FileContent) (a : Attempt) :
    next texts file a =
      match durableWrite texts file a with
      | none => file
      | some d => .json d.asDict := by
  rw [next, perform, durableWrite]
  cases decision texts a file with
  | error e => rfl
  | ok effect =>
    obtain ⟨written, answer⟩ := effect
    cases written with
    | none => rfl
    | some d => cases a.faults.write <;> rfl

theorem next_of_none (h : durableWrite texts file a = none) :
    next texts file a = file := by
  rw [next_eq, h]

theorem onFile?_next_of_some
    (h : durableWrite texts file a = some d) : onFile? texts (next texts file a) = some d := by
  rw [next_eq, h]
  exact onFile?_asDict d

theorem decision_of_durableWrite (h : durableWrite texts file a = some d) :
    ∃ answer, decision texts a file = .ok ⟨some d, answer⟩ := by
  rw [durableWrite] at h
  cases hdecision : decision texts a file with
  | error e =>
    rw [hdecision] at h
    cases h
  | ok effect =>
    obtain ⟨written, answer⟩ := effect
    rw [hdecision] at h
    cases written with
    | none => cases h
    | some d' =>
      cases hfault : a.faults.write with
      | before message =>
        rw [hfault] at h
        cases h
      | none =>
        rw [hfault] at h
        obtain rfl := Option.some.inj h
        exact ⟨answer, rfl⟩
      | after message =>
        rw [hfault] at h
        obtain rfl := Option.some.inj h
        exact ⟨answer, rfl⟩

/-- **Every call but `begin` writes what it makes of the record on file.** -/
theorem moved_of_decision
    (hbegin : a.call.begins = false) (h : decision texts a file = .ok ⟨some d, answer⟩) :
    ∃ r, onFile? texts file = some r ∧ Moved texts a r d := by
  rw [decision] at h
  cases hcall : a.call with
  | begin candidate =>
    rw [hcall] at hbegin
    cases hbegin
  | advance id expected new =>
    rw [hcall] at h
    obtain ⟨r, hr, h⟩ := bind_eq_ok.mp h
    exact ⟨r, (recordLocked_eq_ok hr).1, advance_moved (hcall ▸ rfl) h⟩
  | claim id expected new =>
    rw [hcall] at h
    obtain ⟨r, hr, h⟩ := bind_eq_ok.mp h
    exact ⟨r, (recordLocked_eq_ok hr).1, claim_moved (hcall ▸ rfl) h⟩
  | claimAdminUpdate id =>
    rw [hcall] at h
    obtain ⟨r, hr, h⟩ := bind_eq_ok.mp h
    exact ⟨r, (recordLocked_eq_ok hr).1, claimAdminUpdate_moved hcall h⟩
  | claimResourceVerification id =>
    rw [hcall] at h
    obtain ⟨r, hr, h⟩ := bind_eq_ok.mp h
    exact ⟨r, (recordLocked_eq_ok hr).1, claimResourceVerification_moved hcall h⟩
  | resumeAfterAdminReconnect id running =>
    rw [hcall] at h
    obtain ⟨r, hr, h⟩ := bind_eq_ok.mp h
    exact ⟨r, (recordLocked_eq_ok hr).1, resumeAfterAdminReconnect_moved (hcall ▸ rfl) h⟩
  | markFailed id code message resumeStage =>
    rw [hcall] at h
    obtain ⟨code', -, h⟩ := bind_eq_ok.mp h
    obtain ⟨message', -, h⟩ := bind_eq_ok.mp h
    obtain ⟨r, hr, h⟩ := bind_eq_ok.mp h
    exact ⟨r, (recordLocked_eq_ok hr).1, markFailed_moved hcall h⟩
  | retry id =>
    rw [hcall] at h
    obtain ⟨r, hr, h⟩ := bind_eq_ok.mp h
    exact ⟨r, (recordLocked_eq_ok hr).1, retry_moved hcall h⟩
  | cancel id inactive claimedAt =>
    rw [hcall] at h
    obtain ⟨found, hfound, h⟩ := bind_eq_ok.mp h
    cases found with
    | none => cases keep_eq_ok.mp h
    | some r =>
      obtain ⟨r', hr', hcancel⟩ := bind_eq_ok.mp h
      obtain ⟨rfl, -⟩ := requireOperation_eq_ok hr'
      exact ⟨r', readRecord_eq_ok hfound, cancel_moved hcall hcancel⟩

end SolarFlowEms.Admin.Transition
