import SolarFlowEms.Admin.TransitionSteps
import SolarFlowEms.Library.Run

/-!
# The steps of a transition are taken once

Replacing the Admin, importing the resources and deploying the EMS each run after a claim, and a
claim is taken by one caller.  It is spent in the stage, which only grows, or in a stamp; both are
taken back by a retry alone, and a retry needs a failure on record.  So between two claims of one
step of one operation, which begins once, a failure was recorded, and then retried.

A deadline that has passed stays where it is, and past it there are no claims and no retries.
-/

namespace SolarFlowEms.Admin.Transition

open Python Documents Fallible Run TimeText Calendar

variable {texts : TransitionTexts}

/-! ### Ranks -/

/-- How far a stage is on the way to the end. -/
def TransitionStage.rank : TransitionStage → ℕ
  | adminUpdatePending => 0
  | adminReconnectPending => 1
  | adminAligned => 2
  | resourcesVerified => 3
  | emsOperationPending => 4
  | emsOperationRunning => 5
  | healthcheckPending => 6
  | completed => 7
  | failedRecoverable => 8
  | cancelled => 8

variable {expected new : TransitionStage} {d : DurableRecord} {effect : Effect}

theorem rank_of_edge (h : new ∈ expected.edges)
    (hnew : new ≠ .failedRecoverable) : new.rank = expected.rank + 1 := by
  cases expected <;> cases new <;> simp_all [TransitionStage.edges, TransitionStage.rank]

theorem edges_failedRecoverable :
    new ∉ TransitionStage.failedRecoverable.edges := List.not_mem_nil

/-- An edge leads to a failure only with a failure, which nothing but `mark_failed` has. -/
theorem not_failed_of_edge {r : DurableRecord}
    (hedge : new ∈ expected.edges) (hstart : r.stage = expected)
    (hfailure : d.recovery = r.recovery) :
    d.stage ≠ .failedRecoverable := by
  intro hfailed
  have hsome : r.recovery.isSome = true := hfailure ▸ d.consistent.mpr hfailed
  rw [← hstart, r.consistent.mp hsome] at hedge
  exact edges_failedRecoverable hedge

/-! ### Claims -/

/-- The steps that are claimed. -/
inductive OneShot where
  | edge (expected new : TransitionStage)
  | adminUpdate
  | resources
deriving DecidableEq

def Call.oneShot? : Call → Option OneShot
  | .claim _ expected new => some (.edge expected new)
  | .claimAdminUpdate _ => some .adminUpdate
  | .claimResourceVerification _ => some .resources
  | _ => none

/-- Whether the record shows that a step was claimed. -/
def Spent (r : TransitionRecord) : OneShot → Prop
  | .edge expected _ => expected.rank < r.stage.rank
  | .adminUpdate => r.adminUpdateClaimedAt ≠ none
  | .resources => r.resourcesClaimedAt ≠ none

/-- A call that takes the claim of a step of an operation. -/
def Takes (texts : TransitionTexts) (step : OneShot) (o : String) (file : FileContent)
    (a : Attempt) : Prop :=
  a.call.oneShot? = some step ∧ (perform texts a file).1 = .ok (.claimed true) ∧
    ∃ r, onFile? texts file = some r ∧ r.operationId.val = o

/-- A call that puts a failure of an operation on record. -/
def RecordsFailure (texts : TransitionTexts) (o : String) (file : FileContent) (a : Attempt) :
    Prop :=
  (∃ id code message resumeStage, a.call = .markFailed id code message resumeStage) ∧
    ∃ d, durableWrite texts file a = some d ∧ d.operationId.val = o ∧ d.stage = .failedRecoverable

def Retries (texts : TransitionTexts) (o : String) (file : FileContent) (a : Attempt) : Prop :=
  (∃ id, a.call = .retry id) ∧ ∃ d, durableWrite texts file a = some d ∧ d.operationId.val = o

def Begins (texts : TransitionTexts) (o : String) (file : FileContent) (a : Attempt) : Prop :=
  a.call.begins = true ∧ ∃ d, durableWrite texts file a = some d ∧ d.operationId.val = o

variable {step : OneShot} {o : String} {t : Reading} {file : FileContent} {a : Attempt}

theorem durableWrite_of_answered {written : Option DurableRecord} {answer answer' : Answer}
    (h : decision texts a file = .ok ⟨written, answer⟩)
    (hanswer : (perform texts a file).1 = .ok answer') :
    answer' = answer ∧ durableWrite texts file a = written := by
  rw [perform, h] at hanswer
  rw [durableWrite, h]
  cases written with
  | none => exact ⟨(Except.ok.inj hanswer).symm, rfl⟩
  | some d =>
    cases hfault : a.faults.write with
    | none =>
      rw [hfault] at hanswer
      exact ⟨(Except.ok.inj hanswer).symm, rfl⟩
    | before message =>
      rw [hfault] at hanswer
      cases hanswer
    | after message =>
      rw [hfault] at hanswer
      cases hanswer

theorem written_of_claimed {r : TransitionRecord} {now : Reading}
    {change : TransitionRecord → TransitionRecord} {answer : DurableRecord → Answer}
    (h : writeProgress texts r now change answer = .ok effect) :
    ∃ d, effect.written = some d ∧ ∃ expiresAt,
      d.toTransitionRecord = change { r with updatedAt := now.stamp, expiresAt } := by
  obtain ⟨d, expiresAt, rfl, -, hd⟩ := writeProgress_eq_ok h
  exact ⟨d, rfl, expiresAt, hd⟩

/-- What a claim needs of the record, and leaves on it. -/
structure Claimed (texts : TransitionTexts) (step : OneShot) (check : Reading)
    (r : DurableRecord) (written : Option DurableRecord) : Prop where
  live : r.stage.terminal = false
  fresh : isExpired texts r.toTransitionRecord check = false
  ordinary : r.stage ≠ .failedRecoverable
  unspent : ¬ Spent r.toTransitionRecord step
  spent : ∃ d, written = some d ∧ Spent d.toTransitionRecord step ∧ d.stage ≠ .failedRecoverable

section

variable {r : DurableRecord} {check now : Reading} {written : Option DurableRecord}

theorem claim_claimed {expected new : TransitionStage}
    (h : claim texts expected new r check now = .ok ⟨written, .claimed true⟩) :
    Claimed texts (.edge expected new) check r written := by
  obtain ⟨_, hlive, h⟩ := bind_eq_ok.mp h
  obtain ⟨_, hedge, h⟩ := bind_eq_ok.mp h
  obtain ⟨-, h⟩ := of_keep_or h nofun
  obtain ⟨_, hfresh, h⟩ := bind_eq_ok.mp h
  obtain ⟨_, hstage, h⟩ := bind_eq_ok.mp h
  obtain ⟨d, hwritten, expiresAt, hd⟩ := written_of_claimed h
  have hedge := require_eq_ok.mp hedge
  have hstage := require_eq_ok.mp hstage
  have hordinary : d.stage ≠ .failedRecoverable :=
    not_failed_of_edge hedge hstage (by rw [hd])
  have htarget : d.stage = new := by rw [hd]
  refine ⟨require_eq_ok.mp hlive, require_eq_ok.mp hfresh, ?_, ?_, d, hwritten, ?_, hordinary⟩
  · intro hfailed
    rw [← hstage, hfailed] at hedge
    exact edges_failedRecoverable hedge
  · intro hspent
    rw [Spent, hstage] at hspent
    exact lt_irrefl _ hspent
  · rw [Spent, htarget, rank_of_edge hedge (htarget ▸ hordinary)]
    exact Nat.lt_succ_self _

/-- A claim that is spent in a stamp leaves the stage as it is. -/
theorem claimed_of_stamp {change : TransitionRecord → TransitionRecord}
    (hlive : r.stage.terminal = false) (hfresh : isExpired texts r.toTransitionRecord check = false)
    (hordinary : r.stage ≠ .failedRecoverable) (hfree : ¬ Spent r.toTransitionRecord step)
    (h : writeProgress texts r.toTransitionRecord now change (fun _ => .claimed true) =
      .ok ⟨written, .claimed true⟩)
    (hchange : ∀ c, Spent (change c) step ∧ (change c).stage = c.stage) :
    Claimed texts step check r written := by
  obtain ⟨d, hwritten, expiresAt, hd⟩ := written_of_claimed h
  obtain ⟨hspent, hkept⟩ := hchange { r.toTransitionRecord with updatedAt := now.stamp, expiresAt }
  rw [← hd] at hspent hkept
  exact ⟨hlive, hfresh, hordinary, hfree, d, hwritten, hspent, fun h => hordinary (hkept ▸ h)⟩

theorem claimAdminUpdate_claimed
    (h : claimAdminUpdate texts r check now = .ok ⟨written, .claimed true⟩) :
    Claimed texts .adminUpdate check r written := by
  obtain ⟨_, hlive, h⟩ := bind_eq_ok.mp h
  obtain ⟨_, hfresh, h⟩ := bind_eq_ok.mp h
  obtain ⟨_, hstage, h⟩ := bind_eq_ok.mp h
  obtain ⟨hfree, h⟩ := of_keep_or h nofun
  refine claimed_of_stamp (require_eq_ok.mp hlive) (require_eq_ok.mp hfresh) ?_
    (fun hspent => hspent (Option.not_isSome_iff_eq_none.mp hfree)) h
    fun c => ⟨Option.some_ne_none _, rfl⟩
  rw [require_eq_ok.mp hstage]
  decide

theorem claimResourceVerification_claimed
    (h : claimResourceVerification texts r check now = .ok ⟨written, .claimed true⟩) :
    Claimed texts .resources check r written := by
  obtain ⟨_, hlive, h⟩ := bind_eq_ok.mp h
  obtain ⟨_, hfresh, h⟩ := bind_eq_ok.mp h
  obtain ⟨-, h⟩ := of_keep_or h nofun
  obtain ⟨_, hstage, h⟩ := bind_eq_ok.mp h
  obtain ⟨hfree, h⟩ := of_keep_or h nofun
  refine claimed_of_stamp (require_eq_ok.mp hlive) (require_eq_ok.mp hfresh) ?_
    (fun hspent => hspent (Option.not_isSome_iff_eq_none.mp hfree)) h
    fun c => ⟨Option.some_ne_none _, rfl⟩
  rw [require_eq_ok.mp hstage]
  decide

end

/-- **A claim is taken of a record that does not show it, and shows in the record behind it.** -/
theorem claimed_of_takes (h : Takes texts step o file a) :
    ∃ r, onFile? texts file = some r ∧ r.operationId.val = o ∧
      Claimed texts step a.check r (durableWrite texts file a) := by
  obtain ⟨hstep, hanswer, r, hr, ho⟩ := h
  refine ⟨r, hr, ho, ?_⟩
  have hdecision : ∃ effect, decision texts a file = .ok effect := by
    cases hdecision : decision texts a file with
    | ok effect => exact ⟨effect, rfl⟩
    | error e =>
      rw [perform, hdecision] at hanswer
      cases hanswer
  obtain ⟨⟨written, answer⟩, hdecision⟩ := hdecision
  obtain ⟨rfl, hwritten⟩ := durableWrite_of_answered hdecision hanswer
  rw [hwritten]
  rw [decision] at hdecision
  cases hcall : a.call with
  | claim id expected new =>
    rw [hcall] at hdecision hstep
    obtain rfl := Option.some.inj hstep
    exact claim_claimed (of_recordLocked hr hdecision)
  | claimAdminUpdate id =>
    rw [hcall] at hdecision hstep
    obtain rfl := Option.some.inj hstep
    exact claimAdminUpdate_claimed (of_recordLocked hr hdecision)
  | claimResourceVerification id =>
    rw [hcall] at hdecision hstep
    obtain rfl := Option.some.inj hstep
    exact claimResourceVerification_claimed (of_recordLocked hr hdecision)
  | _ =>
    rw [hcall] at hstep
    cases hstep

/-! ### Between two claims -/

/-- No claim of a step of an operation is to be had before a failure of it. -/
def Locked (texts : TransitionTexts) (step : OneShot) (o : String) (file : FileContent) : Prop :=
  ∀ r, onFile? texts file = some r → r.operationId.val = o →
    r.stage.terminal = true ∨ (r.stage ≠ .failedRecoverable ∧ Spent r.toTransitionRecord step)

/-- An operation waits for its failure to be retried, or has ended. -/
def Awaiting (texts : TransitionTexts) (o : String) (file : FileContent) : Prop :=
  ∀ r, onFile? texts file = some r → r.operationId.val = o →
    r.stage.terminal = true ∨ r.stage = .failedRecoverable

theorem not_takes_of_locked (h : Locked texts step o file) : ¬ Takes texts step o file a := by
  intro htakes
  obtain ⟨r, hr, ho, hclaimed⟩ := claimed_of_takes htakes
  rcases h r hr ho with hterminal | ⟨-, hspent⟩
  · rw [hclaimed.live] at hterminal
    cases hterminal
  · exact hclaimed.unspent hspent

theorem not_takes_of_awaiting (h : Awaiting texts o file) : ¬ Takes texts step o file a := by
  intro htakes
  obtain ⟨r, hr, ho, hclaimed⟩ := claimed_of_takes htakes
  rcases h r hr ho with hterminal | hfailed
  · rw [hclaimed.live] at hterminal
    cases hterminal
  · exact hclaimed.ordinary hfailed

theorem moved_of_durableWrite (hbegin : ¬ Begins texts o file a)
    (hd : durableWrite texts file a = some d) (ho : d.operationId.val = o) :
    ∃ r, onFile? texts file = some r ∧ r.operationId.val = o ∧ Moved texts a r d := by
  have hcall : a.call.begins = false := by
    cases hbegins : a.call.begins with
    | false => rfl
    | true => exact absurd ⟨hbegins, d, hd, ho⟩ hbegin
  obtain ⟨answer, hdecision⟩ := decision_of_durableWrite hd
  obtain ⟨r, hr, hmoved⟩ := moved_of_decision hcall hdecision
  exact ⟨r, hr, by rw [← hmoved.operation, ho], hmoved⟩

theorem forall_onFile_next {P : DurableRecord → Prop} (hbegin : ¬ Begins texts o file a)
    (h : ∀ r, onFile? texts file = some r → r.operationId.val = o → P r)
    (hmoved : ∀ r d, onFile? texts file = some r → durableWrite texts file a = some d →
      r.operationId.val = o → P r → Moved texts a r d → P d) :
    ∀ d, onFile? texts (next texts file a) = some d → d.operationId.val = o → P d := by
  intro d hd ho
  cases hwrite : durableWrite texts file a with
  | none =>
    rw [next_of_none hwrite] at hd
    exact h d hd ho
  | some d' =>
    rw [onFile?_next_of_some hwrite] at hd
    obtain rfl := Option.some.inj hd
    obtain ⟨r, hr, hro, hmove⟩ := moved_of_durableWrite hbegin hwrite ho
    exact hmoved r d' hr hwrite hro (h r hr hro) hmove

/-- **A spent claim stays spent until a failure is recorded.** -/
theorem locked_next (h : Locked texts step o file) (hbegin : ¬ Begins texts o file a) :
    Locked texts step o (next texts file a) ∨ RecordsFailure texts o file a := by
  by_cases hfailure : RecordsFailure texts o file a
  · exact .inr hfailure
  · refine .inl (forall_onFile_next hbegin h ?_)
    intro r d hr hd ho hlocked hmoved
    rcases hlocked with hterminal | ⟨hordinary, hspent⟩
    · rw [hmoved.live] at hterminal
      cases hterminal
    · have hdo : d.operationId.val = o := hmoved.operation ▸ ho
      cases hmoved.change with
      | stage edge start target failure kept =>
        have hd' : d.stage ≠ .failedRecoverable := not_failed_of_edge edge start failure
        have hrank := rank_of_edge edge (target ▸ hd')
        refine .inr ⟨hd', ?_⟩
        cases step with
        | edge expected new =>
          rw [Spent, start] at hspent
          rw [Spent, target, hrank]
          exact Nat.lt_succ_of_lt hspent
        | adminUpdate =>
          rw [Spent, show d.adminUpdateClaimedAt = r.adminUpdateClaimedAt from (Prod.mk.inj kept).1]
          exact hspent
        | resources =>
          rw [Spent, show d.resourcesClaimedAt = r.resourcesClaimedAt from (Prod.mk.inj kept).2]
          exact hspent
      | adminClaim call start kept free claimed =>
        refine .inr ⟨kept ▸ hordinary, ?_⟩
        cases step with
        | edge expected new =>
          rw [Spent, kept]
          exact hspent
        | adminUpdate => exact absurd free hspent
        | resources =>
          rw [Spent, show d.resourcesClaimedAt = r.resourcesClaimedAt from (Prod.mk.inj claimed).2]
          exact hspent
      | resourcesClaim call start kept free claimed =>
        refine .inr ⟨kept ▸ hordinary, ?_⟩
        cases step with
        | edge expected new =>
          rw [Spent, kept]
          exact hspent
        | adminUpdate =>
          rw [Spent, show d.adminUpdateClaimedAt = r.adminUpdateClaimedAt from (Prod.mk.inj claimed).1]
          exact hspent
        | resources => exact absurd free hspent
      | failure call start target =>
        exact absurd ⟨⟨_, _, _, _, call⟩, d, hd, hdo, target⟩ hfailure
      | retry call start => exact absurd start hordinary
      | cancellation call target => exact .inl (target ▸ rfl)

/-- **A failure stays on record until it is retried**, or the operation ends. -/
theorem awaiting_next (h : Awaiting texts o file) (hbegin : ¬ Begins texts o file a) :
    Awaiting texts o (next texts file a) ∨ Retries texts o file a := by
  by_cases hretries : Retries texts o file a
  · exact .inr hretries
  · refine .inl (forall_onFile_next hbegin h ?_)
    intro r d hr hd ho hawaiting hmoved
    rcases hawaiting with hterminal | hfailed
    · rw [hmoved.live] at hterminal
      cases hterminal
    · cases hmoved.change with
      | stage edge start target failure kept =>
        rw [← start, hfailed] at edge
        exact absurd edge edges_failedRecoverable
      | adminClaim call start kept free claimed
      | resourcesClaim call start kept free claimed => cases hfailed.symm.trans start
      | failure call start target => exact absurd hfailed start
      | retry call start => exact absurd ⟨⟨_, call⟩, d, hd, hmoved.operation ▸ ho⟩ hretries
      | cancellation call target => exact .inl (target ▸ rfl)

theorem locked_of_takes (h : Takes texts step o file a) :
    Locked texts step o (next texts file a) := by
  obtain ⟨r, -, -, hclaimed⟩ := claimed_of_takes h
  obtain ⟨d, hd, hspent, hordinary⟩ := hclaimed.spent
  intro d' hd' ho
  rw [onFile?_next_of_some hd] at hd'
  obtain rfl := Option.some.inj hd'
  exact .inr ⟨hordinary, hspent⟩

theorem awaiting_of_recordsFailure (h : RecordsFailure texts o file a) :
    Awaiting texts o (next texts file a) := by
  obtain ⟨-, d, hd, -, hfailed⟩ := h
  intro d' hd' ho
  rw [onFile?_next_of_some hd] at hd'
  obtain rfl := Option.some.inj hd'
  exact .inr hfailed

/-- A failure that is recorded in a run, and a retry behind it. -/
def FailedThenRetried (texts : TransitionTexts) (o : String) (file : FileContent)
    (attempts : List Attempt) : Prop :=
  ∃ before failed between retried after,
    attempts = before ++ failed :: between ++ retried :: after ∧
      RecordsFailure texts o (run (next texts) file before) failed ∧
      Retries texts o (run (next texts) file (before ++ failed :: between)) retried

/-- **Between two claims of a step of an operation a failure was recorded and then retried.** -/
theorem failedThenRetried_of_takes {first second : Attempt} {between : List Attempt}
    (hfirst : Takes texts step o file first)
    (hbegin : EveryStep (next texts) (fun file a => ¬ Begins texts o file a)
      (next texts file first) between)
    (hsecond : Takes texts step o (run (next texts) (next texts file first) between) second) :
    FailedThenRetried texts o (next texts file first) between := by
  have hlocked := fun file a => @locked_next texts step o file a
  have hawaiting := fun file a => @awaiting_next texts o file a
  rcases holds_or_exists_event hlocked (locked_of_takes hfirst) hbegin with
    hend | ⟨before, failed, rest, rfl, -, -, hfailed, hrest⟩
  · exact absurd hsecond (not_takes_of_locked hend)
  · rw [run_append, run_cons] at hsecond
    rcases holds_or_exists_event hawaiting (awaiting_of_recordsFailure hfailed) hrest with
      hend | ⟨middle, retried, after, rfl, -, -, hretried, -⟩
    · exact absurd hsecond (not_takes_of_awaiting hend)
    · refine ⟨before, failed, middle, retried, after, by simp, hfailed, ?_⟩
      rwa [run_append, run_cons]

/-! ### Ended records -/

/-- **A terminal record is changed by no call but `begin`.** -/
theorem next_of_terminal {r : DurableRecord} (hr : onFile? texts file = some r)
    (hterminal : r.stage.terminal = true) (hbegin : a.call.begins = false) :
    next texts file a = file := by
  cases hwrite : durableWrite texts file a with
  | none => exact next_of_none hwrite
  | some d =>
    obtain ⟨answer, hdecision⟩ := decision_of_durableWrite hwrite
    obtain ⟨r', hr', hmoved⟩ := moved_of_decision hbegin hdecision
    obtain rfl : r' = r := Option.some.inj (hr'.symm.trans hr)
    rw [hmoved.live] at hterminal
    cases hterminal

/-! ### Deadlines that have passed -/

theorem isExpired_mono {r : TransitionRecord} {t now : Reading} (h : isExpired texts r t = true)
    (hle : t.micros ≤ now.micros) : isExpired texts r now = true := by
  rw [isExpired] at h ⊢
  cases hparse : texts.parseIso r.expiresAt.val with
  | none => rfl
  | some expires =>
    rw [hparse] at h
    exact decide_eq_true ((of_decide_eq_true h).trans (Int.ofNat_le.mpr hle))

theorem isExpired_congr {r d : TransitionRecord} (h : d.expiresAt = r.expiresAt) (now : Reading) :
    isExpired texts d now = isExpired texts r now := by
  rw [isExpired, isExpired, h]

theorem renewedExpiry_of_isExpired {r : TransitionRecord} {now : Reading}
    (h : isExpired texts r now = true) : renewedExpiry texts r now = .ok r.expiresAt := by
  rw [isExpired] at h
  rw [renewedExpiry]
  cases texts.parseIso r.updatedAt.val with
  | none => rfl
  | some written =>
    cases hparse : texts.parseIso r.expiresAt.val with
    | none => rfl
    | some expires =>
      rw [hparse] at h
      by_cases hwindow : expires ≤ written
      · exact if_pos hwindow
      · exact (if_neg hwindow).trans (if_pos (of_decide_eq_true h))

/-- A record of an operation is expired at `t`. -/
def ExpiredAt (texts : TransitionTexts) (o : String) (t : Reading) (file : FileContent) : Prop :=
  ∀ r, onFile? texts file = some r → r.operationId.val = o →
    isExpired texts r.toTransitionRecord t = true

/-- The readings of a call come at or after `t`. -/
def NotBefore (t : Reading) (a : Attempt) : Prop :=
  t.micros ≤ a.check.micros ∧ t.micros ≤ a.stamp.micros

theorem expiredAt_next (h : ExpiredAt texts o t file) (hbegin : ¬ Begins texts o file a)
    (htime : NotBefore t a) :
    ExpiredAt texts o t (next texts file a) := by
  apply forall_onFile_next hbegin h
  intro r d hr hd ho hexpired hmoved
  rw [← hexpired]
  apply isExpired_congr
  cases hcancels : a.call.cancels with
  | true => exact hmoved.kept hcancels
  | false =>
    have hrenewed := hmoved.renewed hcancels
    rw [renewedExpiry_of_isExpired (isExpired_mono hexpired htime.2)] at hrenewed
    exact (Except.ok.inj hrenewed).symm

theorem not_takes_of_expired (h : ExpiredAt texts o t file) (htime : NotBefore t a) :
    ¬ Takes texts step o file a := by
  intro htakes
  obtain ⟨r, hr, ho, hclaimed⟩ := claimed_of_takes htakes
  have hexpired := isExpired_mono (h r hr ho) htime.1
  rw [hclaimed.fresh] at hexpired
  cases hexpired

theorem fresh_of_retry {r : DurableRecord} {check now : Reading}
    (h : retry texts r check now = .ok effect) :
    isExpired texts r.toTransitionRecord check = false := by
  obtain ⟨_, -, h⟩ := bind_eq_ok.mp h
  obtain ⟨_, hfresh, -⟩ := bind_eq_ok.mp h
  exact require_eq_ok.mp hfresh

theorem not_retries_of_expired (h : ExpiredAt texts o t file) (htime : NotBefore t a) :
    ¬ Retries texts o file a := by
  intro hretries
  obtain ⟨⟨id, hcall⟩, d, hd, ho⟩ := hretries
  have hbegin : ¬ Begins texts o file a := by
    intro hbegins
    have hfalse := hbegins.1
    rw [hcall] at hfalse
    cases hfalse
  obtain ⟨r, hr, hro, -⟩ := moved_of_durableWrite hbegin hd ho
  obtain ⟨answer, hdecision⟩ := decision_of_durableWrite hd
  rw [decision, hcall] at hdecision
  obtain ⟨r', hr', hretry⟩ := bind_eq_ok.mp hdecision
  obtain rfl : r' = r := Option.some.inj ((recordLocked_eq_ok hr').1.symm.trans hr)
  have hexpired := isExpired_mono (h r' hr hro) htime.1
  rw [fresh_of_retry hretry] at hexpired
  cases hexpired

/-- **Past its deadline an operation stays expired**, and it is neither claimed nor retried. -/
theorem expired_run {attempts : List Attempt} (h : ExpiredAt texts o t file)
    (htime : ∀ a ∈ attempts, NotBefore t a)
    (hbegin : EveryStep (next texts) (fun file a => ¬ Begins texts o file a) file attempts) :
    EveryStep (next texts) (fun file a => ExpiredAt texts o t file ∧
      (∀ step, ¬ Takes texts step o file a) ∧ ¬ Retries texts o file a) file attempts ∧
    ExpiredAt texts o t (run (next texts) file attempts) := by
  induction attempts generalizing file with
  | nil => exact ⟨trivial, h⟩
  | cons a attempts ih =>
    have hnow := htime a List.mem_cons_self
    have hlater : ∀ a' ∈ attempts, NotBefore t a' := fun a' ha' =>
      htime a' (List.mem_cons_of_mem a ha')
    obtain ⟨hsteps, hend⟩ := ih (expiredAt_next h hbegin.1 hnow) hlater hbegin.2
    have hstep := not_retries_of_expired h hnow
    exact ⟨⟨⟨h, fun step => not_takes_of_expired h hnow, hstep⟩, hsteps⟩, hend⟩

/-! ### Runs -/

/-- The readings of a run, in the order in which they are taken, do not decrease. -/
def NonDecreasing (attempts : List Attempt) : Prop :=
  (attempts.flatMap fun a => [a.check.micros, a.stamp.micros]).Pairwise (· ≤ ·)

theorem notBefore_of_nonDecreasing {before after rest : List Attempt}
    (h : NonDecreasing (before ++ after ++ rest))
    (hfirst : ∀ a ∈ after.head?, t.micros ≤ a.check.micros) : ∀ a ∈ after, NotBefore t a := by
  rw [NonDecreasing, List.flatMap_append, List.flatMap_append] at h
  have hafter := (List.pairwise_append.mp (List.pairwise_append.mp h).1).2.1
  cases after with
  | nil =>
    intro a ha
    cases ha
  | cons first later =>
    have ht := hfirst first rfl
    rw [List.flatMap_cons, List.cons_append, List.singleton_append, List.pairwise_cons,
      List.pairwise_cons] at hafter
    obtain ⟨hcheck, -⟩ := hafter
    intro a ha
    rcases List.mem_cons.mp ha with rfl | hlater
    · exact ⟨ht, ht.trans (hcheck _ List.mem_cons_self)⟩
    · have hreadings : ∀ n ∈ [a.check.micros, a.stamp.micros], t.micros ≤ n := fun n hn =>
        ht.trans (hcheck n (List.mem_cons_of_mem _ (List.mem_flatMap.mpr ⟨a, hlater, hn⟩)))
      exact ⟨hreadings _ List.mem_cons_self, hreadings _ (List.mem_cons_of_mem _ List.mem_cons_self)⟩

def recoveryFields : List String := ["failed_stage", "resume_stage", "error_code", "error_message"]

/-- The recovery fields are set exactly at `failed_recoverable`. -/
theorem recoveryFields_isNone (d : DurableRecord) : ∀ key ∈ recoveryFields,
    (getValue d.entries key).isNone = decide (d.stage ≠ .failedRecoverable) := by
  have hfields : ∀ key ∈ recoveryFields, (getValue d.entries key).isNone = d.recovery.isNone := by
    obtain ⟨⟨op, stage, expiresAt, updatedAt, recovery, adminClaim, resourcesClaim⟩, hconsistent⟩ := d
    intro key hkey
    simp only [recoveryFields, List.mem_cons, List.not_mem_nil, or_false] at hkey
    rcases hkey with rfl | rfl | rfl | rfl <;> cases recovery <;> rfl
  intro key hkey
  rw [hfields key hkey]
  by_cases hfailed : d.stage = .failedRecoverable
  · have hsome := d.consistent.mpr hfailed
    simp [hfailed, ← Option.not_isSome, hsome]
  · have hnone : d.recovery.isSome = false := by
      cases hsome : d.recovery.isSome with
      | false => rfl
      | true => exact absurd (d.consistent.mp hsome) hfailed
    simp [hfailed, ← Option.not_isSome, hnone]

theorem next_accepted (file : FileContent) (a : Attempt) :
    next texts file a = file ∨ ∃ d : DurableRecord, next texts file a = .json d.asDict ∧
      parseTransitionRecord texts d.asDict = .ok d ∧ ∀ key ∈ recoveryFields,
        (getValue d.entries key).isNone = decide (d.stage ≠ .failedRecoverable) := by
  rw [next_eq]
  cases durableWrite texts file a with
  | none => exact .inl rfl
  | some d => exact .inr ⟨d, rfl, parseTransitionRecord_durable d, recoveryFields_isNone d⟩

/-- **The steps of a system-build operation are taken once.**  In every run of calls at readings
of the clock that do not decrease: between two claims of one step of one operation a failure was
recorded and then retried; a terminal record is changed by `begin` alone; an operation whose
deadline has passed stays expired and is neither claimed nor retried; and every record that is
written is one the parser accepts, with its recovery fields set exactly at
`failed_recoverable`. -/
theorem one_shot_steps (texts : TransitionTexts) (file : FileContent) (attempts : List Attempt)
    (hclock : NonDecreasing attempts) :
    (∀ before first between second after step o,
      attempts = before ++ first :: between ++ second :: after →
      Takes texts step o (run (next texts) file before) first →
      EveryStep (next texts) (fun file a => ¬ Begins texts o file a)
        (next texts (run (next texts) file before) first) between →
      Takes texts step o (run (next texts) file (before ++ first :: between)) second →
      FailedThenRetried texts o (next texts (run (next texts) file before) first) between) ∧
    EveryStep (next texts) (fun file a => ∀ r, onFile? texts file = some r →
      r.stage.terminal = true → a.call.begins = false → next texts file a = file) file attempts ∧
    (∀ before after rest o t, attempts = before ++ after ++ rest →
      (∀ a ∈ after.head?, t.micros ≤ a.check.micros) →
      ExpiredAt texts o t (run (next texts) file before) →
      EveryStep (next texts) (fun file a => ¬ Begins texts o file a)
        (run (next texts) file before) after →
      EveryStep (next texts) (fun file a => ExpiredAt texts o t file ∧
        (∀ step, ¬ Takes texts step o file a) ∧ ¬ Retries texts o file a)
        (run (next texts) file before) after ∧
      ExpiredAt texts o t (run (next texts) file (before ++ after))) ∧
    EveryStep (next texts) (fun file a => next texts file a = file ∨
      ∃ d : DurableRecord, next texts file a = .json d.asDict ∧
        parseTransitionRecord texts d.asDict = .ok d ∧ ∀ key ∈ recoveryFields,
          (getValue d.entries key).isNone = decide (d.stage ≠ .failedRecoverable))
      file attempts := by
  refine ⟨?_, ?_, ?_, ?_⟩
  · intro before first between second after step o _ hfirst hbegin hsecond
    rw [run_append, run_cons] at hsecond
    exact failedThenRetried_of_takes hfirst hbegin hsecond
  · exact everyStep_of_forall (fun a _ file r hr hterminal hbegin =>
      next_of_terminal hr hterminal hbegin) file
  · intro before after rest o t hattempts hfirst hexpired hbegin
    rw [run_append]
    exact expired_run hexpired (notBefore_of_nonDecreasing (hattempts ▸ hclock) hfirst) hbegin
  · exact everyStep_of_forall (fun a _ file => next_accepted file a) file

/-! ### A sample -/

/-- Texts of the clock as the interpreter reads them. -/
def clockTexts : TransitionTexts where
  repr _ := ""
  parseIso s := (strptimeUtc s).map fun t => (t.seconds * microsPerSecond : ℕ)

instance neZero_secondsOfDay : NeZero 86400 := ⟨by decide⟩

/-- A reading on the first of January 2026. -/
def secondsAfter (n : Fin 86400) : Reading where
  micros := (63902822400 + n) * microsPerSecond
  lt := by
    have hn := n.isLt
    simp only [maxOrdinal, secondsPerDay, microsPerSecond]
    omega

def attemptAt (n : Fin 86400) (call : Call) : Attempt :=
  ⟨call, secondsAfter n, secondsAfter n, Faults.none⟩

def sampleText : Text := ⟨"1", by decide, by decide⟩

def sampleOperation : Operation where
  operationId := sampleText
  mode := .guidedUpgrade
  systemTag := sampleText
  admin := ⟨⟨"1-1", .legacyCi, by decide⟩, sampleText, sampleText, sampleText, rfl⟩
  emsImage := sampleText
  emsDigest := sampleText
  createdAt := (secondsAfter 0).stamp
  resumePath := none
  nextStep := nextStepResumeEms
  adminAlignmentRequired := none
  requestFingerprint := none
  developmentRiskAcknowledged := false
  developmentRiskAcknowledgedForTag := none
  compatibilityMode := none
  resourceStrategy := none
  orchestratorOverride := none
  nextStep_ne := nextStepResumeEms_ne
  fingerprint := rfl
  acknowledged := rfl
  overrides := (Option.some_ne_none _).symm

/-- An operation of an hour, at a stage it was not failed at. -/
def sampleRecord (stage : TransitionStage) (h : stage ≠ .failedRecoverable) : DurableRecord where
  toOperation := sampleOperation
  stage := stage
  expiresAt := (secondsAfter 3600).stamp
  updatedAt := (secondsAfter 0).stamp
  recovery := none
  adminUpdateClaimedAt := none
  resourcesClaimedAt := none
  consistent := ⟨fun hsome => (by cases hsome), fun hstage => absurd hstage h⟩

def claimAt (n : Fin 86400) : Attempt :=
  attemptAt n (.claim (some "1") .emsOperationPending .emsOperationRunning)

def failAt (n : Fin 86400) : Attempt :=
  attemptAt n (.markFailed (some "1") "timeout" "no answer" .emsOperationPending)

def retryAt (n : Fin 86400) : Attempt := attemptAt n (.retry (some "1"))

def sampleFile (stage : TransitionStage) (h : stage ≠ .failedRecoverable) : FileContent :=
  .json (sampleRecord stage h).asDict

theorem takes_of_claimed {id : String} (hcall : a.call = .claim (some id) expected new)
    (h : (perform texts a file).1 = .ok (.claimed true)) :
    Takes texts (.edge expected new) id file a := by
  refine ⟨congrArg Call.oneShot? hcall, h, ?_⟩
  cases hdecision : decision texts a file with
  | error e =>
    rw [perform, hdecision] at h
    cases h
  | ok effect =>
    rw [decision, hcall] at hdecision
    obtain ⟨r, hr, -⟩ := bind_eq_ok.mp hdecision
    obtain ⟨hr, hnames⟩ := recordLocked_eq_ok hr
    exact ⟨r, hr, hnames id rfl⟩

/-- The sample is claimed twice: between the claims it failed and was retried.  An hour after it
began it is neither claimed nor retried, and once it has ended a retry leaves it as it is. -/
theorem one_shot_steps_retried :
    FailedThenRetried clockTexts "1"
        (next clockTexts (sampleFile .emsOperationPending (by decide)) (claimAt 1))
        [failAt 2, retryAt 3] ∧
      EveryStep (next clockTexts) (fun file a =>
          ExpiredAt clockTexts "1" (secondsAfter 3600) file ∧
          (∀ step, ¬ Takes clockTexts step "1" file a) ∧ ¬ Retries clockTexts "1" file a)
        (sampleFile .emsOperationPending (by decide)) [claimAt 3600, retryAt 3601] ∧
      next clockTexts (sampleFile .completed (by decide)) (retryAt 1) =
        sampleFile .completed (by decide) := by
  have hnever {file : FileContent} {attempts : List Attempt}
      (h : ∀ a ∈ attempts, a.call.begins = false) :
      EveryStep (next clockTexts) (fun file a => ¬ Begins clockTexts "1" file a) file attempts :=
    everyStep_of_forall (fun a ha _ hbegins => by cases (h a ha).symm.trans hbegins.1) file
  have hclaimed := one_shot_steps clockTexts (sampleFile .emsOperationPending (by decide))
    [claimAt 1, failAt 2, retryAt 3, claimAt 4] (by simp only [NonDecreasing]; decide)
  have hlate := one_shot_steps clockTexts (sampleFile .emsOperationPending (by decide))
    [claimAt 3600, retryAt 3601] (by simp only [NonDecreasing]; decide)
  have hended := one_shot_steps clockTexts (sampleFile .completed (by decide)) [retryAt 1]
    (by simp only [NonDecreasing]; decide)
  refine ⟨hclaimed.1 [] (claimAt 1) [failAt 2, retryAt 3] (claimAt 4) []
      (.edge .emsOperationPending .emsOperationRunning) "1" rfl ?_ (hnever (by decide)) ?_,
    (hlate.2.2.1 [] _ [] "1" (secondsAfter 3600) rfl ?_ ?_ (hnever (by decide))).1,
    hended.2.1.1 _ (onFile?_asDict _) rfl rfl⟩
  · exact takes_of_claimed rfl (by decide +kernel)
  · exact takes_of_claimed rfl (by decide +kernel)
  · intro a ha
    obtain rfl := Option.some.inj ha
    exact le_rfl
  · intro r hr _
    rw [run_nil, sampleFile, onFile?_asDict] at hr
    obtain rfl := Option.some.inj hr
    decide +kernel

end SolarFlowEms.Admin.Transition
