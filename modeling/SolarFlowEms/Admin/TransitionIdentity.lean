import SolarFlowEms.Admin.OneShotSteps

/-!
# Which operation a record is

The identity of a record is every field of it that no step was meant to change, and three
decisions compare identities that were read at different times: whether a begin that failed took
effect, whether the wait for the new Admin was committed, and whether a late caller's operation is
the one on file.  The deadline is among those fields, and every forward write renews it.

So the identity is kept just where the renewed deadline reads as the old one: in the second of
the last write, past the deadline, or where there is no window to renew.
-/

namespace SolarFlowEms.Admin.Transition

open Python Documents Fallible Run TimeText Calendar

variable {texts : TransitionTexts}

/-- `transition_identity`: the fields outside `TRANSITION_MUTABLE_FIELDS`. -/
def transitionIdentity (r : TransitionRecord) : Operation × Text := (r.toOperation, r.expiresAt)

/-! ### The three decisions -/

structure SystemAlignmentError where
  code : String
  message : String
deriving DecidableEq

def isSameOperation (durable record : TransitionRecord) : Bool :=
  durable.operationId = record.operationId &&
    transitionIdentity durable = transitionIdentity record

inductive CommitOutcome where
  | notCommitted
  | committed
  | unprovable
deriving DecidableEq

/-- `_commit_outcome`: what a failed `begin` left on file. -/
def commitOutcome (read : Outcome (Option DurableRecord)) (record : DurableRecord) :
    CommitOutcome :=
  match read with
  | .error _ => .unprovable
  | .ok none => .notCommitted
  | .ok (some durable) =>
    if durable.operationId ≠ record.operationId then .notCommitted
    else if isSameOperation durable.toTransitionRecord record.toTransitionRecord then .committed
    else .unprovable

/-- `_stage_commit_outcome`: what a failed `advance` left on file. -/
def stageCommitOutcome (read : Outcome (Option DurableRecord)) (record : DurableRecord)
    (expected new : TransitionStage) : CommitOutcome × Option DurableRecord :=
  match read with
  | .error _ => (.unprovable, none)
  | .ok none => (.unprovable, none)
  | .ok (some durable) =>
    if isSameOperation durable.toTransitionRecord record.toTransitionRecord then
      if durable.stage = new then (.committed, some durable)
      else if durable.stage = expected then (.notCommitted, some durable)
      else (.unprovable, none)
    else (.unprovable, none)

def stageCommitUnprovable : SystemAlignmentError where
  code := "transition_stage_commit_unprovable"
  message := "the System Build transition stage could not be read back, so it is unknown " ++
    "whether the Admin replacement may be started; check the Admin data " ++
    "directory before retrying"

/-- `_dispatch_authority`: the record on file, where it is provably the caller's. -/
def dispatchAuthority (read : Outcome (Option DurableRecord)) (record : DurableRecord) :
    Except SystemAlignmentError DurableRecord :=
  match read with
  | .ok (some durable) =>
    if isSameOperation durable.toTransitionRecord record.toTransitionRecord then .ok durable
    else .error stageCommitUnprovable
  | _ => .error stageCommitUnprovable

/-- What a call of the service answers: a record, or that a replacement was started. -/
inductive AlignmentResult where
  | transition (record : DurableRecord) (reconnect : Option Bool)
  | started (operationId : Text) (stage : TransitionStage) (decision : Option String)

/-- What a dispatch attempt has published so far. -/
structure DispatchClaim where
  result : Option AlignmentResult
  failure : Option SystemAlignmentError

def DispatchClaim.completed (claim : DispatchClaim) : Bool :=
  claim.result.isSome || claim.failure.isSome

def reconnecting (durable : DurableRecord) : AlignmentResult :=
  .transition durable (some (durable.stage = .adminReconnectPending))

/-- `_report_handed_off_dispatch`. -/
def reportHandedOff (durable : DurableRecord) : Except SystemAlignmentError AlignmentResult :=
  match durable.recovery with
  | some failure => .error ⟨failure.errorCode.val, failure.errorMessage.val⟩
  | none => .ok (reconnecting durable)

/-- `_report_completed_dispatch`. -/
def reportCompleted (claim : DispatchClaim) (read : Outcome (Option DurableRecord))
    (record : DurableRecord) : Except SystemAlignmentError (Option AlignmentResult) :=
  match claim.failure with
  | some failure => .error failure
  | none =>
    match read with
    | .ok (some durable) =>
      if isSameOperation durable.toTransitionRecord record.toTransitionRecord then
        .ok (some (reconnecting durable))
      else .ok claim.result
    | _ => .ok claim.result

/-- `_start_admin_replacement` as far as its decision to launch, which is the answer `none`. -/
def startAnswer (claim : DispatchClaim) (read : Outcome (Option DurableRecord))
    (record : DurableRecord) : Except SystemAlignmentError (Option AlignmentResult) := do
  if claim.completed then reportCompleted claim read record
  else
    let durable ← dispatchAuthority read record
    if durable.stage ≠ .adminUpdatePending then return some (← reportHandedOff durable)
    else return none

/-! ### When a write keeps the deadline -/

/-- The deadline a forward write would give a record reads as the one it has. -/
def SameDeadline (texts : TransitionTexts) (r : TransitionRecord) (now : Reading) : Prop :=
  ∀ written expires deadline, texts.parseIso r.updatedAt.val = some written →
    texts.parseIso r.expiresAt.val = some expires → written < expires → now.micros < expires →
    utcOf? (now.micros + (expires - written)) = some deadline → stampText deadline = r.expiresAt

variable {now : Reading} {expiresAt : Text} {a : Attempt} {r d record : DurableRecord}
  {file : FileContent} {id : Option String} {expected new : TransitionStage}

theorem renewedExpiry_eq_iff {r : TransitionRecord}
    (h : renewedExpiry texts r now = .ok expiresAt) :
    expiresAt = r.expiresAt ↔ SameDeadline texts r now := by
  rw [renewedExpiry] at h
  cases hwritten : texts.parseIso r.updatedAt.val with
  | none =>
    rw [hwritten] at h
    obtain rfl := Except.ok.inj h
    exact ⟨fun _ written expires deadline hw => (by cases hwritten.symm.trans hw), fun _ => rfl⟩
  | some written =>
    cases hexpires : texts.parseIso r.expiresAt.val with
    | none =>
      rw [hwritten, hexpires] at h
      obtain rfl := Except.ok.inj h
      exact ⟨fun _ written expires deadline _ he => (by cases hexpires.symm.trans he), fun _ => rfl⟩
    | some expires =>
      simp only [hwritten, hexpires] at h
      by_cases hwindow : expires ≤ written
      · rw [if_pos hwindow] at h
        obtain rfl := Except.ok.inj h
        refine ⟨fun _ written' expires' deadline hw he hlt => ?_, fun _ => rfl⟩
        obtain rfl := Option.some.inj (hwritten.symm.trans hw)
        obtain rfl := Option.some.inj (hexpires.symm.trans he)
        omega
      · rw [if_neg hwindow] at h
        by_cases hpassed : expires ≤ now.micros
        · rw [if_pos hpassed] at h
          obtain rfl := Except.ok.inj h
          refine ⟨fun _ written' expires' deadline _ he _ hlt => ?_, fun _ => rfl⟩
          obtain rfl := Option.some.inj (hexpires.symm.trans he)
          omega
        · rw [if_neg hpassed] at h
          cases hdeadline : utcOf? (now.micros + (expires - written)) with
          | none =>
            rw [hdeadline] at h
            cases h
          | some deadline =>
            rw [hdeadline] at h
            obtain rfl := Except.ok.inj h
            constructor
            · intro hsame written' expires' deadline' hw he _ _ hd
              obtain rfl := Option.some.inj (hwritten.symm.trans hw)
              obtain rfl := Option.some.inj (hexpires.symm.trans he)
              obtain rfl := Option.some.inj (hdeadline.symm.trans hd)
              exact hsame
            · intro hsame
              exact hsame written expires deadline hwritten hexpires (by omega) (by omega) hdeadline

/-- A write keeps the deadline: it ends the record, or the deadline it renews reads the same. -/
def KeepsDeadline (texts : TransitionTexts) (file : FileContent) (a : Attempt) : Prop :=
  (durableWrite texts file a).isSome = true → a.call.cancels = false →
    ∀ r, onFile? texts file = some r → SameDeadline texts r.toTransitionRecord a.stamp

/-- **A write keeps the identity exactly where it keeps the deadline.** -/
theorem identity_moved_iff (h : Moved texts a r d) (hcancels : a.call.cancels = false) :
    transitionIdentity d.toTransitionRecord = transitionIdentity r.toTransitionRecord ↔
      SameDeadline texts r.toTransitionRecord a.stamp := by
  rw [← renewedExpiry_eq_iff (h.renewed hcancels)]
  constructor
  · intro hsame
    exact (Prod.mk.inj hsame).2
  · intro hsame
    exact Prod.ext h.operation hsame

theorem identity_moved (hr : onFile? texts file = some r) (hd : durableWrite texts file a = some d)
    (h : Moved texts a r d) (hkeeps : KeepsDeadline texts file a) :
    transitionIdentity d.toTransitionRecord = transitionIdentity r.toTransitionRecord := by
  cases hcancels : a.call.cancels with
  | true => exact Prod.ext h.operation (h.kept hcancels)
  | false => exact (identity_moved_iff h hcancels).mpr (hkeeps (hd ▸ rfl) hcancels r hr)

def HoldsIdentity (texts : TransitionTexts) (identity : Operation × Text) (file : FileContent) :
    Prop :=
  ∃ d, onFile? texts file = some d ∧ transitionIdentity d.toTransitionRecord = identity

theorem holdsIdentity_next {identity : Operation × Text}
    (h : HoldsIdentity texts identity file) (hbegin : a.call.begins = false)
    (hkeeps : KeepsDeadline texts file a) : HoldsIdentity texts identity (next texts file a) := by
  obtain ⟨r, hr, hidentity⟩ := h
  cases hd : durableWrite texts file a with
  | none =>
    rw [next_of_none hd]
    exact ⟨r, hr, hidentity⟩
  | some d =>
    obtain ⟨answer, hdecision⟩ := decision_of_durableWrite hd
    obtain ⟨r', hr', hmoved⟩ := moved_of_decision hbegin hdecision
    obtain rfl : r' = r := Option.some.inj (hr'.symm.trans hr)
    exact ⟨d, onFile?_next_of_some hd, (identity_moved hr hd hmoved hkeeps).trans hidentity⟩

/-! ### What a failed write left -/

theorem isSameOperation_iff {durable record : TransitionRecord} :
    isSameOperation durable record = true ↔
      transitionIdentity durable = transitionIdentity record := by
  rw [isSameOperation, Bool.and_eq_true, decide_eq_true_eq, decide_eq_true_eq]
  constructor
  · intro h
    exact h.2
  · intro h
    exact ⟨congrArg Operation.operationId (Prod.mk.inj h).1, h⟩

theorem readRecord_of_onFile
    (h : onFile? texts file = some r) : readRecord texts Faults.none file = .ok (some r) := by
  rw [onFile?] at h
  cases hread : readRecord texts Faults.none file with
  | error e =>
    rw [hread] at h
    cases h
  | ok found =>
    rw [hread] at h
    exact congrArg Except.ok h

theorem begin_durableWrite {d' : DurableRecord}
    (hcall : a.call = .begin d.asDict) (h : durableWrite texts file a = some d') : d' = d := by
  obtain ⟨answer, hdecision⟩ := decision_of_durableWrite h
  rw [decision, hcall] at hdecision
  obtain ⟨candidate, hcandidate, hdecision⟩ := bind_eq_ok.mp hdecision
  obtain ⟨existing, -, hdecision⟩ := bind_eq_ok.mp hdecision
  obtain ⟨_, -, heffect⟩ := bind_eq_ok.mp hdecision
  have hd := (mapError_eq_ok.mp hcandidate).symm.trans (parseTransitionRecord_durable d)
  obtain rfl := Except.ok.inj hd
  exact (Option.some.inj (Effect.mk.inj (Except.ok.inj heffect)).1).symm

/-- **A begin is found committed exactly where it took effect**, if its id is its own. -/
theorem commitOutcome_begin {read : Option DurableRecord} (hcall : a.call = .begin d.asDict)
    (hfresh : ∀ r, onFile? texts file = some r → r.operationId ≠ d.operationId)
    (hread : readRecord texts Faults.none (next texts file a) = .ok read) :
    commitOutcome (.ok read) d =
      if durableWrite texts file a = some d then .committed else .notCommitted := by
  have hfile := readRecord_eq_ok hread
  cases hd : durableWrite texts file a with
  | none =>
    rw [next_of_none hd] at hfile
    rw [if_neg (fun h => Option.some_ne_none d h.symm)]
    cases read with
    | none => rfl
    | some r => exact if_pos (hfresh r hfile)
  | some d' =>
    obtain rfl := begin_durableWrite hcall hd
    rw [onFile?_next_of_some hd] at hfile
    obtain rfl := hfile
    rw [if_pos rfl, commitOutcome, if_neg (fun h => h rfl),
      if_pos (isSameOperation_iff.mpr rfl)]

theorem advance_durableWrite (hcall : a.call = .advance id expected new)
    (h : durableWrite texts file a = some d) : d.stage = new := by
  obtain ⟨answer, hdecision⟩ := decision_of_durableWrite h
  rw [decision, hcall] at hdecision
  obtain ⟨r, -, hadvance⟩ := bind_eq_ok.mp hdecision
  obtain ⟨_, -, hadvance⟩ := bind_eq_ok.mp hadvance
  obtain ⟨_, -, hadvance⟩ := bind_eq_ok.mp hadvance
  by_cases hnew : r.stage = new
  · rw [if_pos hnew] at hadvance
    cases keep_eq_ok.mp hadvance
  · rw [if_neg hnew] at hadvance
    obtain ⟨_, -, hadvance⟩ := bind_eq_ok.mp hadvance
    obtain ⟨d', expiresAt, heffect, -, hd⟩ := writeProgress_eq_ok hadvance
    obtain ⟨rfl, -⟩ : d = d' ∧ answer = .record d' := by simpa using heffect
    rw [hd]

/-- **A stage is found committed exactly where its write took effect**, if that write keeps the
deadline. -/
theorem stageCommitOutcome_advance
    (hcall : a.call = .advance id expected new) (hr : onFile? texts file = some r)
    (hstage : r.stage = expected) (hne : expected ≠ new)
    (hsame : transitionIdentity r.toTransitionRecord = transitionIdentity record.toTransitionRecord)
    (hkeeps : KeepsDeadline texts file a) :
    stageCommitOutcome (readRecord texts Faults.none (next texts file a)) record expected new =
      match durableWrite texts file a with
      | some d => (.committed, some d)
      | none => (.notCommitted, some r) := by
  cases hd : durableWrite texts file a with
  | none =>
    rw [next_of_none hd, readRecord_of_onFile hr, stageCommitOutcome,
      if_pos (isSameOperation_iff.mpr hsame), if_neg (hstage ▸ hne), if_pos hstage]
  | some d =>
    obtain ⟨answer, hdecision⟩ := decision_of_durableWrite hd
    obtain ⟨r', hr', hmoved⟩ := moved_of_decision (hcall ▸ rfl) hdecision
    obtain rfl : r' = r := Option.some.inj (hr'.symm.trans hr)
    have hidentity := (identity_moved hr hd hmoved hkeeps).trans hsame
    rw [readRecord_of_onFile (onFile?_next_of_some hd), stageCommitOutcome,
      if_pos (isSameOperation_iff.mpr hidentity), if_pos (advance_durableWrite hcall hd)]

/-! ### A late caller -/

theorem startAnswer_movedOn {claim : DispatchClaim}
    (hclaim : claim.failure = none) (hd : onFile? texts file = some d)
    (hstage : d.stage ≠ .adminUpdatePending)
    (hsame : transitionIdentity d.toTransitionRecord =
      transitionIdentity record.toTransitionRecord) :
    startAnswer claim (readRecord texts Faults.none file) record =
      if claim.completed then .ok (some (reconnecting d)) else (reportHandedOff d).map some := by
  have hoperation := isSameOperation_iff.mpr hsame
  rw [startAnswer, readRecord_of_onFile hd]
  by_cases hcompleted : claim.completed = true
  · rw [if_pos hcompleted, if_pos hcompleted, reportCompleted, hclaim]
    exact if_pos hoperation
  · have hauthority : dispatchAuthority (.ok (some d)) record = .ok d := if_pos hoperation
    rw [if_neg hcompleted, if_neg hcompleted, hauthority]
    show (if d.stage ≠ .adminUpdatePending then _ else _) = _
    rw [if_pos hstage]
    cases reportHandedOff d <;> rfl

/-! ### Runs -/

/-- **Which operation a record is, where no write moves the deadline.**  For every record that a call
wrote, as `begin` does, and every run of calls but `begin` that keep the deadline, the identity of
the record on file stays what it was, before every call and at the end; a stage whose `advance`
failed is found committed exactly where its write took effect; and a late caller is answered with
the record on file.  Whatever the clock reads, a begin that failed is found committed exactly where
it took effect. -/
theorem identity_kept (texts : TransitionTexts) (file : FileContent) (a : Attempt)
    (r : DurableRecord) (hr : durableWrite texts file a = some r) (attempts : List Attempt)
    (hcalls : ∀ b ∈ attempts, b.call.begins = false)
    (hkeeps : EveryStep (next texts) (KeepsDeadline texts) (next texts file a) attempts) :
    (EveryStep (next texts)
        (fun file _ => HoldsIdentity texts (transitionIdentity r.toTransitionRecord) file)
        (next texts file a) attempts ∧
      HoldsIdentity texts (transitionIdentity r.toTransitionRecord)
        (run (next texts) (next texts file a) attempts)) ∧
    (∀ candidate file a read, a.call = .begin candidate.asDict →
      (∀ r, onFile? texts file = some r → r.operationId ≠ candidate.operationId) →
      readRecord texts Faults.none (next texts file a) = .ok read →
      commitOutcome (.ok read) candidate =
        if durableWrite texts file a = some candidate then .committed else .notCommitted) ∧
    (∀ b id expected new record d, b.call = .advance id expected new → expected ≠ new →
      onFile? texts (run (next texts) (next texts file a) attempts) = some d → d.stage = expected →
      transitionIdentity record.toTransitionRecord = transitionIdentity r.toTransitionRecord →
      KeepsDeadline texts (run (next texts) (next texts file a) attempts) b →
      stageCommitOutcome (readRecord texts Faults.none
          (next texts (run (next texts) (next texts file a) attempts) b)) record expected new =
        match durableWrite texts (run (next texts) (next texts file a) attempts) b with
        | some d => (.committed, some d)
        | none => (.notCommitted, some d)) ∧
    ∀ claim record d, claim.failure = none → d.stage ≠ .adminUpdatePending →
      onFile? texts (run (next texts) (next texts file a) attempts) = some d →
      transitionIdentity record.toTransitionRecord = transitionIdentity r.toTransitionRecord →
      startAnswer claim (readRecord texts Faults.none
          (run (next texts) (next texts file a) attempts)) record =
        if claim.completed then .ok (some (reconnecting d)) else (reportHandedOff d).map some := by
  have hstart : HoldsIdentity texts (transitionIdentity r.toTransitionRecord) (next texts file a) :=
    ⟨r, onFile?_next_of_some hr, rfl⟩
  have hsteps : EveryStep (next texts) (fun file b => KeepsDeadline texts file b ∧
      b.call.begins = false) (next texts file a) attempts := by
    clear hstart hr
    generalize next texts file a = start at hkeeps
    induction attempts generalizing start with
    | nil => trivial
    | cons b attempts ih =>
      exact ⟨⟨hkeeps.1, hcalls b List.mem_cons_self⟩,
        ih (fun b' hb' => hcalls b' (List.mem_cons_of_mem b hb')) _ hkeeps.2⟩
  have hstep : ∀ file b, HoldsIdentity texts (transitionIdentity r.toTransitionRecord) file →
      (KeepsDeadline texts file b ∧ b.call.begins = false) →
      HoldsIdentity texts (transitionIdentity r.toTransitionRecord) (next texts file b) :=
    fun file b h hb => holdsIdentity_next h hb.2 hb.1
  have hend := run_invariant hstep hstart hsteps
  have hfound : ∀ d, onFile? texts (run (next texts) (next texts file a) attempts) = some d →
      transitionIdentity d.toTransitionRecord = transitionIdentity r.toTransitionRecord := by
    intro d hd
    obtain ⟨d', hd', hidentity⟩ := hend
    obtain rfl := Option.some.inj (hd'.symm.trans hd)
    exact hidentity
  refine ⟨⟨EveryStep.of_invariant hstep (fun file b h _ => h) hstart hsteps, hend⟩, ?_, ?_, ?_⟩
  · intro candidate file a read hcall hfresh hread
    exact commitOutcome_begin hcall hfresh hread
  · intro b id expected new record d hcall hne hd hstage hrecord hb
    exact stageCommitOutcome_advance hcall hd hstage hne ((hfound d hd).trans hrecord.symm) hb
  · intro claim record d hclaim hstage hd hrecord
    exact startAnswer_movedOn hclaim hd hstage ((hfound d hd).trans hrecord.symm)

/-! ### A second later -/

theorem begin_durableWrite_absent (n : Fin 86400) (d : DurableRecord) :
    durableWrite texts .absent (attemptAt n (.begin d.asDict)) = some d := by
  have hdecision : decision texts (attemptAt n (.begin d.asDict)) .absent =
      .ok ⟨some d, .record d⟩ := by
    refine bind_eq_ok.mpr ⟨d, mapError_eq_ok.mpr (parseTransitionRecord_durable d), ?_⟩
    refine bind_eq_ok.mpr ⟨none, rfl, ?_⟩
    exact bind_eq_ok.mpr ⟨(), require_eq_ok.mpr (by intro r hr; cases hr), rfl⟩
  rw [durableWrite, hdecision]
  rfl

/-- What `advance` writes along an edge that leads to no failure. -/
theorem advance_of (hedge : new ∈ expected.edges) (hne : expected ≠ new)
    (hstage : r.stage = expected) (hnew : new ≠ .failedRecoverable)
    (hexpiry : renewedExpiry texts r.toTransitionRecord now = .ok expiresAt) :
    ∃ d : DurableRecord, advance texts expected new r now = .ok ⟨some d, .record d⟩ ∧
      d.toTransitionRecord =
        { r.toTransitionRecord with stage := new, updatedAt := now.stamp, expiresAt } := by
  have hlive : r.stage.terminal = false := by
    rw [hstage]
    cases expected <;> first | rfl | cases hedge
  have hordinary : r.recovery.isSome = false := by
    cases hsome : r.recovery.isSome with
    | false => rfl
    | true =>
      rw [← hstage, r.consistent.mp hsome] at hedge
      exact absurd hedge edges_failedRecoverable
  have hconsistent : ({ r.toTransitionRecord with
      stage := new, updatedAt := now.stamp, expiresAt } : TransitionRecord).Consistent :=
    ⟨fun hsome => (by cases hordinary.symm.trans hsome), fun hfailed => absurd hfailed hnew⟩
  refine ⟨⟨_, hconsistent⟩, ?_, rfl⟩
  refine bind_eq_ok.mpr ⟨(), require_eq_ok.mpr hlive, ?_⟩
  refine bind_eq_ok.mpr ⟨(), require_eq_ok.mpr hedge, ?_⟩
  rw [if_neg (hstage ▸ hne)]
  refine bind_eq_ok.mpr ⟨(), require_eq_ok.mpr hstage, ?_⟩
  refine bind_eq_ok.mpr ⟨_, bind_eq_ok.mpr ⟨expiresAt, hexpiry, rfl⟩, ?_⟩
  exact bind_eq_ok.mpr ⟨_, validated_eq_ok.mpr rfl, rfl⟩

def sampleBegun : DurableRecord := sampleRecord .adminUpdatePending (by decide)

def sampleWait (n : Fin 86400) : Attempt :=
  attemptAt n (.advance (some "1") .adminUpdatePending .adminReconnectPending)

theorem sampleWait_durableWrite (n : Fin 86400)
    (h : renewedExpiry clockTexts sampleBegun.toTransitionRecord (secondsAfter n) = .ok expiresAt) :
    ∃ d, durableWrite clockTexts (.json sampleBegun.asDict) (sampleWait n) = some d ∧
      d.toTransitionRecord = { sampleBegun.toTransitionRecord with
        stage := .adminReconnectPending, updatedAt := (secondsAfter n).stamp, expiresAt } := by
  have hstage : sampleBegun.stage = .adminUpdatePending := rfl
  obtain ⟨d, hadvance, hd⟩ := advance_of List.mem_cons_self (by decide) hstage (by decide) h
  refine ⟨d, ?_, hd⟩
  have hfile : recordLocked clockTexts Faults.none (.json sampleBegun.asDict) (some "1") =
      .ok sampleBegun :=
    bind_eq_ok.mpr ⟨some sampleBegun, readRecord_of_onFile (onFile?_asDict sampleBegun), rfl⟩
  have hdecision : decision clockTexts (sampleWait n) (.json sampleBegun.asDict) =
      .ok ⟨some d, .record d⟩ := bind_eq_ok.mpr ⟨sampleBegun, hfile, hadvance⟩
  rw [durableWrite, hdecision]
  rfl

/-- The sample's deadline as `advance` renews it a second after the operation began. -/
theorem sample_renewed : renewedExpiry clockTexts sampleBegun.toTransitionRecord (secondsAfter 1) =
    .ok (secondsAfter 3601).stamp := by decide

/-- A second after an operation began, its own step gives the record another identity: the caller
that began it cannot prove that the step was committed, and is refused as a late caller. -/
theorem renewed_deadline_is_another_operation :
    durableWrite clockTexts .absent (attemptAt 0 (.begin sampleBegun.asDict)) = some sampleBegun ∧
    ∃ d, onFile? clockTexts (next clockTexts (next clockTexts .absent
        (attemptAt 0 (.begin sampleBegun.asDict))) (sampleWait 1)) = some d ∧
      transitionIdentity d.toTransitionRecord ≠
        transitionIdentity sampleBegun.toTransitionRecord ∧
      stageCommitOutcome (.ok (some d)) sampleBegun .adminUpdatePending .adminReconnectPending =
        (.unprovable, none) ∧
      startAnswer ⟨none, none⟩ (.ok (some d)) sampleBegun = .error stageCommitUnprovable := by
  have hbegin := @begin_durableWrite_absent clockTexts 0 sampleBegun
  have hfile : next clockTexts .absent (attemptAt 0 (.begin sampleBegun.asDict)) =
      .json sampleBegun.asDict := by rw [next_eq, hbegin]
  obtain ⟨d, hwrite, hd⟩ := sampleWait_durableWrite 1 sample_renewed
  have hne : transitionIdentity d.toTransitionRecord ≠
      transitionIdentity sampleBegun.toTransitionRecord := by
    intro hsame
    have hexpires : (secondsAfter 3601).stamp = sampleBegun.expiresAt := by
      rw [← (Prod.mk.inj hsame).2, hd]
    exact absurd hexpires (by decide)
  have hother : isSameOperation d.toTransitionRecord sampleBegun.toTransitionRecord = false := by
    cases hsame : isSameOperation d.toTransitionRecord sampleBegun.toTransitionRecord with
    | false => rfl
    | true => exact absurd (isSameOperation_iff.mp hsame) hne
  refine ⟨hbegin, d, ?_, hne, ?_, ?_⟩
  · rw [hfile]
    exact onFile?_next_of_some hwrite
  · rw [stageCommitOutcome, if_neg (by rw [hother]; exact Bool.false_ne_true)]
  · have hauthority : dispatchAuthority (.ok (some d)) sampleBegun = .error stageCommitUnprovable :=
      if_neg (by rw [hother]; exact Bool.false_ne_true)
    rw [startAnswer, if_neg (by decide), hauthority]
    rfl

/-- In the second in which it began, the operation keeps its identity. -/
theorem identity_kept_at_once :
    HoldsIdentity clockTexts (transitionIdentity sampleBegun.toTransitionRecord)
      (run (next clockTexts) (next clockTexts .absent
        (attemptAt 0 (.begin sampleBegun.asDict))) [sampleWait 0]) := by
  have hbegin := @begin_durableWrite_absent clockTexts 0 sampleBegun
  have hrenewed : renewedExpiry clockTexts sampleBegun.toTransitionRecord (secondsAfter 0) =
      .ok sampleBegun.expiresAt := by decide
  refine (identity_kept clockTexts .absent _ sampleBegun hbegin [sampleWait 0]
    (fun b hb => List.mem_singleton.mp hb ▸ rfl) ⟨?_, trivial⟩).1.2
  intro _ _ r hr
  rw [onFile?_next_of_some hbegin] at hr
  obtain rfl := Option.some.inj hr
  exact (renewedExpiry_eq_iff hrenewed).mp rfl

end SolarFlowEms.Admin.Transition
