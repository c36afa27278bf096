import SolarFlowEms.Admin.SystemAlignment

/-!
# What a refused call leaves of the recovery gate

A call of the service that is refused is to leave the transition as it found it, or failed with the
failure the call reports, so that the operator can still retry or return.  A call that writes once
does, because the store refuses before it writes.  Three calls write more than once: they give the
failed transition up, or reopen it, and can still be refused behind that.

What has to hold for that not to happen is a condition on what the call meets behind its first
write: the stage the failure is resumed at, the faults of its later accesses, and the deadline,
which must read the same where a write that failed has to be recognised.
-/

namespace SolarFlowEms.Admin.Alignment

open Python Documents Fallible Transition Program TransitionStage

variable {texts : TransitionTexts}

/-! ### The gate -/

/-- The transition is the one before the call, or failed with what the call reports. -/
def KeepsGate (texts : TransitionTexts) (before : FileContent) (e : SystemAlignmentError)
    (after : FileContent) : Prop :=
  after = before ∨ ∃ d failure, onFile? texts after = some d ∧ d.recovery = some failure ∧
    failure.errorCode.val = e.code ∧ failure.errorMessage.val.toList <:+: e.message.toList

def Refused (texts : TransitionTexts) (before : FileContent) (e : Raised) (after : FileContent) :
    Prop :=
  ∀ refusal, e = .alignment refusal → KeepsGate texts before refusal after

def RefusalsKeep {α : Type} (texts : TransitionTexts) (call : Service α) (file : FileContent) :
    Prop :=
  Ends call file (fun _ _ => True) (Refused texts file)

/-- A call that is refused only before it writes. -/
def RefusesUnwritten {α : Type} (call : Service α) : Prop :=
  ∀ file, Ends call file (fun _ _ => True) fun e after =>
    ∀ refusal, e = .alignment refusal → after = file

def NoRefusal (e : Raised) (_ : FileContent) : Prop := ∀ refusal, e ≠ .alignment refusal

theorem refused_self (file : FileContent) (e : Raised) : Refused texts file e file :=
  fun _ _ => .inl rfl

variable {α : Type} {call : Call} {x : Service DurableRecord} {before after : FileContent}
  {d record c : DurableRecord} {e : Raised} {Q : DurableRecord → FileContent → Prop}
  {faults : Faults} {now : Reading} {change : TransitionRecord → TransitionRecord}
  {expected new resumeStage : TransitionStage} {failure : Recovery} {code message : String}
  {p : Prop} {run : HealthRun} {launch : Launch} {start : Start} {build : SystemBuild}
  {acknowledged : Bool} {a : Access} {file : FileContent} {r : DurableRecord} {id : String}
  {E : Raised → FileContent → Prop}

theorem refusalsKeep_of_unwritten {call : Service α} (h : RefusesUnwritten call)
    (file : FileContent) : RefusalsKeep texts call file :=
  (h file).mono (fun _ _ h => h) fun _ _ h refusal he => .inl (h refusal he)

theorem RefusesUnwritten.of_reads {call : Service α} (h : Reads call) :
    RefusesUnwritten call :=
  fun _ => (ends_of_reads h).mpr ⟨fun _ _ => trivial, fun _ _ _ _ => rfl⟩

theorem RefusesUnwritten.bind {β : Type} {x : Service α} {f : α → Service β} (hx : Reads x)
    (hf : ∀ a, RefusesUnwritten (f a)) : RefusesUnwritten (x >>= f) :=
  fun file => ends_bind.mpr
    ((ends_of_reads hx).mpr ⟨fun a _ => hf a file, fun _ _ _ _ => rfl⟩)

/-- **Behind a file whose gate is not the one before the call, any refusal of what is left to do
breaks the gate.** -/
theorem refused_iff_noRefusal {x : Service α} (hx : RefusesUnwritten x)
    (hgate : ∀ e, ¬ KeepsGate texts before e file) :
    Ends x file (fun _ _ => True) (Refused texts before) ↔
      Ends x file (fun _ _ => True) NoRefusal := by
  have hunwritten := hx file
  rw [Ends] at hunwritten ⊢
  rw [Ends]
  cases hrun : x file with
  | mk outcome after =>
    rw [hrun] at hunwritten
    cases outcome with
    | ok a => exact Iff.rfl
    | error e =>
      constructor
      · intro hrefused refusal he
        obtain rfl := hunwritten refusal he
        exact hgate refusal (hrefused refusal he)
      · intro hnone refusal he
        exact absurd he (hnone refusal)

theorem not_keepsGate (hr : onFile? texts before = some r) (hfailed : r.recovery.isSome = true)
    (hd : onFile? texts after = some d) (hopen : d.recovery = none) (e : SystemAlignmentError) :
    ¬ KeepsGate texts before e after := by
  intro hkeeps
  obtain rfl | ⟨d', failure, hd', hfailure, -⟩ := hkeeps
  · obtain rfl := Option.some.inj (hr.symm.trans hd)
    rw [hopen] at hfailed
    cases hfailed
  · obtain rfl := Option.some.inj (hd'.symm.trans hd)
    cases hfailure.symm.trans hopen

/-! ### What only reads -/

theorem reads_refuse (code message : String) : Reads (refuse code message : Service α) :=
  reads_raise _

theorem reads_demand (p : Prop) [Decidable p] (code message : String) :
    Reads (demand p code message) := by
  rw [demand]
  by_cases hp : p
  · rw [if_pos hp]
    exact reads_pure ()
  · rw [if_neg hp]
    exact reads_refuse code message

theorem reads_outside (x : Except String α) : Reads (outside x) := reads_ofExcept _

theorem reads_read (a : Access) : Reads (reporting (read texts a)) := fun _ => rfl

theorem reads_assertFresh (a : Access) (id : Option String) :
    Reads (reporting (assertFresh texts a id)) := fun _ => rfl

theorem reads_currentRecord (a : Access) (id : Option String) :
    Reads (currentRecord texts a id) := by
  refine (reads_read a).bind fun found => ?_
  cases found with
  | none => exact reads_refuse _ _
  | some r => exact (reads_demand _ _ _).bind fun _ => reads_pure r

/-! ### What a call of the store does -/

theorem perform_refused {a : Attempt} {e : TransitionStateError}
    (h : Transition.perform texts a file = (.error (.state e), after)) : after = file := by
  rw [Transition.perform] at h
  cases hdecision : decision texts a file with
  | error e' =>
    rw [hdecision] at h
    exact (Prod.mk.inj h).2.symm
  | ok effect =>
    obtain ⟨written, answer⟩ := effect
    rw [hdecision] at h
    cases written with
    | none => cases (Prod.mk.inj h).1
    | some d => cases hfault : a.faults.write <;> rw [hfault] at h <;> cases (Prod.mk.inj h).1

theorem raiseStore_eq_alignment {failure : StoreFailure} {refusal : SystemAlignmentError}
    (h : raiseStore failure = .alignment refusal) :
    ∃ e, failure = .state e ∧ refusal = ⟨e.reason, e.message⟩ := by
  cases failure with
  | state e => exact ⟨e, rfl, (Raised.alignment.inj h).symm⟩
  | _ => cases h

theorem unwritten_storeCall (a : Access) (call : Call) :
    RefusesUnwritten (reporting (storeCall texts a call)) := by
  intro file
  refine ends_translating.mpr ?_
  rw [Ends, storeCall]
  cases hperform : Transition.perform texts (a.attempt call) file with
  | mk outcome after =>
    cases outcome with
    | ok answer => trivial
    | error failure =>
      intro refusal hrefusal
      obtain ⟨e, rfl, -⟩ := raiseStore_eq_alignment hrefusal
      exact perform_refused hperform

/-- **The store refuses before it writes.** -/
theorem unwritten_recordCall (a : Access) (call : Call) :
    RefusesUnwritten (reporting (recordCall texts a call)) := by
  intro file
  refine ends_translating.mpr (ends_bind.mpr ?_)
  refine (ends_translating.mp (unwritten_storeCall a call file)).mono ?_ fun _ _ h => h
  intro answer after _
  cases answer with
  | record r => exact (ends_pure r).mpr trivial
  | _ =>
    refine (ends_raise _).mpr fun refusal hrefusal => ?_
    cases hrefusal

theorem ends_storeCall_of_error {e : StoreFailure} {Q : Answer → FileContent → Prop}
    {E : StoreFailure → FileContent → Prop} (h : decision texts (a.attempt call) file = .error e) :
    Ends (storeCall texts a call) file Q E ↔ E e file := by
  have hperform : storeCall texts a call file = (.error e, file) := by
    rw [storeCall, Transition.perform, h]
  exact ends_of_eq_error hperform

theorem ends_storeCall_of_ok {answer : Answer} {Q : Answer → FileContent → Prop}
    {E : StoreFailure → FileContent → Prop}
    (h : decision texts (a.attempt call) file = .ok ⟨some d, answer⟩) :
    Ends (storeCall texts a call) file Q E ↔
      match a.faults.write with
      | .none => Q answer (.json d.asDict)
      | .before message => E (.os message) file
      | .after message => E (.os message) (.json d.asDict) := by
  have hperform : storeCall texts a call file =
      match a.faults.write with
      | .none => (.ok answer, .json d.asDict)
      | .before message => (.error (.os message), file)
      | .after message => (.error (.os message), .json d.asDict) := by
    rw [storeCall, Transition.perform, h]
    rfl
  cases hfault : a.faults.write with
  | none => exact ends_of_eq_ok (hperform.trans (by rw [hfault]))
  | before message | after message => exact ends_of_eq_error (hperform.trans (by rw [hfault]))

theorem ends_recordCall_of_error {e : StoreFailure} {E : StoreFailure → FileContent → Prop}
    (h : decision texts (a.attempt call) file = .error e) :
    Ends (recordCall texts a call) file Q E ↔ E e file :=
  ends_bind.trans (ends_storeCall_of_error h)

theorem ends_recordCall_of_ok {E : StoreFailure → FileContent → Prop}
    (h : decision texts (a.attempt call) file = .ok ⟨some d, .record d⟩) :
    Ends (recordCall texts a call) file Q E ↔
      match a.faults.write with
      | .none => Q d (.json d.asDict)
      | .before message => E (.os message) file
      | .after message => E (.os message) (.json d.asDict) := by
  refine ends_bind.trans ((ends_storeCall_of_ok h).trans ?_)
  cases a.faults.write with
  | none => exact ends_pure d
  | before message | after message => exact Iff.rfl

theorem readRecord_unreadable (h : faults.unreadable ≠ none) :
    ∃ e, Transition.readRecord texts faults file = .error (.state e) := by
  obtain ⟨unreadable, write⟩ := faults
  obtain ⟨message, rfl⟩ := Option.ne_none_iff_exists'.mp h
  exact ⟨_, rfl⟩

theorem readRecord_readable (hr : onFile? texts file = some r) (h : faults.unreadable = none) :
    Transition.readRecord texts faults file = .ok (some r) := by
  obtain ⟨unreadable, write⟩ := faults
  obtain rfl : unreadable = none := h
  exact readRecord_of_onFile hr

/-- The record on file is read, or the file cannot be read. -/
theorem readRecord_cases (hr : onFile? texts file = some r) (faults : Faults) :
    (faults.unreadable = none ∧ Transition.readRecord texts faults file = .ok (some r)) ∨
      faults.unreadable ≠ none ∧
        ∃ e, Transition.readRecord texts faults file = .error (.state e) := by
  by_cases h : faults.unreadable = none
  · exact .inl ⟨h, readRecord_readable hr h⟩
  · exact .inr ⟨h, readRecord_unreadable h⟩

theorem recordLocked_unreadable {id : Option String} (h : faults.unreadable ≠ none) :
    ∃ e, recordLocked texts faults file id = .error (.state e) := by
  obtain ⟨e, he⟩ := @readRecord_unreadable texts faults file h
  refine ⟨e, ?_⟩
  rw [recordLocked, he]
  rfl

theorem recordLocked_readable (hr : onFile? texts file = some r) (hid : r.operationId.val = id)
    (h : faults.unreadable = none) : recordLocked texts faults file (some id) = .ok r := by
  refine bind_eq_ok.mpr ⟨some r, readRecord_readable hr h, ?_⟩
  exact if_pos hid

theorem renewedExpiry_error {r : TransitionRecord} {e : StoreFailure}
    (h : renewedExpiry texts r now = .error e) : e = .overflow := by
  rw [renewedExpiry] at h
  cases hwritten : texts.parseIso r.updatedAt.val with
  | none =>
    rw [hwritten] at h
    cases h
  | some written =>
    cases hexpires : texts.parseIso r.expiresAt.val with
    | none =>
      rw [hwritten, hexpires] at h
      cases h
    | some expires =>
      simp only [hwritten, hexpires] at h
      by_cases hwindow : expires ≤ written
      · rw [if_pos hwindow] at h
        cases h
      · rw [if_neg hwindow] at h
        by_cases hpassed : expires ≤ now.micros
        · rw [if_pos hpassed] at h
          cases h
        · rw [if_neg hpassed] at h
          cases hdeadline : utcOf? (now.micros + (expires - written)) with
          | none =>
            rw [hdeadline] at h
            exact (Except.error.inj h).symm
          | some deadline =>
            rw [hdeadline] at h
            cases h

theorem writeProgress_cases {r : TransitionRecord} {answer : DurableRecord → Answer}
    (hfits : ∀ expiresAt, (change { r with updatedAt := now.stamp, expiresAt }).Consistent) :
    (renewedExpiry texts r now = .error .overflow ∧
      writeProgress texts r now change answer = .error .overflow) ∨
    ∃ expiresAt, renewedExpiry texts r now = .ok expiresAt ∧
      writeProgress texts r now change answer =
        .ok ⟨some ⟨_, hfits expiresAt⟩, answer ⟨_, hfits expiresAt⟩⟩ := by
  cases hexpiry : renewedExpiry texts r now with
  | error e =>
    obtain rfl := renewedExpiry_error hexpiry
    refine .inl ⟨rfl, ?_⟩
    rw [writeProgress, progressed, hexpiry]
    rfl
  | ok expiresAt =>
    refine .inr ⟨expiresAt, rfl, ?_⟩
    refine bind_eq_ok.mpr ⟨_, bind_eq_ok.mpr ⟨expiresAt, hexpiry, rfl⟩, ?_⟩
    exact bind_eq_ok.mpr ⟨_, validated_eq_ok.mpr rfl, rfl⟩

/-- **A forward write of what fits** ends as its window and its faults let it. -/
theorem ends_forward {r : TransitionRecord} {E : StoreFailure → FileContent → Prop}
    (hdecision : decision texts (a.attempt call) file =
      writeProgress texts r a.stamp change .record)
    (hfits : ∀ expiresAt, (change { r with updatedAt := a.stamp.stamp, expiresAt }).Consistent) :
    Ends (recordCall texts a call) file Q E ↔
      (renewedExpiry texts r a.stamp = .error .overflow → E .overflow file) ∧
      ∀ expiresAt, renewedExpiry texts r a.stamp = .ok expiresAt →
        match a.faults.write with
        | .none => Q ⟨_, hfits expiresAt⟩ (.json (⟨_, hfits expiresAt⟩ : DurableRecord).asDict)
        | .before message => E (.os message) file
        | .after message => E (.os message) (.json (⟨_, hfits expiresAt⟩ : DurableRecord).asDict) := by
  obtain ⟨hexpiry, hwrite⟩ | ⟨expiresAt, hexpiry, hwrite⟩ :=
    @writeProgress_cases texts a.stamp change r .record hfits
  · rw [ends_recordCall_of_error (hdecision.trans hwrite), hexpiry]
    exact ⟨fun hE => ⟨fun _ => hE, fun _ h => (by cases h)⟩, fun h => h.1 rfl⟩
  · rw [ends_recordCall_of_ok (hdecision.trans hwrite), hexpiry]
    refine ⟨fun hQ => ⟨fun h => (by cases h), fun expiresAt' h => ?_⟩, fun h => h.2 expiresAt rfl⟩
    obtain rfl := Except.ok.inj h
    exact hQ

/-- **A forward write is refused exactly where the file cannot be read.** -/
theorem noRefusal_forward {r : TransitionRecord}
    (hunreadable : a.faults.unreadable ≠ none →
      ∃ e, decision texts (a.attempt call) file = .error (.state e))
    (hdecision : a.faults.unreadable = none → decision texts (a.attempt call) file =
      writeProgress texts r a.stamp change .record)
    (hfits : ∀ expiresAt, (change { r with updatedAt := a.stamp.stamp, expiresAt }).Consistent) :
    Ends (reporting (recordCall texts a call)) file (fun _ _ => True) NoRefusal ↔
      a.faults.unreadable = none := by
  refine ends_translating.trans ?_
  by_cases hread : a.faults.unreadable = none
  · refine iff_of_true ((ends_forward (hdecision hread) hfits).mpr ⟨?_, ?_⟩) hread
    · intro _ refusal h
      cases h
    · intro expiresAt _
      cases a.faults.write with
      | none => trivial
      | before message =>
        intro refusal h
        cases h
      | after message =>
        intro refusal h
        cases h
  · obtain ⟨e, he⟩ := hunreadable hread
    rw [ends_recordCall_of_error he]
    exact iff_of_false (fun hnone => hnone _ rfl) hread

theorem attempt_unreadable {id : Option String} {f : DurableRecord → Transition.Outcome Effect}
    (hcall : decision texts (a.attempt call) file = recordLocked texts a.faults file id >>= f)
    (h : a.faults.unreadable ≠ none) :
    ∃ e, decision texts (a.attempt call) file = .error (.state e) := by
  obtain ⟨e, he⟩ := @recordLocked_unreadable texts a.faults file id h
  exact ⟨e, by rw [hcall, he]; rfl⟩

theorem advance_eq (hedge : new ∈ expected.edges) (hne : expected ≠ new)
    (hstage : r.stage = expected) :
    advance texts expected new r now =
      writeProgress texts r.toTransitionRecord now ({ · with stage := new }) .record := by
  have hlive : r.stage.terminal = false := by
    rw [hstage]
    cases expected <;> first | rfl | cases hedge
  rw [advance, requireMutable, require, if_pos hlive, requireEdge, require, if_pos hedge]
  simp only [bind, Except.bind]
  rw [if_neg (hstage ▸ hne), require, if_pos hstage]

theorem markFailed_eq {code message : Text} (hallowed : resumeStage ∈ r.stage.recoveryStages) :
    markFailed texts code message resumeStage r now =
      writeProgress texts r.toTransitionRecord now
        ({ · with
          stage := .failedRecoverable
          recovery := some ⟨r.stage, resumeStage, code, message, hallowed⟩ }) .record := by
  have hlive : r.stage.terminal = false := by
    cases hstage : r.stage <;> rw [hstage] at hallowed <;> first | rfl | cases hallowed
  have hfailed : r.stage ≠ .failedRecoverable := by
    intro hfailed
    rw [hfailed] at hallowed
    cases hallowed
  rw [markFailed, requireMutable, require, if_pos hlive]
  simp only [bind, Except.bind]
  rw [if_neg hfailed, dif_pos hallowed]

theorem retry_eq {check : Reading} (hfailure : r.recovery = some failure)
    (hfresh : isExpired texts r.toTransitionRecord check = false) :
    retry texts r check now =
      writeProgress texts r.toTransitionRecord now (retried failure.resumeStage) .record := by
  have hfailed : r.stage = .failedRecoverable := r.consistent.mp (hfailure ▸ rfl)
  rw [retry, requireMutable, require, if_pos (hfailed ▸ rfl), requireFresh, require, if_pos hfresh]
  simp only [bind, Except.bind]
  rw [hfailure]

theorem recovery_eq_none (h : r.stage ≠ .failedRecoverable) :
    r.recovery = none := by
  cases hrecovery : r.recovery with
  | none => rfl
  | some failure => exact absurd (r.consistent.mp (hrecovery ▸ rfl)) h

theorem not_failed_of_edges (hedge : new ∈ expected.edges) :
    expected ≠ .failedRecoverable := by
  intro hfailed
  rw [hfailed] at hedge
  exact edges_failedRecoverable hedge

theorem resume_not_failed {stage : TransitionStage} (h : resumeStage ∈ stage.recoveryStages) :
    resumeStage ≠ .failedRecoverable := by
  intro hfailed
  subst hfailed
  cases stage <;> simp [recoveryStages] at h

theorem decision_of_markFailed {id codeText messageText : String} {resumeStage : TransitionStage} :
    decision texts (a.attempt (.markFailed (some id) codeText messageText resumeStage)) file =
      failureDetail codeText >>= fun code => failureDetail messageText >>= fun message =>
        recordLocked texts a.faults file (some id) >>= fun r =>
          markFailed texts code message resumeStage r a.stamp := rfl

theorem markFailed_refused {resumeStage : TransitionStage} {codeText messageText : String}
    (h : ¬ (pyStrip codeText ≠ "" ∧ pyStrip messageText ≠ "" ∧ a.faults.unreadable = none)) :
    ∃ e, decision texts (a.attempt (.markFailed (some id) codeText messageText resumeStage)) file =
      .error (.state e) := by
  have hblank : ∀ text, pyStrip text = "" → failureDetail text =
      Transition.refuse "state_malformed" "recoverable failure requires code and message" := by
    intro text htext
    rw [failureDetail, Text.ofString?_eq_none htext]
  have hfound : ∀ text, pyStrip text ≠ "" → ∃ t, failureDetail text = .ok t := by
    intro text htext
    obtain ⟨t, ht, -⟩ := Text.ofString?_eq_some htext
    exact ⟨t, by rw [failureDetail, ht]⟩
  by_cases hcode : pyStrip codeText = ""
  · exact ⟨_, decision_of_markFailed.trans (by rw [hblank _ hcode]; rfl)⟩
  · obtain ⟨code, hcode'⟩ := hfound _ hcode
    by_cases hmessage : pyStrip messageText = ""
    · exact ⟨_, decision_of_markFailed.trans (by rw [hcode', hblank _ hmessage]; rfl)⟩
    · obtain ⟨message, hmessage'⟩ := hfound _ hmessage
      obtain ⟨e, he⟩ := @recordLocked_unreadable texts a.faults file (some id)
        fun hread => h ⟨hcode, hmessage, hread⟩
      exact ⟨e, decision_of_markFailed.trans (by rw [hcode', hmessage', he]; rfl)⟩

section Steps

variable {a : Access} {file : FileContent} {r : DurableRecord} {id : String}
  (hr : onFile? texts file = some r) (hid : r.operationId.val = id)

include hr hid

theorem decision_advance {expected new : TransitionStage} (hedge : new ∈ expected.edges)
    (hne : expected ≠ new) (hstage : r.stage = expected) (hread : a.faults.unreadable = none) :
    decision texts (a.attempt (.advance (some id) expected new)) file =
      writeProgress texts r.toTransitionRecord a.stamp ({ · with stage := new }) .record := by
  have hlocked := recordLocked_readable hr hid hread
  have hdecision : decision texts (a.attempt (.advance (some id) expected new)) file =
      recordLocked texts a.faults file (some id) >>= fun r => advance texts expected new r a.stamp := rfl
  rw [hdecision, hlocked]
  exact advance_eq hedge hne hstage

theorem noRefusal_advance {expected new : TransitionStage} (hedge : new ∈ expected.edges)
    (hne : expected ≠ new) (hnew : new ≠ .failedRecoverable) (hstage : r.stage = expected) :
    Ends (reporting (recordCall texts a (.advance (some id) expected new))) file
      (fun _ _ => True) NoRefusal ↔ a.faults.unreadable = none := by
  have hopen := recovery_eq_none (hstage.symm ▸ not_failed_of_edges hedge : r.stage ≠ _)
  refine noRefusal_forward (attempt_unreadable rfl)
    (decision_advance hr hid hedge hne hstage) fun expiresAt => ?_
  rw [TransitionRecord.Consistent, hopen]
  exact ⟨fun h => (by cases h), fun h => absurd h hnew⟩

theorem decision_markFailed {code message : Text} {resumeStage : TransitionStage}
    (hallowed : resumeStage ∈ r.stage.recoveryStages) {codeText messageText : String}
    (hcode : Text.ofString? codeText = some code)
    (hmessage : Text.ofString? messageText = some message) (hread : a.faults.unreadable = none) :
    decision texts (a.attempt (.markFailed (some id) codeText messageText resumeStage)) file =
      writeProgress texts r.toTransitionRecord a.stamp
        ({ · with
          stage := .failedRecoverable
          recovery := some ⟨r.stage, resumeStage, code, message, hallowed⟩ }) .record := by
  have hlocked := recordLocked_readable hr hid hread
  have hcode' : failureDetail codeText = .ok code := by rw [failureDetail, hcode]
  have hmessage' : failureDetail messageText = .ok message := by rw [failureDetail, hmessage]
  rw [decision_of_markFailed, hcode', hmessage', hlocked]
  exact markFailed_eq hallowed

theorem noRefusal_markFailed {resumeStage : TransitionStage}
    (hallowed : resumeStage ∈ r.stage.recoveryStages) (codeText messageText : String) :
    Ends (reporting (recordCall texts a
        (.markFailed (some id) codeText messageText resumeStage))) file (fun _ _ => True) NoRefusal ↔
      pyStrip codeText ≠ "" ∧ pyStrip messageText ≠ "" ∧ a.faults.unreadable = none := by
  by_cases h : pyStrip codeText ≠ "" ∧ pyStrip messageText ≠ "" ∧ a.faults.unreadable = none
  · refine iff_of_true ?_ h
    obtain ⟨code, hcode, -⟩ := Text.ofString?_eq_some h.1
    obtain ⟨message, hmessage, -⟩ := Text.ofString?_eq_some h.2.1
    have hdecision := decision_markFailed hr hid hallowed hcode hmessage h.2.2
    refine (noRefusal_forward ?_ (fun _ => hdecision) fun expiresAt => ?_).mpr h.2.2
    · exact fun hread => absurd h.2.2 hread
    · exact ⟨fun _ => rfl, fun _ => rfl⟩
  · refine iff_of_false (fun hends => ?_) h
    obtain ⟨e, he⟩ := markFailed_refused h
    rw [reporting, ends_translating, ends_recordCall_of_error he] at hends
    exact hends _ rfl

theorem decision_retry {failure : Recovery} (hfailure : r.recovery = some failure)
    (hfresh : isExpired texts r.toTransitionRecord a.check = false)
    (hread : a.faults.unreadable = none) :
    decision texts (a.attempt (.retry (some id))) file =
      writeProgress texts r.toTransitionRecord a.stamp (retried failure.resumeStage) .record := by
  have hlocked := recordLocked_readable hr hid hread
  have hdecision : decision texts (a.attempt (.retry (some id))) file =
      recordLocked texts a.faults file (some id) >>= fun r =>
        retry texts r a.check a.stamp := rfl
  rw [hdecision, hlocked]
  exact retry_eq hfailure hfresh

end Steps

/-! ### The current record -/

theorem ends_read {Q : Option DurableRecord → FileContent → Prop} :
    Ends (reporting (read texts a)) file Q E ↔
      match Transition.readRecord texts a.faults file with
      | .ok found => Q found file
      | .error e => E (raiseStore e) file := by
  rw [Ends, reporting, translating, read]
  cases Transition.readRecord texts a.faults file <;> rfl

@[simp] theorem ends_refuse {file : FileContent}
    {Q : α → FileContent → Prop} {E : Raised → FileContent → Prop} :
    Ends (refuse code message) file Q E ↔ E (.alignment ⟨code, message⟩) file := ends_raise _

theorem ends_demand [Decidable p] {Q : Unit → FileContent → Prop} :
    Ends (demand p code message) file Q E ↔
      (p → Q () file) ∧ (¬ p → E (.alignment ⟨code, message⟩) file) := by
  rw [demand]
  by_cases hp : p
  · rw [if_pos hp, ends_pure]
    exact ⟨fun h => ⟨fun _ => h, fun hn => absurd hp hn⟩, fun h => h.1 hp⟩
  · rw [if_neg hp, ends_refuse]
    exact ⟨fun h => ⟨fun hp' => absurd hp' hp, fun _ => h⟩, fun h => h.2 hp⟩

theorem ends_demand_of [Decidable p] (hp : p) {Q : Unit → FileContent → Prop} :
    Ends (demand p code message) file Q E ↔ Q () file :=
  ends_demand.trans ⟨fun h => h.1 hp, fun h => ⟨fun _ => h, fun hn => absurd hp hn⟩⟩

theorem readable_of_eq_ok {found : Option DurableRecord}
    (h : Transition.readRecord texts faults file = .ok found) : faults.unreadable = none := by
  by_contra hread
  obtain ⟨e, he⟩ := @readRecord_unreadable texts faults file hread
  cases he.symm.trans h

theorem ends_currentRecord (hE : ∀ e, E e file) :
    Ends (currentRecord texts a (some id)) file Q E ↔
      ∀ r, onFile? texts file = some r → r.operationId.val = id → a.faults.unreadable = none →
        Q r file := by
  refine ends_bind.trans (ends_read.trans ?_)
  cases hread : Transition.readRecord texts a.faults file with
  | error e =>
    refine iff_of_true (hE _) fun r hr _ hreadable => ?_
    cases (readRecord_readable hr hreadable).symm.trans hread
  | ok found =>
    have hfile := readRecord_eq_ok hread
    cases found with
    | none =>
      refine iff_of_true (ends_refuse.mpr (hE _)) fun r hr => ?_
      cases hfile.symm.trans hr
    | some r =>
      refine ends_bind.trans (ends_demand.trans ?_)
      rw [ends_pure]
      constructor
      · intro hboth r' hr' hid _
        obtain rfl := Option.some.inj (hfile.symm.trans hr')
        exact hboth.1 fun id' hid' => Option.mem_some_iff.mp hid' ▸ hid
      · intro hQ
        refine ⟨fun hnames => ?_, fun _ => hE _⟩
        exact hQ r hfile (hnames id rfl) (readable_of_eq_ok hread)

theorem noRefusal_currentRecord (hr : onFile? texts file = some r) (hid : r.operationId.val = id) :
    Ends (currentRecord texts a (some id)) file Q NoRefusal ↔
      a.faults.unreadable = none ∧ Q r file := by
  refine ends_bind.trans (ends_read.trans ?_)
  obtain ⟨hread, hfound⟩ | ⟨hread, e, he⟩ := readRecord_cases hr a.faults
  · rw [hfound]
    have hnames : ∀ id' ∈ some id, r.operationId.val = id' :=
      fun id' hid' => Option.mem_some_iff.mp hid' ▸ hid
    refine ends_bind.trans ((ends_demand_of hnames).trans ?_)
    rw [ends_pure]
    exact ⟨fun h => ⟨hread, h⟩, fun h => h.2⟩
  · rw [he]
    exact iff_of_false (fun h => h _ rfl) fun h => hread h.1

/-! ### The health checks -/

def KnownGoodStands (run : HealthRun) (r : TransitionRecord) : Prop :=
  knownGoodMatches run.knownGood r = true ∨ run.recordKnownGood = .ok ()

/-- What the end of the health checks has to meet not to be refused. -/
def HealthHolds (run : HealthRun) (passed : Bool) (errorCode errorMessage : Option String)
    (r : TransitionRecord) : Prop :=
  run.current.faults.unreadable = none ∧
    if passed = false then
      pyStrip (orDefault errorCode "healthcheck_failed") ≠ "" ∧
        pyStrip (orDefault errorMessage "EMS health checks failed") ≠ "" ∧
        run.step.faults.unreadable = none
    else (runningEmsIdentityState run.runningEms r = .agrees → KnownGoodStands run r) →
      run.step.faults.unreadable = none

theorem ends_answered :
    Ends (x >>= fun r => pure (AlignmentResult.transition r none)) file (fun _ _ => True) E ↔
      Ends x file (fun _ _ => True) E := by
  simp only [ends_bind, ends_pure]

theorem recordMatchesBuild_self (r : TransitionRecord) :
    recordMatchesBuild r (buildFromRecord r) = true := by
  simp [recordMatchesBuild, buildFromRecord]

theorem ends_requireMatchingBuild_self {r : TransitionRecord} {Q : Unit → FileContent → Prop} :
    Ends (requireMatchingBuild r (buildFromRecord r)) file Q E ↔ Q () file := by
  have hid : systemBuildIdKind (buildFromRecord r).buildId = .ok r.admin.buildId.kind :=
    r.admin.buildId.recognized
  rw [requireMatchingBuild, hid]
  exact ends_demand_of (recordMatchesBuild_self r)

theorem ends_recordHealthy {Q : Unit → FileContent → Prop} :
    Ends (recordHealthy run r) file Q NoRefusal ↔
      (KnownGoodStands run r.toTransitionRecord → Q () file) := by
  rw [recordHealthy]
  by_cases hmatches : knownGoodMatches run.knownGood r.toTransitionRecord = true
  · rw [if_pos hmatches, ends_pure]
    exact ⟨fun h _ => h, fun h => h (.inl hmatches)⟩
  · rw [if_neg hmatches, KnownGoodStands, outside, ends_ofExcept]
    cases hrecord : run.recordKnownGood with
    | ok u => exact ⟨fun h _ => h.1 () rfl, fun h => ⟨fun _ _ => h (.inr rfl), fun e h => (by cases h)⟩⟩
    | error e =>
      refine iff_of_true ⟨fun u h => (by cases h), fun e' h refusal hrefusal => ?_⟩ fun h => ?_
      · obtain rfl := Except.error.inj h
        cases hrefusal
      · obtain h | h := h
        · exact absurd h hmatches
        · cases h

theorem identityFailure_eq (id : String) (state : IdentityState) :
    ∃ code message resumeStage, identityFailure id state =
        .markFailed (some id) code message resumeStage ∧ pyStrip code ≠ "" ∧ pyStrip message ≠ "" ∧
      resumeStage ∈ healthcheckPending.recoveryStages := by
  rw [identityFailure]
  by_cases h : state = .unverifiable
  · rw [if_pos h]
    exact ⟨_, _, _, rfl, by decide, by decide, by decide⟩
  · rw [if_neg h]
    exact ⟨_, _, _, rfl, by decide, by decide, by decide⟩

/-- **The end of the health checks is not refused** exactly where its accesses let it. -/
theorem noRefusal_finishHealthcheck {passed : Bool} {errorCode errorMessage : Option String}
    (hr : onFile? texts file = some r) (hid : r.operationId.val = id)
    (hstage : r.stage = .healthcheckPending) (hbuild : run.systemBuild = none) :
    Ends (finishHealthcheck texts id passed errorCode errorMessage run) file (fun _ _ => True)
        NoRefusal ↔
      HealthHolds run passed errorCode errorMessage r.toTransitionRecord := by
  have hlive : r.stage.terminal = false := hstage ▸ rfl
  have hallowed : ∀ resumeStage ∈ healthcheckPending.recoveryStages,
      resumeStage ∈ r.stage.recoveryStages := fun _ h => hstage ▸ h
  refine ends_bind.trans ((noRefusal_currentRecord hr hid).trans (and_congr_right fun _ => ?_))
  refine ends_bind.trans ((ends_demand_of hlive).trans ?_)
  by_cases hpassed : passed = false
  · rw [if_pos hpassed, if_pos hpassed]
    exact ends_answered.trans (noRefusal_markFailed hr hid (hallowed _ (by decide)) _ _)
  · rw [if_neg hpassed, if_neg hpassed]
    refine ends_bind.trans ((ends_demand_of hstage).trans ?_)
    by_cases hagrees : runningEmsIdentityState run.runningEms r.toTransitionRecord = .agrees
    · rw [if_pos hagrees, commitHealthy, hbuild]
      refine ends_bind.trans (ends_requireMatchingBuild_self.trans ?_)
      refine ends_bind.trans (ends_recordHealthy.trans ?_)
      have hadvance := @noRefusal_advance texts run.step file r id hr hid _ _
        (by decide : completed ∈ healthcheckPending.edges)
        (by decide) (by decide) hstage
      constructor
      · intro h hstands
        exact hadvance.mp (ends_answered.mp (h (hstands hagrees)))
      · intro h hstands
        exact ends_answered.mpr (hadvance.mpr (h fun _ => hstands))
    · rw [if_neg hagrees]
      obtain ⟨code, message, resumeStage, hfailure, hcode, hmessage, hresume⟩ :=
        identityFailure_eq id (runningEmsIdentityState run.runningEms r.toTransitionRecord)
      rw [hfailure]
      refine ends_answered.trans
        ((noRefusal_markFailed hr hid (hallowed _ hresume) code message).trans ?_)
      constructor
      · intro h _
        exact h.2.2
      · intro h
        exact ⟨hcode, hmessage, h fun h' => absurd h' hagrees⟩

/-! ### Calls that write once -/

theorem unwritten_answered (hx : RefusesUnwritten x) :
    RefusesUnwritten (x >>= fun r => pure (AlignmentResult.transition r none)) :=
  fun file => ends_answered.mpr (hx file)

theorem unwritten_beginEmsOperation (id : String) (fresh step : Access) :
    RefusesUnwritten (beginEmsOperation texts id fresh step) :=
  RefusesUnwritten.bind (reads_assertFresh _ _) fun _ => unwritten_answered (unwritten_recordCall _ _)

theorem unwritten_finishEmsOperation (id : String) (succeeded : Bool)
    (errorCode errorMessage : Option String) (step : Access) :
    RefusesUnwritten (finishEmsOperation texts id succeeded errorCode errorMessage step) :=
  unwritten_answered (unwritten_recordCall _ _)

theorem reads_recordHealthy (run : HealthRun) (r : DurableRecord) :
    Reads (recordHealthy run r) := by
  rw [recordHealthy]
  by_cases h : knownGoodMatches run.knownGood r.toTransitionRecord = true
  · rw [if_pos h]
    exact reads_pure ()
  · rw [if_neg h]
    exact reads_outside _

theorem reads_requireMatchingBuild (r : TransitionRecord) (build : SystemBuild) :
    Reads (requireMatchingBuild r build) := by
  rw [requireMatchingBuild]
  cases systemBuildIdKind build.buildId with
  | error e => exact reads_refuse _ _
  | ok kind => exact reads_demand _ _ _

theorem unwritten_finishHealthcheck (id : String) (passed : Bool)
    (errorCode errorMessage : Option String) (run : HealthRun) :
    RefusesUnwritten (finishHealthcheck texts id passed errorCode errorMessage run) := by
  refine .bind (reads_currentRecord _ _) fun r => .bind (reads_demand _ _ _) fun _ => ?_
  by_cases hpassed : passed = false
  · rw [if_pos hpassed]
    exact unwritten_answered (unwritten_recordCall _ _)
  · rw [if_neg hpassed]
    refine .bind (reads_demand _ _ _) fun _ => ?_
    by_cases hagrees : runningEmsIdentityState run.runningEms r.toTransitionRecord = .agrees
    · rw [if_pos hagrees]
      refine .bind (reads_requireMatchingBuild _ _) fun _ => .bind (reads_recordHealthy _ _) fun _ => ?_
      exact unwritten_answered (unwritten_recordCall _ _)
    · rw [if_neg hagrees]
      exact unwritten_answered (unwritten_recordCall _ _)

theorem unwritten_continueEms (call : Recover) (r : DurableRecord) :
    RefusesUnwritten (continueEms texts call r) := by
  rw [continueEms]
  cases r.stage with
  | resourcesVerified | emsOperationPending => exact .of_reads (reads_pure _)
  | emsOperationRunning =>
    dsimp only
    by_cases hagrees : runningEmsIdentityState call.runningEms r.toTransitionRecord = .agrees
    · rw [if_pos hagrees]
      exact unwritten_finishEmsOperation _ _ _ _ _
    · rw [if_neg hagrees]
      exact unwritten_answered (unwritten_recordCall _ _)
  | healthcheckPending =>
    cases call.healthcheckPassed with
    | none => exact .of_reads (reads_pure _)
    | some passed => exact unwritten_finishHealthcheck _ _ _ _ _
  | _ => exact .of_reads (reads_refuse _ _)

/-! ### Recovering the EMS -/

/-- A retry of a record is carried out: the file is read and written, and the deadline has not
passed. -/
structure Reopens (texts : TransitionTexts) (a : Access) (r : TransitionRecord) : Prop where
  readable : a.faults.unreadable = none
  fresh : isExpired texts r a.check = false
  written : a.faults.write = .none

/-- What is left to do at a stage that was reopened is not refused. -/
def ContinueHolds (call : Recover) (resumeStage : TransitionStage) (r : TransitionRecord) : Prop :=
  resumeStage = .resourcesVerified ∨ resumeStage = .emsOperationPending ∨
    resumeStage = .healthcheckPending ∧ ∀ passed, call.healthcheckPassed = some passed →
      HealthHolds call.health passed call.errorCode call.errorMessage r

/-- What `recover_ems_operation` has to meet behind its retry. -/
def RecoverHolds (texts : TransitionTexts) (file : FileContent) (call : Recover) : Prop :=
  ∀ r failure, onFile? texts file = some r → r.recovery = some failure →
    r.operationId.val = call.operationId → call.current.faults.unreadable = none →
    Reopens texts call.reopen r.toTransitionRecord →
    (∃ expiresAt, renewedExpiry texts r.toTransitionRecord call.reopen.stamp = .ok expiresAt) →
    ContinueHolds call failure.resumeStage r.toTransitionRecord

theorem resume_cases (failure : Recovery) :
    failure.resumeStage = .adminUpdatePending ∨ failure.resumeStage = .adminAligned ∨
      failure.resumeStage = .resourcesVerified ∨ failure.resumeStage = .emsOperationPending ∨
      failure.resumeStage = .healthcheckPending := by
  have hallowed := failure.allowed
  cases hfailed : failure.failedStage <;> rw [hfailed] at hallowed <;>
    simp only [recoveryStages, List.mem_cons, List.not_mem_nil, or_false] at hallowed <;>
    tauto

/-- The record a retry leaves. -/
def reopenedRecord (r : TransitionRecord) (failure : Recovery) (a : Access) (expiresAt : Text) :
    DurableRecord where
  toTransitionRecord :=
    retried failure.resumeStage { r with updatedAt := a.stamp.stamp, expiresAt }
  consistent :=
    ⟨fun h => (by cases h), fun h => absurd h (resume_not_failed failure.allowed)⟩

/-- **A retry ends as what follows the reopened record does**, or is refused with nothing
written. -/
theorem ends_reopen (hr : onFile? texts file = some r) (hid : r.operationId.val = id)
    (hfailure : r.recovery = some failure) (hrefused : ∀ e, E (.alignment e) file)
    (hpasses : ∀ failure file, E (.store failure) file) :
    Ends (reporting (recordCall texts a (.retry (some id)))) file Q E ↔
      (Reopens texts a r.toTransitionRecord → ∀ expiresAt,
        renewedExpiry texts r.toTransitionRecord a.stamp = .ok expiresAt →
        Q (reopenedRecord r.toTransitionRecord failure a expiresAt)
          (.json (reopenedRecord r.toTransitionRecord failure a expiresAt).asDict)) := by
  refine ends_translating.trans ?_
  have hrefuses : ∀ e, decision texts (a.attempt (.retry (some id))) file = .error (.state e) →
      Ends (recordCall texts a (.retry (some id))) file Q fun e file => E (raiseStore e) file :=
    fun e he => (ends_recordCall_of_error he).mpr (hrefused _)
  by_cases hread : a.faults.unreadable = none
  case neg =>
    obtain ⟨e, he⟩ := @attempt_unreadable texts (.retry (some id)) a file (some id)
      (fun r => retry texts r a.check a.stamp) rfl hread
    exact iff_of_true (hrefuses e he) fun h => absurd h.readable hread
  cases hfresh : isExpired texts r.toTransitionRecord a.check with
  | true =>
    have hexpired : decision texts (a.attempt (.retry (some id))) file = .error (.state
        ⟨"expired", "the pending transition has expired"⟩) := by
      have hdecision : decision texts (a.attempt (.retry (some id))) file =
          recordLocked texts a.faults file (some id) >>= fun r => retry texts r a.check a.stamp := rfl
      have hfailed : r.stage = .failedRecoverable := r.consistent.mp (hfailure ▸ rfl)
      rw [hdecision, recordLocked_readable hr hid hread]
      simp only [bind, Except.bind]
      rw [retry, requireMutable, require, if_pos (hfailed ▸ rfl), requireFresh, require,
        if_neg (by rw [hfresh]; decide)]
      rfl
    exact iff_of_true (hrefuses _ hexpired) fun h => (by cases hfresh.symm.trans h.fresh)
  | false =>
    refine (ends_forward (decision_retry hr hid hfailure hfresh hread)
      fun expiresAt => (reopenedRecord r.toTransitionRecord failure a expiresAt).consistent).trans ?_
    cases hwrite : a.faults.write with
    | none => exact ⟨fun h _ => h.2, fun h => ⟨fun _ => hpasses _ _, h ⟨hread, hfresh, hwrite⟩⟩⟩
    | before message =>
      exact iff_of_true ⟨fun _ => hpasses _ _, fun _ _ => hpasses _ _⟩
        fun h => (by cases hwrite.symm.trans h.written)
    | after message =>
      exact iff_of_true ⟨fun _ => hpasses _ _, fun _ _ => hpasses _ _⟩
        fun h => (by cases hwrite.symm.trans h.written)

theorem noRefusal_continueEms {call : Recover} (hd : onFile? texts file = some d)
    (hid : d.operationId.val = call.operationId) (hstage : d.stage = failure.resumeStage) :
    Ends (continueEms texts call d) file (fun _ _ => True) NoRefusal ↔
      ContinueHolds call failure.resumeStage d.toTransitionRecord := by
  rw [continueEms, hstage, ContinueHolds]
  have hrefused : ∀ code message, ¬ Ends (refuse code message : Service AlignmentResult) file
      (fun _ _ => True) NoRefusal := fun code message h => ends_refuse.mp h _ rfl
  obtain h | h | h | h | h := resume_cases failure
  · rw [h]
    exact iff_of_false (hrefused _ _) (by simp)
  · rw [h]
    exact iff_of_false (hrefused _ _) (by simp)
  · rw [h]
    exact iff_of_true ((ends_pure _).mpr trivial) (.inl rfl)
  · rw [h]
    exact iff_of_true ((ends_pure _).mpr trivial) (.inr (.inl rfl))
  · rw [h]
    cases hpassed : call.healthcheckPassed with
    | none => exact iff_of_true ((ends_pure _).mpr trivial) (by simp)
    | some passed =>
      refine (noRefusal_finishHealthcheck hd hid (hstage.trans h) rfl).trans ?_
      simp [HealthHolds, KnownGoodStands]

/-- **What a retry reopens is carried on, or the recovery is not refused**: exactly then every
refusal of `recover_ems_operation` keeps the gate. -/
theorem refusalsKeep_recover {call : Recover} :
    RefusalsKeep texts (recoverEmsOperation texts call) file ↔ RecoverHolds texts file call := by
  refine ends_bind.trans ((ends_currentRecord (refused_self file)).trans ?_)
  have hreopens : ∀ r failure, onFile? texts file = some r → r.recovery = some failure →
      r.operationId.val = call.operationId →
      (Ends (do
          let reopened ← reporting (recordCall texts call.reopen (.retry (some call.operationId)))
          continueEms texts call reopened) file (fun _ _ => True) (Refused texts file) ↔
        (Reopens texts call.reopen r.toTransitionRecord → ∀ expiresAt,
          renewedExpiry texts r.toTransitionRecord call.reopen.stamp = .ok expiresAt →
          ContinueHolds call failure.resumeStage r.toTransitionRecord)) := by
    intro r failure hr hfailure hid
    refine ends_bind.trans ((ends_reopen hr hid hfailure (fun e => refused_self file _) ?_).trans ?_)
    · intro failure after refusal h
      cases h
    · refine imp_congr_right fun _ => forall_congr' fun expiresAt => imp_congr_right fun _ => ?_
      have hfile := @onFile?_asDict texts
        (reopenedRecord r.toTransitionRecord failure call.reopen expiresAt)
      have hgate := not_keepsGate hr (hfailure ▸ rfl) hfile rfl
      exact (refused_iff_noRefusal (unwritten_continueEms call _) hgate).trans
        (noRefusal_continueEms hfile hid rfl)
  constructor
  · intro h r failure hr hfailure hid hread hopens hexpiry
    obtain ⟨expiresAt, hexpiry⟩ := hexpiry
    have hends := h r hr hid hread
    rw [if_pos (r.consistent.mp (hfailure ▸ rfl))] at hends
    exact (hreopens r failure hr hfailure hid).mp hends hopens expiresAt hexpiry
  · intro h r hr hid hread
    cases hfailure : r.recovery with
    | none =>
      have hopen : r.stage ≠ .failedRecoverable := by
        intro hfailed
        have hsome := r.consistent.mpr hfailed
        rw [hfailure] at hsome
        cases hsome
      rw [if_neg hopen]
      exact refusalsKeep_of_unwritten (unwritten_continueEms call r) file
    | some failure =>
      rw [if_pos (r.consistent.mp (hfailure ▸ rfl))]
      refine (hreopens r failure hr hfailure hid).mpr fun hopens expiresAt hexpiry => ?_
      exact h r failure hr hfailure hid hread hopens ⟨expiresAt, hexpiry⟩

/-! ### Launching -/

/-- A launch that fails leaves its failure on record. -/
def LaunchHolds (launch : Launch) : Prop :=
  ∀ text, launch.launcher = some text →
    pyStrip (orDefault (some text) "Admin update could not be launched") ≠ "" ∧
      launch.markFailed.faults.unreadable = none

/-- What the wait for the replacement has to meet behind a record that was written for it: its
write is not refused, or is recognised where it raised, and the launch holds. -/
def WaitHolds (texts : TransitionTexts) (launch : Launch) (r : TransitionRecord) : Prop :=
  launch.advance.faults.unreadable = none ∧
    match renewedExpiry texts r launch.advance.stamp with
    | .error _ => launch.stageRead.faults.unreadable = none
    | .ok _ =>
      match launch.advance.faults.write with
      | .none => LaunchHolds launch
      | .before _ => False
      | .after _ => launch.stageRead.faults.unreadable = none ∧
          SameDeadline texts r launch.advance.stamp ∧ LaunchHolds launch

theorem pyStrip_within (s : String) : (pyStrip s).toList <:+: s.toList := by
  rw [toList_pyStrip]
  exact (List.rdropWhile_prefix _ _).isInfix.trans (List.dropWhile_suffix _).isInfix

theorem launchFailure_reports (text : String) :
    (pyStrip (orDefault (some text) "Admin update could not be launched")).toList <:+:
      (launchFailure text).message.toList := by
  refine (pyStrip_within _).trans ?_
  rw [launchFailure, String.toList_append, orDefault, Option.getD_some]
  by_cases htext : text = ""
  · rw [if_pos htext, htext]
    exact (List.IsPrefix.isInfix ⟨": ".toList, by decide⟩)
  · rw [if_neg htext]
    exact (List.suffix_append _ _).isInfix

theorem ends_launch {before file : FileContent} {launch : Launch} {record d : DurableRecord}
    {decision : Option String} (hgate : ∀ e, ¬ KeepsGate texts before e file)
    (hd : onFile? texts file = some d) (hid : d.operationId.val = record.operationId.val)
    (hstage : d.stage = .adminReconnectPending) :
    Ends (launchReplacement texts launch record decision d) file (fun _ _ => True)
        (Refused texts before) ↔
      LaunchHolds launch := by
  rw [LaunchHolds, launchReplacement]
  cases hlauncher : launch.launcher with
  | none => exact iff_of_true ((ends_pure _).mpr trivial) fun text h => (by cases h)
  | some text =>
    have hallowed : adminUpdatePending ∈ d.stage.recoveryStages := by
      rw [hstage]
      exact List.mem_cons_self
    simp only [passing, ends_bind, ends_catching, ends_translating, ends_pure, ends_raise]
    by_cases hholds : pyStrip (orDefault (some text) "Admin update could not be launched") ≠ "" ∧
        launch.markFailed.faults.unreadable = none
    · refine iff_of_true ?_ fun text' htext' => Option.some.inj htext' ▸ hholds
      have hstripped : pyStrip "admin_update_launch_failed" = "admin_update_launch_failed" := by
        decide
      have hblank : pyStrip "admin_update_launch_failed" ≠ "" := by
        rw [hstripped]
        decide
      obtain ⟨code, hcode, hcodeText⟩ := Text.ofString?_eq_some hblank
      obtain ⟨message, hmessage, hmessageText⟩ := Text.ofString?_eq_some hholds.1
      have hdecision := decision_markFailed hd hid hallowed hcode hmessage hholds.2
      refine (ends_forward hdecision fun expiresAt => ⟨fun _ => rfl, fun _ => rfl⟩).mpr ⟨?_, ?_⟩
      · intro _
        exact (ends_raise _).mpr fun refusal h => (by cases h)
      · intro expiresAt _
        cases launch.markFailed.faults.write with
        | none =>
          intro refusal hrefusal
          obtain rfl := Raised.alignment.inj hrefusal
          refine .inr ⟨_, _, onFile?_asDict _, rfl, ?_, ?_⟩
          · exact hcodeText.trans hstripped
          · rw [hmessageText]
            exact launchFailure_reports text
        | before message | after message => exact (ends_raise _).mpr fun refusal h => (by cases h)
    · refine iff_of_false (fun hends => ?_) fun h => hholds (h text rfl)
      obtain ⟨e, he⟩ := @markFailed_refused texts launch.markFailed file record.operationId.val
        .adminUpdatePending "admin_update_launch_failed"
        (orDefault (some text) "Admin update could not be launched") fun h => hholds h.2
      rw [ends_recordCall_of_error he, ends_pure] at hends
      exact hgate _ (hends _ rfl)

theorem ends_afterFailedAdvance :
    Ends (afterFailedAdvance texts launch record e) file Q E ↔
      match stageCommitOutcome (Transition.readRecord texts launch.stageRead.faults file) record
        .adminUpdatePending .adminReconnectPending with
      | (.committed, some durable) => Q durable file
      | (.notCommitted, _) => E (commitFailure e) file
      | _ => E (.alignment stageCommitUnprovable) file := by
  rw [Ends, afterFailedAdvance]
  generalize stageCommitOutcome (Transition.readRecord texts launch.stageRead.faults file) record
    .adminUpdatePending .adminReconnectPending = outcome
  obtain ⟨outcome, durable⟩ := outcome
  cases outcome <;> cases durable <;> rfl

/-- What a launch does behind an `advance` that raised: without the record nothing, and no more
where it was not written. -/
theorem ends_failedAdvance (hgate : ∀ e, ¬ KeepsGate texts before e file)
    (hd : onFile? texts file = some record) (hstage : record.stage = .adminUpdatePending) :
    Ends (afterFailedAdvance texts launch record e) file Q (Refused texts before) ↔
      launch.stageRead.faults.unreadable = none ∧ NoRefusal (commitFailure e) file := by
  refine ends_afterFailedAdvance.trans ?_
  obtain ⟨hread, hfound⟩ | ⟨hread, e', he'⟩ := readRecord_cases hd launch.stageRead.faults
  · rw [hfound, stageCommitOutcome, if_pos (isSameOperation_iff.mpr rfl),
      if_neg (by rw [hstage]; decide), if_pos hstage]
    exact ⟨fun hrefused => ⟨hread, fun refusal he => hgate refusal (hrefused refusal he)⟩,
      fun h refusal he => absurd he (h.2 refusal)⟩
  · rw [he']
    exact iff_of_false (fun h => hgate _ (h _ rfl)) fun h => hread h.1

theorem ends_committedAdvance (hgate : ∀ e, ¬ KeepsGate texts before e file)
    (hd : onFile? texts file = some d) (hstage : d.stage = .adminReconnectPending) :
    Ends (afterFailedAdvance texts launch record e) file Q (Refused texts before) ↔
      launch.stageRead.faults.unreadable = none ∧
        transitionIdentity d.toTransitionRecord = transitionIdentity record.toTransitionRecord ∧
        Q d file := by
  refine ends_afterFailedAdvance.trans ?_
  obtain ⟨hread, hfound⟩ | ⟨hread, e', he'⟩ := readRecord_cases hd launch.stageRead.faults
  · rw [hfound, stageCommitOutcome]
    by_cases hsame : transitionIdentity d.toTransitionRecord =
        transitionIdentity record.toTransitionRecord
    · rw [if_pos (isSameOperation_iff.mpr hsame), if_pos hstage]
      exact ⟨fun h => ⟨hread, hsame, h⟩, fun h => h.2.2⟩
    · rw [if_neg fun h => hsame (isSameOperation_iff.mp h)]
      exact iff_of_false (fun h => hgate _ (h _ rfl)) fun h => hsame h.2.1
  · rw [he']
    exact iff_of_false (fun h => hgate _ (h _ rfl)) fun h => hread h.1

theorem ends_waiting {before file : FileContent} {launch : Launch} {r record d : DurableRecord}
    {decision : Option String} {expiresAt : Text} (hr : onFile? texts before = some r)
    (hfailed : r.recovery.isSome = true) (hrecord : onFile? texts file = some record)
    (hstage : record.stage = .adminUpdatePending)
    (hexpiry : renewedExpiry texts record.toTransitionRecord launch.advance.stamp = .ok expiresAt)
    (hd : d.toTransitionRecord = { record.toTransitionRecord with
      updatedAt := launch.advance.stamp.stamp, expiresAt, stage := .adminReconnectPending }) :
    (match launch.advance.faults.write with
      | .none => Ends (launchReplacement texts launch record decision d) (.json d.asDict)
          (fun _ _ => True) (Refused texts before)
      | .before message => Ends (afterFailedAdvance texts launch record (.store (.os message))) file
          (fun d file => Ends (launchReplacement texts launch record decision d) file
            (fun _ _ => True) (Refused texts before)) (Refused texts before)
      | .after message => Ends (afterFailedAdvance texts launch record (.store (.os message)))
          (.json d.asDict) (fun d file => Ends (launchReplacement texts launch record decision d) file
            (fun _ _ => True) (Refused texts before)) (Refused texts before)) ↔
      match launch.advance.faults.write with
      | .none => LaunchHolds launch
      | .before _ => False
      | .after _ => launch.stageRead.faults.unreadable = none ∧
          SameDeadline texts record.toTransitionRecord launch.advance.stamp ∧ LaunchHolds launch := by
  have hopen : record.recovery = none := recovery_eq_none (by rw [hstage]; decide)
  have hwaiting : d.stage = .adminReconnectPending := by rw [hd]
  have hid : d.operationId.val = record.operationId.val := by rw [hd]
  have hgate := not_keepsGate hr hfailed (onFile?_asDict d) (by rw [hd]; exact hopen)
  have hlaunch := @ends_launch texts before (.json d.asDict) launch record d decision hgate
    (onFile?_asDict d) hid hwaiting
  cases launch.advance.faults.write with
  | none => exact hlaunch
  | before message =>
    have hsame := not_keepsGate hr hfailed hrecord hopen
    refine iff_of_false (fun h => ?_) fun h => h
    exact ((ends_failedAdvance hsame hrecord hstage).mp h).2 _ rfl
  | after message =>
    refine (ends_committedAdvance hgate (onFile?_asDict d) hwaiting).trans ?_
    have hidentity : transitionIdentity d.toTransitionRecord =
        transitionIdentity record.toTransitionRecord ↔
        SameDeadline texts record.toTransitionRecord launch.advance.stamp := by
      rw [← renewedExpiry_eq_iff hexpiry, transitionIdentity, transitionIdentity, hd]
      exact ⟨fun h => (Prod.mk.inj h).2, fun h => Prod.ext rfl h⟩
    rw [hidentity]
    exact and_congr_right fun _ => and_congr_right fun _ => hlaunch

/-- **The wait and the launch keep the gate** of a failed transition before them exactly where the
wait holds. -/
theorem ends_commitReconnectAndLaunch {decision : Option String}
    (hr : onFile? texts before = some r) (hfailed : r.recovery.isSome = true)
    (hrecord : onFile? texts file = some record) (hstage : record.stage = .adminUpdatePending) :
    Ends (commitReconnectAndLaunch texts launch record decision) file (fun _ _ => True)
        (Refused texts before) ↔
      WaitHolds texts launch record.toTransitionRecord := by
  have hopen : record.recovery = none := recovery_eq_none (by rw [hstage]; decide)
  have hgate := not_keepsGate hr hfailed hrecord hopen
  have hedge : adminReconnectPending ∈ adminUpdatePending.edges :=
    List.mem_cons_self
  have hfits : ∀ expiresAt, ({ record.toTransitionRecord with
      updatedAt := launch.advance.stamp.stamp, expiresAt, stage := .adminReconnectPending } :
      TransitionRecord).Consistent := by
    intro expiresAt
    rw [TransitionRecord.Consistent, hopen]
    exact ⟨fun h => (by cases h), fun h => (by cases h)⟩
  rw [WaitHolds]
  refine ends_bind.trans (ends_catching.trans (ends_translating.trans ?_))
  by_cases hread : launch.advance.faults.unreadable = none
  case neg =>
    obtain ⟨e, he⟩ := @attempt_unreadable texts
      (.advance (some record.operationId.val) .adminUpdatePending .adminReconnectPending)
      launch.advance file
      (some record.operationId.val) (fun r => advance texts .adminUpdatePending
        .adminReconnectPending r launch.advance.stamp) rfl hread
    rw [ends_recordCall_of_error he, ends_failedAdvance hgate hrecord hstage]
    exact iff_of_false (fun h => h.2 _ rfl) fun h => hread h.1
  have hdecision := decision_advance hrecord rfl hedge (by decide) hstage hread
  refine (ends_forward hdecision hfits).trans ?_
  rw [and_iff_right hread]
  cases hexpiry : renewedExpiry texts record.toTransitionRecord launch.advance.stamp with
  | error e =>
    obtain rfl := renewedExpiry_error hexpiry
    constructor
    · intro h
      exact ((ends_failedAdvance hgate hrecord hstage).mp (h.1 rfl)).1
    · intro h
      refine ⟨fun _ => (ends_failedAdvance hgate hrecord hstage).mpr ⟨h, ?_⟩,
        fun expiresAt h' => (by cases h')⟩
      intro refusal h'
      cases h'
  | ok expiresAt =>
    have hwaits := @ends_waiting texts before file launch r record ⟨_, hfits expiresAt⟩ decision
      expiresAt hr hfailed hrecord hstage hexpiry rfl
    constructor
    · intro h
      exact hwaits.mp (h.2 expiresAt rfl)
    · intro h
      refine ⟨fun h' => (by cases h'), fun expiresAt' h' => ?_⟩
      obtain rfl := Except.ok.inj h'
      exact hwaits.mpr h

/-! ### Retrying -/

theorem ends_outside {x : Except String α} {Q : α → FileContent → Prop}
    (hE : ∀ message, E (.other message) file) :
    Ends (outside x) file Q E ↔ ∀ a, x = .ok a → Q a file := by
  rw [outside, ends_ofExcept]
  cases x with
  | ok a =>
    exact ⟨fun h a' ha' => h.1 a' (congrArg (Except.mapError _) ha'),
      fun h => ⟨fun a' ha' => h a' (congrArg Except.ok (Except.ok.inj ha')), fun e he => (by cases he)⟩⟩
  | error message =>
    refine ⟨fun _ a ha => (by cases ha), fun _ => ⟨fun a ha => (by cases ha), fun e he => ?_⟩⟩
    obtain rfl := Except.error.inj he
    exact hE message

section Checks

variable {file : FileContent} {E : Raised → FileContent → Prop} (hE : ∀ e, E e file)

include hE

theorem ends_check {p : Prop} [Decidable p] {code message : String} {Q : Unit → FileContent → Prop}
    :
    Ends (demand p code message) file Q E ↔ (p → Q () file) :=
  ends_demand.trans ⟨fun h => h.1, fun h => ⟨h, fun _ => hE _⟩⟩

theorem ends_resolvedTransitionBuild {r : TransitionRecord} {resolved : Except String SystemBuild}
    {Q : SystemBuild → FileContent → Prop} :
    Ends (resolvedTransitionBuild r resolved) file Q E ↔
      ∀ build, resolved = .ok build → recordMatchesBuild r build = true → Q build file := by
  refine ends_bind.trans ((ends_outside fun message => hE _).trans ?_)
  refine forall_congr' fun build => imp_congr_right fun _ => ?_
  exact ends_bind.trans ((ends_check hE).trans (imp_congr_right fun _ => ends_pure build))

theorem ends_authority {authority : Access} {record : DurableRecord}
    {Q : DurableRecord → FileContent → Prop} (hrecord : onFile? texts file = some record) :
    Ends (authorityAt texts authority record) file Q E ↔
      (authority.faults.unreadable = none → Q record file) := by
  rw [Ends, authorityAt]
  obtain ⟨hread, hfound⟩ | ⟨hread, e, he⟩ := readRecord_cases hrecord authority.faults
  · rw [hfound, dispatchAuthority, if_pos (isSameOperation_iff.mpr rfl)]
    exact ⟨fun h _ => h, fun h => h hread⟩
  · rw [he]
    exact iff_of_true (hE _) fun h => absurd h hread

end Checks

/-- What `retry` has to meet behind its reopening: the wait for the replacement holds, where that
is what is carried on. -/
def RetryHolds (texts : TransitionTexts) (file : FileContent) (call : Retry) : Prop :=
  ∀ r failure build expiresAt, onFile? texts file = some r → r.recovery = some failure →
    failure.resumeStage = .adminUpdatePending → r.operationId.val = call.operationId →
    call.current.faults.unreadable = none → call.resolve r.systemTag.val = .ok build →
    recordMatchesBuild r.toTransitionRecord build = true →
    (build.development = true → call.acknowledged = true) →
    storedAcknowledgement r.toTransitionRecord build = true → call.claim.completed = false →
    call.authority.faults.unreadable = none → Reopens texts call.reopen r.toTransitionRecord →
    renewedExpiry texts r.toTransitionRecord call.reopen.stamp = .ok expiresAt →
    WaitHolds texts call.launch
      (reopenedRecord r.toTransitionRecord failure call.reopen expiresAt).toTransitionRecord

theorem ends_reopen_open (hr : onFile? texts file = some r) (hopen : r.recovery = none)
    (hE : ∀ e, E e file) :
    Ends (reporting (recordCall texts a (.retry (some id)))) file Q E := by
  refine ends_translating.mpr ?_
  have hrefused : ∃ e, decision texts (a.attempt (.retry (some id))) file = .error e := by
    cases hdecision : decision texts (a.attempt (.retry (some id))) file with
    | error e => exact ⟨e, rfl⟩
    | ok effect =>
      obtain ⟨r', hr', hretry⟩ := bind_eq_ok.mp hdecision
      obtain rfl := Option.some.inj ((recordLocked_eq_ok hr').1.symm.trans hr)
      obtain ⟨_, -, hretry⟩ := bind_eq_ok.mp hretry
      obtain ⟨_, -, hretry⟩ := bind_eq_ok.mp hretry
      rw [hopen] at hretry
      cases hretry
  obtain ⟨e, he⟩ := hrefused
  exact (ends_recordCall_of_error he).mpr (hE _)

theorem ends_carriedOn {r reopened : DurableRecord} (hr : onFile? texts before = some r)
    (hfailed : r.recovery.isSome = true) (hreopened : onFile? texts file = some reopened) :
    Ends (if reopened.stage = .adminUpdatePending then do
        return some (← commitReconnectAndLaunch texts launch reopened none)
      else return some (.transition reopened none)) file (fun _ _ => True) (Refused texts before) ↔
      (reopened.stage = .adminUpdatePending →
        WaitHolds texts launch reopened.toTransitionRecord) := by
  by_cases hresume : reopened.stage = .adminUpdatePending
  · rw [if_pos hresume, ends_bind, imp_iff_right hresume]
    simp only [ends_pure]
    exact ends_commitReconnectAndLaunch hr hfailed hreopened hresume
  · rw [if_neg hresume]
    exact iff_of_true ((ends_pure _).mpr trivial) fun h => absurd h hresume

/-- What `retry` does with the record it reopened keeps the gate exactly where the wait holds. -/
theorem ends_retried (hr : onFile? texts file = some r) :
    Ends (reporting (recordCall texts a (.retry (some r.operationId.val)))) file
        (fun reopened after => Ends (
          if reopened.stage = .adminUpdatePending then do
            return some (← commitReconnectAndLaunch texts launch reopened none)
          else return some (.transition reopened none)) after (fun _ _ => True)
          (Refused texts file)) (Refused texts file) ↔
      ∀ failure expiresAt, r.recovery = some failure → failure.resumeStage = .adminUpdatePending →
        Reopens texts a r.toTransitionRecord →
        renewedExpiry texts r.toTransitionRecord a.stamp = .ok expiresAt →
        WaitHolds texts launch
          (reopenedRecord r.toTransitionRecord failure a expiresAt).toTransitionRecord := by
  have hself := @refused_self texts file
  cases hfailure : r.recovery with
  | none => exact iff_of_true (ends_reopen_open hr hfailure hself) fun _ _ h => (by cases h)
  | some failure =>
    have hcarried := fun expiresAt => @ends_carriedOn texts file launch _ r
      (reopenedRecord r.toTransitionRecord failure a expiresAt) hr (hfailure ▸ rfl)
      (onFile?_asDict _)
    refine (ends_reopen hr rfl hfailure (fun e => hself _) fun _ _ _ h => (by cases h)).trans ?_
    constructor
    · intro h failure' expiresAt hfailure' hresume hopens hexpiry
      obtain rfl := Option.some.inj hfailure'
      exact (hcarried expiresAt).mp (h hopens expiresAt hexpiry) hresume
    · intro h hopens expiresAt hexpiry
      exact (hcarried expiresAt).mpr fun hresume => h failure expiresAt rfl hresume hopens hexpiry

theorem refusalsKeep_retry {call : Retry} :
    RefusalsKeep texts (retryTransition texts call) file ↔ RetryHolds texts file call := by
  have hself := @refused_self texts file
  have hattempt : ∀ r, onFile? texts file = some r → r.operationId.val = call.operationId →
      (Ends (retryDispatchAttempt texts call r) file (fun _ _ => True) (Refused texts file) ↔
        (call.claim.completed = false → call.authority.faults.unreadable = none →
          ∀ failure expiresAt, r.recovery = some failure →
            failure.resumeStage = .adminUpdatePending →
            Reopens texts call.reopen r.toTransitionRecord →
            renewedExpiry texts r.toTransitionRecord call.reopen.stamp = .ok expiresAt →
            WaitHolds texts call.launch (reopenedRecord r.toTransitionRecord failure call.reopen
              expiresAt).toTransitionRecord)) := by
    intro r hr hid
    rw [retryDispatchAttempt]
    cases hclaim : call.claim.completed with
    | true =>
      refine iff_of_true ?_ fun h => (by cases h)
      exact (ends_of_reads fun _ => rfl).mpr ⟨fun _ _ => trivial, fun e _ => hself e⟩
    | false =>
      rw [if_neg Bool.false_ne_true]
      refine ends_bind.trans (ends_bind.trans ((ends_authority hself hr).trans ?_))
      rw [imp_iff_right rfl]
      exact imp_congr_right fun _ => ends_retried hr
  refine ends_bind.trans ((ends_currentRecord hself).trans ?_)
  constructor
  · intro h r failure build expiresAt hr hfailure hresume hid hcurrent hresolve hmatches hack hstored
      hclaim hauthority hopens hexpiry
    have hends := (ends_resolvedTransitionBuild hself).mp (ends_bind.mp (h r hr hid hcurrent)) build
      hresolve hmatches
    have hends := (ends_check hself).mp (ends_bind.mp hends) hack
    have hends := (ends_check hself).mp (ends_bind.mp hends) hstored
    exact (hattempt r hr hid).mp hends hclaim hauthority failure expiresAt hfailure hresume hopens
      hexpiry
  · intro h r hr hid hcurrent
    refine ends_bind.mpr ((ends_resolvedTransitionBuild hself).mpr fun build hresolve hmatches => ?_)
    refine ends_bind.mpr ((ends_check hself).mpr fun hack => ?_)
    refine ends_bind.mpr ((ends_check hself).mpr fun hstored => ?_)
    refine (hattempt r hr hid).mpr fun hclaim hauthority failure expiresAt hfailure hresume hopens
      hexpiry => ?_
    exact h r failure build expiresAt hr hfailure hresume hid hcurrent hresolve hmatches hack hstored
      hclaim hauthority hopens hexpiry

/-! ### Starting behind a transition that was given up -/

/-- A begin that raises is told from the file, and one that did not take effect is refused. -/
def BeginHolds (start : Start) : Prop :=
  start.begin.faults.unreadable = none ∧
    match start.begin.faults.write with
    | .none => True
    | .before _ => False
    | .after _ => start.commitRead.faults.unreadable = none

def DispatchHolds (texts : TransitionTexts) (start : Start) (record : TransitionRecord) : Prop :=
  if start.claim.completed then start.claim.failure = none
  else start.authority.faults.unreadable = none ∧ WaitHolds texts start.launch record

/-- The record of a start behind a transition that was given up for it. -/
def startRecord (texts : TransitionTexts) (start : Start) (build : SystemBuild)
    (acknowledged : Bool) (running : ImageIdentity) : Transition.Outcome DurableRecord :=
  makeTransitionRecord texts (beginning start build .alignExistingInstall none acknowledged running
    (alignmentFor start build running)) start.created

/-- What it has to meet from then on. -/
def GoesOn (texts : TransitionTexts) (start : Start) (build : SystemBuild)
    (running : ImageIdentity) (record : DurableRecord) : Prop :=
  BeginHolds start ∧ (alignmentFor start build running ≠ .aligned →
    DispatchHolds texts start record.toTransitionRecord)

/-- What a start has to meet behind a transition that was given up for it. -/
def StartHolds (texts : TransitionTexts) (start : Start) (build : SystemBuild)
    (acknowledged : Bool) : Prop :=
  start.existing.faults.unreadable = none ∧
    ∀ running record, start.runningAdmin = .ok running →
      startRecord texts start build acknowledged running = .ok record →
        GoesOn texts start build running record

theorem parsed_fields {data : Entries} (h : parseTransitionRecord texts (.dict data) = .ok d) :
    requireTransitionStr data "operation_id" = .ok d.operationId ∧
      ∃ stageText, requireTransitionStr data "stage" = .ok stageText ∧
        ofText? stageText.val = some d.stage := by
  obtain ⟨_, -, h⟩ := bind_eq_ok.mp h
  obtain ⟨operationId, hid, h⟩ := bind_eq_ok.mp h
  obtain ⟨_, -, h⟩ := bind_eq_ok.mp h
  obtain ⟨stageText, hstageText, h⟩ := bind_eq_ok.mp h
  iterate 9 obtain ⟨_, -, h⟩ := bind_eq_ok.mp h
  obtain ⟨_, -, h⟩ := bind_eq_ok.mp h
  obtain ⟨stage, hstage, h⟩ := bind_eq_ok.mp h
  obtain ⟨⟨embeds⟩, -, h⟩ := bind_eq_ok.mp h
  obtain ⟨⟨override, overrides⟩, -, h⟩ := bind_eq_ok.mp h
  iterate 12 obtain ⟨_, -, h⟩ := bind_eq_ok.mp h
  obtain ⟨⟨acknowledged⟩, -, h⟩ := bind_eq_ok.mp h
  obtain ⟨⟨fingerprint⟩, -, h⟩ := bind_eq_ok.mp h
  obtain ⟨⟨recovery, consistent⟩, -, h⟩ := bind_eq_ok.mp h
  obtain ⟨_, -, h⟩ := bind_eq_ok.mp h
  obtain rfl := Except.ok.inj h
  refine ⟨hid, stageText, hstageText, ?_⟩
  cases hfound : ofText? stageText.val with
  | none =>
    rw [hfound] at hstage
    cases hstage
  | some found =>
    rw [hfound] at hstage
    exact congrArg some (Except.ok.inj hstage)

theorem makeTransitionRecord_fields {begun : Begun}
    (h : makeTransitionRecord texts begun now = .ok record) :
    record.operationId = begun.operationId ∧ record.stage = begun.stage := by
  obtain ⟨expiresAt, -, hparse⟩ := bind_eq_ok.mp h
  obtain ⟨hid, stageText, hstageText, hstage⟩ := parsed_fields (mapError_eq_ok.mp hparse)
  have hvalues : getValue (begun.candidate now.stamp expiresAt) "operation_id" =
        .str begun.operationId.val ∧
      getValue (begun.candidate now.stamp expiresAt) "stage" = .str begun.stage.asText.val :=
    ⟨rfl, rfl⟩
  rw [requireTransitionStr_of hvalues.1] at hid
  rw [requireTransitionStr_of hvalues.2] at hstageText
  obtain rfl := Except.ok.inj hstageText
  rw [asText, ofText?_text] at hstage
  exact ⟨(Except.ok.inj hid).symm, (Option.some.inj hstage).symm⟩

theorem decision_begin (hr : onFile? texts file = some r) (hterminal : r.stage.terminal = true)
    (hread : a.faults.unreadable = none) :
    decision texts (a.attempt (.begin record.asDict)) file = .ok ⟨some record, .record record⟩ := by
  refine bind_eq_ok.mpr ⟨record, mapError_eq_ok.mpr (parseTransitionRecord_durable record), ?_⟩
  refine bind_eq_ok.mpr ⟨some r, readRecord_readable hr hread, ?_⟩
  have hreplaces : ∀ r' ∈ some r, r'.stage.terminal = true :=
    fun r' hr' => Option.mem_some_iff.mp hr' ▸ hterminal
  exact bind_eq_ok.mpr ⟨(), require_eq_ok.mpr hreplaces, rfl⟩

theorem ends_afterFailedBegin {Q : Unit → FileContent → Prop}
    (hgate : ∀ e, ¬ KeepsGate texts before e file) :
    Ends (afterFailedBegin texts start record e) file Q (Refused texts before) ↔
      match commitOutcome (Transition.readRecord texts start.commitRead.faults file) record with
      | .committed => Q () file
      | .notCommitted => NoRefusal (commitFailure e) file
      | .unprovable => False := by
  rw [Ends, afterFailedBegin]
  cases commitOutcome (Transition.readRecord texts start.commitRead.faults file) record with
  | committed => exact Iff.rfl
  | notCommitted =>
    exact ⟨fun h refusal he => hgate refusal (h refusal he), fun h refusal he => absurd he (h refusal)⟩
  | unprovable => exact iff_of_false (fun h => hgate _ (h _ rfl)) fun h => h

/-- **A begin behind a transition that was given up** is refused unless it holds. -/
theorem ends_commitBegin {Q : Unit → FileContent → Prop} (hr : onFile? texts before = some r)
    (hfailed : r.recovery.isSome = true) (hc : onFile? texts file = some c)
    (hcancelled : c.stage = .cancelled) (hfresh : c.operationId ≠ record.operationId)
    (hopen : record.recovery = none) :
    Ends (commitBegin texts start record) file Q (Refused texts before) ↔
      BeginHolds start ∧ Q () (.json record.asDict) := by
  have hgate := not_keepsGate hr hfailed hc (recovery_eq_none (by rw [hcancelled]; decide))
  have hgate' := not_keepsGate hr hfailed (onFile?_asDict record) hopen
  have hbefore : ∀ e, (∃ refusal, commitFailure e = .alignment refusal) →
      ¬ Ends (afterFailedBegin texts start record e) file Q (Refused texts before) := by
    intro e hrefusal hends
    obtain ⟨refusal, hrefusal⟩ := hrefusal
    have hends := (ends_afterFailedBegin hgate).mp hends
    obtain ⟨-, hfound⟩ | ⟨-, e', he'⟩ := readRecord_cases hc start.commitRead.faults
    · rw [hfound, commitOutcome, if_pos hfresh] at hends
      exact hends refusal hrefusal
    · rw [he'] at hends
      exact hends
  rw [commitBegin, BeginHolds]
  refine ends_catching.trans (ends_bind.trans (ends_translating.trans ?_))
  simp only [ends_pure]
  by_cases hread : start.begin.faults.unreadable = none
  case neg =>
    obtain ⟨e, he⟩ := @readRecord_unreadable texts start.begin.faults file hread
    have hdecision : decision texts (start.begin.attempt (.begin record.asDict)) file =
        .error (.state e) := by
      have hbegin : decision texts (start.begin.attempt (.begin record.asDict)) file =
          ((parseTransitionRecord texts record.asDict).mapError .state >>= fun candidate =>
            Transition.readRecord texts start.begin.faults file >>= beginOver candidate) := rfl
      rw [hbegin, parseTransitionRecord_durable, he]
      rfl
    rw [ends_storeCall_of_error hdecision]
    exact iff_of_false (hbefore _ ⟨_, rfl⟩) fun h => hread h.1.1
  refine (ends_storeCall_of_ok (decision_begin hc (by rw [hcancelled]; rfl) hread)).trans ?_
  rw [and_iff_right hread]
  cases start.begin.faults.write with
  | none => exact (and_iff_right trivial).symm
  | before message => exact iff_of_false (hbefore _ ⟨_, rfl⟩) And.left
  | after message =>
    refine (ends_afterFailedBegin hgate').trans ?_
    obtain ⟨hcommit, hfound⟩ | ⟨hcommit, e', he'⟩ :=
      readRecord_cases (@onFile?_asDict texts record) start.commitRead.faults
    · rw [hfound, commitOutcome, if_neg (fun h => h rfl), if_pos (isSameOperation_iff.mpr rfl)]
      exact (and_iff_right hcommit).symm
    · rw [he']
      exact iff_of_false id fun h => hcommit h.1

theorem startAnswer_failed {claim : DispatchClaim} {failure : SystemAlignmentError}
    {found : Transition.Outcome (Option DurableRecord)} (h : claim.failure = some failure) :
    startAnswer claim found record = .error failure := by
  have hcompleted : claim.completed = true := by
    rw [DispatchClaim.completed, h, Option.isSome_some, Bool.or_true]
  rw [startAnswer, if_pos hcompleted]
  simp only [reportCompleted, h]

theorem startAnswer_completed {claim : DispatchClaim}
    {found : Transition.Outcome (Option DurableRecord)} {record : DurableRecord}
    (h : claim.completed = true) (hnone : claim.failure = none) :
    ∃ answer, startAnswer claim found record = .ok (some answer) := by
  have hresult : claim.result.isSome = true := by
    rw [DispatchClaim.completed, hnone, Option.isSome_none, Bool.or_false] at h
    exact h
  obtain ⟨result, hresult⟩ := Option.isSome_iff_exists.mp hresult
  rw [startAnswer, if_pos h]
  simp only [reportCompleted, hnone, hresult]
  cases found with
  | error e => exact ⟨result, rfl⟩
  | ok found =>
    cases found with
    | none => exact ⟨result, rfl⟩
    | some durable =>
      by_cases hsame : isSameOperation durable.toTransitionRecord record.toTransitionRecord = true
      · exact ⟨reconnecting durable, if_pos hsame⟩
      · exact ⟨result, if_neg hsame⟩

/-- **The dispatch of a record that was begun** keeps the gate exactly where it holds. -/
theorem ends_startAdminReplacement {decision : Option String} (hr : onFile? texts before = some r)
    (hfailed : r.recovery.isSome = true) (hrecord : onFile? texts file = some record)
    (hstage : record.stage = .adminUpdatePending) :
    Ends (startAdminReplacement texts start.claim start.authority start.launch record decision) file
        (fun _ _ => True) (Refused texts before) ↔
      DispatchHolds texts start record.toTransitionRecord := by
  have hgate := not_keepsGate hr hfailed hrecord (recovery_eq_none (by rw [hstage]; decide))
  have hanswer : ∀ {Q : Option AlignmentResult → FileContent → Prop},
      Ends (startAnswerAt texts start.claim start.authority record) file Q (Refused texts before) ↔
        match startAnswer start.claim (Transition.readRecord texts start.authority.faults file) record with
        | .ok answer => Q answer file
        | .error _ => False := by
    intro Q
    rw [Ends, startAnswerAt]
    cases startAnswer start.claim (Transition.readRecord texts start.authority.faults file) record with
    | ok answer => exact Iff.rfl
    | error e => exact iff_of_false (fun h => hgate _ (h _ rfl)) fun h => h
  rw [DispatchHolds]
  refine ends_bind.trans (hanswer.trans ?_)
  cases hclaim : start.claim.completed with
  | true =>
    rw [if_pos rfl]
    cases hfailure : start.claim.failure with
    | some failure =>
      rw [startAnswer_failed hfailure]
      exact iff_of_false (fun h => h) fun h => (by cases h)
    | none =>
      obtain ⟨answer, hanswered⟩ := @startAnswer_completed start.claim
        (Transition.readRecord texts start.authority.faults file) record hclaim hfailure
      rw [hanswered]
      exact iff_of_true ((ends_pure answer).mpr trivial) rfl
  | false =>
    rw [if_neg Bool.false_ne_true]
    obtain ⟨hread, hfound⟩ | ⟨hread, e, he⟩ := readRecord_cases hrecord start.authority.faults
    · have hlaunches : startAnswer start.claim (.ok (some record)) record = .ok none := by
        rw [startAnswer, hclaim, if_neg Bool.false_ne_true]
        refine bind_eq_ok.mpr ⟨record, if_pos (isSameOperation_iff.mpr rfl), ?_⟩
        exact if_neg (not_not.mpr hstage)
      rw [hfound, hlaunches, and_iff_right hread]
      exact ends_commitReconnectAndLaunch hr hfailed hrecord hstage
    · have hrefused : startAnswer start.claim (.error (.state e)) record =
          .error stageCommitUnprovable := by
        rw [startAnswer, hclaim, if_neg Bool.false_ne_true]
        rfl
      rw [he, hrefused]
      exact iff_of_false id fun h => hread h.1

/-! ### Returning -/

/-- A return passes its checks on a failed transition, and would return to a build. -/
structure Returns (texts : TransitionTexts) (file : FileContent) (call : Return) (r : DurableRecord)
    (target : SystemBuild) : Prop where
  confirmed : call.confirm = true
  onFile : onFile? texts file = some r
  named : r.operationId.val = call.operationId
  readable : call.current.faults.unreadable = none
  unmanaged : setupMode r.mode = false
  failed : r.stage = .failedRecoverable
  known : ∃ data id tag ems, call.knownGood = .dict data ∧
    parseSystemBuildId (getValue data "build_id") = .ok id ∧ dictGet data "system_tag" = some tag ∧
    call.runningEms = .ok ems ∧ emsIdentityMatchesTransition ems r.toTransitionRecord = false ∧
    emsIdentityMatchesKnownGood ems data = true ∧ call.resolve tag = .ok target ∧
    knownGoodMatchesBuild data target = true
  acknowledged : target.development = true → call.acknowledged = true

/-- What `return_to_running_build` has to meet once the transition is given up. -/
def ReturnHolds (texts : TransitionTexts) (file : FileContent) (call : Return) : Prop :=
  ∀ r target, Returns texts file call r target → call.cancel.faults.unreadable = none →
    call.cancel.faults.write = .none → StartHolds texts call.start target call.acknowledged

section Checks

variable {file : FileContent} {E : Raised → FileContent → Prop} (hE : ∀ e, E e file)

include hE

theorem ends_knownGoodTarget {knownGood : PyValue} {Q : Entries × PyValue → FileContent → Prop} :
    Ends (knownGoodTarget knownGood) file Q E ↔
      ∀ data id tag, knownGood = .dict data → parseSystemBuildId (getValue data "build_id") = .ok id →
        dictGet data "system_tag" = some tag → Q (data, tag) file := by
  cases knownGood with
  | dict data =>
    rw [knownGoodTarget]
    cases hid : parseSystemBuildId (getValue data "build_id") with
    | error e =>
      refine iff_of_true (ends_refuse.mpr (hE _)) fun data' id tag hdata hid' => ?_
      obtain rfl := PyValue.dict.inj hdata
      cases hid.symm.trans hid'
    | ok id =>
      cases htag : dictGet data "system_tag" with
      | none =>
        refine iff_of_true (ends_refuse.mpr (hE _)) fun data' id' tag hdata _ htag' => ?_
        obtain rfl := PyValue.dict.inj hdata
        cases htag.symm.trans htag'
      | some tag =>
        refine (ends_pure (data, tag)).trans ⟨fun h data' id' tag' hdata _ htag' => ?_, fun h => ?_⟩
        · obtain rfl := PyValue.dict.inj hdata
          obtain rfl := Option.some.inj (htag.symm.trans htag')
          exact h
        · exact h data id tag rfl hid htag
  | _ => exact iff_of_true (ends_refuse.mpr (hE _)) fun data id tag hdata => (by cases hdata)

theorem ends_inspectedEms {ems : Except String ImageIdentity}
    {Q : ImageIdentity → FileContent → Prop} :
    Ends (inspectedEms ems) file Q E ↔ ∀ running, ems = .ok running → Q running file := by
  cases ems with
  | ok running =>
    exact (ends_pure running).trans ⟨fun h _ h' => Except.ok.inj h' ▸ h, fun h => h running rfl⟩
  | error e => exact iff_of_true (ends_refuse.mpr (hE _)) fun running h => (by cases h)

theorem ends_requireExplicit {build : SystemBuild} {acknowledged : Bool}
    {Q : Unit → FileContent → Prop} :
    Ends (requireExplicitDevelopmentAcknowledgement build acknowledged) file Q E ↔
      ((build.development = true → acknowledged = true) → Q () file) := by
  rw [requireExplicitDevelopmentAcknowledgement]
  exact ends_check hE

theorem ends_returnTarget {call : Return} {Q : SystemBuild → FileContent → Prop} :
    Ends (returnTarget texts call) file Q E ↔
      ∀ r target, Returns texts file call r target → Q target file := by
  rw [returnTarget]
  simp only [ends_bind, ends_check hE, ends_currentRecord hE, ends_knownGoodTarget hE,
    ends_inspectedEms hE, ends_requireExplicit hE, ends_outside fun message => hE (.other message),
    ends_pure]
  constructor
  · intro h r target hreturns
    obtain ⟨data, id, tag, ems, hdata, hid, htag, hems, hdiffers, hagrees, hresolve, hsame⟩ :=
      hreturns.known
    exact h hreturns.confirmed r hreturns.onFile hreturns.named hreturns.readable
      hreturns.unmanaged hreturns.failed data id tag hdata hid htag ems hems hdiffers hagrees target
      hresolve hsame hreturns.acknowledged
  · intro h hconfirm r hr hid hread hmode hfailed data id tag hdata hparse htag ems hems hdiffers
      hagrees target hresolve hsame hack
    exact h r target ⟨hconfirm, hr, hid, hread, hmode, hfailed,
      ⟨data, id, tag, ems, hdata, hparse, htag, hems, hdiffers, hagrees, hresolve, hsame⟩, hack⟩

end Checks

def cancelledRecord (r : TransitionRecord) (now : Reading) : DurableRecord where
  toTransitionRecord := { r with stage := .cancelled, updatedAt := now.stamp, recovery := none }
  consistent := ⟨fun h => (by cases h), fun h => (by cases h)⟩

theorem ends_cancel {Q : Answer → FileContent → Prop} (hr : onFile? texts file = some r)
    (hid : r.operationId.val = id) (hfailed : r.stage = .failedRecoverable)
    (hrefused : ∀ e, E (.alignment e) file) (hpasses : ∀ failure file, E (.store failure) file) :
    Ends (reporting (storeCall texts a (.cancel (some id) false none))) file Q E ↔
      (a.faults.unreadable = none → a.faults.write = .none →
        Q (.record (cancelledRecord r.toTransitionRecord a.stamp))
          (.json (cancelledRecord r.toTransitionRecord a.stamp).asDict)) := by
  refine ends_translating.trans ?_
  by_cases hread : a.faults.unreadable = none
  case neg =>
    obtain ⟨e, he⟩ := @readRecord_unreadable texts a.faults file hread
    have hdecision : decision texts (a.attempt (.cancel (some id) false none)) file =
        .error (.state e) := by
      rw [Access.attempt, decision, he]
      rfl
    exact iff_of_true ((ends_storeCall_of_error hdecision).mpr (hrefused _))
      fun h => absurd h hread
  have hcancel : cancel texts false none r a.check a.stamp =
      .ok ⟨some (cancelledRecord r.toTransitionRecord a.stamp),
        .record (cancelledRecord r.toTransitionRecord a.stamp)⟩ := by
    have hmutable : requireMutable r.toTransitionRecord = .ok () :=
      require_eq_ok.mpr (by rw [hfailed]; rfl)
    have hendable : requireEndable texts false none r.toTransitionRecord a.check = .ok () := by
      rw [requireEndable]
      cases isExpired texts r.toTransitionRecord a.check with
      | true => rfl
      | false =>
        refine bind_eq_ok.mpr ⟨(), require_eq_ok.mpr fun h => (by cases h.1), ?_⟩
        refine bind_eq_ok.mpr ⟨(), require_eq_ok.mpr (.inl (by rw [hfailed]; rfl)), ?_⟩
        refine require_eq_ok.mpr ?_
        rw [resourceVerificationActive, hfailed]
        rfl
    rw [cancel, if_neg (by rw [hfailed]; decide)]
    refine bind_eq_ok.mpr ⟨(), hmutable, bind_eq_ok.mpr ⟨(), hendable, ?_⟩⟩
    exact bind_eq_ok.mpr ⟨_, validated_eq_ok.mpr rfl, rfl⟩
  have hdecision : decision texts (a.attempt (.cancel (some id) false none)) file =
      .ok ⟨some (cancelledRecord r.toTransitionRecord a.stamp),
        .record (cancelledRecord r.toTransitionRecord a.stamp)⟩ :=
    bind_eq_ok.mpr ⟨some r, readRecord_readable hr hread,
      bind_eq_ok.mpr ⟨r, if_pos hid, hcancel⟩⟩
  refine (ends_storeCall_of_ok hdecision).trans ?_
  rw [imp_iff_right hread]
  cases a.faults.write with
  | none => exact (imp_iff_right rfl).symm
  | before message | after message => exact iff_of_true (hpasses _ _) fun h => (by cases h)

theorem refused_other (message : String) :
    Refused texts before (.other message) after := by
  intro refusal h
  cases h

theorem refused_store (failure : StoreFailure) :
    Refused texts before (.store failure) after := by
  intro refusal h
  cases h

theorem beginning_stage {mode : TransitionMode} {fingerprint : Option String}
    {running : ImageIdentity} {alignment : Alignment} :
    (beginning start build mode fingerprint acknowledged running alignment).stage =
      if alignment = .aligned then .adminAligned else .adminUpdatePending := rfl

/-- **A start behind a transition that was given up** keeps its gate exactly where it holds. -/
theorem ends_enter (hr : onFile? texts before = some r) (hfailed : r.recovery.isSome = true)
    (hc : onFile? texts file = some c) (hcancelled : c.stage = .cancelled)
    (hfresh : c.operationId ≠ start.operationId) :
    Ends (enter texts start build .alignExistingInstall none acknowledged) file (fun _ _ => True)
        (Refused texts before) ↔
      ∀ running record, start.runningAdmin = .ok running →
        startRecord texts start build acknowledged running = .ok record →
          GoesOn texts start build running record := by
  refine ends_bind.trans ((ends_outside fun message => refused_other message).trans ?_)
  have hdispatch : ∀ running record,
      startRecord texts start build acknowledged running = .ok record →
      (Ends (do
          commitBegin texts start record
          proceed texts start (alignmentFor start build running) record) file
          (fun _ _ => True) (Refused texts before) ↔ GoesOn texts start build running record) := by
    intro running record hrecord
    obtain ⟨hid, hstage⟩ := makeTransitionRecord_fields (hrecord : makeTransitionRecord _ _ _ = _)
    rw [beginning_stage] at hstage
    have hopen : record.recovery = none := by
      apply recovery_eq_none
      rw [hstage]
      by_cases haligned : alignmentFor start build running = .aligned
      · rw [if_pos haligned]
        decide
      · rw [if_neg haligned]
        decide
    refine ends_bind.trans ((ends_commitBegin hr hfailed hc hcancelled ?_ hopen).trans
      (and_congr_right fun _ => ?_))
    · rw [hid]
      exact hfresh
    · rw [proceed]
      by_cases haligned : alignmentFor start build running = .aligned
      · rw [if_pos haligned]
        exact iff_of_true ((ends_pure _).mpr trivial) fun h => absurd haligned h
      · rw [if_neg haligned]
        have hpending : record.stage = .adminUpdatePending := by
          rw [hstage, if_neg haligned]
        refine (ends_startAdminReplacement hr hfailed (onFile?_asDict record) hpending).trans ?_
        exact ⟨fun h _ => h, fun h => h haligned⟩
  have hmake : ∀ running, Ends (ofExcept
      ((startRecord texts start build acknowledged running).mapError Raised.store)) file
      (fun record file => Ends (do
          commitBegin texts start record
          proceed texts start (alignmentFor start build running) record) file
          (fun _ _ => True) (Refused texts before)) (Refused texts before) ↔
      ∀ record, startRecord texts start build acknowledged running = .ok record →
        GoesOn texts start build running record := by
    intro running
    refine ends_ofExcept.trans ⟨fun h record hrecord => ?_, fun h => ⟨fun record hrecord => ?_, ?_⟩⟩
    · exact (hdispatch running record hrecord).mp (h.1 record (mapError_eq_ok.mpr hrecord))
    · have hrecord := mapError_eq_ok.mp hrecord
      exact (hdispatch running record hrecord).mpr (h record hrecord)
    · intro e he
      cases hresult : startRecord texts start build acknowledged running with
      | ok record =>
        rw [hresult] at he
        cases he
      | error failure =>
        rw [hresult] at he
        obtain rfl := Except.error.inj he
        exact refused_store failure
  constructor
  · intro h running record hrunning hrecord
    have hends := ends_bind.mp (h running hrunning)
    have hends := (ends_demand_of (decideAlignment_ne_mismatch _ _ _)).mp hends
    exact (hmake running).mp (ends_bind.mp hends) record hrecord
  · intro h running hrunning
    refine ends_bind.mpr ((ends_demand_of (decideAlignment_ne_mismatch _ _ _)).mpr ?_)
    exact ends_bind.mpr ((hmake running).mpr fun record hrecord => h running record hrunning hrecord)

/-- **Every refusal of `return_to_running_build` keeps the gate exactly where the start behind the
transition it gives up holds**, for an operation with an id of its own. -/
theorem refusalsKeep_return {call : Return}
    (hfresh : ∀ r, onFile? texts file = some r → r.operationId ≠ call.start.operationId) :
    RefusalsKeep texts (returnToRunningBuild texts call) file ↔ ReturnHolds texts file call := by
  have hself := @refused_self texts file
  refine ends_bind.trans ((ends_returnTarget hself).trans ?_)
  refine forall_congr' fun r => forall_congr' fun target => imp_congr_right fun hreturns => ?_
  have hr := hreturns.onFile
  have hfailed : r.recovery.isSome = true := r.consistent.mpr hreturns.failed
  refine ends_bind.trans ((ends_cancel hr hreturns.named hreturns.failed (fun e => hself _)
    fun failure after => refused_store failure).trans ?_)
  refine imp_congr_right fun _ => imp_congr_right fun _ => ?_
  have hc := @onFile?_asDict texts (cancelledRecord r.toTransitionRecord call.cancel.stamp)
  have hgate := not_keepsGate hr hfailed hc rfl
  rw [startResolved, StartHolds]
  have hexplicit : Ends (requireExplicitDevelopmentAcknowledgement target call.acknowledged)
      (.json (cancelledRecord r.toTransitionRecord call.cancel.stamp).asDict) = fun Q E =>
        Q () (.json (cancelledRecord r.toTransitionRecord call.cancel.stamp).asDict) := by
    funext Q E
    exact propext (ends_demand_of hreturns.acknowledged)
  refine ends_bind.trans ?_
  rw [hexplicit]
  refine ends_bind.trans (ends_read.trans ?_)
  obtain ⟨hread, hfound⟩ | ⟨hread, e, he⟩ := readRecord_cases hc call.start.existing.faults
  · rw [hfound, and_iff_right hread]
    exact ends_enter hr hfailed hc rfl (hfresh r hr)
  · rw [he]
    exact iff_of_false (fun h => hgate _ (h _ rfl)) fun h => hread h.1

/-! ### Every call -/

inductive AlignmentCall where
  | returnToRunningBuild (call : Return)
  | retry (call : Retry)
  | recoverEmsOperation (call : Recover)
  | beginEmsOperation (operationId : String) (fresh step : Access)
  | finishEmsOperation (operationId : String) (succeeded : Bool)
      (errorCode errorMessage : Option String) (step : Access)
  | finishHealthcheck (operationId : String) (passed : Bool)
      (errorCode errorMessage : Option String) (run : HealthRun)

namespace AlignmentCall

/-- Every refusal of the call, on a file, keeps the gate. -/
def KeepsGate (texts : TransitionTexts) (file : FileContent) : AlignmentCall → Prop
  | returnToRunningBuild call => RefusalsKeep texts (Alignment.returnToRunningBuild texts call) file
  | retry call => RefusalsKeep texts (retryTransition texts call) file
  | recoverEmsOperation call => RefusalsKeep texts (Alignment.recoverEmsOperation texts call) file
  | beginEmsOperation id fresh step =>
    RefusalsKeep texts (Alignment.beginEmsOperation texts id fresh step) file
  | finishEmsOperation id succeeded errorCode errorMessage step =>
    RefusalsKeep texts
      (Alignment.finishEmsOperation texts id succeeded errorCode errorMessage step) file
  | finishHealthcheck id passed errorCode errorMessage run =>
    RefusalsKeep texts (Alignment.finishHealthcheck texts id passed errorCode errorMessage run) file

/-- What the call has to meet behind its first write, where it writes more than once. -/
def Holds (texts : TransitionTexts) (file : FileContent) : AlignmentCall → Prop
  | returnToRunningBuild call => ReturnHolds texts file call
  | retry call => RetryHolds texts file call
  | recoverEmsOperation call => RecoverHolds texts file call
  | _ => True

/-- The id an operation is begun with is not that of the operation on file. -/
def BeginsAnother (texts : TransitionTexts) (file : FileContent) : AlignmentCall → Prop
  | returnToRunningBuild call =>
    ∀ r, onFile? texts file = some r → r.operationId ≠ call.start.operationId
  | _ => True

end AlignmentCall

/-- **When a refused call leaves the recovery gate.**  For every file and every call, whatever runs,
is resolved and goes wrong: each refusal of the call leaves the file it found, or a failure that it
reports, exactly where what the call meets behind its first write holds.  A call that writes once
always leaves it. -/
theorem keepsGate_iff (texts : TransitionTexts) (file : FileContent) (call : AlignmentCall)
    (hid : call.BeginsAnother texts file) :
    call.KeepsGate texts file ↔ call.Holds texts file := by
  cases call with
  | returnToRunningBuild call => exact refusalsKeep_return hid
  | retry call => exact refusalsKeep_retry
  | recoverEmsOperation call => exact refusalsKeep_recover
  | beginEmsOperation id fresh step =>
    exact iff_of_true (refusalsKeep_of_unwritten (unwritten_beginEmsOperation id fresh step) file)
      trivial
  | finishEmsOperation id succeeded errorCode errorMessage step =>
    exact iff_of_true (refusalsKeep_of_unwritten
      (unwritten_finishEmsOperation id succeeded errorCode errorMessage step) file) trivial
  | finishHealthcheck id passed errorCode errorMessage run =>
    exact iff_of_true (refusalsKeep_of_unwritten
      (unwritten_finishHealthcheck id passed errorCode errorMessage run) file) trivial

/-! ### A recovery at a stage that is not the EMS's -/

def sampleFailed (stage : TransitionStage) (h : stage ∈ stage.recoveryStages) : DurableRecord where
  toOperation := sampleOperation
  stage := .failedRecoverable
  expiresAt := (secondsAfter 3600).stamp
  updatedAt := (secondsAfter 0).stamp
  recovery := some ⟨stage, stage, sampleText, sampleText, h⟩
  adminUpdateClaimedAt := none
  resourcesClaimedAt := none
  consistent := ⟨fun _ => rfl, fun _ => rfl⟩

def sampleAccess : Access := ⟨secondsAfter 1, secondsAfter 1, Faults.none⟩

/-- A recovery of the sample a second after it began, with nothing that can be inspected. -/
def sampleRecovery : Recover where
  operationId := "1"
  healthcheckPassed := none
  errorCode := none
  errorMessage := none
  current := sampleAccess
  reopen := sampleAccess
  runningEms := .error "not running"
  step := sampleAccess
  health :=
    { current := sampleAccess, runningEms := .error "not running", systemBuild := none
      knownGood := .none, recordKnownGood := .ok (), step := sampleAccess }

/-- A failure at `admin_aligned` is reopened by a recovery that is then refused: what it is refused
from is on record no more, and the stage it is left at is not carried on from here. -/
theorem recovery_reopens_and_refuses :
    ¬ AlignmentCall.KeepsGate clockTexts (.json (sampleFailed .adminAligned (by decide)).asDict)
      (.recoverEmsOperation sampleRecovery) := by
  intro hkeeps
  have hholds := refusalsKeep_recover.mp hkeeps
  have hfresh : isExpired clockTexts (sampleFailed .adminAligned (by decide)).toTransitionRecord
      (secondsAfter 1) = false := by decide
  have hrenewed : renewedExpiry clockTexts
      (sampleFailed .adminAligned (by decide)).toTransitionRecord (secondsAfter 1) =
        .ok (secondsAfter 3601).stamp := by decide
  obtain h | h | h := hholds _ _ (onFile?_asDict _) rfl rfl rfl ⟨rfl, hfresh, rfl⟩ ⟨_, hrenewed⟩
  · cases h
  · cases h
  · cases h.1

/-! ### A return that is refused -/

/-- What runs beside the sample: the same build with another image of the EMS. -/
def runningBuild : SystemBuild := ⟨"1", "1", "1-1", "1", "1", "1", "2"⟩

/-- A return of the sample to what runs.  Behind the give-up the file cannot be read. -/
def sampleReturn (confirm : Bool) : Return where
  operationId := "1"
  confirm := confirm
  acknowledged := true
  current := sampleAccess
  knownGood := .dict [("build_id", .str "1-1"), ("revision", .str "1"), ("ems_image", .str "1"),
    ("ems_digest", .str "2"), ("system_tag", .str "1")]
  runningEms := .ok ⟨none, some "2", some "1", some "unknown", some "1-1", some "1"⟩
  resolve _ := .ok runningBuild
  cancel := sampleAccess
  start :=
    { existing := { sampleAccess with faults := ⟨some "unreadable", .none⟩ }
      runningAdmin := .error "not running"
      embedded := none
      persistentRef := ""
      operationId := ⟨"2", by decide, by decide⟩
      created := secondsAfter 1
      begin := sampleAccess
      commitRead := sampleAccess
      claim := ⟨none, none⟩
      authority := sampleAccess
      launch := ⟨sampleAccess, sampleAccess, none, sampleAccess⟩ }

/-- A return that is not confirmed is refused before it writes.  A confirmed one gives the failed
transition up, and is refused behind that. -/
theorem return_refused_unwritten_or_given_up :
    AlignmentCall.KeepsGate clockTexts (.json (sampleFailed .emsOperationPending (by decide)).asDict)
        (.returnToRunningBuild (sampleReturn false)) ∧
      ¬ AlignmentCall.KeepsGate clockTexts
        (.json (sampleFailed .emsOperationPending (by decide)).asDict)
        (.returnToRunningBuild (sampleReturn true)) := by
  have hid (confirm : Bool) : AlignmentCall.BeginsAnother clockTexts
      (.json (sampleFailed .emsOperationPending (by decide)).asDict)
      (.returnToRunningBuild (sampleReturn confirm)) := by
    intro r hr
    rw [onFile?_asDict] at hr
    obtain rfl := Option.some.inj hr
    have hother : ("1" : String) ≠ "2" := by decide
    exact fun h => hother (congrArg Text.val h)
  refine ⟨(keepsGate_iff _ _ _ (hid false)).mpr fun r target hreturns => ?_, fun hkeeps => ?_⟩
  · cases hreturns.confirmed
  · have hholds := (keepsGate_iff _ _ _ (hid true)).mp hkeeps
    have hstarts := hholds _ runningBuild
      { confirmed := rfl
        onFile := onFile?_asDict _
        named := rfl
        readable := rfl
        unmanaged := rfl
        failed := rfl
        known := ⟨_, sampleOperation.admin.buildId, .str "1", _, rfl,
          parseSystemBuildId_value sampleOperation.admin.buildId, rfl, rfl, by decide, by decide, rfl,
          by decide⟩
        acknowledged := fun _ => rfl } rfl rfl
    cases hstarts.1

end SolarFlowEms.Admin.Alignment
