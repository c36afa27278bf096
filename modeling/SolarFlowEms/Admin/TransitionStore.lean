import SolarFlowEms.Admin.TransitionRecord
import SolarFlowEms.Library.TimeText

/-!
# The store of the pending transition

The store keeps one record in one file.  Every call reads the file and, at most once, replaces it,
all under a lock that threads and processes share, so that the calls of any number of them take
effect one after another.  A forward step stamps the record and moves its deadline on by its own
window; a deadline that has passed is not moved again.

A call reads the clock where it checks the deadline and where it stamps what it writes.  Reading
the file may fail, and so may writing it, before the replacement or after it.
-/

namespace SolarFlowEms.Admin.Transition

open Python Documents Fallible TimeText Calendar

/-! ### The clock -/

def microsPerSecond : ℕ := 1000000

/-- A reading of the clock, in microseconds from the first second of the calendar. -/
structure Reading where
  micros : ℕ
  lt : micros < maxOrdinal * secondsPerDay * microsPerSecond

def Reading.utc (now : Reading) : UtcTime where
  seconds := now.micros / microsPerSecond
  lt := (Nat.div_lt_iff_lt_mul (by decide)).mpr now.lt

theorem isPySpace_of_isDigit {c : Char} (h : c.isDigit = true) : isPySpace c = false := by
  simp only [Char.isDigit, ge_iff_le, Bool.and_eq_true, decide_eq_true_eq, UInt32.le_iff_toNat_le]
    at h
  simp only [isPySpace, Char.toNat, Bool.or_eq_false_iff, Bool.and_eq_false_iff, decide_eq_false_iff_not]
  have hlow : 48 ≤ c.val.toNat := h.1
  have hhigh : c.val.toNat ≤ 57 := h.2
  omega

theorem padded_chars (width n : ℕ) : ∀ c ∈ (padded width n).toList, isPySpace c = false := by
  intro c h
  apply isPySpace_of_isDigit
  simp only [padded, String.toList_append, String.toList_ofList, List.mem_append,
    List.mem_replicate] at h
  obtain ⟨-, hzero⟩ | hdigit := h
  · subst hzero
    rfl
  · exact Nat.isDigit_of_mem_toDigits (b := 10) (n := n) (by decide) (by decide)
      (by simpa [toString, Nat.repr] using hdigit)

theorem formatUtc_chars (t : UtcTime) : ∀ c ∈ (formatUtc t).toList, isPySpace c = false := by
  simp only [formatUtc, isoformat, String.toList_append, List.forall_mem_append, and_assoc]
  have hdash : ∀ c ∈ "-".toList, isPySpace c = false := by simp [isPySpace]
  have hcolon : ∀ c ∈ ":".toList, isPySpace c = false := by simp [isPySpace]
  exact ⟨padded_chars _ _, hdash, padded_chars _ _, hdash, padded_chars _ _, by simp [isPySpace],
    padded_chars _ _, hcolon, padded_chars _ _, hcolon, padded_chars _ _, by simp [isPySpace]⟩

/-- `strftime("%Y-%m-%dT%H:%M:%SZ")`. -/
def stampText (t : UtcTime) : Text where
  val := formatUtc t
  stripped := pyStrip_eq_self
    (fun c hc => formatUtc_chars t c (List.mem_of_mem_head? hc))
    (fun c hc => formatUtc_chars t c (List.mem_of_mem_getLast? hc))
  ne_empty h := by
    have hlength := congrArg (fun s => s.toList.length) h
    simp [formatUtc] at hlength

/-- `_updated_at`. -/
def Reading.stamp (now : Reading) : Text := stampText now.utc

/-- The time an instant falls in, where the calendar has it. -/
def utcOf? (micros : ℤ) : Option UtcTime :=
  if 0 ≤ micros then UtcTime.ofSeconds? (micros.toNat / microsPerSecond) else none

inductive StoreFailure where
  | state (error : TransitionStateError)
  | os (message : String)
  | overflow
deriving DecidableEq

abbrev Outcome (α : Type) := Except StoreFailure α

def refuse {α : Type} (reason message : String) : Outcome α := .error (.state ⟨reason, message⟩)

def require (p : Prop) [Decidable p] (reason message : String) : Outcome Unit :=
  if p then .ok () else refuse reason message

/-! ### Deadlines -/

variable (texts : TransitionTexts)

/-- `_renewed_expiry`: the deadline one whole window past `now`, where it has not passed. -/
def renewedExpiry (r : TransitionRecord) (now : Reading) : Outcome Text :=
  match texts.parseIso r.updatedAt.val, texts.parseIso r.expiresAt.val with
  | some written, some expires =>
    if expires ≤ written then .ok r.expiresAt
    else if expires ≤ now.micros then .ok r.expiresAt
    else
      match utcOf? (now.micros + (expires - written)) with
      | some deadline => .ok (stampText deadline)
      | none => .error .overflow
  | _, _ => .ok r.expiresAt

/-- `_transition_is_expired`. -/
def isExpired (r : TransitionRecord) (now : Reading) : Bool :=
  match texts.parseIso r.expiresAt.val with
  | none => true
  | some expires => expires ≤ now.micros

/-! ### The running Admin -/

/-- The identity of the Admin that runs, as far as it could be read. -/
structure RunningAdmin where
  digest : Option String
  buildId : Option String
  revision : Option String

def unreadIdentity (actual : Option String) : Bool := actual.getD "" = ""

def sameIdentity (expected : String) (actual : Option String) : Bool :=
  pyStrip expected = pyStrip (actual.getD "")

def runningAdminMatches (r : TransitionRecord) (running : RunningAdmin) : Outcome Unit :=
  let admin := r.orchestratorAdmin
  if unreadIdentity running.digest || unreadIdentity running.buildId ||
      unreadIdentity running.revision then
    refuse "admin_unverifiable"
      "running Admin build could not be verified against the transition target"
  else if sameIdentity admin.digest.val running.digest &&
      sameIdentity admin.buildId.value running.buildId &&
      sameIdentity admin.revision.val running.revision then .ok ()
  else refuse "admin_identity_mismatch" "running Admin build does not match the transition target"

/-! ### What a call makes of the record -/

inductive Answer where
  | record (r : DurableRecord)
  | claimed (fresh : Bool)
  | nothing
deriving DecidableEq

/-- What a call writes, if anything, and what it answers. -/
structure Effect where
  written : Option DurableRecord
  answer : Answer

def keep (answer : Answer) : Outcome Effect := .ok ⟨none, answer⟩

def requireMutable (r : TransitionRecord) : Outcome Unit :=
  require (r.stage.terminal = false) "not_resumable"
    ("transition is " ++ r.stage.text ++ "; it cannot restart")

def requireFresh (r : TransitionRecord) (now : Reading) : Outcome Unit :=
  require (isExpired texts r now = false) "expired" "the pending transition has expired"

def requireEdge (expected new : TransitionStage) : Outcome Unit :=
  require (new ∈ expected.edges) "invalid_transition"
    ("transition edge " ++ expected.text ++ " -> " ++ new.text ++ " is invalid")

/-- `_progressed`: a change with its stamp and a renewed window. -/
def progressed (r : TransitionRecord) (now : Reading) (change : TransitionRecord → TransitionRecord) :
    Outcome TransitionRecord := do
  let expiresAt ← renewedExpiry texts r now
  return change { r with updatedAt := now.stamp, expiresAt }

/-- `_write_record_locked`, as far as the parser lets it. -/
def validated (candidate : TransitionRecord) : Outcome DurableRecord :=
  (parseTransitionRecord texts candidate.asDict).mapError .state

/-- A forward write, and the answer it comes with. -/
def writeProgress (r : TransitionRecord) (now : Reading)
    (change : TransitionRecord → TransitionRecord) (answer : DurableRecord → Answer) :
    Outcome Effect := do
  let candidate ← progressed texts r now change
  let written ← validated texts candidate
  return ⟨some written, answer written⟩

def advance (expected new : TransitionStage) (r : DurableRecord) (now : Reading) :
    Outcome Effect := do
  requireMutable r.toTransitionRecord
  requireEdge expected new
  if r.stage = new then keep (.record r)
  else do
    require (r.stage = expected) "invalid_transition"
      ("transition cannot advance from " ++ r.stage.text ++ " to " ++ new.text)
    writeProgress texts r.toTransitionRecord now ({ · with stage := new }) .record

def claim (expected new : TransitionStage) (r : DurableRecord) (check now : Reading) :
    Outcome Effect := do
  requireMutable r.toTransitionRecord
  requireEdge expected new
  if r.stage = new then keep (.claimed false)
  else do
    requireFresh texts r.toTransitionRecord check
    require (r.stage = expected) "invalid_transition"
      ("transition cannot be claimed from " ++ r.stage.text)
    writeProgress texts r.toTransitionRecord now ({ · with stage := new }) fun _ => .claimed true

def claimAdminUpdate (r : DurableRecord) (check now : Reading) : Outcome Effect := do
  requireMutable r.toTransitionRecord
  requireFresh texts r.toTransitionRecord check
  require (r.stage = .adminReconnectPending) "admin_update_not_runnable"
    ("Admin update cannot run while transition is " ++ r.stage.text)
  if r.adminUpdateClaimedAt.isSome then keep (.claimed false)
  else
    writeProgress texts r.toTransitionRecord now
      ({ · with adminUpdateClaimedAt := some now.stamp }) fun _ => .claimed true

def claimResourceVerification (r : DurableRecord) (check now : Reading) : Outcome Effect := do
  requireMutable r.toTransitionRecord
  requireFresh texts r.toTransitionRecord check
  if r.stage = .resourcesVerified then keep (.claimed false)
  else do
    require (r.stage = .adminAligned) "invalid_transition"
      ("resources cannot be claimed while transition is " ++ r.stage.text)
    if r.resourcesClaimedAt.isSome then keep (.claimed false)
    else
      writeProgress texts r.toTransitionRecord now
        ({ · with resourcesClaimedAt := some now.stamp }) fun _ => .claimed true

def resumeAfterAdminReconnect (running : RunningAdmin) (r : DurableRecord) (now : Reading) :
    Outcome Effect := do
  requireMutable r.toTransitionRecord
  requireFresh texts r.toTransitionRecord now
  runningAdminMatches r.toTransitionRecord running
  if r.stage = .adminAligned then keep (.record r)
  else do
    require (r.stage = .adminReconnectPending) "invalid_transition"
      ("Admin reconnect cannot resume transition at " ++ r.stage.text)
    writeProgress texts r.toTransitionRecord now ({ · with stage := .adminAligned }) .record

def sameFailure (r : TransitionRecord) (code message : Text) (resumeStage : TransitionStage) : Bool :=
  match r.recovery with
  | none => false
  | some failure =>
    failure.errorCode = code && failure.errorMessage = message && failure.resumeStage = resumeStage

def markFailed (code message : Text) (resumeStage : TransitionStage) (r : DurableRecord)
    (now : Reading) : Outcome Effect := do
  requireMutable r.toTransitionRecord
  if r.stage = .failedRecoverable then
    if sameFailure r.toTransitionRecord code message resumeStage then keep (.record r)
    else refuse "invalid_transition" "transition already has a recoverable failure"
  else if allowed : resumeStage ∈ r.stage.recoveryStages then
    writeProgress texts r.toTransitionRecord now
      ({ · with
        stage := .failedRecoverable
        recovery := some ⟨r.stage, resumeStage, code, message, allowed⟩ }) .record
  else
    refuse "invalid_transition" (r.stage.text ++ " cannot recover from " ++ resumeStage.text)

/-- What `retry` keeps of the claims: that of the work that is done anew is released. -/
def retried (resumeStage : TransitionStage) (r : TransitionRecord) : TransitionRecord :=
  { r with
    stage := resumeStage
    recovery := none
    adminUpdateClaimedAt :=
      if resumeStage = .adminUpdatePending then none else r.adminUpdateClaimedAt
    resourcesClaimedAt := if resumeStage = .adminAligned then none else r.resourcesClaimedAt }

def retry (r : DurableRecord) (check now : Reading) : Outcome Effect := do
  requireMutable r.toTransitionRecord
  requireFresh texts r.toTransitionRecord check
  match r.recovery with
  | none => refuse "invalid_transition" "only a recoverable failure can be retried"
  | some failure =>
    writeProgress texts r.toTransitionRecord now (retried failure.resumeStage) .record

/-- `transition_resource_verification_active`. -/
def resourceVerificationActive (r : TransitionRecord) : Bool :=
  r.stage = .adminAligned && r.resourcesClaimedAt.isSome

/-- Whether a transition whose deadline has not passed may be cancelled. -/
def requireCancellable (replacementInactive : Bool) (replacementClaimedAt : Option String)
    (r : TransitionRecord) : Outcome Unit := do
  require (¬ (replacementInactive = true ∧ r.stage.externallyOwned = true ∧
      r.adminUpdateClaimedAt.map Text.val ≠ replacementClaimedAt)) "mutation_in_progress"
    "the Admin replacement claimed the transition after it was observed absent"
  require (r.stage.cancellable = true ∨
      (replacementInactive = true ∧ r.stage.externallyOwned = true)) "mutation_in_progress"
    ("transition cannot be cancelled while " ++ r.stage.text ++ " is running")
  require (resourceVerificationActive r = false) "mutation_in_progress"
    "transition cannot be cancelled while System Build resources are being prepared"

/-- Past its deadline, a transition may be cancelled at any stage. -/
def requireEndable (replacementInactive : Bool) (replacementClaimedAt : Option String)
    (r : TransitionRecord) (check : Reading) : Outcome Unit :=
  if isExpired texts r check then .ok ()
  else requireCancellable replacementInactive replacementClaimedAt r

def cancel (replacementInactive : Bool) (replacementClaimedAt : Option String) (r : DurableRecord)
    (check now : Reading) : Outcome Effect :=
  if r.stage = .cancelled then keep (.record r)
  else do
    requireMutable r.toTransitionRecord
    requireEndable texts replacementInactive replacementClaimedAt r.toTransitionRecord check
    let written ← validated texts { r.toTransitionRecord with
      stage := .cancelled, updatedAt := now.stamp, recovery := none }
    return ⟨some written, .record written⟩

/-! ### The file -/

inductive FileContent where
  | absent
  | corrupt
  | json (value : PyValue)

inductive WriteFault where
  | none
  | before (message : String)
  | after (message : String)

/-- What goes wrong with the file during a call. -/
structure Faults where
  unreadable : Option String
  write : WriteFault

def Faults.none : Faults := ⟨.none, .none⟩

def readRaw (faults : Faults) (file : FileContent) : Outcome (Option PyValue) :=
  match faults.unreadable with
  | some message => refuse "state_unreadable" ("the transition state could not be read: " ++ message)
  | none =>
    match file with
    | .absent => .ok none
    | .corrupt => refuse "state_malformed" "the transition state file is corrupt"
    | .json .none => .ok none
    | .json value => .ok (some value)

/-- `read`. -/
def readRecord (faults : Faults) (file : FileContent) : Outcome (Option DurableRecord) := do
  match ← readRaw faults file with
  | none => return none
  | some value => return some (← (parseTransitionRecord texts value).mapError .state)

def requireOperation (operationId : Option String) (r : DurableRecord) : Outcome DurableRecord :=
  match operationId with
  | none => .ok r
  | some id =>
    if r.operationId.val = id then .ok r
    else refuse "operation_mismatch" "the transition operation id does not match"

def recordLocked (faults : Faults) (file : FileContent) (operationId : Option String) :
    Outcome DurableRecord := do
  match ← readRecord texts faults file with
  | none => refuse "no_transition" "there is no pending transition"
  | some r => requireOperation operationId r

/-! ### Calls -/

inductive Call where
  | begin (candidate : PyValue)
  | advance (operationId : Option String) (expected new : TransitionStage)
  | claim (operationId : Option String) (expected new : TransitionStage)
  | claimAdminUpdate (operationId : Option String)
  | claimResourceVerification (operationId : Option String)
  | resumeAfterAdminReconnect (operationId : Option String) (running : RunningAdmin)
  | markFailed (operationId : Option String) (code message : String) (resumeStage : TransitionStage)
  | retry (operationId : Option String)
  | cancel (operationId : Option String) (replacementInactive : Bool)
      (replacementClaimedAt : Option String)

/-- A call with the clock it reads and what goes wrong with the file. -/
structure Attempt where
  call : Call
  check : Reading
  stamp : Reading
  faults : Faults

def failureDetail (text : String) : Outcome Text :=
  match Text.ofString? text with
  | some t => .ok t
  | none => refuse "state_malformed" "recoverable failure requires code and message"

/-- `begin`: a validated operation replaces none that is active. -/
def beginOver (candidate : DurableRecord) (existing : Option DurableRecord) : Outcome Effect := do
  require (∀ r ∈ existing, r.stage.terminal = true) "transition_active"
    "another system-build transition is already in progress"
  return ⟨some candidate, .record candidate⟩

/-- What a call does, before the file is replaced. -/
def decision (a : Attempt) (file : FileContent) : Outcome Effect :=
  match a.call with
  | .begin candidate => do
    let candidate ← (parseTransitionRecord texts candidate).mapError .state
    let existing ← readRecord texts a.faults file
    beginOver candidate existing
  | .advance id expected new => do
    advance texts expected new (← recordLocked texts a.faults file id) a.stamp
  | .claim id expected new => do
    claim texts expected new (← recordLocked texts a.faults file id) a.check a.stamp
  | .claimAdminUpdate id => do
    claimAdminUpdate texts (← recordLocked texts a.faults file id) a.check a.stamp
  | .claimResourceVerification id => do
    claimResourceVerification texts (← recordLocked texts a.faults file id) a.check a.stamp
  | .resumeAfterAdminReconnect id running => do
    resumeAfterAdminReconnect texts running (← recordLocked texts a.faults file id) a.stamp
  | .markFailed id code message resumeStage => do
    let code ← failureDetail code
    let message ← failureDetail message
    markFailed texts code message resumeStage (← recordLocked texts a.faults file id) a.stamp
  | .retry id => do
    retry texts (← recordLocked texts a.faults file id) a.check a.stamp
  | .cancel id replacementInactive replacementClaimedAt => do
    match ← readRecord texts a.faults file with
    | none => keep .nothing
    | some r =>
      cancel texts replacementInactive replacementClaimedAt (← requireOperation id r) a.check a.stamp

/-- The answer of a call and the file behind it. -/
def perform (a : Attempt) (file : FileContent) : Outcome Answer × FileContent :=
  match decision texts a file with
  | .error e => (.error e, file)
  | .ok ⟨none, answer⟩ => (.ok answer, file)
  | .ok ⟨some r, answer⟩ =>
    match a.faults.write with
    | .none => (.ok answer, .json r.asDict)
    | .before message => (.error (.os message), file)
    | .after message => (.error (.os message), .json r.asDict)

/-- The file behind a call. -/
def next (file : FileContent) (a : Attempt) : FileContent := (perform texts a file).2

end SolarFlowEms.Admin.Transition
