import SolarFlowEms.Admin.SystemBuildId
import SolarFlowEms.Library.Document
import SolarFlowEms.Library.Fallible

/-!
# The record of a system-build transition

One operation that replaces the Admin, installs the EMS and checks its health is one record on
disk.  What defines the operation is fixed when it begins; its stage, its failure, its claims and
its stamps change.  A record is read by a parser that rejects what does not fit together, and
what is written is first read by the same parser.
-/

namespace SolarFlowEms.Admin.Transition

open Python Documents Fallible

/-! ### Stages and modes -/

inductive TransitionStage where
  | adminUpdatePending
  | adminReconnectPending
  | adminAligned
  | resourcesVerified
  | emsOperationPending
  | emsOperationRunning
  | healthcheckPending
  | completed
  | failedRecoverable
  | cancelled
deriving DecidableEq

namespace TransitionStage

def text : TransitionStage → String
  | adminUpdatePending => "admin_update_pending"
  | adminReconnectPending => "admin_reconnect_pending"
  | adminAligned => "admin_aligned"
  | resourcesVerified => "resources_verified"
  | emsOperationPending => "ems_operation_pending"
  | emsOperationRunning => "ems_operation_running"
  | healthcheckPending => "healthcheck_pending"
  | completed => "completed"
  | failedRecoverable => "failed_recoverable"
  | cancelled => "cancelled"

/-- `VALID_TRANSITION_STAGES`. -/
def all : List TransitionStage :=
  [adminUpdatePending, adminReconnectPending, adminAligned, resourcesVerified,
    emsOperationPending, emsOperationRunning, healthcheckPending, completed, failedRecoverable,
    cancelled]

def ofText? (s : String) : Option TransitionStage := all.find? fun stage => stage.text = s

@[simp] theorem ofText?_text (stage : TransitionStage) : ofText? stage.text = some stage := by
  cases stage <;> rfl

/-- A stage's text as it is read. -/
def asText (stage : TransitionStage) : Text where
  val := stage.text
  stripped := by cases stage <;> decide
  ne_empty := by cases stage <;> decide

/-- `TERMINAL_TRANSITION_STAGES`. -/
def terminal (stage : TransitionStage) : Bool := stage = completed || stage = cancelled

/-- `CANCELLABLE_TRANSITION_STAGES`. -/
def cancellable : TransitionStage → Bool
  | adminUpdatePending => true
  | adminAligned => true
  | resourcesVerified => true
  | emsOperationPending => true
  | failedRecoverable => true
  | _ => false

/-- `EXTERNALLY_OWNED_TRANSITION_STAGES`. -/
def externallyOwned (stage : TransitionStage) : Bool := stage = adminReconnectPending

/-- `_TRANSITION_EDGES`. -/
def edges : TransitionStage → List TransitionStage
  | adminUpdatePending => [adminReconnectPending, failedRecoverable]
  | adminReconnectPending => [adminAligned, failedRecoverable]
  | adminAligned => [resourcesVerified, failedRecoverable]
  | resourcesVerified => [emsOperationPending, failedRecoverable]
  | emsOperationPending => [emsOperationRunning, failedRecoverable]
  | emsOperationRunning => [healthcheckPending, failedRecoverable]
  | healthcheckPending => [completed, failedRecoverable]
  | failedRecoverable => []
  | completed => []
  | cancelled => []

/-- `_RECOVERY_STAGES_BY_FAILED_STAGE`. -/
def recoveryStages : TransitionStage → List TransitionStage
  | adminUpdatePending => [adminUpdatePending]
  | adminReconnectPending => [adminUpdatePending]
  | adminAligned => [adminAligned]
  | resourcesVerified => [resourcesVerified]
  | emsOperationPending => [emsOperationPending]
  | emsOperationRunning => [emsOperationPending]
  | healthcheckPending => [healthcheckPending, emsOperationPending]
  | _ => []

end TransitionStage

inductive TransitionMode where
  | automatedSetup
  | freshInstall
  | guidedUpgrade
  | alignExistingInstall
deriving DecidableEq

namespace TransitionMode

def text : TransitionMode → String
  | automatedSetup => "automated_setup"
  | freshInstall => "fresh_install"
  | guidedUpgrade => "guided_upgrade"
  | alignExistingInstall => "align_existing_install"

/-- `SUPPORTED_TRANSITION_MODES`. -/
def all : List TransitionMode :=
  [automatedSetup, freshInstall, guidedUpgrade, alignExistingInstall]

def ofText? (s : String) : Option TransitionMode := all.find? fun mode => mode.text = s

@[simp] theorem ofText?_text (mode : TransitionMode) : ofText? mode.text = some mode := by
  cases mode <;> rfl

/-- A mode's text as it is read. -/
def asText (mode : TransitionMode) : Text where
  val := mode.text
  stripped := by cases mode <;> decide
  ne_empty := by cases mode <;> decide

end TransitionMode

/-! ### Records -/

/-- An Admin build: an identifier that embeds its revision, an image and its digest. -/
structure AdminIdentity where
  buildId : ParsedSystemBuildId
  revision : Text
  image : Text
  digest : Text
  embeds : buildIdEmbedsRevision buildId revision.val = true
deriving DecidableEq

/-- `_REQUEST_FINGERPRINT_RE`. -/
def requestFingerprintPattern : Pattern :=
  Pattern.exactly "sha256:" * SystemBuildId.hexDigit ^ 64

/-- A development acknowledgement names the build it was given for, and no other does. -/
def acknowledgementFits (acknowledged : Bool) (tag : Option Text) (systemTag : Text) : Bool :=
  if acknowledged then tag = some systemTag else tag.isNone

/-- What defines which operation a record is: what no step of it changes. -/
structure Operation where
  operationId : Text
  mode : TransitionMode
  systemTag : Text
  admin : AdminIdentity
  emsImage : Text
  emsDigest : Text
  createdAt : Text
  resumePath : Option String
  nextStep : String
  adminAlignmentRequired : Option Bool
  requestFingerprint : Option Text
  developmentRiskAcknowledged : Bool
  developmentRiskAcknowledgedForTag : Option Text
  compatibilityMode : Option Text
  resourceStrategy : Option Text
  orchestratorOverride : Option AdminIdentity
  nextStep_ne : nextStep ≠ ""
  fingerprint : requestFingerprint.all (requestFingerprintPattern.fullmatch ·.val) = true
  acknowledged : acknowledgementFits developmentRiskAcknowledged
    developmentRiskAcknowledgedForTag systemTag = true
  overrides : orchestratorOverride ≠ some admin
deriving DecidableEq

/-- A recoverable failure, and the stage it may be retried from. -/
structure Recovery where
  failedStage : TransitionStage
  resumeStage : TransitionStage
  errorCode : Text
  errorMessage : Text
  allowed : resumeStage ∈ failedStage.recoveryStages
deriving DecidableEq

structure TransitionRecord extends Operation where
  stage : TransitionStage
  expiresAt : Text
  updatedAt : Text
  recovery : Option Recovery
  adminUpdateClaimedAt : Option Text
  resourcesClaimedAt : Option Text
deriving DecidableEq

/-- A failure is on record exactly at `failed_recoverable`. -/
def TransitionRecord.Consistent (r : TransitionRecord) : Prop :=
  r.recovery.isSome = true ↔ r.stage = .failedRecoverable

instance (r : TransitionRecord) : Decidable r.Consistent :=
  inferInstanceAs (Decidable (_ ↔ _))

/-- A record as the parser accepts it. -/
structure DurableRecord extends TransitionRecord where
  consistent : toTransitionRecord.Consistent
deriving DecidableEq

/-- `orchestrator_admin`: the Admin that runs the transition. -/
def Operation.orchestratorAdmin (op : Operation) : AdminIdentity :=
  op.orchestratorOverride.getD op.admin

/-! ### Writing -/

def textValue : Option Text → PyValue
  | none => .none
  | some t => .str t.val

def boolValue : Option Bool → PyValue
  | none => .none
  | some b => .bool b

def pathValue : Option String → PyValue
  | none => .none
  | some path => .str path

def AdminIdentity.asDict (admin : AdminIdentity) : PyValue :=
  .dict [("build_id", .str admin.buildId.value), ("revision", .str admin.revision.val),
    ("image", .str admin.image.val), ("digest", .str admin.digest.val)]

/-- `_orchestrator_override`. -/
def overrideValue : Option AdminIdentity → PyValue
  | none => .none
  | some admin => admin.asDict

def Operation.selectedEmsBuild (op : Operation) : PyValue :=
  .dict [("version", .str op.systemTag.val), ("image", .str op.emsImage.val),
    ("digest", .str op.emsDigest.val), ("build_id", .str op.admin.buildId.value),
    ("revision", .str op.admin.revision.val)]

def transitionSchemaVersion : ℤ := 2

def TransitionRecord.entries (r : TransitionRecord) : Entries :=
  [("state_version", .int transitionSchemaVersion),
    ("operation_id", .str r.operationId.val),
    ("mode", .str r.mode.text),
    ("stage", .str r.stage.text),
    ("system_tag", .str r.systemTag.val),
    ("build_id", .str r.admin.buildId.value),
    ("revision", .str r.admin.revision.val),
    ("admin_image", .str r.admin.image.val),
    ("admin_digest", .str r.admin.digest.val),
    ("ems_image", .str r.emsImage.val),
    ("ems_digest", .str r.emsDigest.val),
    ("created_at", .str r.createdAt.val),
    ("expires_at", .str r.expiresAt.val),
    ("resume_path", pathValue r.resumePath),
    ("next_step", .str r.nextStep),
    ("updated_at", .str r.updatedAt.val),
    ("failed_stage", textValue (r.recovery.map fun failure => failure.failedStage.asText)),
    ("resume_stage", textValue (r.recovery.map fun failure => failure.resumeStage.asText)),
    ("error_code", textValue (r.recovery.map Recovery.errorCode)),
    ("error_message", textValue (r.recovery.map Recovery.errorMessage)),
    ("admin_update_claimed_at", textValue r.adminUpdateClaimedAt),
    ("admin_alignment_required", boolValue r.adminAlignmentRequired),
    ("resources_claimed_at", textValue r.resourcesClaimedAt),
    ("request_fingerprint", textValue r.requestFingerprint),
    ("development_risk_acknowledged", .bool r.developmentRiskAcknowledged),
    ("development_risk_acknowledged_for_tag", textValue r.developmentRiskAcknowledgedForTag),
    ("compatibility_mode", textValue r.compatibilityMode),
    ("resource_strategy", textValue r.resourceStrategy),
    ("orchestrator_admin", overrideValue r.orchestratorOverride),
    ("selected_ems_build", r.selectedEmsBuild)]

def TransitionRecord.asDict (r : TransitionRecord) : PyValue := .dict r.entries

/-! ### Reading -/

/-- What the interpreter's library makes of values: `repr`, and the instant, in microseconds, an
ISO text names. -/
structure TransitionTexts where
  repr : PyValue → String
  parseIso : String → Option ℤ

structure TransitionStateError where
  reason : String
  message : String
deriving DecidableEq

abbrev Checked (α : Type) := Except TransitionStateError α

def malformed (message : String) : TransitionStateError := ⟨"state_malformed", message⟩

def tampered (message : String) : TransitionStateError := ⟨"state_tampered", message⟩

def demand (p : Prop) [Decidable p] (e : TransitionStateError) : Checked (PLift p) :=
  if h : p then .ok ⟨h⟩ else .error e

def textOf? : PyValue → Option Text
  | .str s => Text.ofString? s
  | _ => none

def ofOption {α : Type} (e : TransitionStateError) : Option α → Checked α
  | none => .error e
  | some a => .ok a

def requireTransitionStr (data : Entries) (key : String) : Checked Text :=
  ofOption (malformed ("transition field '" ++ key ++ "' is missing or invalid"))
    (textOf? (getValue data key))

def optionalTransitionStr (data : Entries) (key : String) : Checked (Option Text) :=
  match getValue data key with
  | .none => .ok none
  | value =>
    (ofOption (malformed ("transition field '" ++ key ++ "' is invalid")) (textOf? value)).map some

def requireBuildId (value : PyValue) (message : String) : Checked ParsedSystemBuildId :=
  (parseSystemBuildId value).mapError fun _ => malformed message

def orchestratorField (data : Entries) (key : String) : Checked Text :=
  ofOption (malformed ("transition orchestrator_admin field '" ++ key ++ "' is missing or invalid"))
    (textOf? (getValue data key))

/-- `_parse_orchestrator_admin`: the override, where it names another Admin than the selected. -/
def parseOrchestratorAdmin (raw : PyValue) (selected : AdminIdentity) :
    Checked {admin : Option AdminIdentity // admin ≠ some selected} :=
  match raw with
  | .none => .ok ⟨none, by simp⟩
  | .dict data => do
    let buildId ← orchestratorField data "build_id"
    let revision ← orchestratorField data "revision"
    let image ← orchestratorField data "image"
    let digest ← orchestratorField data "digest"
    let buildId ← requireBuildId (.str buildId.val) "transition orchestrator_admin build_id is invalid"
    let ⟨embeds⟩ ← demand (buildIdEmbedsRevision buildId revision.val = true)
      (tampered "transition orchestrator_admin build_id does not match its revision")
    let admin : AdminIdentity := ⟨buildId, revision, image, digest, embeds⟩
    return if h : admin = selected then ⟨none, by simp⟩ else ⟨some admin, by simp [h]⟩
  | _ => .error (malformed "transition orchestrator_admin is not an object")

def optionalBool (value : PyValue) (message : String) : Checked (Option Bool) :=
  match value with
  | .none => .ok none
  | .bool b => .ok (some b)
  | _ => .error (malformed message)

def requireBool (value : PyValue) (message : String) : Checked Bool :=
  match value with
  | .bool b => .ok b
  | _ => .error (malformed message)

def requireAcknowledgement (acknowledged : Bool) (tag : Option Text) (systemTag : Text) :
    Checked (PLift (acknowledgementFits acknowledged tag systemTag = true)) :=
  demand _ (tampered <|
    if acknowledged then "transition development acknowledgement targets another System Build"
    else "transition has a development acknowledgement tag without acknowledgement")

/-- A failure that fits a stage: there is one exactly at `failed_recoverable`. -/
abbrev RecoveryAt (stage : TransitionStage) : Type :=
  {recovery : Option Recovery // recovery.isSome = true ↔ stage = .failedRecoverable}

/-- The recovery path and the details of a failure, which no other stage may have. -/
def parseRecovery (stage : TransitionStage)
    (failedStage resumeStage errorCode errorMessage : Option Text) : Checked (RecoveryAt stage) :=
  if h : stage = .failedRecoverable then
    match failedStage.bind (TransitionStage.ofText? ·.val),
        resumeStage.bind (TransitionStage.ofText? ·.val) with
    | some failedStage, some resumeStage =>
      if allowed : resumeStage ∈ failedStage.recoveryStages then
        match errorCode, errorMessage with
        | some code, some message =>
          .ok ⟨some ⟨failedStage, resumeStage, code, message, allowed⟩, by simp [h]⟩
        | _, _ => .error (malformed "recoverable transition is missing failure details")
      else .error (tampered "recoverable transition has an invalid recovery path")
    | _, _ => .error (tampered "recoverable transition has an invalid recovery path")
  else if failedStage.isSome || resumeStage.isSome || errorCode.isSome || errorMessage.isSome then
    .error (tampered "non-failed transition contains recovery metadata")
  else .ok ⟨none, by simp [h]⟩

def nextStepResumeEms : String := "resume_ems_upgrade"

theorem nextStepResumeEms_ne : nextStepResumeEms ≠ "" := by decide

def pathOf : PyValue → Option String
  | .str path => some path
  | _ => none

def nextStepOf : PyValue → {step : String // step ≠ ""}
  | .str step => if h : step ≠ "" then ⟨step, h⟩ else ⟨nextStepResumeEms, nextStepResumeEms_ne⟩
  | _ => ⟨nextStepResumeEms, nextStepResumeEms_ne⟩

def parseTransitionRecord (texts : TransitionTexts) : PyValue → Checked DurableRecord
  | .dict data => do
    let version := getValue data "state_version"
    let _ ← demand (version.eqInt transitionSchemaVersion = true)
      ⟨"unsupported_state_version", "unsupported transition state_version: " ++ texts.repr version⟩
    let operationId ← requireTransitionStr data "operation_id"
    let modeText ← requireTransitionStr data "mode"
    let stageText ← requireTransitionStr data "stage"
    let systemTag ← requireTransitionStr data "system_tag"
    let revision ← requireTransitionStr data "revision"
    let image ← requireTransitionStr data "admin_image"
    let digest ← requireTransitionStr data "admin_digest"
    let emsImage ← requireTransitionStr data "ems_image"
    let emsDigest ← requireTransitionStr data "ems_digest"
    let createdAt ← requireTransitionStr data "created_at"
    let expiresAt ← requireTransitionStr data "expires_at"
    let buildId ← requireBuildId (getValue data "build_id") "transition field 'build_id' is invalid"
    let mode ← ofOption ⟨"unsupported_mode",
      "unsupported transition mode: " ++ texts.repr (.str modeText.val)⟩
      (TransitionMode.ofText? modeText.val)
    let stage ← ofOption ⟨"invalid_stage",
      "unsupported transition stage: " ++ texts.repr (.str stageText.val)⟩
      (TransitionStage.ofText? stageText.val)
    let ⟨embeds⟩ ← demand (buildIdEmbedsRevision buildId revision.val = true)
      (tampered "transition build_id does not match its revision")
    let admin : AdminIdentity := ⟨buildId, revision, image, digest, embeds⟩
    let ⟨orchestratorOverride, overrides⟩ ←
      parseOrchestratorAdmin (getValue data "orchestrator_admin") admin
    let compatibilityMode ← optionalTransitionStr data "compatibility_mode"
    let resourceStrategy ← optionalTransitionStr data "resource_strategy"
    let failedStage ← optionalTransitionStr data "failed_stage"
    let resumeStage ← optionalTransitionStr data "resume_stage"
    let errorCode ← optionalTransitionStr data "error_code"
    let errorMessage ← optionalTransitionStr data "error_message"
    let adminUpdateClaimedAt ← optionalTransitionStr data "admin_update_claimed_at"
    let adminAlignmentRequired ← optionalBool (getValue data "admin_alignment_required")
      "transition Admin alignment requirement is invalid"
    let resourcesClaimedAt ← optionalTransitionStr data "resources_claimed_at"
    let requestFingerprint ← optionalTransitionStr data "request_fingerprint"
    let developmentRiskAcknowledged ←
      requireBool ((dictGet data "development_risk_acknowledged").getD (.bool false))
        "transition development acknowledgement is invalid"
    let developmentRiskAcknowledgedForTag ←
      optionalTransitionStr data "development_risk_acknowledged_for_tag"
    let ⟨acknowledged⟩ ← requireAcknowledgement developmentRiskAcknowledged
      developmentRiskAcknowledgedForTag systemTag
    let ⟨fingerprint⟩ ←
      demand (requestFingerprint.all (requestFingerprintPattern.fullmatch ·.val) = true)
        (malformed "transition request_fingerprint is invalid")
    let ⟨recovery, consistent⟩ ← parseRecovery stage failedStage resumeStage errorCode errorMessage
    let updatedAt ← optionalTransitionStr data "updated_at"
    let nextStep := nextStepOf (getValue data "next_step")
    return {
      operationId, mode, systemTag, admin, emsImage, emsDigest, createdAt
      resumePath := pathOf (getValue data "resume_path")
      nextStep := nextStep.val
      adminAlignmentRequired, requestFingerprint, developmentRiskAcknowledged
      developmentRiskAcknowledgedForTag, compatibilityMode, resourceStrategy
      orchestratorOverride
      nextStep_ne := nextStep.property
      fingerprint, acknowledged, overrides, stage, expiresAt
      updatedAt := updatedAt.getD createdAt
      recovery, adminUpdateClaimedAt, resourcesClaimedAt, consistent }
  | _ => .error (malformed "transition state is not a JSON object")

/-! ### What is written is read -/

theorem demand_of {p : Prop} [Decidable p] (h : p) (e : TransitionStateError) :
    demand p e = .ok ⟨h⟩ := dif_pos h

variable {α : Type} {a : α} {data : Entries} {key : String} {t : Text} {r : TransitionRecord}

theorem ofOption_of {found : Option α} (h : found = some a)
    (e : TransitionStateError) : ofOption e found = .ok a := by
  rw [h]
  rfl

@[simp] theorem textOf?_str (t : Text) : textOf? (.str t.val) = some t := Text.ofString?_val t

theorem requireTransitionStr_of
    (h : getValue data key = .str t.val) : requireTransitionStr data key = .ok t := by
  rw [requireTransitionStr, h]
  exact ofOption_of (textOf?_str t) _

theorem optionalTransitionStr_of (t : Option Text)
    (h : getValue data key = textValue t) : optionalTransitionStr data key = .ok t := by
  rw [optionalTransitionStr, h]
  cases t with
  | none => rfl
  | some t =>
    simp only [textValue, textOf?_str]
    rfl

theorem orchestratorField_of
    (h : getValue data key = .str t.val) : orchestratorField data key = .ok t := by
  rw [orchestratorField, h]
  exact ofOption_of (textOf?_str t) _

theorem requireBuildId_value (id : ParsedSystemBuildId) (message : String) :
    requireBuildId (.str id.value) message = .ok id := by
  rw [requireBuildId, parseSystemBuildId_value]
  rfl

theorem optionalBool_value (b : Option Bool) (message : String) :
    optionalBool (boolValue b) message = .ok b := by
  cases b <;> rfl

theorem pathOf_value (path : Option String) : pathOf (pathValue path) = path := by
  cases path <;> rfl

theorem nextStepOf_str {step : String} (h : step ≠ "") : nextStepOf (.str step) = ⟨step, h⟩ :=
  dif_pos h

theorem parseOrchestratorAdmin_value {admin : Option AdminIdentity} {selected : AdminIdentity}
    (h : admin ≠ some selected) :
    parseOrchestratorAdmin (overrideValue admin) selected = .ok ⟨admin, h⟩ := by
  cases admin with
  | none => rfl
  | some admin =>
    have hne : admin ≠ selected := fun heq => h (congrArg some heq)
    refine bind_eq_ok.mpr ⟨admin.buildId.asText, orchestratorField_of rfl, ?_⟩
    refine bind_eq_ok.mpr ⟨admin.revision, orchestratorField_of rfl, ?_⟩
    refine bind_eq_ok.mpr ⟨admin.image, orchestratorField_of rfl, ?_⟩
    refine bind_eq_ok.mpr ⟨admin.digest, orchestratorField_of rfl, ?_⟩
    refine bind_eq_ok.mpr ⟨admin.buildId, requireBuildId_value admin.buildId _, ?_⟩
    refine bind_eq_ok.mpr ⟨_, demand_of admin.embeds _, ?_⟩
    exact congrArg Except.ok (dif_neg hne)

/-- The failure a record is written with, as it is read. -/
def TransitionRecord.readRecovery (r : TransitionRecord) : Checked (RecoveryAt r.stage) :=
  parseRecovery r.stage (r.recovery.map fun failure => failure.failedStage.asText)
    (r.recovery.map fun failure => failure.resumeStage.asText)
    (r.recovery.map Recovery.errorCode) (r.recovery.map Recovery.errorMessage)

theorem TransitionRecord.readRecovery_of (h : r.Consistent) :
    r.readRecovery = .ok ⟨r.recovery, h⟩ := by
  obtain ⟨op, stage, expiresAt, updatedAt, recovery, adminClaim, resourcesClaim⟩ := r
  by_cases hstage : stage = .failedRecoverable
  · cases recovery with
    | none => cases h.mpr hstage
    | some failure =>
      subst hstage
      simp [readRecovery, parseRecovery, TransitionStage.asText, failure.allowed]
  · cases recovery with
    | none => simp [readRecovery, parseRecovery, hstage]
    | some failure => exact absurd (h.mp rfl) hstage

theorem TransitionRecord.readRecovery_error (h : ¬ r.Consistent) :
    ∃ e, r.readRecovery = .error e := by
  obtain ⟨op, stage, expiresAt, updatedAt, recovery, adminClaim, resourcesClaim⟩ := r
  by_cases hstage : stage = .failedRecoverable
  · cases recovery with
    | none =>
      subst hstage
      exact ⟨_, rfl⟩
    | some failure => exact absurd ⟨fun _ => hstage, fun _ => rfl⟩ h
  · cases recovery with
    | none => exact absurd ⟨fun hsome => (by cases hsome), fun heq => absurd heq hstage⟩ h
    | some failure =>
      refine ⟨tampered "non-failed transition contains recovery metadata", ?_⟩
      simp [readRecovery, parseRecovery, hstage]

theorem then_of_eq_ok {β : Type} {x : Checked α} (h : x = .ok a) {f : α → Checked β}
    {y : Checked β} (hy : f a = y) : x >>= f = y := by
  rw [h]
  exact hy

/-- **A record is read as it was written**, with the failure it is accepted with. -/
theorem parseTransitionRecord_asDict (texts : TransitionTexts) (r : TransitionRecord) :
    parseTransitionRecord texts r.asDict = (do
      let recovery ← r.readRecovery
      return ⟨{ r with recovery := recovery.val }, recovery.property⟩) := by
  apply then_of_eq_ok (demand_of rfl _)
  apply then_of_eq_ok (requireTransitionStr_of (t := r.operationId) rfl)
  apply then_of_eq_ok (requireTransitionStr_of (t := r.mode.asText) rfl)
  apply then_of_eq_ok (requireTransitionStr_of (t := r.stage.asText) rfl)
  apply then_of_eq_ok (requireTransitionStr_of (t := r.systemTag) rfl)
  apply then_of_eq_ok (requireTransitionStr_of (t := r.admin.revision) rfl)
  apply then_of_eq_ok (requireTransitionStr_of (t := r.admin.image) rfl)
  apply then_of_eq_ok (requireTransitionStr_of (t := r.admin.digest) rfl)
  apply then_of_eq_ok (requireTransitionStr_of (t := r.emsImage) rfl)
  apply then_of_eq_ok (requireTransitionStr_of (t := r.emsDigest) rfl)
  apply then_of_eq_ok (requireTransitionStr_of (t := r.createdAt) rfl)
  apply then_of_eq_ok (requireTransitionStr_of (t := r.expiresAt) rfl)
  apply then_of_eq_ok (requireBuildId_value r.admin.buildId _)
  apply then_of_eq_ok (ofOption_of (TransitionMode.ofText?_text r.mode) _)
  apply then_of_eq_ok (ofOption_of (TransitionStage.ofText?_text r.stage) _)
  apply then_of_eq_ok (demand_of r.admin.embeds _)
  apply then_of_eq_ok (parseOrchestratorAdmin_value r.overrides)
  apply then_of_eq_ok (optionalTransitionStr_of r.compatibilityMode rfl)
  apply then_of_eq_ok (optionalTransitionStr_of r.resourceStrategy rfl)
  apply then_of_eq_ok (optionalTransitionStr_of
    (r.recovery.map fun failure => failure.failedStage.asText) rfl)
  apply then_of_eq_ok (optionalTransitionStr_of
    (r.recovery.map fun failure => failure.resumeStage.asText) rfl)
  apply then_of_eq_ok (optionalTransitionStr_of (r.recovery.map Recovery.errorCode) rfl)
  apply then_of_eq_ok (optionalTransitionStr_of (r.recovery.map Recovery.errorMessage) rfl)
  apply then_of_eq_ok (optionalTransitionStr_of r.adminUpdateClaimedAt rfl)
  apply then_of_eq_ok (optionalBool_value r.adminAlignmentRequired _)
  apply then_of_eq_ok (optionalTransitionStr_of r.resourcesClaimedAt rfl)
  apply then_of_eq_ok (optionalTransitionStr_of r.requestFingerprint rfl)
  apply then_of_eq_ok (a := r.developmentRiskAcknowledged) rfl
  apply then_of_eq_ok (optionalTransitionStr_of r.developmentRiskAcknowledgedForTag rfl)
  apply then_of_eq_ok (demand_of r.acknowledged _)
  apply then_of_eq_ok (demand_of r.fingerprint _)
  apply congrArg (r.readRecovery >>= ·)
  funext recovery
  apply then_of_eq_ok (optionalTransitionStr_of (some r.updatedAt) rfl)
  have hpath : pathOf (getValue r.entries "resume_path") = r.resumePath := pathOf_value r.resumePath
  have hstep : nextStepOf (getValue r.entries "next_step") = ⟨r.nextStep, r.nextStep_ne⟩ :=
    nextStepOf_str r.nextStep_ne
  simp only [hpath, hstep]
  rfl

end SolarFlowEms.Admin.Transition
