import SolarFlowEms.Admin.SystemBuild
import SolarFlowEms.Admin.TransitionIdentity
import SolarFlowEms.Library.Program

/-!
# The calls that carry a transition on

The service chains reads and writes of the pending transition with checks of the build, of what
runs and of the operator's acknowledgement.  Every read and every write is an access of its own,
with its own readings of the clock and its own faults; what the checks read from outside the store
(the resolver, the running images, the known-good record, the launcher) is given with the call.

The service turns what the store refuses into errors of its own.  Other exceptions pass through.
-/

namespace SolarFlowEms.Admin.Alignment

open Python Documents Transition Program

inductive Raised where
  | alignment (error : SystemAlignmentError)
  | store (failure : StoreFailure)
  | other (message : String)

abbrev Service := Program FileContent Raised

abbrev StoreCall := Program FileContent StoreFailure

/-- One access to the store: the clock it reads and what goes wrong with the file. -/
structure Access where
  check : Reading
  stamp : Reading
  faults : Faults

def Access.attempt (a : Access) (call : Call) : Attempt := ⟨call, a.check, a.stamp, a.faults⟩

def refuse {α : Type} (code message : String) : Service α := raise (.alignment ⟨code, message⟩)

def demand (p : Prop) [Decidable p] (code message : String) : Service Unit :=
  if p then pure () else refuse code message

/-- What comes from outside the store, with the exceptions it raises. -/
def outside {α : Type} (x : Except String α) : Service α := ofExcept (x.mapError .other)

/-- `_raise_store`: what the store refuses, as an error of the service. -/
def raiseStore : StoreFailure → Raised
  | .state e => .alignment ⟨e.reason, e.message⟩
  | e => .store e

def reporting {α : Type} (x : StoreCall α) : Service α := translating raiseStore x

variable (texts : TransitionTexts)

/-! ### Accesses -/

def read (a : Access) : StoreCall (Option DurableRecord) := fun file =>
  (Transition.readRecord texts a.faults file, file)

def storeCall (a : Access) (call : Call) : StoreCall Answer := Transition.perform texts (a.attempt call)

/-- A call of the store that answers with a record. -/
def recordCall (a : Access) (call : Call) : StoreCall DurableRecord := do
  match ← storeCall texts a call with
  | .record r => pure r
  | _ => raise (.os "the call answers with no record")

def assertFresh (a : Access) (operationId : Option String) : StoreCall DurableRecord := fun file =>
  (do
    let r ← recordLocked texts a.faults file operationId
    requireMutable r.toTransitionRecord
    requireFresh texts r.toTransitionRecord a.check
    return r, file)

def currentRecord (a : Access) (operationId : Option String) : Service DurableRecord := do
  match ← reporting (read texts a) with
  | none => refuse "no_transition" "there is no system-build transition"
  | some r =>
    demand (∀ id ∈ operationId, r.operationId.val = id) "operation_mismatch"
      "the transition operation id does not match"
    pure r

/-! ### Builds -/

def recordMatchesBuild (r : TransitionRecord) (build : SystemBuild) : Bool :=
  r.systemTag.val = build.canonicalTag && r.admin.buildId.value = build.buildId &&
    r.admin.revision.val = build.revision && r.admin.image.val = build.adminImage &&
    r.admin.digest.val = build.adminDigest && r.emsImage.val = build.emsImage &&
    r.emsDigest.val = build.emsDigest

def buildFromRecord (r : TransitionRecord) : SystemBuild where
  canonicalTag := r.systemTag.val
  revision := r.admin.revision.val
  buildId := r.admin.buildId.value
  adminImage := r.admin.image.val
  adminDigest := r.admin.digest.val
  emsImage := r.emsImage.val
  emsDigest := r.emsDigest.val

def requireExplicitDevelopmentAcknowledgement (build : SystemBuild) (acknowledged : Bool) :
    Service Unit :=
  demand (build.development = true → acknowledged = true) "acknowledgement_required"
    "Development System Builds require explicit risk acknowledgement"

/-- A development build that was acknowledged under its own tag, or no development build. -/
def storedAcknowledgement (r : TransitionRecord) (build : SystemBuild) : Bool :=
  !build.development || (r.developmentRiskAcknowledged &&
    r.developmentRiskAcknowledgedForTag.map Text.val = some r.systemTag.val &&
    r.systemTag.val = build.canonicalTag)

def requireStoredDevelopmentAcknowledgement (r : TransitionRecord) (build : SystemBuild) :
    Service Unit :=
  demand (storedAcknowledgement r build = true) "acknowledgement_required"
    "Development System Build acknowledgement is missing or mismatched"

/-- `_resolved_transition_build`, from what the resolver makes of the record's tag. -/
def resolvedTransitionBuild (r : TransitionRecord) (resolved : Except String SystemBuild) :
    Service SystemBuild := do
  let build ← outside resolved
  demand (recordMatchesBuild r build = true) "transition_context_mismatch"
    "the active transition no longer matches its resolved System Build"
  pure build

/-! ### The EMS that runs -/

def emsIdentityMatchesTransition (ems : ImageIdentity) (r : TransitionRecord) : Bool :=
  ems.digest.getD "" ≠ "" && ems.digest = some r.emsDigest.val &&
    ems.buildId = some r.admin.buildId.value && ems.revision = some r.admin.revision.val &&
    ems.channel = some (classifyChannel r.systemTag.val).text &&
    ems.releaseTag = some r.systemTag.val

inductive IdentityState where
  | agrees
  | mismatch
  | unverifiable
deriving DecidableEq

def runningEmsIdentityState (ems : Except String ImageIdentity) (r : TransitionRecord) :
    IdentityState :=
  match ems with
  | .error _ => .unverifiable
  | .ok ems =>
    if [ems.digest, ems.revision, ems.buildId, ems.channel, ems.releaseTag].any unreadIdentity then
      .unverifiable
    else if emsIdentityMatchesTransition ems r then .agrees
    else .mismatch

/-! ### The known-good build -/

def knownGoodMatchesBuild (knownGood : Entries) (build : SystemBuild) : Bool :=
  (getValue knownGood "build_id").eqStr build.buildId &&
    (getValue knownGood "revision").eqStr build.revision &&
    (getValue knownGood "ems_image").eqStr build.emsImage &&
    (getValue knownGood "ems_digest").eqStr build.emsDigest &&
    (getValue knownGood "system_tag").eqStr build.canonicalTag

/-- `_known_good_matches`: that of the selected build, run by the same Admin. -/
def knownGoodMatches (knownGood : PyValue) (r : TransitionRecord) : Bool :=
  match knownGood with
  | .dict data =>
    (getValue data "admin_digest").eqStr r.orchestratorAdmin.digest.val &&
      knownGoodMatchesBuild data (buildFromRecord r)
  | _ => false

/-- Whether a value is what was read of an identity. -/
def valueIs (value : PyValue) (identity : Option String) : Bool :=
  match identity with
  | some s => value.eqStr s
  | none => value.isNone

/-- The tag of an identity and its channel are those of a value: only of a text, or of none. -/
def taggedAs (ems : ImageIdentity) (tag : PyValue) : Bool :=
  match tag with
  | .str tag => ems.channel = some (classifyChannel tag).text && ems.releaseTag = some tag
  | .none => ems.channel = some (classifyChannel "").text && ems.releaseTag = none
  | _ => false

def emsIdentityMatchesKnownGood (ems : ImageIdentity) (knownGood : Entries) : Bool :=
  ems.digest.getD "" ≠ "" && valueIs (getValue knownGood "ems_digest") ems.digest &&
    valueIs (getValue knownGood "build_id") ems.buildId &&
    valueIs (getValue knownGood "revision") ems.revision &&
    taggedAs ems (getValue knownGood "system_tag")

/-! ### The new record -/

/-- `DEFAULT_TRANSITION_TTL_SECONDS`. -/
def transitionTtlSeconds : ℕ := 3600

/-- What a transition is begun with. -/
structure Begun where
  operationId : Text
  mode : TransitionMode
  build : SystemBuild
  stage : TransitionStage
  adminAlignmentRequired : Bool
  orchestratorAdmin : PyValue
  requestFingerprint : Option String
  acknowledged : Bool

/-- The candidate of `make_transition_record`, with its stamps. -/
def Begun.candidate (begun : Begun) (createdAt expiresAt : Text) : Entries :=
  [("state_version", .int transitionSchemaVersion),
    ("operation_id", .str begun.operationId.val),
    ("mode", .str begun.mode.text),
    ("stage", .str begun.stage.text),
    ("system_tag", .str begun.build.canonicalTag),
    ("build_id", .str begun.build.buildId),
    ("revision", .str begun.build.revision),
    ("admin_image", .str begun.build.adminImage),
    ("admin_digest", .str begun.build.adminDigest),
    ("ems_image", .str begun.build.emsImage),
    ("ems_digest", .str begun.build.emsDigest),
    ("created_at", .str createdAt.val),
    ("expires_at", .str expiresAt.val),
    ("resume_path", .none),
    ("next_step", .str nextStepResumeEms),
    ("updated_at", .str createdAt.val),
    ("failed_stage", .none),
    ("resume_stage", .none),
    ("error_code", .none),
    ("error_message", .none),
    ("admin_update_claimed_at", .none),
    ("admin_alignment_required", .bool begun.adminAlignmentRequired),
    ("resources_claimed_at", .none),
    ("request_fingerprint", pathValue begun.requestFingerprint),
    ("development_risk_acknowledged", .bool begun.acknowledged),
    ("development_risk_acknowledged_for_tag",
      if begun.acknowledged then .str begun.build.canonicalTag else .none),
    ("compatibility_mode", .str (systemBuildCompatibility begun.build).text),
    ("resource_strategy", .str (resourceStrategy (systemBuildCompatibility begun.build))),
    ("orchestrator_admin", begun.orchestratorAdmin)]

/-- The deadline of a transition that begins now, where the calendar has it. -/
def firstDeadline (now : Reading) : Transition.Outcome Text :=
  match utcOf? (now.micros + transitionTtlSeconds * microsPerSecond) with
  | none => .error .overflow
  | some deadline => .ok (stampText deadline)

def makeTransitionRecord (begun : Begun) (now : Reading) : Transition.Outcome DurableRecord := do
  let expiresAt ← firstDeadline now
  (parseTransitionRecord texts (.dict (begun.candidate now.stamp expiresAt))).mapError .state

/-- `_orchestrator_admin_identity`: the Admin that runs, where the build keeps it. -/
def orchestratorAdminIdentity (build : SystemBuild) (running : ImageIdentity) : PyValue :=
  if keepsCurrentAdmin build then
    .dict [("build_id", pathValue running.buildId), ("revision", pathValue running.revision),
      ("image", pathValue running.imageRef), ("digest", pathValue running.digest)]
  else .none

/-! ### Launching a replacement -/

/-- What a launch meets: its accesses, and the text of the exception the launcher raises. -/
structure Launch where
  advance : Access
  stageRead : Access
  launcher : Option String
  markFailed : Access

/-- `_raise_commit_failure`. -/
def commitFailure : Raised → Raised
  | .store (.state e) => .alignment ⟨e.reason, e.message⟩
  | .store (.os message) => .alignment ⟨"transition_state_write_failed",
      "the transition state could not be written: " ++ message⟩
  | e => e

/-- A call of the store whose refusals are passed over. -/
def passing {α : Type} (x : StoreCall α) : Service Unit :=
  catching (do let _ ← translating .store x; pure ()) fun
    | .store (.state _) => pure ()
    | e => raise e

/-- `str(exc) or default`, and `value or default` of a text that may be missing. -/
def orDefault (text : Option String) (default : String) : String :=
  if text.getD "" = "" then default else text.getD ""

/-- The stage an `advance` that raised has left, or what it raised. -/
def afterFailedAdvance (launch : Launch) (record : DurableRecord) (e : Raised) :
    Service DurableRecord := fun file =>
  match stageCommitOutcome (Transition.readRecord texts launch.stageRead.faults file) record
      .adminUpdatePending .adminReconnectPending with
  | (.committed, some durable) => (.ok durable, file)
  | (.notCommitted, _) => (.error (commitFailure e), file)
  | _ => (.error (.alignment stageCommitUnprovable), file)

def launchFailure (text : String) : SystemAlignmentError where
  code := "admin_update_launch_failed"
  message := "Admin update could not be launched: " ++ text

/-- The launch behind the wait, and its failure on record. -/
def launchReplacement (launch : Launch) (record : DurableRecord) (decision : Option String)
    (waiting : DurableRecord) : Service AlignmentResult :=
  match launch.launcher with
  | none => pure (.started record.operationId waiting.stage decision)
  | some text => do
    passing (recordCall texts launch.markFailed
      (.markFailed (some record.operationId.val) "admin_update_launch_failed"
        (orDefault (some text) "Admin update could not be launched") .adminUpdatePending))
    raise (.alignment (launchFailure text))

def commitReconnectAndLaunch (launch : Launch) (record : DurableRecord)
    (decision : Option String) : Service AlignmentResult := do
  let waiting ← catching
    (translating .store (recordCall texts launch.advance
      (.advance (some record.operationId.val) .adminUpdatePending .adminReconnectPending)))
    (afterFailedAdvance texts launch record)
  launchReplacement texts launch record decision waiting

/-- The answer of a start that is not to launch, from the record as it is read under the claim. -/
def startAnswerAt (claim : DispatchClaim) (authority : Access) (record : DurableRecord) :
    Service (Option AlignmentResult) := fun file =>
  ((startAnswer claim (Transition.readRecord texts authority.faults file) record).mapError .alignment, file)

/-- `_start_admin_replacement`, inside its dispatch claim. -/
def startAdminReplacement (claim : DispatchClaim) (authority : Access) (launch : Launch)
    (record : DurableRecord) (decision : Option String) : Service AlignmentResult := do
  match ← startAnswerAt texts claim authority record with
  | some answer => pure answer
  | none => commitReconnectAndLaunch texts launch record decision

/-! ### Starting -/

/-- What a start meets once its build is resolved. -/
structure Start where
  existing : Access
  runningAdmin : Except String ImageIdentity
  embedded : Option Bool
  persistentRef : String
  operationId : Text
  created : Reading
  begin : Access
  commitRead : Access
  claim : DispatchClaim
  authority : Access
  launch : Launch

/-- Whether an existing transition is the one that is asked for. -/
def isRequested (r : TransitionRecord) (mode : TransitionMode) (build : SystemBuild) : Bool :=
  r.mode = mode && recordMatchesBuild r build

/-- The answer to a start that finds a transition under way. -/
def reuse (start : Start) (existing : DurableRecord) (build : SystemBuild) (mode : TransitionMode)
    (requestFingerprint : Option String) : Service AlignmentResult := do
  demand (isRequested existing.toTransitionRecord mode build = true) "transition_active"
    "another system-build transition is already in progress"
  demand (existing.requestFingerprint.map Text.val = requestFingerprint)
    "transition_context_mismatch"
    "the resumed operation options differ from the prepared transition"
  if existing.stage = .adminUpdatePending then
    startAdminReplacement texts start.claim start.authority start.launch existing none
  else pure (reconnecting existing)

/-- The commit of a record whose `begin` raised, or what it raised. -/
def afterFailedBegin (start : Start) (record : DurableRecord) (e : Raised) : Service Unit := fun file =>
  match commitOutcome (Transition.readRecord texts start.commitRead.faults file) record with
  | .committed => (.ok (), file)
  | .notCommitted => (.error (commitFailure e), file)
  | .unprovable => (.error (.alignment ⟨"transition_commit_unprovable",
      "the System Build transition state could not be read back, so " ++
      "it is unknown whether this operation was started; check the " ++
      "Admin data directory before retrying"⟩), file)

/-- The commit of a new record. -/
def commitBegin (start : Start) (record : DurableRecord) : Service Unit :=
  catching (do
    let _ ← translating .store (storeCall texts start.begin (.begin record.asDict))
    pure ()) (afterFailedBegin texts start record)

def alignmentFor (start : Start) (build : SystemBuild) (running : ImageIdentity) : Alignment :=
  effectiveAlignment (decideAlignment running build start.persistentRef)
    (embeddedResourcesMismatch start.embedded build running) build

/-- What a transition is begun with, for an Admin that has to be aligned so. -/
def beginning (start : Start) (build : SystemBuild) (mode : TransitionMode)
    (requestFingerprint : Option String) (acknowledged : Bool) (running : ImageIdentity)
    (alignment : Alignment) : Begun where
  operationId := start.operationId
  mode
  build
  stage := if alignment = .aligned then .adminAligned else .adminUpdatePending
  adminAlignmentRequired := alignment ≠ .aligned
  orchestratorAdmin := orchestratorAdminIdentity build running
  requestFingerprint
  acknowledged := build.development && acknowledged

/-- What follows the commit of a new record. -/
def proceed (start : Start) (alignment : Alignment) (record : DurableRecord) :
    Service AlignmentResult :=
  if alignment = .aligned then pure (.transition record none)
  else
    startAdminReplacement texts start.claim start.authority start.launch record
      (some alignment.text)

/-- The start of a new transition. -/
def enter (start : Start) (build : SystemBuild) (mode : TransitionMode)
    (requestFingerprint : Option String) (acknowledged : Bool) : Service AlignmentResult := do
  let running ← outside start.runningAdmin
  demand (decideAlignment running build start.persistentRef ≠ .systemBuildMismatch)
    "system_build_mismatch" "running Admin cannot be aligned to this build"
  let alignment := alignmentFor start build running
  let record ← ofExcept ((makeTransitionRecord texts
    (beginning start build mode requestFingerprint acknowledged running alignment)
    start.created).mapError .store)
  commitBegin texts start record
  proceed texts start alignment record

/-- `_start_resolved`, of a caller that has nothing to do before the launch. -/
def startResolved (start : Start) (build : SystemBuild) (mode : TransitionMode)
    (requestFingerprint : Option String) (acknowledged : Bool) : Service AlignmentResult := do
  requireExplicitDevelopmentAcknowledgement build acknowledged
  match ← reporting (read texts start.existing) with
  | some existing =>
    if existing.stage.terminal then
      enter texts start build mode requestFingerprint acknowledged
    else reuse texts start existing build mode requestFingerprint
  | none => enter texts start build mode requestFingerprint acknowledged

/-! ### Returning to the build that runs -/

/-- `SETUP_TRANSITION_MODES`. -/
def setupMode (mode : TransitionMode) : Bool :=
  mode = .freshInstall || mode = .automatedSetup

structure Return where
  operationId : String
  confirm : Bool
  acknowledged : Bool
  current : Access
  knownGood : PyValue
  runningEms : Except String ImageIdentity
  resolve : PyValue → Except String SystemBuild
  cancel : Access
  start : Start

/-- The known-good record and its tag, where it has them. -/
def knownGoodTarget (knownGood : PyValue) : Service (Entries × PyValue) :=
  match knownGood with
  | .dict data =>
    match parseSystemBuildId (getValue data "build_id"), dictGet data "system_tag" with
    | .ok _, some tag => pure (data, tag)
    | _, _ => refuse "known_good_invalid" "the known-good System Build is invalid"
  | _ => refuse "known_good_unavailable" "there is no known-good System Build"

def inspectedEms (ems : Except String ImageIdentity) : Service ImageIdentity :=
  match ems with
  | .ok ems => pure ems
  | .error _ => refuse "running_ems_unverifiable" "the running EMS build could not be inspected"

/-- What is checked before the transition that failed is given up: the build that is returned to. -/
def returnTarget (call : Return) : Service SystemBuild := do
  demand (call.confirm = true) "confirmation_required" "returning Admin requires confirmation"
  let current ← currentRecord texts call.current (some call.operationId)
  demand (setupMode current.mode = false) "setup_return_unsupported"
    ("This System Build operation belongs to Guided Setup. Retry it, " ++
      "or use Discard setup to stop it and remove its temporary files.")
  demand (current.stage = .failedRecoverable) "invalid_transition"
    "Admin can return to the running EMS build only after a recoverable failure"
  let (knownGood, targetTag) ← knownGoodTarget call.knownGood
  let runningEms ← inspectedEms call.runningEms
  demand (emsIdentityMatchesTransition runningEms current.toTransitionRecord = false)
    "admin_already_matches_running_ems"
    "Admin already matches the EMS build currently running"
  demand (emsIdentityMatchesKnownGood runningEms knownGood = true) "running_ems_mismatch"
    "the running EMS build does not match the verified known-good build"
  let target ← outside (call.resolve targetTag)
  demand (knownGoodMatchesBuild knownGood target = true) "known_good_mismatch"
    "the available rollback images no longer match known-good"
  requireExplicitDevelopmentAcknowledgement target call.acknowledged
  pure target

def returnToRunningBuild (call : Return) : Service AlignmentResult := do
  let target ← returnTarget texts call
  let _ ← reporting (storeCall texts call.cancel (.cancel (some call.operationId) false none))
  startResolved texts call.start target .alignExistingInstall none call.acknowledged

/-! ### Retrying -/

structure Retry where
  operationId : String
  acknowledged : Bool
  current : Access
  resolve : String → Except String SystemBuild
  claim : DispatchClaim
  authority : Access
  reopen : Access
  launch : Launch

/-- `_dispatch_authority`, from the record as it is read under the claim. -/
def authorityAt (authority : Access) (record : DurableRecord) : Service DurableRecord := fun file =>
  ((dispatchAuthority (Transition.readRecord texts authority.faults file) record).mapError .alignment, file)

/-- `_report_completed_dispatch`, from the record as it is read under the claim. -/
def completedAt (claim : DispatchClaim) (a : Access) (record : DurableRecord) :
    Service (Option AlignmentResult) := fun file =>
  ((reportCompleted claim (Transition.readRecord texts a.faults file) record).mapError .alignment, file)

def reopenRecoverableFailure (authority reopen : Access) (record : DurableRecord) :
    Service DurableRecord := do
  let _ ← authorityAt texts authority record
  reporting (recordCall texts reopen (.retry (some record.operationId.val)))

/-- `_retry_dispatch_attempt`, inside its dispatch claim. -/
def retryDispatchAttempt (call : Retry) (record : DurableRecord) :
    Service (Option AlignmentResult) :=
  if call.claim.completed then completedAt texts call.claim call.authority record
  else do
    let reopened ← reopenRecoverableFailure texts call.authority call.reopen record
    if reopened.stage = .adminUpdatePending then
      return some (← commitReconnectAndLaunch texts call.launch reopened none)
    else return some (.transition reopened none)

/-- `retry`. -/
def retryTransition (call : Retry) : Service (Option AlignmentResult) := do
  let current ← currentRecord texts call.current (some call.operationId)
  let build ← resolvedTransitionBuild current.toTransitionRecord (call.resolve current.systemTag.val)
  requireExplicitDevelopmentAcknowledgement build call.acknowledged
  requireStoredDevelopmentAcknowledgement current.toTransitionRecord build
  retryDispatchAttempt texts call current

/-! ### The EMS and its health -/

def beginEmsOperation (operationId : String) (fresh step : Access) : Service AlignmentResult := do
  let _ ← reporting (assertFresh texts fresh (some operationId))
  let r ← reporting (recordCall texts step
    (.advance (some operationId) .resourcesVerified .emsOperationPending))
  pure (.transition r none)

def finishEmsOperation (operationId : String) (succeeded : Bool)
    (errorCode errorMessage : Option String) (step : Access) : Service AlignmentResult := do
  let r ← reporting (recordCall texts step (
    if succeeded then .advance (some operationId) .emsOperationRunning .healthcheckPending
    else .markFailed (some operationId) (orDefault errorCode "ems_deployment_failed")
      (orDefault errorMessage "EMS deployment failed") .emsOperationPending))
  pure (.transition r none)

/-- What `finish_healthcheck` meets: the EMS that runs, the known-good record and its next write. -/
structure HealthRun where
  current : Access
  runningEms : Except String ImageIdentity
  systemBuild : Option SystemBuild
  knownGood : PyValue
  recordKnownGood : Except String Unit
  step : Access

/-- The failure on record for an EMS that is not provably the target. -/
def identityFailure (operationId : String) (state : IdentityState) : Call :=
  if state = .unverifiable then
    .markFailed (some operationId) "ems_identity_unverifiable"
      "The running EMS identity could not be inspected." .healthcheckPending
  else
    .markFailed (some operationId) "ems_identity_mismatch"
      "The running EMS does not match the target System Build." .emsOperationPending

def requireMatchingBuild (r : TransitionRecord) (build : SystemBuild) : Service Unit := do
  match systemBuildIdKind build.buildId with
  | .error _ => refuse "system_build_mismatch" "healthchecked System Build is invalid"
  | .ok _ =>
    demand (recordMatchesBuild r build = true) "system_build_mismatch"
      "healthchecked System Build does not match the active transition"

def recordHealthy (run : HealthRun) (record : DurableRecord) : Service Unit :=
  if knownGoodMatches run.knownGood record.toTransitionRecord then pure ()
  else outside run.recordKnownGood

/-- `finish_healthcheck`, once the checks have passed and the EMS is the target. -/
def commitHealthy (operationId : String) (run : HealthRun) (record : DurableRecord) :
    Service AlignmentResult := do
  requireMatchingBuild record.toTransitionRecord
    (run.systemBuild.getD (buildFromRecord record.toTransitionRecord))
  recordHealthy run record
  let r ← reporting (recordCall texts run.step
    (.advance (some operationId) .healthcheckPending .completed))
  pure (.transition r none)

def finishHealthcheck (operationId : String) (passed : Bool)
    (errorCode errorMessage : Option String) (run : HealthRun) : Service AlignmentResult := do
  let record ← currentRecord texts run.current (some operationId)
  demand (record.stage.terminal = false) "not_resumable"
    ("transition is " ++ record.stage.text ++ "; it cannot restart")
  if passed = false then do
    let r ← reporting (recordCall texts run.step
      (.markFailed (some operationId) (orDefault errorCode "healthcheck_failed")
        (orDefault errorMessage "EMS health checks failed") .healthcheckPending))
    pure (.transition r none)
  else do
    demand (record.stage = .healthcheckPending) "healthcheck_required"
      "known-good requires pending health checks"
    let state := runningEmsIdentityState run.runningEms record.toTransitionRecord
    if state = .agrees then commitHealthy texts operationId run record
    else do
      let r ← reporting (recordCall texts run.step (identityFailure operationId state))
      pure (.transition r none)

structure Recover where
  operationId : String
  healthcheckPassed : Option Bool
  errorCode : Option String
  errorMessage : Option String
  current : Access
  reopen : Access
  runningEms : Except String ImageIdentity
  step : Access
  health : HealthRun

/-- The failure on record for a deployment that was not seen to end. -/
def interruption (operationId : String) : Call :=
  .markFailed (some operationId) "ems_operation_interrupted"
    ("The interrupted EMS operation did not leave the exact " ++
      "target System Build running. Retry deployment explicitly.") .emsOperationPending

/-- What `recover_ems_operation` does at the stage the transition is at, or is reopened at. -/
def continueEms (call : Recover) (record : DurableRecord) : Service AlignmentResult :=
  match record.stage with
  | .resourcesVerified => pure (.transition record none)
  | .emsOperationPending => pure (.transition record none)
  | .emsOperationRunning =>
    if runningEmsIdentityState call.runningEms record.toTransitionRecord = .agrees then
      finishEmsOperation texts call.operationId true none none call.step
    else do
      let r ← reporting (recordCall texts call.step (interruption call.operationId))
      pure (.transition r none)
  | .healthcheckPending =>
    match call.healthcheckPassed with
    | none => pure (.transition record none)
    | some passed =>
      finishHealthcheck texts call.operationId passed call.errorCode call.errorMessage
        { call.health with systemBuild := none }
  | stage => refuse "invalid_transition"
      ("EMS recovery cannot continue while transition is " ++ stage.text)

def recoverEmsOperation (call : Recover) : Service AlignmentResult := do
  let record ← currentRecord texts call.current (some call.operationId)
  if record.stage = .failedRecoverable then do
    let reopened ← reporting (recordCall texts call.reopen (.retry (some call.operationId)))
    continueEms texts call reopened
  else continueEms texts call record

end SolarFlowEms.Admin.Alignment
