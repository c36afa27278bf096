import SolarFlowEms.Appliance.KnownGood
import SolarFlowEms.Appliance.Operations
import SolarFlowEms.Library.Program

/-!
# Installing an Admin and going back to one

An install pins the deployment to a digest, stops the Admin, brings the new one up and verifies what
runs.  Where that fails it puts the Admin back that ran before.  Every answer of Docker, of the Admin
itself and of a write is an input, one for each moment a call asks for it, and each may raise instead;
a write that raises may have been done or not.

What a call did besides changing files is noted: the stops it sent, the recoveries it began, and the
Admins it verified.
-/

namespace SolarFlowEms.Appliance.AdminLifecycle

open Python Program KnownGood

/-- What is raised inside a call: the exceptions the service knows, and any other. -/
inductive Raised where
  | lifecycle (code : String)
  | docker (code : String)
  | deployment (code : String)
  | validation
  | os
  | other
deriving DecidableEq

/-! ### What a call meets -/

/-- The Admin service in the compose file. -/
structure ComposeFile where
  image : Option String
  adminTag : Option String
  /-- The environment is a list, which is left alone. -/
  listEnvironment : Bool
  rest : String
deriving DecidableEq

structure EnvFile where
  image : Option String
  tag : Option String
  digest : Option String
  rest : String
deriving DecidableEq

structure Files where
  compose : Option ComposeFile
  env : Option EnvFile
deriving DecidableEq

inductive ContainerLife where
  | missing
  | running
  | exited
  | created
  | restarting
deriving DecidableEq

inductive ContainerHealth where
  | healthy
  | unhealthy
  | starting
  | none
deriving DecidableEq

structure ContainerState where
  present : Bool
  life : ContainerLife
  health : ContainerHealth
  image : String
deriving DecidableEq

structure Probe where
  reachable : Bool
  version : String
deriving DecidableEq

/-- What `detect` finds of the running Admin. -/
structure Detected where
  installed : Bool
  healthy : Bool
  digest : String
  image : Option ImageState
deriving DecidableEq

namespace Detected

variable (d : Detected)

def labels : List (String × String) := d.image.elim [] ImageState.labels

def version : String := labelOf d.labels labelVersion

def revision : String := labelOf d.labels labelRevision

def architecture : String := d.image.elim "" ImageState.architecture

end Detected

/-- How a write ends. -/
inductive WriteAnswer where
  | written
  | refused (e : Raised)
  | writtenThenRaised (e : Raised)
deriving DecidableEq

/-- What is answered at each moment. -/
structure Answers where
  /-- The operation store and the operation log take a stage. -/
  announce : ℕ → Except Raised Unit
  finish : ℕ → WriteAnswer
  detect : ℕ → Except Raised Detected
  inspectContainer : ℕ → Except Raised ContainerState
  inspectImage : ℕ → Except Raised ImageState
  pullImage : ℕ → Except Raised Unit
  stopContainer : ℕ → Except Raised Unit
  composeUp : ℕ → Except Raised Bool
  probe : ℕ → Except Raised Probe
  /-- Whether a command of a repair did what it was asked to. -/
  repairCommand : ℕ → Except Raised Bool
  /-- What an inspection finds still wrong, and whether it takes an operator. -/
  findings : ℕ → Except Raised (List Bool)
  dockerRunning : ℕ → Bool
  adminTransitionLive : ℕ → Bool
  packageRun : ℕ → Bool
  managerPending : ℕ → Bool
  operationActive : ℕ → Bool
  writeFile : ℕ → WriteAnswer
  installer : ℕ → WriteAnswer
  /-- What the packaged installer makes of the deployment. -/
  installed : ℕ → Files
  setAside : ℕ → Except Raised Unit
  writeHistory : ℕ → WriteAnswer

/-- What is set up on the host. -/
structure Site where
  images : ImagePolicy
  retention : Retention
  composeHash : Option ComposeFile → String
  environmentHash : Option EnvFile → String

/-! ### Plans -/

/-- An Admin by its immutable identity. -/
structure Identity where
  repository : String
  digest : String
  version : String
  reference : String
deriving DecidableEq

/-- The Admin that was installed when the plan was made, as a valid plan records it. -/
structure Captured where
  repository : String
  digest : String
  version : String
  valid : isDigest digest = true
deriving DecidableEq

def Captured.identity (captured : Captured) : Identity :=
  ⟨captured.repository, captured.digest, captured.version,
    captured.repository ++ "@" ++ captured.digest⟩

/-- The target of a confirmed install or rollback. -/
structure Plan where
  /-- The deployment is created and not edited. -/
  bootstrap : Bool
  repository : String
  tag : String
  digest : String
  reference : String
  revision : String
  source : String
  architecture : String
  composeHash : String
  environmentHash : String
  /-- No Admin was installed where it is `none`. -/
  recovery : Option Captured
  valid : isDigest digest = true
deriving DecidableEq

/-! ### The host during a call -/

inductive Deed where
  | stopSent
  /-- Of an Admin, or of the deployment files alone. -/
  | recoveryBegun (target : Option Identity)
  | verified (digest : String)
  | writeBackFailed
  /-- Of an Admin in whose place there is none to bring up. -/
  | stopFailed
deriving DecidableEq

/-- The end of an operation. -/
structure Ended where
  state : OperationState
  stage : String
  /-- `admin_untouched`, where the result says so or denies it. -/
  adminUntouched : Option Bool
  error : Option String
deriving DecidableEq

structure Host where
  files : Files
  history : HistoryFile
  ended : Option Ended
  deeds : List Deed
  /-- The records begun, each with the history it was made into. -/
  records : List (HistoryFile × Entry)
  /-- The digests recorded in the history, newest first. -/
  digests : List String
  tick : ℕ
deriving DecidableEq

def Host.next (host : Host) : Host := { host with tick := host.tick + 1 }

abbrev Call := Program Host Raised

def read {α : Type} (f : Host → α) : Call α := fun host => (.ok (f host), host)

def alter (change : Host → Host) : Call Unit := fun host => (.ok (), change host)

def note (deed : Deed) : Call Unit := alter fun host => { host with deeds := deed :: host.deeds }

def ask {α : Type} (answer : ℕ → Except Raised α) : Call α := fun host =>
  (answer host.tick, host.next)

def look (answer : ℕ → Bool) : Call Bool := fun host => (.ok (answer host.tick), host.next)

/-- A write that may be done or not, whether it raises or not. -/
def put (answer : ℕ → WriteAnswer) (change : Host → Host) : Call Unit := fun host =>
  match answer host.tick with
  | .written => (.ok (), change host.next)
  | .refused e => (.error e, host.next)
  | .writtenThenRaised e => (.error e, change host.next)

def refuse {α : Type} (code : String) : Call α := raise (.lifecycle code)

def demand (p : Prop) [Decidable p] (code : String) : Call Unit :=
  if p then pure () else refuse code

def validated {α : Type} (x : Except ValidationError α) : Call α :=
  ofExcept (x.mapError fun e => .lifecycle e.code)

def unguarded {α : Type} (x : Except ValidationError α) : Call α :=
  ofExcept (x.mapError fun _ => .validation)

/-! ### What is caught -/

/-- `except AdminLifecycleError` -/
def lifecycleOnly : Raised → Option String
  | .lifecycle code => some code
  | _ => none

/-- `except (DeploymentError, OSError)`, with the code of an error that has none. -/
def writeFailures (code : String) : Raised → Option String
  | .deployment code => some code
  | .os => some code
  | _ => none

/-- `except (AdminLifecycleError, DockerError, DeploymentError)` -/
def stepFailures : Raised → Option String
  | .lifecycle code => some code
  | .docker code => some code
  | .deployment code => some code
  | _ => none

/-- `except (AdminLifecycleError, DockerError, DeploymentError, OSError)` -/
def recoveryFailures : Raised → Option String
  | .os => some "os_error"
  | e => stepFailures e

/-- What a program returned, or the code of what was caught. -/
def judged {α : Type} (catches : Raised → Option String) (x : Call α) : Call (Except String α) :=
  catching (x >>= fun a => pure (.ok a)) fun e =>
    match catches e with
    | some code => pure (.error code)
    | none => raise e

section Service

variable (site : Site) (answers : Answers)

/-! ### Operation records -/

def announce (_stage : String) : Call Unit := ask answers.announce

/-- The first end of an operation is the one that happened. -/
def finish (ended : Ended) : Call Unit :=
  put answers.finish fun host => { host with ended := host.ended.or (some ended) }

def preflightFailure (state : OperationState) (code : String) : Call Unit := do
  let _ ← ask answers.inspectContainer
  finish answers ⟨state, "preflight_failed", some true, some code⟩

/-! ### Deployment files -/

def setCompose (compose : ComposeFile) (host : Host) : Host :=
  { host with files := { host.files with compose := some compose } }

def setEnvironment (env : EnvFile) (host : Host) : Host :=
  { host with files := { host.files with env := some env } }

/-- `set_service_image` and `set_service_environment` -/
def pinnedCompose (compose : ComposeFile) (reference tag : String) : ComposeFile :=
  { compose with
    image := some reference
    adminTag := if tag = "" ∨ compose.listEnvironment then compose.adminTag else some tag }

def pinnedEnvironment (env : EnvFile) (repository digest tag : String) : EnvFile :=
  { env with
    image := some repository
    tag := if tag = "" then env.tag else some tag
    digest := some digest }

/-- An `OSError` is reported as a failed write of the environment file. -/
def environmentWriteFailed : Raised → Raised
  | .os => .deployment "environment_write_failed"
  | e => e

def pinEnvironment (repository digest tag : String) : Call Unit := do
  match ← read fun host => host.files.env with
  | none => pure ()
  | some env =>
      translating environmentWriteFailed
        (put answers.writeFile (setEnvironment (pinnedEnvironment env repository digest tag)))

def applyDigest (repository digest tag : String) : Call Unit := do
  match ← read fun host => host.files.compose with
  | none => raise (.deployment "compose_file_missing")
  | some compose =>
    if compose.image = none then raise (.deployment "admin_image_missing")
    else do
      put answers.writeFile (setCompose (pinnedCompose compose (repository ++ "@" ++ digest) tag))
      pinEnvironment answers repository digest tag

def snapshot : Call Files := read Host.files

/-- A file that was there is written back. -/
def writeBack {α : Type} (saved : Option α) (change : α → Host → Host) : Call Unit :=
  match saved with
  | none => pure ()
  | some file => put answers.writeFile (change file)

/-- `saved.restore()` -/
def restore (saved : Files) : Call Unit := do
  writeBack answers saved.compose setCompose
  writeBack answers saved.env setEnvironment

def safeRestore (saved : Files) : Call Bool := do
  match ← judged (writeFailures "") (restore answers saved) with
  | .ok _ => pure true
  | .error _ => do
    note .writeBackFailed
    pure false

/-! ### Docker -/

def stopAdmin : Call Unit := do
  let container ← ask answers.inspectContainer
  if container.present then do
    note .stopSent
    ask answers.stopContainer
  else pure ()

def composeUp : Call Unit := do
  match ← judged (fun e => match e with | .docker code => some code | _ => none)
      (ask answers.composeUp) with
  | .error code => refuse code
  | .ok ok => demand (ok = true) "compose_up_failed"

def knownGoodImageUnavailable : String := "known_good_image_unavailable"

def announcePull (watched : Bool) : Call Unit :=
  if watched then announce answers "pulling_image" else pure ()

def pullMissing (watched : Bool) : Call Unit := do
  announcePull answers watched
  match ← judged (fun e => match e with | .docker code => some code | _ => none)
      (ask answers.pullImage) with
  | .error _ => refuse knownGoodImageUnavailable
  | .ok _ => do
    let image ← ask answers.inspectImage
    demand (image.present = true) knownGoodImageUnavailable

def requireLocalImage (watched : Bool) : Call Unit := do
  let image ← ask answers.inspectImage
  if image.present then pure () else pullMissing answers watched

/-! ### Verification -/

structure Verification where
  failures : List String
  activeDigest : String
deriving DecidableEq

def Verification.verified (v : Verification) : Bool := v.failures.isEmpty

def Verification.error (v : Verification) : String := v.failures.head?.getD ""

/-- What speaks against an Admin that runs. -/
def verificationFailures (container : ContainerState) (activeDigest : String)
    (labels : List (String × String)) (probe : Probe) (expectedVersion expectedDigest : String) :
    List String :=
  let version := if probe.version = "" then labelOf labels labelVersion else probe.version
  (if container.health = .unhealthy then ["container_unhealthy"] else []) ++
    (if expectedDigest ≠ "" ∧ ¬ (activeDigest ≠ "" ∧ activeDigest = expectedDigest) then
      ["image_mismatch"] else []) ++
    (if probe.reachable then [] else ["api_unreachable"]) ++
    if version = "" then ["version_unreadable"]
    else if expectedVersion ≠ "" ∧ normalizeVersion version ≠ normalizeVersion expectedVersion then
      ["version_mismatch"]
    else []

/-- The digest and the labels of the image a container runs. -/
def activeImage (container : ContainerState) : Call (String × List (String × String)) :=
  if container.image = "" then pure ("", [])
  else do
    let image ← ask answers.inspectImage
    pure (image.digest, image.labels)

/-- What is found of an Admin is noted where nothing speaks against it. -/
def concluded (v : Verification) : Call Verification :=
  if v.verified then do
    note (.verified v.activeDigest)
    pure v
  else pure v

/-- `_verify_admin`: the container is the last of those the wait for it saw. -/
def verifyAdmin (expectedVersion expectedDigest : String) : Call Verification := do
  let container ← ask answers.inspectContainer
  if !container.present then concluded ⟨["container_missing"], ""⟩
  else if container.life ≠ .running then concluded ⟨["container_not_running"], ""⟩
  else do
    let active ← activeImage answers container
    let probe ← ask answers.probe
    concluded
      ⟨verificationFailures container active.1 active.2 probe expectedVersion expectedDigest,
        active.1⟩

/-! ### Preconditions -/

def requireNoAdminTransition : Call Unit := do
  let live ← look answers.adminTransitionLive
  demand (live = false) "admin_transition_in_flight"

def requireNoPackageRun : Call Unit := do
  let running ← look answers.packageRun
  demand (running = false) "package_operation_active"

def requireAbsentDeployment : Call Unit := do
  let files ← read Host.files
  demand (files.compose = none) "deployment_appeared_since_plan"

/-- The deployment is still the one a plan to edit it was made against. -/
def requireSameDeployment (plan : Plan) : Call Unit := do
  demand (plan.composeHash ≠ "") "deployment_fingerprint_missing"
  let files ← read Host.files
  demand (files.compose.isSome = true) "deployment_changed_since_plan"
  demand (site.composeHash files.compose = plan.composeHash) "deployment_changed_since_plan"
  demand (plan.environmentHash ≠ "") "deployment_fingerprint_missing"
  demand (site.environmentHash files.env = plan.environmentHash) "deployment_changed_since_plan"

def requirePlannedDeployment (plan : Plan) : Call Unit :=
  if plan.bootstrap then requireAbsentDeployment else requireSameDeployment site plan

def requirePlannedCurrentAdmin (plan : Plan) : Call Unit :=
  match plan.recovery with
  | none => pure ()
  | some captured => do
    let active ← ask answers.detect
    demand (active.digest = captured.digest) "current_admin_changed_since_plan"

/-- A field of the plan that the image must still show. -/
def requireField (expected observed code : String) : Call Unit :=
  demand (expected = "" ∨ observed = expected) code

def requirePlannedImage (plan : Plan) (requireLabels watched : Bool) : Call Unit := do
  requireLocalImage answers watched
  let image ← ask answers.inspectImage
  demand (image.present = true) "image_inspect_failed"
  demand (image.digest = "" ∨ image.digest = plan.digest) "target_digest_mismatch"
  let _ ← validated (validateArchitecture image.architecture site.images.supportedArchitectures)
  requireField plan.architecture image.architecture "target_architecture_mismatch"
  requireField plan.revision (labelOf image.labels labelRevision) "target_revision_mismatch"
  requireField plan.source (labelOf image.labels labelSource) "target_source_mismatch"
  if requireLabels then do
    let _ ← validated (validateOciLabels site.images image.labels plan.tag)
    pure ()
  else pure ()

/-! ### The known-good history -/

/-- `KnownGoodStore.record`: an unreadable history is set aside first. -/
def setAsideUnreadable : Call Unit := do
  let history ← read Host.history
  if history.problem then do
    ask answers.setAside
    alter fun host => { host with history := .absent, digests := [] }
  else pure ()

def recordKnownGood (entry : Entry) : Call Unit := do
  setAsideUnreadable answers
  alter fun host => { host with records := (host.history, entry) :: host.records }
  put answers.writeHistory fun host =>
    { host with
      history := recorded site.retention entry host.history
      digests := entry.adminDigest :: host.digests }

def requireReleaseImage (state : Detected) : Except ValidationError Unit := do
  let tag ← validateInstallableTag state.version site.images.allowPrerelease
  let _ ← validateArchitecture state.architecture site.images.supportedArchitectures
  let _ ← validateOciLabels site.images state.labels tag
  pure ()

/-- `state['version'] or 'unknown'` -/
def versionOrUnknown (state : Detected) : String :=
  if state.version = "" then "unknown" else state.version

def runningEntry (state : Detected) (reference composeHash environmentHash : String) : Entry :=
  Entry.of (site.images.adminRepository ++ ":" ++ versionOrUnknown state) state.digest
    (versionOrUnknown state) reference state.revision "" state.architecture composeHash
    environmentHash

def recordRunningAdmin (state : Detected) (composeHash : String) : Call Unit := do
  let reference ← unguarded (buildDigestRef site.images.adminRepository state.digest)
  let env ← read fun host => host.files.env
  recordKnownGood site answers (runningEntry site state reference composeHash
    (site.environmentHash env))

/-- The entry of the Admin that a plan verified. -/
def verifiedEntry (repository tag digest reference revision source architecture : String)
    (files : Files) : Entry :=
  Entry.of (repository ++ ":" ++ tag) digest tag reference revision source architecture
    (site.composeHash files.compose) (site.environmentHash files.env)

/-! ### Recovery -/

def entryIdentity (entry : Entry) : Identity :=
  ⟨beforeLastColon entry.adminImage, entry.adminDigest, entry.adminVersion, entry.adminReference⟩

/-- The captured identity, else the one the history names. -/
def recoveryIdentity (plan : Plan) (history : HistoryFile) : Option Identity :=
  match plan.recovery with
  | some captured => some captured.identity
  | none =>
      ((history.current.or history.previous).filter fun entry => entry.adminDigest ≠ "").map
        entryIdentity

def recoveryTarget (plan : Plan) : Call (Option Identity) :=
  read fun host => recoveryIdentity plan host.history

/-- Stops the Admin, writes the deployment back pinned to the target, and brings that up. -/
def bringBack (target : Identity) (writeSaved : Call Unit) : Call Verification := do
  note (.recoveryBegun (some target))
  stopAdmin answers
  writeSaved
  requireLocalImage answers false
  applyDigest answers target.repository target.digest target.version
  composeUp answers
  verifyAdmin answers target.version target.digest

/-! ### Installing -/

/-- The recovery is the deployment as it was, written back behind the stop of the new Admin. -/
def stopAndWriteBack (saved : Files) : Call Unit := do
  let done ← judged recoveryFailures do
    stopAdmin answers
    note (.recoveryBegun none)
    safeRestore answers saved
  match done with
  | .ok _ => pure ()
  | .error _ => note .stopFailed

/-- `_nothing_to_restore`. -/
def nothingToRestore (saved : Files) (code : String) : Call Unit := do
  stopAndWriteBack answers saved
  finish answers ⟨.manualActionRequired, "no_previous_admin", some false, some code⟩
  refuse "no_previous_admin"

/-- How a recovery after a failed install ends. -/
def recoveryEnded (code : String) (outcome : Except String Verification) : Call Unit :=
  match outcome with
  | .error _ => do
    finish answers ⟨.failedTerminal, "rollback_failed", none, some "rollback_failed"⟩
    refuse "rollback_failed"
  | .ok verification =>
    if verification.verified then do
      finish answers ⟨.rolledBack, "rolled_back", none, some code⟩
      refuse code
    else do
      finish answers ⟨.failedTerminal, "rollback_unhealthy", none, some code⟩
      refuse "rollback_unhealthy"

/-- Behind the check that no Admin transition is live. -/
def rollbackUnobserved (plan : Plan) (saved : Files) (code : String) : Call Unit := do
  match ← recoveryTarget plan with
  | none => nothingToRestore answers saved code
  | some target => do
    announce answers "rolling_back"
    let outcome ← judged recoveryFailures (bringBack answers target (restore answers saved))
    recoveryEnded answers code outcome

def rollbackAfterFailure (plan : Plan) (saved : Files) (code : String) : Call Unit := do
  match ← judged lifecycleOnly (requireNoAdminTransition answers) with
  | .error live => do
    finish answers ⟨.manualActionRequired, "admin_transition_in_flight", some false, some code⟩
    refuse live
  | .ok _ => rollbackUnobserved answers plan saved code

def bootstrapFailure (code : String) : Call Unit := do
  let _ ← ask answers.inspectContainer
  finish answers ⟨.failedRecoverable, "bootstrap_failed", none, some code⟩

/-- An install that failed behind the stop: a first one has no Admin to put back. -/
def installFailed (plan : Plan) (saved : Files) (code : String) : Call Unit :=
  if plan.bootstrap then bootstrapFailure answers code
  else rollbackAfterFailure answers plan saved code

/-- `_transition_started`: whether the call stands back, the files written back. -/
def transitionStarted (saved : Files) : Call Bool := do
  match ← judged lifecycleOnly (requireNoAdminTransition answers) with
  | .error code => do
    let _ ← safeRestore answers saved
    preflightFailure answers .failedTerminal code
    pure true
  | .ok _ => pure false

def recordInstalled (plan : Plan) : Call Unit := do
  announce answers "recording_result"
  let files ← read Host.files
  recordKnownGood site answers
    (verifiedEntry site plan.repository plan.tag plan.digest plan.reference plan.revision
      plan.source plan.architecture files)
  finish answers ⟨.succeeded, "succeeded", none, none⟩

/-- From the stop of the running Admin to the verification of the new one. -/
def replaceAdmin (plan : Plan) : Call Unit := do
  announce answers "stopping_admin"
  stopAdmin answers
  announce answers "recreating_admin"
  composeUp answers
  announce answers "waiting_for_health"
  let verification ← verifyAdmin answers plan.tag plan.digest
  demand (verification.verified = true) "admin_unhealthy"

def installReplaced (plan : Plan) (saved : Files) : Call Unit := do
  match ← judged stepFailures (replaceAdmin answers plan) with
  | .error code => installFailed answers plan saved code
  | .ok _ => recordInstalled site answers plan

def installGuarded (plan : Plan) (saved : Files) : Call Unit := do
  let stands ← transitionStarted answers saved
  if stands then pure () else installReplaced site answers plan saved

/-- The Admin that runs is recorded where it is one this appliance would install. -/
def recordBefore (before : Detected) (saved : Files) : Call Unit := do
  announce answers "recording_known_good"
  if before.healthy && before.digest ≠ "" && (requireReleaseImage site before).toBool then
    recordRunningAdmin site answers before (site.composeHash saved.compose)
  else pure ()

def installPinned (plan : Plan) (saved : Files) : Call Unit := do
  announce answers "pinning_digest"
  match ← judged (writeFailures "digest_pin_failed")
      (applyDigest answers plan.repository plan.digest plan.tag) with
  | .error code => do
    restore answers saved
    finish answers ⟨.failedRecoverable, "digest_pin_failed", none, some code⟩
    refuse "digest_pin_failed"
  | .ok _ => installGuarded site answers plan saved

def installPreflight (plan : Plan) : Call Unit := do
  requireNoAdminTransition answers
  requireNoPackageRun answers
  requirePlannedDeployment site plan
  requirePlannedCurrentAdmin answers plan
  requirePlannedImage site answers plan true false

def installRecorded (plan : Plan) : Call Unit := do
  let saved ← snapshot
  let before ← ask answers.detect
  recordBefore site answers before saved
  installPinned site answers plan saved

def bootstrapDeployment : Call Unit := do
  announce answers "creating_deployment"
  put answers.installer fun host => { host with files := answers.installed host.tick }
  let files ← read Host.files
  demand (files.compose.isSome = true) "bootstrap_incomplete"

/-- A first installation creates the deployment before it installs into it. -/
def installBootstrapped (plan : Plan) : Call Unit := do
  match ← judged lifecycleOnly (bootstrapDeployment answers) with
  | .error code => bootstrapFailure answers code
  | .ok _ => installRecorded site answers plan

def executeInstall (plan : Plan) : Call Unit := do
  announce answers "verifying_target_image"
  match ← judged lifecycleOnly (installPreflight site answers plan) with
  | .error code => preflightFailure answers .failedTerminal code
  | .ok _ =>
    if plan.bootstrap then installBootstrapped site answers plan
    else installRecorded site answers plan

/-! ### Going back -/

/-- An Admin as a rollback may deploy it. -/
structure RollbackTarget where
  repository : String
  digest : String
  reference : String
deriving DecidableEq

/-- The repository of a record, which may carry a tag or be missing. -/
def namedRepository (repository : String) : String :=
  let named := if repository.toList.contains ':' then beforeLastColon repository else repository
  if named = "" then site.images.adminRepository else named

def validatedRollbackTarget (repository digest reference : String) :
    Except ValidationError RollbackTarget := do
  let repository ←
    validateImageRepository (namedRepository site repository) site.images.repositories
  let digest ← validateDigest digest
  let built ← buildDigestRef repository digest
  if reference ≠ "" ∧ reference ≠ built then throw ⟨"known_good_reference_mismatch"⟩
  else pure ⟨repository, digest, built⟩

/-- The deployment is written back first, and a failure to is one of the recovery. -/
def restoreOrRaise (saved : Files) : Call Unit := do
  let restored ← safeRestore answers saved
  if restored then pure () else raise (.deployment "deployment_restore_failed")

/-- The Admin that ran before a rollback, put back. -/
def bringBackCaptured (saved : Files) : Option Identity → Call Verification
  | none => refuse "recovery_identity_unavailable"
  | some target => bringBack answers target (restoreOrRaise answers saved)

def rollbackRecoveryFailure (plan : Plan) (saved : Files) (code : String) : Call Unit := do
  announce answers "restoring_previous_admin"
  let target ← recoveryTarget plan
  let outcome ← judged recoveryFailures (bringBackCaptured answers saved target)
  let restored := match outcome with
    | .ok verification => verification.verified
    | .error _ => false
  finish answers
    ⟨if restored then .rolledBack else .failedTerminal,
      if restored then "rolled_back" else "rollback_unhealthy", some false, some code⟩

def rollbackVerified (plan : Plan) (saved : Files) (target : RollbackTarget) : Call Unit := do
  announce answers "waiting_for_health"
  let verification ← verifyAdmin answers plan.tag target.digest
  if verification.verified then do
    let files ← read Host.files
    recordKnownGood site answers (verifiedEntry site target.repository plan.tag target.digest
      target.reference "" "" "" files)
    finish answers ⟨.succeeded, "succeeded", none, none⟩
  else rollbackRecoveryFailure answers plan saved verification.error

def rollbackReplaced (plan : Plan) (saved : Files) (target : RollbackTarget) : Call Unit := do
  announce answers "stopping_admin"
  stopAdmin answers
  announce answers "restoring_admin"
  match ← judged stepFailures (composeUp answers) with
  | .error code => rollbackRecoveryFailure answers plan saved code
  | .ok _ => rollbackVerified site answers plan saved target

def rollbackGuarded (plan : Plan) (saved : Files) (target : RollbackTarget) : Call Unit := do
  let stands ← transitionStarted answers saved
  if stands then pure () else rollbackReplaced site answers plan saved target

def rollbackPinned (plan : Plan) (target : RollbackTarget) : Call Unit := do
  let saved ← snapshot
  announce answers "pinning_digest"
  match ← judged (writeFailures "rollback_pin_failed")
      (applyDigest answers target.repository target.digest plan.tag) with
  | .error code => do
    let _ ← safeRestore answers saved
    preflightFailure answers .failedRecoverable code
  | .ok _ => rollbackGuarded site answers plan saved target

def rollbackPreflight (plan : Plan) : Call Unit := do
  requireNoAdminTransition answers
  requireNoPackageRun answers
  requirePlannedDeployment site plan
  requirePlannedCurrentAdmin answers plan
  requirePlannedImage site answers plan false true

def rollbackChecked (plan : Plan) (target : RollbackTarget) : Call Unit := do
  announce answers "verifying_target_image"
  match ← judged lifecycleOnly (rollbackPreflight site answers plan) with
  | .error code => preflightFailure answers .failedTerminal code
  | .ok _ => rollbackPinned site answers plan target

def executeRollback (plan : Plan) : Call Unit := do
  announce answers "preflight"
  match validatedRollbackTarget site plan.repository plan.digest plan.reference with
  | .error _ => preflightFailure answers .failedTerminal "invalid_known_good_record"
  | .ok target => rollbackChecked site answers plan target

/-! ### Planning a rollback -/

/-- What a rollback is planned as. -/
structure RollbackPlan where
  target : RollbackTarget
  tag : String
  recovery : Option Identity
  composeHash : String
  environmentHash : String
deriving DecidableEq

/-- `_capture_recovery_identity`: of an Admin that is installed, its identity. -/
def captureRecoveryIdentity (state : Detected) : Call (Option Identity) :=
  if !state.installed then pure none
  else if state.digest = "" then refuse "recovery_identity_unavailable"
  else do
    let reference ← unguarded (buildDigestRef site.images.adminRepository state.digest)
    pure (some ⟨site.images.adminRepository, state.digest, state.version, reference⟩)

/-- The entry that a rollback goes back to. -/
def previousKnownGood : Call Entry := do
  let history ← read Host.history
  demand (history.problem = false) "known_good_history_unreadable"
  match history.previous with
  | none => refuse "no_previous_known_good"
  | some previous => pure previous

def requireDeployment : Call Unit := do
  let files ← read Host.files
  demand (files.compose.isSome = true) "compose_file_missing"
  demand (files.env.isSome = true) "admin_environment_missing"

def requireDocker : Call Unit := do
  let running ← look answers.dockerRunning
  demand (running = true) "docker_unavailable"

def planRollback : Call RollbackPlan := do
  let state ← ask answers.detect
  announce answers "preflight"
  requireDocker answers
  requireNoAdminTransition answers
  requireNoPackageRun answers
  requireDeployment
  let previous ← previousKnownGood
  let target ← ofExcept ((validatedRollbackTarget site previous.adminImage previous.adminDigest
    previous.adminReference).mapError fun _ => .lifecycle "invalid_known_good_record")
  let recovery ← captureRecoveryIdentity site state
  let files ← read Host.files
  pure ⟨target, previous.adminVersion, recovery, site.composeHash files.compose,
    site.environmentHash files.env⟩

/-! ### Reading the status -/

/-- The digest the deployment asks for, empty where it cannot be told. -/
def deployedDigest : Call String := do
  match ← read fun host => host.files.compose.bind ComposeFile.image with
  | none => pure ""
  | some _ => do
    match ← judged (fun e => match e with | .docker code => some code | _ => none)
        (ask answers.inspectImage) with
    | .error _ => pure ""
    | .ok image => pure (if image.present then image.digest else "")

/-- The record of an Admin that has proved to be the one deployed. -/
def adoptVerified (state : Detected) (verification : Verification) : Call Unit :=
  if !verification.verified then pure ()
  else do
    requireNoAdminTransition answers
    let compose ← read fun host => host.files.compose
    recordRunningAdmin site answers state (site.composeHash compose)

def adoptDeployed (state : Detected) (deployed : String) : Call Unit :=
  if deployed ≠ state.digest then pure ()
  else do
    let verification ← verifyAdmin answers "" state.digest
    adoptVerified site answers state verification

/-- What nothing changes meanwhile is asked for its deployment. -/
def adoptSettled (state : Detected) (active pending : Bool) : Call Unit :=
  if active || pending then pure ()
  else do
    unguarded (requireReleaseImage site state)
    let deployed ← deployedDigest answers
    adoptDeployed site answers state deployed

/-- `except (AdminLifecycleError, DockerError, OSError, ValidationError)` -/
def adoptionFailures : Raised → Option String
  | .lifecycle code => some code
  | .docker code => some code
  | .os => some "os_error"
  | .validation => some "validation_error"
  | _ => none

def adoptRunningAdmin (state : Detected) : Call Unit := do
  let history ← read Host.history
  if state.digest = "" || !state.healthy || history.problem ||
      history.current.elim "" Entry.adminDigest = state.digest then pure ()
  else do
    let _ ← judged adoptionFailures do
      let active ← look answers.operationActive
      let pending ← look answers.managerPending
      adoptSettled site answers state active pending
    pure ()

def detect : Call Unit := do
  let state ← ask answers.detect
  adoptRunningAdmin site answers state

/-! ### Repairs -/

inductive RepairAction where
  | startAdmin
  | restartAdmin
  | recreateAdmin
  /-- One that neither starts nor recreates the Admin. -/
  | other
deriving DecidableEq

/-- A start or restart brings up nothing but what the deployment names. -/
def askedDigest (asDeployed : Bool) : Call String :=
  if asDeployed then deployedDigest answers else pure ""

def verifyExpected (current : Option Entry) (deployed : String) : Call Verification :=
  if deployed ≠ "" ∧ deployed ≠ current.elim "" Entry.adminDigest then verifyAdmin answers "" deployed
  else verifyAdmin answers (current.elim "" Entry.adminVersion) (current.elim "" Entry.adminDigest)

def verifiedOrReason (asDeployed : Bool) : Call String := do
  let current ← read fun host => host.history.current
  let deployed ← askedDigest answers asDeployed
  let verification ← verifyExpected answers current deployed
  pure (if verification.verified then "verified" else verification.error)

/-- A known-good Admin is pinned again, where its record names one that may be. -/
def pinKnownGood (entry : Entry) : Except ValidationError RollbackTarget → Call (Except String Unit)
  | .error _ => pure (.error "invalid_known_good_record")
  | .ok target => do
    requireLocalImage answers false
    applyDigest answers target.repository target.digest entry.adminVersion
    pure (.ok ())

def pinCurrent : Option Entry → Call (Except String Unit)
  | none => pure (.ok ())
  | some entry =>
    pinKnownGood answers entry
      (validatedRollbackTarget site entry.adminImage entry.adminDigest entry.adminReference)

/-- The current Admin pinned and brought up. -/
def recreateUp (current : Option Entry) : Call (Except String Unit) := do
  match ← pinCurrent site answers current with
  | .error reason => pure (.error reason)
  | .ok _ => do
    composeUp answers
    pure (.ok ())

def recreateAdmin : Call String := do
  let current ← read fun host => host.history.current
  match ← judged recoveryFailures (recreateUp site answers current) with
  | .error _ => pure "recreate_failed"
  | .ok (.error reason) => pure reason
  | .ok (.ok _) => verifiedOrReason answers false

def applyRepair : RepairAction → Call String
  | .startAdmin => do
    let ok ← ask answers.repairCommand
    if ok then verifiedOrReason answers true else pure "start_failed"
  | .restartAdmin => do
    let ok ← ask answers.repairCommand
    if ok then verifiedOrReason answers true else pure "restart_failed"
  | .recreateAdmin => recreateAdmin site answers
  | .other => do
    let ok ← ask answers.repairCommand
    pure (if ok then "verified" else "repair_failed")

def applyRepairs : List RepairAction → Call (List String)
  | [] => pure []
  | action :: actions => do
    announce answers "repair"
    let result ← applyRepair site answers action
    let results ← applyRepairs actions
    pure (result :: results)

/-- How a repair ends, from what its actions proved and what an inspection still finds. -/
def repairEnd (results : List String) (remaining : List Bool) : Ended :=
  let unverified := results.filter (· ≠ "verified")
  if remaining = [] ∧ unverified = [] then ⟨.succeeded, "succeeded", none, none⟩
  else if unverified = [] ∧ remaining.all id then
    ⟨.manualActionRequired, "manual_action_required", none, some "manual_action_required"⟩
  else
    ⟨if unverified.any (· ∈ ["image_mismatch", "container_missing"]) then .manualActionRequired
      else .failedRecoverable, "repair_incomplete", none,
      some (unverified.head?.getD "repair_incomplete")⟩

def executeRepair (actions : List RepairAction) : Call Unit := do
  requireNoPackageRun answers
  let results ← applyRepairs site answers actions
  announce answers "verifying_repair"
  let remaining ← ask answers.findings
  finish answers (repairEnd results remaining)

end Service

end SolarFlowEms.Appliance.AdminLifecycle
