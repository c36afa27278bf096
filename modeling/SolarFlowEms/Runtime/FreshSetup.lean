import Mathlib.Data.Fintype.EquivFin
import Mathlib.Data.List.DropRight
import SolarFlowEms.Config.Upgrade
import SolarFlowEms.Library.Program
import SolarFlowEms.Library.Run
import SolarFlowEms.Runtime.RuntimeDevices

/-!
# The runtime state of a fresh setup

A Setup apply of the Admin leaves a request beside the runtime state before it writes its config,
and the next start of the EMS builds the state afresh where the request names the installed
config.  Request, config and runtime state are three files: the Admin writes the first two, the
EMS the last, and either of them may stop between any two of its writes.

An apply whose config did not arrive puts back the request that it found.  A start keeps the files
that it sets aside under names of their own.
-/

namespace SolarFlowEms.Runtime

open Python Documents Config

/-! ### Files -/

/-- A JSON file by what it decodes to. -/
inductive JsonFile where
  | json (value : PyValue)
  | corrupt

/-- The name of a file that a reset keeps: `<path>.before-setup-<stamp>`, with a counter behind it
from 1 on. -/
structure BackupName where
  path : String
  stamp : String
  counter : ℕ
deriving DecidableEq

/-- What the Admin and the EMS rely on for the configs of one installation. -/
structure Installation (Payload : Type) where
  /-- The SHA-256 of a config's bytes. -/
  digest : Payload → String
  digest_ne_empty : ∀ payload, digest payload ≠ ""
  /-- No bytes. -/
  empty : Payload
  /-- `json.loads`. -/
  parse : Payload → Option PyValue
  root : String
  /-- What the EMS seeds a runtime state with. -/
  defaults : PyValue → RuntimeDefaults

/-- A file that a reset took away, under the name that it is kept by. -/
structure TakenAway where
  name : BackupName
  file : JsonFile
  /-- The digest of the config that was installed then. -/
  installed : String

/-- The files of an installation, and what happened to them so far. -/
structure World (Payload : Type) where
  config : Option Payload
  /-- The request beside the runtime state at a path. -/
  request : String → Option JsonFile
  /-- Runtime states and schedules by their paths. -/
  files : String → Option JsonFile
  backups : List (BackupName × JsonFile)
  /-- How many config writes of Setup took effect. -/
  setupWrites : ℕ
  /-- How many of them had taken effect when the state at a path was built afresh. -/
  builtAfter : String → ℕ
  /-- The digests that Setup left requests with. -/
  asked : List String
  /-- What resets took away. -/
  taken : List TakenAway

variable {Payload : Type} (site : Installation Payload)

/-- `os.path.join` of a directory and a path that is not absolute. -/
def joinPath (directory path : String) : String :=
  if directory = "" ∨ directory.toList.getLast? = some '/' then directory ++ path
  else directory ++ "/" ++ path

def runtimeStatePathUnder (root : String) (config : PyValue) : Option String :=
  let relative := getValue (objectAt ((config.dict?).getD []) "system") "runtime_state_path"
  match if truthy relative then relative else .str "runtime-state.json" with
  | .str path => some (if path.toList.head? = some '/' then path else joinPath root path)
  | _ => none

/-- The runtime state that the EMS reads for a config, where the config parses and names a path. -/
def runtimeStatePath (payload : Payload) : Option String :=
  (site.parse payload).bind (runtimeStatePathUnder site.root)

/-- `Path(path).with_name("schedules.json")`. -/
def resolveSchedulesPath (path : String) : String :=
  String.ofList (path.toList.rdropWhile (· ≠ '/')) ++ "schedules.json"

/-! ### Steps that may fail or be the last -/

/-- What ends a call: an exception, or the death of its process. -/
inductive Stop where
  | raised
  | died
deriving DecidableEq

/-- How one write of a call ends. -/
inductive StepFault where
  | none
  | before (stop : Stop)
  | after (stop : Stop)
deriving DecidableEq

def StepFault.lands : StepFault → Bool
  | .before _ => false
  | _ => true

abbrev Act (Payload α : Type) := Program (World Payload) Stop α

namespace Act

def read {α : Type} (f : World Payload → α) : Act Payload α := fun w => (.ok (f w), w)

def write (fault : StepFault) (change : World Payload → World Payload) : Act Payload Unit :=
  fun w =>
    match fault with
    | .none => (.ok (), change w)
    | .before stop => (.error stop, w)
    | .after stop => (.error stop, change w)

/-- A step that changes no file of these. -/
def pass (stop : Option Stop) : Act Payload Unit :=
  match stop with
  | some stop => Program.raise stop
  | none => pure ()

end Act

/-! ### Requests -/

def requestDocument (digest : String) : JsonFile :=
  .json (.dict [("reason", .str "fresh_setup"), ("config_sha256", .str digest)])

/-- The digest a request names. -/
def JsonFile.requestedDigest : JsonFile → Option String
  | .json (.dict entries) =>
    match getValue entries "config_sha256" with
    | .str digest => if digest = "" then none else some digest
    | _ => none
  | _ => none

def pendingRuntimeReset (w : World Payload) (path : String) : Option String :=
  (w.request path).bind JsonFile.requestedDigest

def World.setRequest (w : World Payload) (path : String) (request : Option JsonFile) :
    World Payload :=
  { w with request := Function.update w.request path request }

def World.leaveRequest (w : World Payload) (path digest : String) : World Payload :=
  { w.setRequest path (some (requestDocument digest)) with asked := digest :: w.asked }

def requestRuntimeReset (fault : StepFault) (path digest : String) : Act Payload Unit :=
  Act.write fault fun w => w.leaveRequest path digest

def cancelRuntimeReset (fault : StepFault) (path : String) : Act Payload Unit :=
  Act.write fault fun w => w.setRequest path none

/-! ### A Setup apply -/

/-- The state of the config that an apply was prepared for. -/
inductive Expected where
  | unchecked
  | absent
  | revision (sha256 : String)
deriving DecidableEq

/-- A Setup apply, with what fails on its way. -/
structure SetupApply (Payload : Type) where
  payload : Payload
  expected : Expected
  /-- The request that stands there can be read. -/
  previousReadable : Bool
  request : StepFault
  /-- Reading the config. -/
  read : Option Stop
  /-- Keeping a copy of it. -/
  backup : Option Stop
  write : StepFault
  /-- The config can be read again behind an exception. -/
  heldReadable : Bool
  putBack : StepFault

/-- The outcome of an apply's check of the installed config. -/
inductive Check where
  | conflict
  | unchanged
  | changed
deriving DecidableEq

variable [DecidableEq Payload]

def checkExpected (apply : SetupApply Payload) (config : Option Payload) : Check :=
  match apply.expected with
  | .absent => if config.isSome then .conflict else .changed
  | .revision sha256 =>
    let current := config.getD site.empty
    if site.digest current = sha256 then
      if current = apply.payload then .unchanged else .changed
    else .conflict
  | .unchecked => .changed

def World.install (w : World Payload) (payload : Payload) : World Payload :=
  { w with config := some payload, setupWrites := w.setupWrites + 1 }

def applyPrepared (apply : SetupApply Payload) : Act Payload Unit := do
  Act.pass apply.read
  let config ← Act.read World.config
  match checkExpected site apply config with
  | .conflict => Program.raise .raised
  | .unchanged => pure ()
  | .changed =>
    Act.pass apply.backup
    Act.write apply.write fun w => w.install apply.payload

def putBackRuntimeReset (fault : StepFault) (path : String) :
    Option String → Act Payload Unit
  | none => cancelRuntimeReset fault path
  | some digest => requestRuntimeReset fault path digest

/-- `_put_back_runtime_reset` as far as it is heard of: its exceptions are only logged. -/
def putBackQuietly (fault : StepFault) (path : String) (previous : Option String) :
    Act Payload Unit :=
  Program.catching (putBackRuntimeReset fault path previous) fun stop =>
    match stop with
    | .raised => pure ()
    | .died => Program.raise .died

def holds (apply : SetupApply Payload) (w : World Payload) : Bool :=
  apply.heldReadable && w.config = some apply.payload

/-- What an apply does behind what ended its write. -/
def afterFailure (apply : SetupApply Payload) (path : String) (previous : Option String)
    (stop : Stop) : Act Payload Unit := do
  match stop with
  | .died => Program.raise .died
  | .raised =>
    let held ← Act.read (holds apply)
    if held then Program.raise .raised
    else
      putBackQuietly apply.putBack path previous
      Program.raise .raised

def setupApply (apply : SetupApply Payload) : Act Payload Unit := do
  match runtimeStatePath site apply.payload with
  | none => Program.raise .raised
  | some path =>
    let previous ← Act.read fun w =>
      if apply.previousReadable then pendingRuntimeReset w path else none
    requestRuntimeReset apply.request path (site.digest apply.payload)
    Program.catching (applyPrepared site apply) (afterFailure apply path previous)

/-! ### A start of the EMS -/

/-- A start of the EMS, with where it dies. -/
structure EmsStart where
  stamp : String
  setAside : StepFault
  schedulesStamp : String
  setSchedulesAside : StepFault
  dropRequest : StepFault
  save : StepFault

/-- The state a start ends with, and how many Setup writes had taken effect when it was built. -/
structure InForce where
  data : Entries
  builtAfter : ℕ

theorem exists_free (backups : List (BackupName × JsonFile)) (path stamp : String) :
    ∃ counter, ⟨path, stamp, counter⟩ ∉ backups.map Prod.fst := by
  obtain ⟨counter, hcounter⟩ :=
    Infinite.exists_notMem_finset (backups.map fun kept => kept.1.counter).toFinset
  refine ⟨counter, fun h => hcounter (List.mem_toFinset.mpr ?_)⟩
  obtain ⟨kept, hkept, hname⟩ := List.mem_map.mp h
  exact List.mem_map.mpr ⟨kept, hkept, by rw [hname]⟩

/-- `_setup_backup_path`: the first counter that is free. -/
def setupBackupPath (backups : List (BackupName × JsonFile)) (path stamp : String) : BackupName :=
  ⟨path, stamp, Nat.find (exists_free backups path stamp)⟩

/-- A file renamed to a backup of it. -/
def World.keepAside (w : World Payload) (path stamp installed : String) (file : JsonFile) :
    World Payload :=
  { w with
    files := Function.update w.files path none
    backups := w.backups ++ [(setupBackupPath w.backups path stamp, file)]
    taken := w.taken ++ [⟨setupBackupPath w.backups path stamp, file, installed⟩] }

def World.setFileAside (w : World Payload) (path stamp installed : String) : World Payload :=
  match w.files path with
  | none => w
  | some file => w.keepAside path stamp installed file

/-- `os.replace` of a file by a backup of it, where the file exists. -/
def setFileAside (fault : StepFault) (path stamp installed : String) : Act Payload Unit :=
  Act.write fault fun w => w.setFileAside path stamp installed

def setStateAside (start : EmsStart) (path installed : String) : Act Payload Unit := do
  setFileAside start.setAside path start.stamp installed
  setFileAside start.setSchedulesAside (resolveSchedulesPath path) start.schedulesStamp installed

def settleRuntimeReset (start : EmsStart) (path installed : String) : Act Payload Unit := do
  let marker ← Act.read fun w => w.request path
  match marker with
  | none => pure ()
  | some request =>
    (if request.requestedDigest = some installed then setStateAside start path installed
      else pure ()) >>= fun _ => cancelRuntimeReset start.dropRequest path

/-- `save_atomic` of a state that was built at some time. -/
def saveState (fault : StepFault) (path : String) (data : Entries) (builtAfter : ℕ) :
    Act Payload Unit :=
  Act.write fault fun w =>
    { w with
      files := Function.update w.files path (some (.json (.dict data)))
      builtAfter := Function.update w.builtAfter path builtAfter }

/-- `_reconcile_locked` of what was loaded, and whether it is saved. -/
def reconciledState (defaults : RuntimeDefaults) (loaded : PyValue) : Entries × Bool :=
  let entries := (loaded.dict?).getD []
  let devices := reconcileRuntimeDevices (objectAt entries "devices") defaults.devices true
  (dictSet (mergeRuntimeDefaults entries defaults) "devices" (.dict devices.1), devices.2.changed)

def saveIfChanged (fault : StepFault) (path : String) (state : Entries × Bool) (builtAfter : ℕ) :
    Act Payload Unit :=
  if state.2 then saveState fault path state.1 builtAfter else pure ()

def loadOrCreate (start : EmsStart) (path : String) (defaults : RuntimeDefaults) :
    Act Payload InForce := do
  let w ← Act.read id
  match w.files path with
  | none =>
    let data := mergeRuntimeDefaults [] defaults
    saveState start.save path data w.setupWrites
    pure ⟨data, w.setupWrites⟩
  -- A file that cannot be read leaves the defaults in force, and stays.
  | some .corrupt => pure ⟨mergeRuntimeDefaults [] defaults, w.setupWrites⟩
  | some (.json loaded) =>
    saveIfChanged start.save path (reconciledState defaults loaded) (w.builtAfter path)
    pure ⟨(reconciledState defaults loaded).1, w.builtAfter path⟩

/-- `start_runtime_state` of the installed config. -/
def startRuntimeState (start : EmsStart) : Act Payload InForce := do
  let config ← Act.read World.config
  match config with
  | none => Program.raise .raised
  | some payload =>
    match site.parse payload, runtimeStatePath site payload with
    | some document, some path =>
      settleRuntimeReset start path (site.digest payload)
      loadOrCreate start path (site.defaults document)
    | _, _ => Program.raise .raised

/-! ### Runs -/

inductive Event (Payload : Type) where
  | setup (apply : SetupApply Payload)
  | start (start : EmsStart)

/-- The files that a call leaves, however it ends. -/
def step (w : World Payload) : Event Payload → World Payload
  | .setup apply => (setupApply site apply w).2
  | .start start => (startRuntimeState site start w).2

end SolarFlowEms.Runtime
