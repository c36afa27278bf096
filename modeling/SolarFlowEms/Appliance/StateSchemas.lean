import Mathlib.Data.List.Sort
import SolarFlowEms.Library.AssocFold

/-!
# The formats of the appliance's state

The appliance keeps a record of the formats that its state is written in, a number for each axis.
A manager implements a number for each axis that it knows, reads from a floor on, and writes all
of them but the retired ones.  A package declares the numbers of its manager.

An install is judged on the record and on what the running manager writes, and claims in the
record what both managers know, before the new manager starts.
-/

namespace SolarFlowEms.Appliance.StateSchemas

/-- Numbers by axis. -/
abbrev Schemas := AList (fun _ : String => ℕ)

/-- `schemas.get(axis, 0)`. -/
def numberOr0 (schemas : Schemas) (axis : String) : ℕ := (schemas.lookup axis).getD 0

/-- `sorted(schemas)`. -/
def sortedAxes (schemas : Schemas) : List String :=
  schemas.keys.insertionSort (· ≤ ·)

/-- `schemas == other`. -/
def sameSchemas (schemas other : Schemas) : Bool :=
  schemas.keys.length = other.keys.length ∧
    ∀ entry ∈ schemas.entries, other.lookup entry.1 = some entry.2

/-! ### Managers and packages -/

/-- A release of the Appliance Manager, as far as formats go. -/
structure Manager where
  /-- `implemented_schemas()`. -/
  implemented : Schemas
  positive : ∀ axis number, implemented.lookup axis = some number → 0 < number
  /-- The axes that it names and no longer writes. -/
  retired : List String
  /-- `readable_floors()`. -/
  floors : Schemas

/-- `written_schemas()`. -/
def Manager.written (manager : Manager) : Schemas :=
  manager.implemented.foldl
    (fun written axis number => if axis ∈ manager.retired then written else written.insert axis number) ∅

/-- What a package says about its manager. -/
structure Declaration where
  implements : Schemas
  reads : Schemas

/-- A package, whose manifest speaks for its manager or, for some that were kept, says nothing. -/
structure Package where
  manager : Manager
  declares : Bool
  architecture : String

def Package.declaration (package : Package) : Declaration :=
  if package.declares then ⟨package.manager.implemented, package.manager.floors⟩ else ⟨∅, ∅⟩

/-! ### The record -/

/-- The record as it is read. -/
structure StateStamp where
  present : Bool
  schemas : Schemas
  unreadable : String

/-- `read_stamp` of the schemas in the file, where there is one. -/
def readStamp : Option Schemas → StateStamp
  | none => ⟨false, ∅, ""⟩
  | some schemas =>
    if schemas.keys.isEmpty then ⟨true, ∅, "the record names no schemas"⟩ else ⟨true, schemas, ""⟩

inductive Outcome where
  | adopted
  | matched
  | raised
  | behind
  | unreadable
deriving DecidableEq

/-- `StampReconciliation`. -/
structure StampReconciliation where
  outcome : Outcome
  implemented : Schemas
  recorded : Schemas
  behind : List String
  detail : String

/-- The axes that the record names above what a manager implements. -/
def behindAxes (recorded implemented : Schemas) : List String :=
  (sortedAxes recorded).filter fun axis => numberOr0 recorded axis > numberOr0 implemented axis

def compare (stamp : StateStamp) (implemented : Schemas) : StampReconciliation :=
  if stamp.unreadable ≠ "" then
    ⟨.unreadable, implemented, ∅, [], stamp.unreadable⟩
  else if !stamp.present then
    ⟨.adopted, implemented, ∅, [], "this partition carried no state schema record"⟩
  else
    let recorded := stamp.schemas
    let behind := behindAxes recorded implemented
    if !behind.isEmpty then
      let named := ", ".intercalate (behind.map fun axis =>
        s!"{axis} {numberOr0 recorded axis}>{numberOr0 implemented axis}")
      ⟨.behind, implemented, recorded, behind,
        s!"this partition holds state written by a newer Appliance Manager ({named}); " ++
          "the running one cannot prove it understands that format"⟩
    else
      let raised := (sortedAxes implemented).filter fun axis =>
        numberOr0 implemented axis > numberOr0 recorded axis
      if !raised.isEmpty then
        ⟨.raised, implemented, recorded, [],
          "now owned at a newer schema: " ++ ", ".intercalate raised⟩
      else ⟨.matched, implemented, recorded, [], ""⟩

def recordedForJudging (record : Option Schemas) (implemented : Schemas) :
    Option Schemas × StampReconciliation :=
  let stamp := readStamp record
  let verdict := compare stamp implemented
  if verdict.outcome = .unreadable then (none, verdict)
  else if !stamp.present then (some verdict.implemented, verdict)
  else (some stamp.schemas, verdict)

def merge (recorded implemented : Schemas) : Schemas :=
  implemented.foldl (fun merged axis number =>
    merged.insert axis (max number (numberOr0 merged axis))) recorded

def claimable (implemented incoming : Schemas) : Schemas :=
  implemented.foldl (fun claim axis number =>
    match incoming.lookup axis with
    | some other => claim.insert axis (min number other)
    | none => claim) ∅

/-- What an install claims, `incoming` being what the manager implements that it starts. -/
def claimOf (implemented : Schemas) : Option Schemas → Schemas
  | none => implemented
  | some incoming => claimable implemented incoming

/-- `reconcile`, as far as the record that it leaves. -/
def reconcile (record : Option Schemas) (implemented : Schemas) (incoming : Option Schemas) :
    Option Schemas :=
  let stamp := readStamp record
  match (compare stamp implemented).outcome with
  | .matched => record
  | .behind => record
  | .unreadable => record
  | _ =>
    let schemas := merge stamp.schemas (claimOf implemented incoming)
    if schemas.keys.isEmpty || sameSchemas schemas stamp.schemas then record else some schemas

/-! ### The judgement of a package -/

structure Problem where
  code : String
  message : String
deriving DecidableEq

def recordedSchemaProblem (release : Declaration) (axis : String) (value : ℕ) : Option Problem :=
  match release.implements.lookup axis with
  | none => some ⟨"artifact_state_schema_undeclared",
      s!"this appliance holds {axis} state; the artifact does not say " ++
        "whether its manager can read that format"⟩
  | some implements =>
    let floor := (release.reads.lookup axis).getD implements
    if value > implements then
      some ⟨"artifact_state_schema_too_old",
        s!"this appliance's state is written at {axis} schema {value}; " ++
          s!"the artifact's manager implements {implements} and could not read it"⟩
    else if value < floor then
      some ⟨"artifact_state_schema_unreadable",
        s!"the artifact's manager reads {axis} schema {floor} or newer; this " ++
          s!"appliance's state is written at {value}"⟩
    else none

def writtenSchemaProblem (release : Declaration) (axis : String) (value : ℕ) : Option Problem :=
  match release.implements.lookup axis with
  | none => none
  | some implements =>
    let floor := (release.reads.lookup axis).getD implements
    let message (reads : String) :=
      s!"the running Appliance Manager writes {axis} state at schema {value}; " ++
        s!"the artifact's manager {reads} and could not read it"
    if value > implements then
      some ⟨"artifact_state_schema_too_old", message s!"implements {implements}"⟩
    else if value < floor then
      some ⟨"artifact_state_schema_unreadable", message s!"reads {floor} or newer"⟩
    else none

def stateSchemasUnrecorded : Problem where
  code := "state_schemas_unrecorded"
  message :=
    "this appliance has no record of what its stored state is formatted " ++
    "as, so no artifact can be proven able to read it. The record is " ++
    "ems-appliance/state-schema.json on the persistent partition; a " ++
    "manager that cannot read one never rewrites it, so an unreadable " ++
    "record has to be removed by hand and the next reconciliation will " ++
    "adopt the partition"

def artifactStateSchemasUndeclared : Problem where
  code := "artifact_state_schemas_undeclared"
  message :=
    "the artifact does not say what state formats its manager implements, " ++
    "so it cannot be proven able to read this appliance's state"

def recordedProblems (release : Declaration) (recorded : Schemas) : List (String × Problem) :=
  (sortedAxes recorded).filterMap fun axis =>
    (recordedSchemaProblem release axis (numberOr0 recorded axis)).map fun problem => (axis, problem)

/-- The problems of the axes that the running manager writes. -/
def writtenProblems (release : Declaration) (named : List String) (writing : Schemas) :
    List Problem :=
  (sortedAxes writing).filterMap fun axis =>
    if axis ∈ named then none else writtenSchemaProblem release axis (numberOr0 writing axis)

def stateSchemaProblems (release : Declaration) (recorded : Option Schemas) (writing : Schemas) :
    List Problem :=
  match recorded with
  | none => [stateSchemasUnrecorded]
  | some recorded =>
    if release.implements.keys.isEmpty then [artifactStateSchemasUndeclared]
    else
      let problems := recordedProblems release recorded
      problems.map Prod.snd ++ writtenProblems release (problems.map Prod.fst) writing

def architectureProblem (own architecture : String) : List Problem :=
  if own ≠ architecture then
    [⟨"package_architecture_unsupported",
      s!"the package is {own}, this appliance is {architecture}"⟩]
  else []

def compatibilityProblems (architecture : String) (package : Package) (recorded : Option Schemas)
    (writing : Schemas) : List Problem :=
  architectureProblem package.architecture architecture ++
    stateSchemaProblems package.declaration recorded writing

/-- A kept package without a declaration is not judged. -/
def retainedProblems (architecture : String) (target : Package) (recorded : Option Schemas)
    (writing : Schemas) : List Problem :=
  if target.declaration.implements.keys.isEmpty then []
  else
    architectureProblem
        (if target.architecture = "" then architecture else target.architecture) architecture ++
      stateSchemaProblems target.declaration recorded writing

/-! ### Runs of an appliance -/

/-- An appliance: its record, the manager that runs, and the number that the state of each axis was
last written at. -/
structure World where
  record : Option Schemas
  running : Manager
  disk : String → Option ℕ

/-- What a manager leaves on the disk that writes its formats. -/
def writeFormats (manager : Manager) (disk : String → Option ℕ) (axis : String) : Option ℕ :=
  match manager.written.lookup axis with
  | some number => some number
  | none => disk axis

def World.run (w : World) : World := { w with disk := writeFormats w.running w.disk }

/-- The ways to install a package: from the index, the kept one from the page, and the kept one
from the console. -/
inductive Route where
  | update
  | revert
  | rollback (force : Bool)
deriving DecidableEq

/-- How an install ends behind its claim: the new manager starts, nothing is installed, or the new
manager ran and the one before it was put back. -/
inductive Ending where
  | started
  | interrupted
  | fellBack
deriving DecidableEq

structure Install where
  route : Route
  package : Package
  ending : Ending

inductive Event where
  | run
  | install (install : Install)


variable (architecture : String)

/-- The problems that an install is judged by. -/
def World.problems (w : World) (install : Install) : List Problem :=
  let recorded := (recordedForJudging w.record w.running.implemented).1
  match install.route with
  | .update => compatibilityProblems architecture install.package recorded w.running.written
  | _ => retainedProblems architecture install.package recorded w.running.written

def World.behind (w : World) : Bool :=
  (recordedForJudging w.record w.running.implemented).2.outcome = .behind

/-- `_apply`, `_execute_revert` and the console's rollback up to their claims. -/
def World.accepts (w : World) (install : Install) : Bool :=
  match install.route with
  | .rollback force => force || (w.problems architecture install).isEmpty
  | _ => !w.behind && (w.problems architecture install).isEmpty

/-- `problem["code"].startswith("artifact_state_schema")`. -/
def Problem.ofSchema (problem : Problem) : Bool :=
  "artifact_state_schema".toList.isPrefixOf problem.code.toList

/-- The console claims the whole set where it was forced past a format. -/
def World.incoming (w : World) (install : Install) : Option Schemas :=
  match install.route with
  | .rollback _ =>
    if (w.problems architecture install).any Problem.ofSchema then none
    else some install.package.declaration.implements
  | _ => some install.package.declaration.implements

def World.claimed (w : World) (install : Install) : World :=
  { w with record := reconcile w.record w.running.implemented (w.incoming architecture install) }

/-- The manager that runs behind an install, and what is on the disk then. -/
def World.ended (w : World) (install : Install) : World :=
  match install.ending with
  | .started => { w with running := install.package.manager }
  | .interrupted => w
  | .fellBack => { w with disk := writeFormats install.package.manager w.disk }

/-- An install by the running manager, whose formats are on the disk. -/
def World.install (w : World) (install : Install) : World :=
  if w.run.accepts architecture install then
    (w.run.claimed architecture install).ended install
  else w.run

def step (w : World) : Event → World
  | .run => w.run
  | .install install => w.install architecture install

end SolarFlowEms.Appliance.StateSchemas
