import SolarFlowEms.Appliance.Operations

/-!
# The store of operations and the agent that calls it

The store holds the records, one file each, and three tables in memory: the ends and the
recoveries that could not be written, and the plans whose planner is still running.  The agent
calls the store in one step after the other; a request to execute an operation takes three steps,
between which the other requests, the executors and a restart of the agent may come.
-/

namespace SolarFlowEms.Appliance

open Python Documents Tables Fallible

/-! ### The store -/

structure Store where
  records : Table String Operation
  /-- The first end that was asked for and could not be written. -/
  unfinished : Table String End
  /-- The records whose recovery could not be written, with `updated_at` as it was read. -/
  unrecorded : Table String ℚ
  planning : List String

/-- What a call meets: the clock, the boot, and which records there is room for or can be
removed. -/
structure Moment where
  now : ℚ
  bootId : String
  writable : String → Bool
  removable : String → Bool

namespace Store

def load (s : Store) (id : String) : Attempt Operation :=
  match s.records.lookup id with
  | none => .error (unknownOperation id)
  | some op => .ok op

/-- The store after a save that was written: nothing of the record is left in memory. -/
def written (s : Store) (id : String) (op : Operation) : Store :=
  { s with
    records := s.records.upsert id op
    unrecorded := s.unrecorded.erase id
    unfinished := s.unfinished.erase id }

def save (m : Moment) (s : Store) (id : String) (op : Operation) : Attempt Operation × Store :=
  if m.writable id then
    (.ok { op with updatedAt := m.now }, s.written id { op with updatedAt := m.now })
  else (.error .os, s)

/-- Load a record, change it and save it. -/
def revise (m : Moment) (s : Store) (id : String) (change : Operation → Attempt Operation) :
    Attempt Operation × Store :=
  match s.load id >>= change with
  | .error e => (.error e, s)
  | .ok op => s.save m id op

/-- `_read_all`: the records in the order of their files' names. -/
def sortedRows (s : Store) : List (String × Operation) :=
  s.records.rows.mergeSort fun row row' => decide (row.1 ++ ".json" ≤ row'.1 ++ ".json")

def active (s : Store) : Option (String × Operation) :=
  s.sortedRows.find? fun row => row.2.blocking || decide (row.1 ∈ s.planning)

def planningEnded (s : Store) (id : String) : Store :=
  { s with planning := s.planning.filter (· ≠ id) }

/-! ### Ends -/

/-- `self.unfinished.setdefault(id, end)`. -/
def keepEnd (s : Store) (id : String) (e : End) : Store :=
  match s.unfinished.lookup id with
  | none => { s with unfinished := s.unfinished.upsert id e }
  | some _ => s

/-- `finish`: an end that was kept comes before the one that is asked for now. -/
def finish (m : Moment) (s : Store) (id : String) (e : End) : Attempt Operation × Store :=
  let e := (s.unfinished.lookup id).getD e
  match s.revise m id (Operation.finish m.now e) with
  | (.error .os, s) => (.error .os, s.keepEnd id e)
  | outcome => outcome

def cancelledEnd (error : Option Entries) : End :=
  ⟨.cancelled, rfl, none, error, some "cancelled"⟩

def cancel (m : Moment) (s : Store) (id : String) : Attempt Operation × Store :=
  s.finish m id (cancelledEnd none)

/-! ### What a full card refused -/

structure Recovery where
  store : Store
  unrecorded : Table String ℚ
  recovered : List (String × Operation)

/-- Whether a recovery of only the records of a table leaves this one out. -/
def leftOut (only : Option (Table String ℚ)) (id : String) (seen : ℚ) : Bool :=
  match only with
  | none => false
  | some only => only.lookup id ≠ some seen

def recoverRecord (m : Moment) (only : Option (Table String ℚ)) (r : Recovery)
    (row : String × Operation) : Recovery :=
  if (r.store.unfinished.lookup row.1).isSome then r
  else if leftOut only row.1 row.2.updatedAt then r
  else
    match row.2.recovered m.now m.bootId with
    | none => r
    | some op =>
      match r.store.save m row.1 op with
      | (.ok op, store) => { r with store, recovered := r.recovered ++ [(row.1, op)] }
      | (.error _, store) =>
        { r with store, unrecorded := r.unrecorded.upsert row.1 row.2.updatedAt }

def recoverInterrupted (m : Moment) (only : Option (Table String ℚ)) (s : Store) :
    List (String × Operation) × Store :=
  let r := Run.run (recoverRecord m only) ⟨s, .empty, []⟩ s.sortedRows
  (r.recovered, { r.store with unrecorded := r.unrecorded })

/-- One kept end: written, dropped where its record has ended or gone, or kept again. -/
def closeEnd (m : Moment) (s : Store) (row : String × End) : Store :=
  match s.load row.1 with
  | .error _ => { s with unfinished := s.unfinished.erase row.1 }
  | .ok op =>
    if op.terminal then { s with unfinished := s.unfinished.erase row.1 }
    else
      match s.revise m row.1 (Operation.finish m.now row.2) with
      | (.error .os, s) => s
      | (_, s) => { s with unfinished := s.unfinished.erase row.1 }

def closeUnrecorded (m : Moment) (s : Store) : Store :=
  let s := Run.run (closeEnd m) s s.unfinished.rows
  if s.unrecorded.rows = [] then s else (s.recoverInterrupted m (some s.unrecorded)).2

/-! ### Plans -/

def maxRetainedOperations : ℕ := 50

def pruneRecord (m : Moment) (s : Store) (row : String × Operation) : Store :=
  if row.2.terminal && m.removable row.1 then { s with records := s.records.erase row.1 } else s

/-- `_prune`: the final records beyond the newest are removed. -/
def prune (m : Moment) (s : Store) : Store :=
  Run.run (pruneRecord m) s <|
    (s.sortedRows.mergeSort fun row row' => decide (row'.2.startedAt ≤ row.2.startedAt)).drop
      maxRetainedOperations

/-- What a plan is asked for with, beside the id and the token that are drawn for it. -/
structure PlanRequest where
  id : String
  token : String
  type : String
  requestedTarget : Entries
  actor : String
  planRequest : String
  planning : Bool

def operationSchemaVersion : ℤ := 2

variable (digest : String → String)

def newOperation (m : Moment) (request : PlanRequest) : Operation where
  type := request.type
  schemaVersion := operationSchemaVersion
  requestedTarget := request.requestedTarget
  state := .planned
  stage := "planned"
  startedAt := m.now
  updatedAt := m.now
  finishedAt := none
  confirmationToken := request.token
  result := none
  error := none
  progress := []
  acknowledged := false
  actor := request.actor
  planRequestDigest := if request.planRequest = "" then "" else digest request.planRequest
  hostDownBoot := ""

def create (m : Moment) (s : Store) (request : PlanRequest) : Attempt Operation × Store :=
  let s := s.closeUnrecorded m
  match s.active with
  | some (id, op) => (.error (operationConflict id op.type), s)
  | none =>
    match (s.prune m).save m request.id (newOperation digest m request) with
    | (.error e, s) => (.error e, s)
    | (.ok op, s) =>
      (.ok op, if request.planning then { s with planning := request.id :: s.planning } else s)

/-! ### The other calls -/

def awaitConfirmation (m : Moment) (s : Store) (id : String) (plan : PyValue) :
    Attempt Operation × Store :=
  s.revise m id (Operation.awaitConfirmation plan)

def requireToken (s : Store) (id token : String) : Attempt Unit := do
  let op ← s.load id
  op.requireToken token

def confirm (m : Moment) (s : Store) (id token : String) : Attempt Operation × Store :=
  s.revise m id (Operation.confirm token)

def retry (m : Moment) (s : Store) (id token : String) : Attempt Operation × Store :=
  s.revise m id (Operation.retry id token s.active)

def updateTarget (m : Moment) (s : Store) (id : String) (values : Entries) :
    Attempt Operation × Store :=
  s.revise m id (Operation.updateTarget values)

def advance (m : Moment) (s : Store) (id stage : String) (state : Option Progress)
    (detail : Option String) (hostDown : Bool) : Attempt Operation × Store :=
  s.revise m id (Operation.advance m.now m.bootId stage state detail hostDown)

/-- Forget a plan that is still being made. -/
def discard (m : Moment) (s : Store) (id : String) : Attempt Bool × Store :=
  match s.load id with
  | .error e => (.error e, s)
  | .ok op =>
    if op.state ≠ .planned then (.ok false, s)
    else if m.removable id then (.ok true, { s with records := s.records.erase id })
    else (.error .os, s)

def abandon (m : Moment) (s : Store) (id : String) (error : Option Entries) (acknowledge : Bool) :
    Attempt Operation × Store :=
  match s.load id with
  | .error e => (.error e, s)
  | .ok op =>
    if op.terminal then (.ok op, s)
    else s.revise m id fun op =>
      Operation.finish m.now (cancelledEnd error) { op with acknowledged := acknowledge }

def note (m : Moment) (s : Store) (id detail : String) : Attempt Bool × Store :=
  match s.load id with
  | .error e => (.error e, s)
  | .ok op =>
    if op.terminal then (.ok false, s)
    else
      match s.revise m id (Operation.note detail) with
      | (.error e, s) => (.error e, s)
      | (.ok _, s) => (.ok true, s)

def acknowledge (m : Moment) (s : Store) (id : String) : Attempt Operation × Store :=
  s.revise m id Operation.acknowledge

end Store

/-! ### The agent -/

/-- A request to execute, after it has read the record, and after the token was found right. -/
structure ExecuteRequest where
  id : String
  token : String
  seen : Operation
  tokenChecked : Bool

structure Agent where
  store : Store
  /-- The requests to execute that are under way, by their threads. -/
  executing : Table ℕ ExecuteRequest

/-- The steps of the agent's requests, its planners and executors, and its restart. -/
inductive Step where
  | plan (m : Moment) (request : Store.PlanRequest)
  | planningEnded (id : String)
  | awaitConfirmation (m : Moment) (id : String) (plan : PyValue)
  | updateTarget (m : Moment) (id : String) (values : Entries)
  | advance (m : Moment) (id stage : String) (state : Option Progress) (detail : Option String)
      (hostDown : Bool)
  | finish (m : Moment) (id : String) (e : End)
  | discard (m : Moment) (id : String)
  | abandon (m : Moment) (id : String) (error : Option Entries) (acknowledge : Bool)
  | note (m : Moment) (id detail : String)
  | acknowledge (m : Moment) (id : String)
  | cancel (m : Moment) (id : String)
  | readOperation (thread : ℕ) (id token : String)
  | checkToken (thread : ℕ)
  | startOperation (m : Moment) (thread : ℕ)
  | restart (m : Moment)

namespace Agent

/-- `validate_confirmation`: the code and message of a refusal. -/
abbrev Validate := String → Operation → Option (String × String)

variable (digest : String → String) (validate : Validate)

def withStore (a : Agent) (s : Store) : Agent := { a with store := s }

/-- The end of an operation whose plan is no longer the one that was confirmed. -/
def preflightEnd (seen : Operation) (code message : String) : End where
  state := .failedTerminal
  settled := rfl
  stage := some "preflight_failed"
  error := some [("code", .str code), ("message", .str message)]
  result :=
    let result := dictSet (seen.result.getD []) "stage" (.str "preflight")
    some (if seen.state = .awaitingConfirmation ∧ "admin.".isPrefixOf seen.type then
      dictSet result "admin_untouched" (.bool true) else result)

/-- What follows on a right token: a refused plan is ended, a failed operation run again, and any
other confirmed. -/
def startOperation (m : Moment) (s : Store) (request : ExecuteRequest) :
    Attempt Operation × Store :=
  match validate request.id request.seen with
  | some (code, message) =>
    if request.seen.state = .awaitingConfirmation ∨ request.seen.state = .failedRecoverable then
      s.finish m request.id (preflightEnd request.seen code message)
    else (.error (.operation code message), s)
  | none =>
    if request.seen.state = .failedRecoverable then s.retry m request.id request.token
    else s.confirm m request.id request.token

/-- The store of an agent that starts again on the records there are. -/
def restarted (m : Moment) (s : Store) : Store :=
  (Store.recoverInterrupted m none ⟨s.records, .empty, .empty, []⟩).2

def step (a : Agent) : Step → Agent
  | .plan m request => a.withStore (a.store.create digest m request).2
  | .planningEnded id => a.withStore (a.store.planningEnded id)
  | .awaitConfirmation m id plan => a.withStore (a.store.awaitConfirmation m id plan).2
  | .updateTarget m id values => a.withStore (a.store.updateTarget m id values).2
  | .advance m id stage state detail hostDown =>
    a.withStore (a.store.advance m id stage state detail hostDown).2
  | .finish m id e => a.withStore (a.store.finish m id e).2
  | .discard m id => a.withStore (a.store.discard m id).2
  | .abandon m id error acknowledge => a.withStore (a.store.abandon m id error acknowledge).2
  | .note m id detail => a.withStore (a.store.note m id detail).2
  | .acknowledge m id => a.withStore (a.store.acknowledge m id).2
  | .cancel m id => a.withStore (a.store.cancel m id).2
  | .readOperation thread id token =>
    match a.store.load id with
    | .error _ => a
    | .ok seen => { a with executing := a.executing.upsert thread ⟨id, token, seen, false⟩ }
  | .checkToken thread =>
    match a.executing.lookup thread with
    | none => a
    | some request =>
      match a.store.requireToken request.id request.token with
      | .error _ => { a with executing := a.executing.erase thread }
      | .ok _ =>
        { a with executing := a.executing.upsert thread { request with tokenChecked := true } }
  | .startOperation m thread =>
    match a.executing.lookup thread with
    | none => a
    | some request =>
      if request.tokenChecked then
        ⟨(startOperation validate m a.store request).2, a.executing.erase thread⟩
      else a
  | .restart m => ⟨restarted m a.store, .empty⟩

end Agent

end SolarFlowEms.Appliance
