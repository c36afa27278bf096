import SolarFlowEms.Library.Document
import SolarFlowEms.Library.Fallible
import SolarFlowEms.Library.Run
import SolarFlowEms.Library.Table

/-!
# The operations of the appliance

Every change the appliance makes to its host is an operation, and every operation is a record on
the card.  A record is planned, confirmed and run, and it ends in a state that is final or in a
recoverable failure, which may be run again.  The records are the only lock there is: while one
of them is not settled, no plan is made.

A call of the store reads the clock once, asks the card for room once a record, and either writes
the record or leaves it as it was.  What a full card refused is kept in memory, the ends that
`finish` could not write and the recoveries that the start of the agent could not, and is written
before the next plan is made.
-/

namespace SolarFlowEms.Appliance

open Python Documents Tables Fallible

/-! ### States -/

/-- The texts of `ALL_STATES`. -/
def allStateTexts : List String :=
  ["planned", "awaiting_confirmation", "running", "verifying", "succeeded", "failed_recoverable",
    "rolling_back", "rolled_back", "failed_terminal", "cancelled", "manual_action_required"]

/-- The state of a record, which another version of the manager may have written. -/
inductive OperationState where
  | planned
  | awaitingConfirmation
  | running
  | verifying
  | succeeded
  | failedRecoverable
  | rollingBack
  | rolledBack
  | failedTerminal
  | cancelled
  | manualActionRequired
  | unknown (text : String) (notOurs : text ∉ allStateTexts)
deriving DecidableEq

namespace OperationState

def text : OperationState → String
  | planned => "planned"
  | awaitingConfirmation => "awaiting_confirmation"
  | running => "running"
  | verifying => "verifying"
  | succeeded => "succeeded"
  | failedRecoverable => "failed_recoverable"
  | rollingBack => "rolling_back"
  | rolledBack => "rolled_back"
  | failedTerminal => "failed_terminal"
  | cancelled => "cancelled"
  | manualActionRequired => "manual_action_required"
  | unknown text _ => text

/-- `TERMINAL_STATES`. -/
def terminal : OperationState → Bool
  | succeeded => true
  | rolledBack => true
  | failedTerminal => true
  | cancelled => true
  | manualActionRequired => true
  | _ => false

/-- `SETTLED_STATES`: the operation has stopped acting on the host. -/
def settled (state : OperationState) : Bool := state.terminal || state = failedRecoverable

def transitions : OperationState → List OperationState
  | planned => [awaitingConfirmation, cancelled]
  | awaitingConfirmation => [running, cancelled, failedTerminal]
  | running =>
    [verifying, succeeded, rollingBack, failedRecoverable, failedTerminal, manualActionRequired]
  | verifying => [succeeded, rollingBack, failedRecoverable, failedTerminal, manualActionRequired]
  | rollingBack => [rolledBack, failedTerminal]
  | failedRecoverable => [running, cancelled, failedTerminal]
  | _ => []

end OperationState

/-! ### Records -/

/-- A record without its id, which is its file's name. -/
structure Operation where
  type : String
  schemaVersion : ℤ
  requestedTarget : Entries
  state : OperationState
  stage : String
  startedAt : ℚ
  updatedAt : ℚ
  finishedAt : Option ℚ
  confirmationToken : String
  result : Option Entries
  error : Option Entries
  progress : List Entries
  acknowledged : Bool
  actor : String
  planRequestDigest : String
  hostDownBoot : String

namespace Operation

def terminal (op : Operation) : Bool := op.state.terminal

def settled (op : Operation) : Bool := op.state.settled

def blocking (op : Operation) : Bool := !op.settled

end Operation

/-- The end an executor asks for: a settled state with what came of the operation. -/
structure End where
  state : OperationState
  settled : state.settled = true
  result : Option Entries
  error : Option Entries
  stage : Option String

/-- The two states between the start and the end that an executor reports. -/
inductive Progress where
  | verifying
  | rollingBack
deriving DecidableEq

def Progress.state : Progress → OperationState
  | .verifying => .verifying
  | .rollingBack => .rollingBack

inductive StoreError where
  | operation (code message : String)
  | os
deriving DecidableEq

def unknownOperation (id : String) : StoreError :=
  .operation "unknown_operation_id" ("no operation " ++ id)

def invalidTransition (current target : OperationState) : StoreError :=
  .operation "invalid_operation_transition"
    ("cannot move an operation from " ++ current.text ++ " to " ++ target.text)

def operationConflict (activeId activeType : String) : StoreError :=
  .operation "operation_conflict"
    ("operation " ++ activeType ++ " (" ++ activeId ++ ") is still active")

abbrev Attempt (α : Type) := Except StoreError α

/-! ### What a call makes of a record -/

namespace Operation

def maxProgressEntries : ℕ := 200

def moveTo (op : Operation) (target : OperationState) : Attempt Operation :=
  if target ∈ op.state.transitions then .ok { op with state := target }
  else .error (invalidTransition op.state target)

/-- One more entry of the progress, of which only the newest are kept. -/
def logged (op : Operation) (entry : Entries) : Operation :=
  { op with progress :=
      (op.progress ++ [entry]).drop (op.progress.length + 1 - maxProgressEntries) }

def progressEntry (stage : String) (now : ℚ) : Entries :=
  [("stage", .str stage), ("at", .float (.finite now))]

def requireToken (op : Operation) (token : String) : Attempt Unit :=
  if op.confirmationToken = token then .ok ()
  else .error (.operation "confirmation_token_mismatch" "confirmation token is invalid")

def awaitConfirmation (plan : PyValue) (op : Operation) : Attempt Operation := do
  let op ← op.moveTo .awaitingConfirmation
  return { op with stage := "awaiting_confirmation", result := some [("plan", plan)] }

def confirm (token : String) (op : Operation) : Attempt Operation := do
  op.requireToken token
  let op ← op.moveTo .running
  return { op with stage := "running", hostDownBoot := "" }

def refuseOther (id : String) (active : Option (String × Operation)) : Attempt Unit :=
  match active with
  | none => .ok ()
  | some (activeId, other) =>
    if activeId = id then .ok () else .error (operationConflict activeId other.type)

/-- A failed operation is run again while none but itself is active. -/
def retry (id token : String) (active : Option (String × Operation)) (op : Operation) :
    Attempt Operation := do
  op.requireToken token
  refuseOther id active
  let op ← op.moveTo .running
  return { op with stage := "running", error := none, hostDownBoot := "" }

def updateTarget (values : Entries) (op : Operation) : Attempt Operation :=
  .ok { op with requestedTarget :=
      values.foldl (fun target entry => dictSet target entry.1 entry.2) op.requestedTarget }

/-- The state an executor reports, where it reports one. -/
def report (state : Option Progress) (op : Operation) : Attempt Operation :=
  match state with
  | none => .ok op
  | some progress => if progress.state = op.state then .ok op else op.moveTo progress.state

def advance (now : ℚ) (bootId stage : String) (state : Option Progress) (detail : Option String)
    (hostDown : Bool) (op : Operation) : Attempt Operation := do
  let op ← op.report state
  let op := if hostDown then { op with hostDownBoot := bootId } else op
  let entry := progressEntry stage now ++
    match detail with
    | none => []
    | some detail => if detail = "" then [] else [("detail", .str detail)]
  return { op with stage }.logged entry

/-- `str(stage or state)`. -/
def endStage (e : End) : String :=
  match e.stage with
  | none => e.state.text
  | some stage => if stage = "" then e.state.text else stage

def finish (now : ℚ) (e : End) (op : Operation) : Attempt Operation := do
  let op ← op.moveTo e.state
  return { op with
    stage := endStage e, result := e.result, error := e.error,
    finishedAt := some now }.logged (progressEntry (endStage e) now)

/-- The last entry of the progress with another detail. -/
def note (detail : String) (op : Operation) : Attempt Operation :=
  .ok <| match op.progress.getLast? with
    | none => op
    | some entry =>
      { op with progress := op.progress.dropLast ++ [dictSet entry "detail" (.str detail)] }

def acknowledge (op : Operation) : Attempt Operation :=
  if op.settled then .ok { op with acknowledged := true }
  else .error (.operation "operation_not_terminal" "only a finished operation can be acknowledged")

/-! ### Recovery -/

/-- `UNTOUCHED_STAGES`: nothing on the host has been changed yet. -/
def untouchedStages : List String :=
  ["running", "preflight", "pulling_image", "inspecting_image", "verifying_target_image",
    "refreshing_index", "reboot_requested", "shutdown_requested"]

def interruptedError (code message : String) : Option Entries :=
  some [("code", .str code), ("message", .str message)]

def changeInterruptedMessage (stage : String) : String :=
  "the appliance agent restarted while this operation was at " ++ stage ++
    ", after it had begun to change the appliance; it is not run again over a change that may " ++
    "be half made. Check the appliance, then plan the operation anew."

def stateUnknownMessage (text : String) : String :=
  "another Appliance Manager version left this operation in a state this one does not know (" ++
    text ++ ")"

/-- What becomes of an operation that a restart of the agent interrupted, where it was not
settled. -/
def recovered (now : ℚ) (booted : String) (op : Operation) : Option Operation :=
  match op.state with
  | .running =>
    if op.hostDownBoot ≠ "" ∧ booted ≠ "" ∧ op.hostDownBoot ≠ booted then
      some ({ op with
        state := .succeeded, stage := OperationState.succeeded.text,
        result := some [("accepted", .bool true), ("host_went_down", .bool true)],
        error := none, finishedAt := some now }.logged
          (progressEntry OperationState.succeeded.text now))
    else if op.stage ∈ untouchedStages then
      some { op with
        state := .failedRecoverable, stage := "interrupted",
        error := interruptedError "operation_interrupted"
          "the appliance agent restarted while this operation was running" }
    else some (half op)
  | .verifying => some (half op)
  | .rollingBack => some (half op)
  | .planned => some (expired op)
  | .awaitingConfirmation => some (expired op)
  | .unknown text _ =>
    some { op with
      state := .failedTerminal, stage := "failed", finishedAt := some now,
      error := interruptedError "operation_state_unknown" (stateUnknownMessage text) }
  | _ => none
where
  half (op : Operation) : Operation :=
    { op with
      state := .manualActionRequired, stage := "interrupted", finishedAt := some now,
      error := interruptedError "operation_interrupted_after_change"
        (changeInterruptedMessage op.stage) }
  expired (op : Operation) : Operation :=
    { op with
      state := .cancelled, stage := "cancelled", finishedAt := some now,
      error := interruptedError "operation_interrupted"
        "the plan expired when the appliance agent restarted" }

end Operation

end SolarFlowEms.Appliance
