import SolarFlowEms.Library.KilledScript

/-!
# The deadline of a manager install

The manager arms a deadline before it starts the unit that installs a package.  From then on a
timer runs the reverter, which looks at what is installed: two looks that find the expected
package and the same processes confirm the install, and a window that runs out without them puts
the previous package back.  The unit's script retires the deadline itself where it installed
nothing or has already put the previous package back, and the manager takes it back where systemd
would not start the unit.

The scripts are lists of commands here, chosen by the files as they are when the script starts,
and each may be killed after any of its commands.  The log of a state says what has happened, the
last first; nothing reads it but the statements.
-/

namespace SolarFlowEms.Appliance.InstallDeadline

open Run KilledScript

def revertAttempts : ℕ := 5

/-- `DEADLINE_SCHEMA`, and the number that `arm` writes. -/
def deadlineSchema : ℕ := 1

def tickSeconds : ℕ := 60

def defaultWindowSeconds : ℕ := 900

def package : String := "ems-appliance-manager"

def services : List String := ["ems-appliance-agent.service", "ems-appliance-web.service"]

/-- `STATE`. -/
def stateDir : String := "/var/lib/ems-appliance-manager/agent/packages"

def defaultWebPort : ℕ := 8088

/-- `SETTLED_VERDICTS`; a verdict that is not recorded is pending. -/
inductive Verdict
  | confirmed
  | reverted
  | revertFailed
  | revertUnavailable
deriving DecidableEq

/-- The outcomes that the unit's script records, and the one that the reverter records there. -/
inductive Outcome
  | installed
  | reverted
  | notStarted
  | noRequest
  | requestInvalid
  | revertFailed
  | installFailed
deriving DecidableEq

/-- `verify-deadline.json`, a number that is not there or not a number being none. -/
structure Deadline where
  schemaVersion : Option ℕ
  expectedVersion : String
  buildId : String
  previousPath : String
  previousSha256 : String
  operationId : String
  armedAt : Option ℕ
  deadlineEpoch : Option ℕ
  windowSeconds : Option ℕ
deriving DecidableEq

/-- `install-request.json`; the fallback is none where the request predates the field. -/
structure Request where
  archive : String
  version : String
  fallback : Option String
deriving DecidableEq

structure Files where
  request : Option Request
  result : Option (Outcome × String)
  deadline : Option Deadline
  verdict : Option (Verdict × String)
  attempts : Option ℕ
  ticks : Option ℕ
  stable : Option String
  extended : Option ℕ
deriving DecidableEq

/-- Who records a verdict. -/
inductive Author
  | reverter
  | installer
deriving DecidableEq

/-- How a run of dpkg ended: it installed the package, it got the lock and failed, or it never got
the lock. -/
inductive Pass
  | done
  | failed
  | locked
deriving DecidableEq

/-- What has happened. -/
inductive Event
  /-- The manager wrote a deadline. -/
  | armed (deadline : Deadline)
  /-- A tick looked at the install: the processes that it found healthy, or none. -/
  | looked (seen : Option String)
  | recorded (author : Author) (verdict : Verdict)
  /-- The reverter gave dpkg an archive with this digest. -/
  | reinstalled (digest : String)
  /-- dpkg got to work for the install unit, with a deadline armed. -/
  | installed
  /-- A tick that judged the install ran to its end. -/
  | judged
deriving DecidableEq

/-- The commands of the manager, the reverter and the install unit's script that change a file, the
timer or a unit, or that put something on record. -/
inductive Command
  | removeResult
  | stageRequest (request : Request)
  | withdrawRequest
  | writeDeadline (deadline : Deadline)
  | unlinkDeadline
  | unlinkVerdict
  | unlinkTicks
  | unlinkAttempts
  | unlinkExtended
  | startTimer
  | askStart
  /-- What a tick has found when it has looked. -/
  | look (seen : Option String)
  | keepStable (signature : String)
  | removeStable
  | countTick (ticks : ℕ)
  | countAttempt (attempts : ℕ)
  | extend (until_ : ℕ)
  | reinstall (digest : String)
  /-- The end of a tick that has judged. -/
  | finish
  | installPackage (pass : Pass)
  | configure
  /-- `retire_deadline`, which does nothing where no deadline is there. -/
  | retire (verdict : Verdict) (detail : String)
  | recordVerdict (author : Author) (verdict : Verdict) (detail : String)
  | recordResult (outcome : Outcome) (detail : String)
  /-- `rm -f` of the deadline and of the four files beside it. -/
  | removeFiles
  | stopTimer
deriving DecidableEq

structure State where
  files : Files
  /-- The timer that runs the reverter is enabled. -/
  timer : Bool
  /-- systemd was asked to start the install unit and has not done it yet. -/
  job : Bool
  /-- What the install unit has still to do, where it is running. -/
  unit : Option (List Command)
  log : List Event
deriving DecidableEq

/-- An appliance on which no install was ever started. -/
def State.initial : State :=
  ⟨⟨none, none, none, none, none, none, none, none⟩, false, false, none, []⟩

/-- What one command does. -/
def perform (s : State) : Command → State
  | .removeResult => { s with files.result := none }
  | .stageRequest request => { s with files.request := some request }
  | .withdrawRequest => { s with files.request := none }
  | .writeDeadline d => { s with files.deadline := some d, log := .armed d :: s.log }
  | .unlinkDeadline => { s with files.deadline := none }
  | .unlinkVerdict => { s with files.verdict := none }
  | .unlinkTicks => { s with files.ticks := none }
  | .unlinkAttempts => { s with files.attempts := none }
  | .unlinkExtended => { s with files.extended := none }
  | .startTimer => { s with timer := true }
  | .askStart => { s with job := true }
  | .look seen => { s with log := .looked seen :: s.log }
  | .keepStable signature => { s with files.stable := some signature }
  | .removeStable => { s with files.stable := none }
  | .countTick ticks => { s with files.ticks := some ticks }
  | .countAttempt attempts => { s with files.attempts := some attempts }
  | .extend until_ => { s with files.extended := some until_ }
  | .reinstall digest => { s with log := .reinstalled digest :: s.log }
  | .finish => { s with log := .judged :: s.log }
  | .installPackage pass =>
      if pass = .locked ∨ s.files.deadline.isNone then s
      else { s with log := .installed :: s.log }
  | .configure => s
  | .retire _ _ => s
  | .recordVerdict author verdict detail =>
      { s with files.verdict := some (verdict, detail), log := .recorded author verdict :: s.log }
  | .recordResult outcome detail => { s with files.result := some (outcome, detail) }
  | .removeFiles =>
      { s with
        files.deadline := none
        files.attempts := none
        files.ticks := none
        files.stable := none
        files.extended := none }
  | .stopTimer => { s with timer := false }

/-! ### The manager -/

/-- What the manager arms a deadline with, the request that is staged before included. -/
structure Arming where
  request : Request
  expectedVersion : String
  buildId : String
  previous : String
  /-- `_digest_of(previous)`, none where the archive cannot be read. -/
  digest : Option String
  operationId : String
  now : ℕ
  windowSeconds : ℕ
  /-- `systemctl enable --now` succeeds. -/
  timerStarts : Bool

def Arming.previousSha256 (a : Arming) : String :=
  if a.previous = "" then "" else a.digest.getD ""

/-- The record that `arm` writes. -/
def Arming.deadline (a : Arming) : Deadline where
  schemaVersion := some deadlineSchema
  expectedVersion := a.expectedVersion
  buildId := a.buildId
  previousPath := a.previous
  previousSha256 := a.previousSha256
  operationId := a.operationId
  armedAt := some a.now
  deadlineEpoch := some (a.now + a.windowSeconds)
  windowSeconds := some a.windowSeconds

/-- The staging of the request, `arm`, and the call that asks systemd to start the unit; where the
timer does not start, the deadline and the request are taken back. -/
def armScript (a : Arming) : List Command :=
  [.stageRequest a.request, .removeResult, .writeDeadline a.deadline, .unlinkVerdict, .unlinkTicks,
    .unlinkAttempts, .removeStable, .unlinkExtended] ++
  if a.timerStarts then [.startTimer, .askStart] else [.unlinkDeadline, .withdrawRequest]

def State.unjudged (s : State) : Bool := s.files.deadline.isSome && s.files.verdict.isNone

def State.neverStarted (s : State) : Bool := s.files.result.isNone && s.unit.isNone

/-- `disarm`. -/
def disarmScript : List Command :=
  [.unlinkDeadline, .unlinkTicks, .unlinkAttempts, .removeStable, .unlinkExtended, .stopTimer]

/-- `_take_back`. -/
def takeBackScript (s : State) : List Command :=
  .withdrawRequest :: if s.neverStarted then disarmScript else []

/-! ### The install unit -/

/-- `LOCK_WAIT_SECONDS` over `LOCK_RETRY_SECONDS`: how often dpkg is run again when it is locked
out. -/
def lockRetries : ℕ := 30

/-- What the install unit meets. -/
structure InstallRun where
  isFile : String → Bool
  /-- The runs of dpkg for the archive, and those for the fallback. -/
  install : ℕ → Pass
  fallback : ℕ → Pass
  /-- What dpkg has after `--configure -a`, by status and version. -/
  dpkgQuery : Option (String × String)

/-- The loop of `dpkg_install`: the pass that ends it, where `left` more may follow. -/
def dpkgPasses (passes : ℕ → Pass) : ℕ → ℕ → Pass
  | 0, n => passes n
  | left + 1, n =>
    match passes n with
    | .locked => dpkgPasses passes left (n + 1)
    | pass => pass

def dpkgInstall (passes : ℕ → Pass) : Pass := dpkgPasses passes lockRetries 0

def requestPath : String := stateDir ++ "/install-request.json"

/-- `previous.deb`, the fallback of a request that names none. -/
def previousDeb : String := stateDir ++ "/previous.deb"

def inState (path : String) : Bool := (stateDir ++ "/").toList.isPrefixOf path.toList

def refuse (outcome : Outcome) (detail : String) : List Command :=
  [.removeFiles, .stopTimer, .recordResult outcome detail]

/-- The part of the script that runs when the archive was refused by dpkg. -/
def fallbackScript (r : Request) (previous : String) (e : InstallRun) : List Command :=
  if r.version ≠ "" ∧ e.dpkgQuery = some ("installed", r.version) then
    [.recordResult .installed (r.archive ++ " was left installed by dpkg --configure -a")]
  else if previous ≠ "" ∧ e.isFile previous then
    match dpkgInstall e.fallback with
    | .done =>
      [.installPackage .done,
        .recordResult .reverted ("the install failed and " ++ previous ++ " was put back"),
        .retire .reverted
          ("the install failed and the installer put " ++ previous ++ " back")]
    | pass =>
      [.installPackage pass, .recordResult .revertFailed
        ("the install failed and " ++ previous ++ " could not be put back either")]
  else if previous = "" then
    [.recordResult .installFailed ("the install failed; it reinstalled the package that was " ++
      "running, so there is no other package to put back")]
  else
    [.recordResult .installFailed "the install failed and no earlier package is retained"]

/-- The script of the install unit. -/
def installScript (request : Option Request) (e : InstallRun) : List Command :=
  match request with
  | none => refuse .noRequest ("no install request is waiting at " ++ requestPath)
  | some r =>
    if r.archive = "" then refuse .requestInvalid "the request names no archive"
    else if !e.isFile r.archive then refuse .requestInvalid (r.archive ++ " is not a file")
    else if !inState r.archive then
      refuse .requestInvalid (r.archive ++ " is outside " ++ stateDir)
    else
      let previous := r.fallback.getD previousDeb
      if r.fallback.isSome ∧ previous ≠ "" ∧ inState previous = false then
        refuse .requestInvalid (previous ++ " is outside " ++ stateDir)
      else
        match dpkgInstall e.install with
        | .done => [.installPackage .done, .recordResult .installed r.archive]
        | .locked =>
          [.installPackage .locked, .removeFiles, .stopTimer, .recordResult .notStarted
            "another apt or dpkg run held the package lock for 300s; nothing was installed"]
        | .failed => .installPackage .failed :: .configure :: fallbackScript r previous e

/-- The next command of the install unit, or its end. -/
def unitStep (s : State) : State :=
  match s.unit with
  | none => s
  | some [] => { s with unit := none }
  | some (.retire verdict detail :: rest) =>
    { s with
      unit := some
        (if s.files.deadline.isSome then
          [.recordVerdict .installer verdict detail, .removeFiles, .stopTimer] ++ rest
        else rest) }
  | some (command :: rest) => { perform s command with unit := some rest }

/-! ### The reverter -/

/-- What a tick of the reverter meets. -/
structure Tick where
  now : ℕ
  /-- What dpkg has, by status and version. -/
  dpkgQuery : Option (String × String)
  isActive : String → Bool
  /-- The invocation id and the restart count of a service. -/
  processes : String → String
  /-- The port that the configuration names, by its last line of one. -/
  webPort : Option ℕ
  /-- The ports that are listened on, where there is an `ss` to ask. -/
  listening : Option (ℕ → Bool)
  /-- The files at a path, by what `sha256sum` says of them where it runs. -/
  archive : String → Option (Option String)
  /-- dpkg installs the previous package. -/
  dpkgInstall : Bool

def Tick.isListening (t : Tick) : Bool :=
  match t.listening with
  | none => true
  | some listens => listens (t.webPort.getD defaultWebPort)

def Tick.healthy (t : Tick) (d : Deadline) : Bool :=
  t.dpkgQuery == some ("installed", d.expectedVersion) && d.expectedVersion != "" &&
    services.all t.isActive && t.isListening

def Tick.signature (t : Tick) : String :=
  services.foldl (fun signature service => signature ++ " " ++ t.processes service) ""

/-- What the tick finds: the processes of a healthy install, or nothing. -/
def Tick.look (t : Tick) (d : Deadline) : Option String :=
  if t.healthy d then some t.signature else none

/-- The end of the window, moved on while the install unit ran. -/
def Files.windowEnd (f : Files) (epoch : ℕ) : ℕ := max epoch (f.extended.getD 0)

def grace (seen : Option String) : ℕ := if seen.isSome then 2 * tickSeconds else 0

/-- The verdict and the disarming that follows it. -/
def decide_ (verdict : Verdict) (detail : String) : List Command :=
  [.recordVerdict .reverter verdict detail, .removeFiles, .stopTimer]

/-- The digest of the archive at a path, in the form that `arm` keeps it in. -/
def actualDigest (digest : Option String) : String := "sha256:" ++ digest.getD ""

/-- The way back. -/
def Tick.revert (t : Tick) (f : Files) (d : Deadline) : List Command :=
  match (if d.previousPath = "" then none else t.archive d.previousPath) with
  | none =>
    decide_ .revertUnavailable
      "the deadline expired and this appliance has kept no earlier package to install"
  | some digest =>
    if d.previousSha256 ≠ "" ∧ actualDigest digest ≠ d.previousSha256 then
      decide_ .revertUnavailable
        ("the deadline expired and " ++ d.previousPath ++ " is no longer the package it kept")
    else
      let exhausted := "the deadline expired and " ++ d.previousPath ++
        " could not be installed in " ++ toString revertAttempts ++ " attempts"
      let attempts := f.attempts.getD 0
      if revertAttempts ≤ attempts then decide_ .revertFailed exhausted
      else
        [.countAttempt (attempts + 1), .reinstall (actualDigest digest)] ++
        if t.dpkgInstall then
          [.recordVerdict .reverter .reverted ("the deadline expired without a healthy " ++ package ++
              " " ++ d.expectedVersion ++ "; " ++ d.previousPath ++ " was put back"),
            .recordResult .reverted ("the verify deadline put " ++ d.previousPath ++ " back"),
            .removeFiles, .stopTimer]
        else
          .configure ::
            if attempts + 1 < revertAttempts then [] else decide_ .revertFailed exhausted

/-- The tick is counted, and waits where the window has not run out by the clock or the ticks. -/
def Tick.spend (t : Tick) (f : Files) (d : Deadline) (epoch window : ℕ) : List Command :=
  let ticks := f.ticks.getD 0 + 1
  let more := grace (t.look d)
  .countTick ticks ::
    if t.now < f.windowEnd epoch + more ∧ ticks * tickSeconds < window + more then []
    else t.revert f d

/-- What a tick does when the install unit has ended. -/
def Tick.judge (t : Tick) (f : Files) (d : Deadline) (epoch window : ℕ) : List Command :=
  .look (t.look d) ::
  match t.look d with
  | some signature =>
    if f.stable = some signature then
      decide_ .confirmed
        (package ++ " " ++ d.expectedVersion ++ " is installed and its services have stayed up")
    else .keepStable signature :: t.spend f d epoch window
  | none => .removeStable :: t.spend f d epoch window

/-- One run of the reverter. -/
def tickScript (s : State) (t : Tick) : List Command :=
  match s.files.deadline with
  | none => [.removeFiles, .stopTimer]
  | some d =>
    let unreadable := decide_ .revertUnavailable
      ("the deadline record could not be read by this reverter (schema " ++
        (match d.schemaVersion with | some schema => toString schema | none => "none") ++
        "); nothing was judged and nothing was installed")
    if d.schemaVersion ≠ some deadlineSchema then unreadable
    else
      match d.deadlineEpoch, d.windowSeconds with
      | some epoch, some window =>
        if s.unit.isSome then
          if s.files.windowEnd epoch < t.now + window then [.extend (t.now + window)] else []
        else t.judge s.files d epoch window ++ [.finish]
      | _, _ => unreadable

/-! ### Runs -/

/-- A step: the manager arms a deadline or takes it back, systemd starts the install unit, the
unit runs its next command or is killed, or the timer runs the reverter. -/
inductive Step
  | arm (a : Arming) (kill : Option ℕ)
  | takeBack (kill : Option ℕ)
  | start (e : InstallRun)
  | unit
  | unitKilled
  | tick (t : Tick) (kill : Option ℕ)

def step (s : State) : Step → State
  | .arm a kill => if s.unjudged then s else run perform s (ran (armScript a) kill)
  | .takeBack kill => run perform s (ran (takeBackScript s) kill)
  | .start e =>
    if s.job && s.unit.isNone then
      { s with job := false, unit := some (installScript s.files.request e) }
    else s
  | .unit => unitStep s
  | .unitKilled => { s with unit := none }
  | .tick t kill => if s.timer then run perform s (ran (tickScript s t) kill) else s

end SolarFlowEms.Appliance.InstallDeadline
