import SolarFlowEms.Appliance.InstallDeadline

/-!
# What has happened under a deadline

The course of a deadline is what the log holds since it was armed: the looks of the ticks that
judged it, the reinstalls, the verdicts.  `DecidesRightly` says what may happen in such a course.
`Step.Undisturbed` names the steps after which it may not be so: a kill between a verdict and the
removal of the deadline or between a failed look and the note of it, a clock that has passed the
end of the window when the first look finds a working install, and a deadline that is armed without
the digest of the archive it keeps, over what an earlier deadline left, or under a running unit.
-/

namespace SolarFlowEms.Appliance.InstallDeadline

open Run KilledScript

/-- What has happened since the last deadline was armed. -/
structure Course where
  deadline : Option Deadline
  /-- What the ticks saw that looked at the install, the last first. -/
  looks : List (Option String)
  reinstalls : ℕ
  /-- The verdicts of the reverter. -/
  verdicts : List Verdict
  /-- A verdict is recorded, by the reverter or by the install unit. -/
  settled : Bool
  /-- dpkg got to work for the install unit while the deadline was armed. -/
  installed : Bool
  /-- The ticks that judged the install and ran to their end. -/
  judged : ℕ
deriving DecidableEq

def Course.empty : Course := ⟨none, [], 0, [], false, false, 0⟩

def Course.after (c : Course) : Event → Course
  | .armed d => { Course.empty with deadline := some d }
  | .looked seen => { c with looks := seen :: c.looks }
  | .recorded .reverter verdict => { c with verdicts := verdict :: c.verdicts, settled := true }
  | .recorded .installer _ => { c with settled := true }
  | .reinstalled _ => { c with reinstalls := c.reinstalls + 1 }
  | .installed => { c with installed := true }
  | .judged => { c with judged := c.judged + 1 }

def course : List Event → Course
  | [] => .empty
  | event :: past => (course past).after event

/-- The last look found these processes healthy, and so did an earlier one, with no look between
them that did not find a healthy install. -/
def Course.Stood (c : Course) : Prop :=
  ∃ signature between earlier,
    c.looks = some signature :: (between ++ some signature :: earlier) ∧ none ∉ between

def Course.Works (c : Course) (signature : String) : Prop :=
  ∀ seen ∈ c.looks, seen = some signature

instance (c : Course) (signature : String) : Decidable (c.Works signature) :=
  inferInstanceAs (Decidable (∀ seen ∈ c.looks, seen = some signature))

/-- The reverter may give dpkg an archive with this digest. -/
structure Course.MayReinstall (c : Course) (digest : String) : Prop where
  failing : ∀ signature, ¬ c.Works signature
  kept : ∃ d, c.deadline = some d ∧ d.previousSha256 = digest
  attempts : c.reinstalls < revertAttempts
  undecided : c.verdicts = []

/-- What may happen after a course. -/
def Course.Allows (c : Course) : Event → Prop
  | .recorded .reverter .confirmed => c.Stood
  | .reinstalled digest => c.MayReinstall digest
  | _ => True

/-- How many ticks may judge a deadline and run to their end without retiring it. -/
def tickBound (window : ℕ) : ℕ := (window + 2 * tickSeconds) / tickSeconds + revertAttempts

/-- **The deadline decides once and rightly.**  An install is confirmed when two looks found it
healthy with the same processes and none between them did not.  The reverter reinstalls an archive
whose digest the deadline keeps, not after a verdict of its own, at most `revertAttempts` times,
and never where every look found the same processes healthy.  No more than `tickBound` ticks judge a
deadline to their end; and when it is gone a verdict is recorded, unless nothing was installed. -/
structure DecidesRightly (s : State) : Prop where
  confirmed : ∀ later past, s.log = later ++ .recorded .reverter .confirmed :: past →
    (course past).Stood
  reinstalled : ∀ later digest past, s.log = later ++ .reinstalled digest :: past →
    (course past).MayReinstall digest
  bounded : ∀ d, s.files.deadline = some d → (course s.log).deadline = some d ∧
    ∃ window, d.windowSeconds = some window ∧ (course s.log).judged ≤ tickBound window
  settled : s.files.deadline = none → (course s.log).deadline.isSome →
    ((course s.log).settled = true ∧ s.files.verdict.isSome) ∨ (course s.log).installed = false

/-! ### The steps that disturb it -/

/-- A verdict of the reverter after which a later tick may still reinstall. -/
def Command.decides : Command → Bool
  | .recordVerdict .reverter .revertFailed _ => false
  | .recordVerdict .reverter _ _ => true
  | _ => false

/-- A tick is not killed between such a verdict and the removal of the deadline. -/
def Tick.DecidesWhole (s : State) (t : Tick) (kill : Option ℕ) : Prop :=
  cutBetween Command.decides (· == .removeFiles) (tickScript s t) kill = false

/-- A tick that did not find a healthy install is not killed before it has dropped what an earlier
one kept. -/
def Tick.NotesFailure (s : State) (t : Tick) (kill : Option ℕ) : Prop :=
  s.files.stable.isSome →
    cutBetween (· == .look none) (· == .removeStable) (tickScript s t) kill = false

/-- Where no look of this deadline has found anything but the healthy processes that this tick
finds, and none has kept them, the clock has not passed the end of the window and the grace. -/
def Tick.InTime (s : State) (t : Tick) : Prop :=
  s.unit.isNone → ∀ d ∈ s.files.deadline, ∀ epoch ∈ d.deadlineEpoch, ∀ signature ∈ t.look d,
    (course s.log).Works signature → s.files.stable ≠ some signature →
      t.now < s.files.windowEnd epoch + 2 * tickSeconds

instance (s : State) (t : Tick) : Decidable (t.InTime s) :=
  inferInstanceAs (Decidable (s.unit.isNone → ∀ d ∈ s.files.deadline, ∀ epoch ∈ d.deadlineEpoch,
    ∀ signature ∈ t.look d, (course s.log).Works signature → s.files.stable ≠ some signature →
      t.now < s.files.windowEnd epoch + 2 * tickSeconds))

def Arming.KeepsDigest (a : Arming) : Prop := a.previous = "" ∨ a.previousSha256 ≠ ""

/-- Where an earlier deadline left a count or a look, the arming is not killed between writing the
deadline and dropping them. -/
def Arming.DropsLeftovers (s : State) (a : Arming) (kill : Option ℕ) : Prop :=
  s.files.ticks.isSome ∨ s.files.stable.isSome →
    cutBetween (· == .writeDeadline a.deadline) (· == .removeStable) (armScript a) kill = false

/-- The step disturbs nothing. -/
def Step.Undisturbed (s : State) : Step → Prop
  | .arm a kill =>
    s.unjudged = false → s.unit.isNone ∧ a.KeepsDigest ∧ a.DropsLeftovers s kill
  | .takeBack _ => s.neverStarted → (course s.log).installed = false
  | .tick t kill =>
    s.timer → t.DecidesWhole s kill ∧ t.NotesFailure s kill ∧ t.InTime s
  | _ => True

instance (s : State) : ∀ a : Step, Decidable (a.Undisturbed s)
  | .arm a kill => inferInstanceAs (Decidable (s.unjudged = false → s.unit.isNone ∧
      (a.previous = "" ∨ a.previousSha256 ≠ "") ∧
      (s.files.ticks.isSome ∨ s.files.stable.isSome →
        cutBetween (· == .writeDeadline a.deadline) (· == .removeStable) (armScript a) kill =
          false)))
  | .takeBack _ =>
    inferInstanceAs (Decidable (s.neverStarted → (course s.log).installed = false))
  | .tick t kill => inferInstanceAs (Decidable (s.timer →
      cutBetween Command.decides (· == .removeFiles) (tickScript s t) kill = false ∧
      (s.files.stable.isSome →
        cutBetween (· == .look none) (· == .removeStable) (tickScript s t) kill = false) ∧
      t.InTime s))
  | .start _ => .isTrue trivial
  | .unit => .isTrue trivial
  | .unitKilled => .isTrue trivial

end SolarFlowEms.Appliance.InstallDeadline
