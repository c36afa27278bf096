import SolarFlowEms.Appliance.DeadlineHistory

/-!
# What an undisturbed tick keeps

`Sound` holds of every state that a script passes through, and every command keeps it where it is
due.  The commands of a tick are due when the first look at a working install is in time, and what
a tick has kept and what it has not yet decided hold again wherever it ends or is killed
undisturbed.
-/

namespace SolarFlowEms.Appliance.InstallDeadline

open Run KilledScript

def Right : List Event → Prop
  | [] => True
  | event :: past => (course past).Allows event ∧ Right past

theorem Right.allows {later past : List Event} {event : Event}
    (h : Right (later ++ event :: past)) : (course past).Allows event := by
  induction later with
  | nil => exact h.1
  | cons e later ih => exact ih h.2

/-- The record is one that the reverter can read, and that keeps the digest of what it names. -/
structure Deadline.Armed (d : Deadline) : Prop where
  schema : d.schemaVersion = some deadlineSchema
  epoch : ∃ epoch, d.deadlineEpoch = some epoch
  window : ∃ window, d.windowSeconds = some window
  digest : d.previousPath = "" ∨ d.previousSha256 ≠ ""

/-- What the install unit has still to do removes a deadline only when a verdict is recorded or
nothing is installed, by what is recorded and installed before. -/
def Retires : Bool → Bool → List Command → Prop
  | _, _, [] => True
  | settled, installed, .installPackage pass :: rest =>
    Retires settled (installed || pass != .locked) rest
  | settled, installed, .configure :: rest => Retires settled installed rest
  | settled, installed, .recordResult _ _ :: rest => Retires settled installed rest
  | settled, installed, .stopTimer :: rest => Retires settled installed rest
  | _, installed, .recordVerdict .installer _ _ :: rest => Retires true installed rest
  | settled, installed, .removeFiles :: rest =>
    (settled = true ∨ installed = false) ∧ Retires settled installed rest
  | settled, installed, .retire _ _ :: rest =>
    Retires true installed rest ∧ Retires settled installed rest
  | _, _, _ => False

theorem Retires.mono {settled settled' installed installed' : Bool} {rest : List Command}
    (hsettled : settled = true → settled' = true) (hinstalled : installed' = true → installed = true)
    (h : Retires settled installed rest) : Retires settled' installed' rest := by
  induction rest generalizing settled settled' installed installed' with
  | nil => trivial
  | cons c rest ih =>
    cases c with
    | installPackage pass =>
      refine ih hsettled (fun h' => ?_) h
      rw [Bool.or_eq_true] at h' ⊢
      exact h'.imp_left hinstalled
    | configure | recordResult | stopTimer => exact ih hsettled hinstalled h
    | recordVerdict author =>
      cases author with
      | installer => exact ih (fun _ => rfl) hinstalled h
      | reverter => exact h
    | removeFiles =>
      refine ⟨?_, ih hsettled hinstalled h.2⟩
      rcases h.1 with hyes | hno
      · exact .inl (hsettled hyes)
      · refine .inr (Bool.eq_false_iff.mpr fun hyes => ?_)
        rw [hinstalled hyes] at hno
        cases hno
    | retire => exact ⟨ih (fun _ => rfl) hinstalled h.1, ih hsettled hinstalled h.2⟩
    | _ => exact h

/-- What holds of the files, the log and the units between any two commands. -/
structure Sound (s : State) : Prop where
  right : Right s.log
  armed : ∀ d, s.files.deadline = some d → (course s.log).deadline = some d ∧ d.Armed
  attempts : s.files.attempts.getD 0 ≤ revertAttempts
  reinstalls : s.files.deadline.isSome → (course s.log).reinstalls ≤ s.files.attempts.getD 0
  judged : ∀ d window, s.files.deadline = some d → d.windowSeconds = some window →
    (course s.log).judged = 0 ∨ tickSeconds * (course s.log).judged <
      window + 2 * tickSeconds + tickSeconds * s.files.attempts.getD 0
  spent : s.files.deadline.isSome → (course s.log).judged ≤ s.files.ticks.getD 0
  verdict : (course s.log).settled = true → s.files.verdict.isSome
  retired : s.files.deadline = none →
    (course s.log).settled = true ∨ (course s.log).installed = false
  job : s.job = true → s.unit = none ∧ (course s.log).installed = false
  unit : ∀ rest, s.unit = some rest → Retires (course s.log).settled (course s.log).installed rest
  /-- Where every look found the same processes, a tick has kept them or none was counted. -/
  first : s.files.deadline.isSome → ∀ signature, (course s.log).Works signature →
    s.files.stable = some signature ∨ s.files.ticks.getD 0 = 0

/-- When a command may run. -/
def Due (s : State) : Command → Prop
  | .unlinkDeadline => (course s.log).settled = true ∨ (course s.log).installed = false
  | .removeFiles => (course s.log).settled = true ∨ (course s.log).installed = false
  | .unlinkTicks => s.files.deadline = none
  | .unlinkAttempts => s.files.deadline = none
  | .removeStable => s.files.deadline = none ∨ ∀ signature, ¬ (course s.log).Works signature
  | .unlinkVerdict => False
  | .writeDeadline _ => False
  | .askStart => False
  | .keepStable signature => ∃ earlier, (course s.log).looks = some signature :: earlier
  | .countTick ticks => ticks = s.files.ticks.getD 0 + 1 ∧
      ∀ signature, (course s.log).Works signature → s.files.stable = some signature
  | .countAttempt attempts =>
      attempts = s.files.attempts.getD 0 + 1 ∧ attempts ≤ revertAttempts
  | .reinstall digest => (course s.log).MayReinstall digest ∧
      (course s.log).reinstalls + 1 ≤ s.files.attempts.getD 0
  | .finish => ∀ d window, s.files.deadline = some d → d.windowSeconds = some window →
      tickSeconds * ((course s.log).judged + 1) <
        window + 2 * tickSeconds + tickSeconds * s.files.attempts.getD 0 ∧
      (course s.log).judged + 1 ≤ s.files.ticks.getD 0
  | .recordVerdict .reverter .confirmed _ => (course s.log).Stood
  | .recordVerdict .reverter .revertFailed _ => revertAttempts ≤ s.files.attempts.getD 0
  | .installPackage _ => s.unit = none ∧ s.job = false
  | _ => True

/-! ### What every command keeps -/

variable {s : State} {signature detail : String} {verdict : Verdict} {c : Command} {d : Deadline}
  {window epoch : ℕ} {t : Tick} {f : Files} {kill : Option ℕ}

section

variable (h : Sound s)
include h

theorem Sound.removeFiles
    (hdue : (course s.log).settled = true ∨ (course s.log).installed = false) :
    Sound (perform s .removeFiles) :=
  { right := h.right
    armed := fun _ hd => by cases hd
    attempts := Nat.zero_le _
    reinstalls := fun hd => by cases hd
    judged := fun _ _ hd => by cases hd
    spent := fun hd => by cases hd
    verdict := h.verdict
    retired := fun _ => hdue
    job := h.job
    unit := h.unit
    first := fun hd => by cases hd }

theorem Sound.unlinkDeadline
    (hdue : (course s.log).settled = true ∨ (course s.log).installed = false) :
    Sound (perform s .unlinkDeadline) :=
  { right := h.right
    armed := fun _ hd => by cases hd
    attempts := h.attempts
    reinstalls := fun hd => by cases hd
    judged := fun _ _ hd => by cases hd
    spent := fun hd => by cases hd
    verdict := h.verdict
    retired := fun _ => hdue
    job := h.job
    unit := h.unit
    first := fun hd => by cases hd }

theorem Sound.look (seen : Option String) :
    Sound (perform s (.look seen)) :=
  { h with
    right := ⟨trivial, h.right⟩
    first := fun hd signature hworks =>
      h.first hd signature fun seen' hseen' => hworks seen' (List.mem_cons_of_mem _ hseen') }

theorem Sound.keepStable (hdue : ∃ earlier, (course s.log).looks = some signature :: earlier) :
    Sound (perform s (.keepStable signature)) :=
  { h with
    first := fun _ signature' hworks => by
      obtain ⟨earlier, hlooks⟩ := hdue
      exact .inl (hworks (some signature) (hlooks ▸ List.mem_cons_self)) }

theorem Sound.removeStable
    (hdue : s.files.deadline = none ∨ ∀ signature, ¬ (course s.log).Works signature) :
    Sound (perform s .removeStable) :=
  { h with
    first := fun hd signature hworks => by
      rcases hdue with hnone | hnot
      · have hd' : s.files.deadline.isSome = true := hd
        rw [hnone] at hd'
        cases hd'
      · exact absurd hworks (hnot signature) }

theorem Sound.countTick
    (hdue : ∀ signature, (course s.log).Works signature → s.files.stable = some signature) :
    Sound (perform s (.countTick (s.files.ticks.getD 0 + 1))) :=
  { h with
    spent := fun hd => Nat.le_succ_of_le (h.spent hd)
    first := fun _ signature hworks => .inl (hdue signature hworks) }

theorem Sound.countAttempt (hdue : s.files.attempts.getD 0 + 1 ≤ revertAttempts) :
    Sound (perform s (.countAttempt (s.files.attempts.getD 0 + 1))) :=
  { h with
    attempts := hdue
    reinstalls := fun hd => Nat.le_succ_of_le (h.reinstalls hd)
    judged := fun d window hd hwindow => by
      rcases h.judged d window hd hwindow with hzero | hlt
      · exact .inl hzero
      · refine .inr (Nat.lt_of_lt_of_le hlt ?_)
        exact Nat.add_le_add_left (Nat.mul_le_mul_left _ (Nat.le_succ _)) _ }

theorem Sound.unlinkTicks (hdue : s.files.deadline = none) :
    Sound (perform s .unlinkTicks) :=
  { h with
    spent := fun hd => by
      have hd' : s.files.deadline.isSome = true := hd
      rw [hdue] at hd'
      cases hd'
    first := fun _ _ _ => .inr rfl }

theorem Sound.unlinkAttempts (hdue : s.files.deadline = none) :
    Sound (perform s .unlinkAttempts) :=
  { h with
    attempts := Nat.zero_le _
    reinstalls := fun hd => by
      have hd' : s.files.deadline.isSome = true := hd
      rw [hdue] at hd'
      cases hd'
    judged := fun d _ hd => by
      have hd' : s.files.deadline = some d := hd
      rw [hdue] at hd'
      cases hd' }

theorem Sound.reinstall {digest : String} (hdue : (course s.log).MayReinstall digest)
    (hcount : (course s.log).reinstalls + 1 ≤ s.files.attempts.getD 0) :
    Sound (perform s (.reinstall digest)) :=
  { h with
    right := ⟨hdue, h.right⟩
    reinstalls := fun _ => hcount }

theorem Sound.finish (hdue : Due s .finish) :
    Sound (perform s .finish) :=
  { h with
    right := ⟨trivial, h.right⟩
    judged := fun d window hd hwindow => .inr (hdue d window hd hwindow).1
    spent := fun hd => by
      obtain ⟨d, hd⟩ := Option.isSome_iff_exists.mp hd
      obtain ⟨window, hwindow⟩ := (h.armed d hd).2.window
      exact (hdue d window hd hwindow).2 }

theorem Sound.recordVerdict {author : Author}
    (hdue : Due s (.recordVerdict author verdict detail)) :
    Sound (perform s (.recordVerdict author verdict detail)) := by
  cases author with
  | installer =>
    exact
      { h with
        right := ⟨trivial, h.right⟩
        verdict := fun _ => rfl
        retired := fun _ => .inl rfl
        unit := fun rest hrest => (h.unit rest hrest).mono (fun _ => rfl) id }
  | reverter =>
    exact
      { h with
        right := ⟨by cases verdict <;> first | exact hdue | trivial, h.right⟩
        verdict := fun _ => rfl
        retired := fun _ => .inl rfl
        unit := fun rest hrest => (h.unit rest hrest).mono (fun _ => rfl) id }

theorem Sound.installPackage {pass : Pass}
    (hdue : s.unit = none ∧ s.job = false) : Sound (perform s (.installPackage pass)) := by
  rw [perform]
  split_ifs with hskip
  · exact h
  · have hsome : s.files.deadline ≠ none := fun hnone => hskip (.inr (by rw [hnone]; rfl))
    exact
      { h with
        right := ⟨trivial, h.right⟩
        retired := fun hnone => absurd hnone hsome
        job := fun hjob => absurd (hdue.2.symm.trans hjob) Bool.false_ne_true
        unit := fun rest hrest => by
          have hrest' : s.unit = some rest := hrest
          rw [hdue.1] at hrest'
          cases hrest' }

/-- **Every command keeps what holds between commands, where it is due.** -/
theorem Sound.perform (hdue : Due s c) :
    Sound (perform s c) := by
  cases c with
  | removeFiles => exact h.removeFiles hdue
  | unlinkDeadline => exact h.unlinkDeadline hdue
  | look seen => exact h.look seen
  | keepStable signature => exact h.keepStable hdue
  | removeStable => exact h.removeStable hdue
  | countTick ticks =>
    obtain ⟨rfl, hworks⟩ := hdue
    exact h.countTick hworks
  | countAttempt attempts =>
    obtain ⟨rfl, hle⟩ := hdue
    exact h.countAttempt hle
  | unlinkTicks => exact h.unlinkTicks hdue
  | unlinkAttempts => exact h.unlinkAttempts hdue
  | reinstall digest => exact h.reinstall hdue.1 hdue.2
  | finish => exact h.finish hdue
  | recordVerdict author verdict detail => exact h.recordVerdict hdue
  | installPackage pass => exact h.installPackage hdue
  | unlinkVerdict | writeDeadline d | askStart => exact hdue.elim
  | _ => exact { h with }

end

/-! ### What holds where a script ends -/

/-- What a tick has kept is what an earlier look found, with no failed look after it. -/
def Kept (s : State) : Prop :=
  s.files.deadline.isSome → ∀ signature, s.files.stable = some signature →
    ∃ between earlier, (course s.log).looks = between ++ some signature :: earlier ∧
      none ∉ between

/-- An armed deadline has no verdict of the reverter but one after the last attempt. -/
def Undecided (s : State) : Prop :=
  s.files.deadline.isSome → ∀ verdict ∈ (course s.log).verdicts,
    verdict = .revertFailed ∧ revertAttempts ≤ s.files.attempts.getD 0

structure Inv (s : State) : Prop extends Sound s where
  kept : Kept s
  undecided : Undecided s

/-! ### The ticks -/

theorem due_decide (hdue : Due s (.recordVerdict .reverter verdict detail)) :
    EveryStep perform Due s (decide_ verdict detail ++ [.finish]) := by
  refine ⟨hdue, .inl rfl, trivial, ?_, trivial⟩
  intro d window hd
  cases hd

theorem due_finish (hd : s.files.deadline = some d) (hwindow : d.windowSeconds = some window)
    (hlt : tickSeconds * ((course s.log).judged + 1) <
      window + 2 * tickSeconds + tickSeconds * s.files.attempts.getD 0)
    (hspent : (course s.log).judged + 1 ≤ s.files.ticks.getD 0) : Due s .finish := by
  intro d' window' hd' hwindow'
  obtain rfl : d' = d := Option.some.inj (hd'.symm.trans hd)
  obtain rfl : window' = window := Option.some.inj (hwindow'.symm.trans hwindow)
  exact ⟨hlt, hspent⟩

theorem judged_succ_lt {judged attempts : ℕ} (h : judged = 0 ∨
      tickSeconds * judged < window + 2 * tickSeconds + tickSeconds * attempts) :
    tickSeconds * (judged + 1) <
      window + 2 * tickSeconds + tickSeconds * (attempts + 1) := by
  rw [tickSeconds] at *
  omega

/-- **The way back is due** where a tick has counted itself, no verdict stands that was not the
last, and the looks did not all find the same processes. -/
theorem due_revert (h : Sound s)
    (hf : f.attempts = s.files.attempts) (hd : s.files.deadline = some d)
    (hspent : (course s.log).judged + 1 ≤ s.files.ticks.getD 0) (hundecided : Undecided s)
    (hworks : ∀ signature, ¬ (course s.log).Works signature) :
    EveryStep perform Due s (t.revert f d ++ [.finish]) := by
  have hsome : s.files.deadline.isSome := by rw [hd]; rfl
  obtain ⟨hcourse, harmed⟩ := h.armed d hd
  obtain ⟨window, hwindow⟩ := harmed.window
  cases harchive : (if d.previousPath = "" then none else t.archive d.previousPath) with
  | none =>
    simp only [Tick.revert, harchive]
    exact due_decide True.intro
  | some digest =>
    have hpath : d.previousPath ≠ "" := fun hempty => by
      rw [if_pos hempty] at harchive
      cases harchive
    simp only [Tick.revert, harchive, hf]
    by_cases hdigest : d.previousSha256 ≠ "" ∧ actualDigest digest ≠ d.previousSha256
    · rw [if_pos hdigest]
      exact due_decide True.intro
    rw [if_neg hdigest]
    by_cases hattempts : revertAttempts ≤ s.files.attempts.getD 0
    · rw [if_pos hattempts]
      exact due_decide hattempts
    rw [if_neg hattempts]
    have hkept : d.previousSha256 = actualDigest digest := by
      by_contra hne
      exact hdigest ⟨harmed.digest.resolve_left hpath, Ne.symm hne⟩
    have hnone : (course s.log).verdicts = [] := by
      refine List.eq_nil_iff_forall_not_mem.mpr fun verdict hverdict => hattempts ?_
      exact (hundecided hsome verdict hverdict).2
    have hreinstalls := h.reinstalls hsome
    have hmay : (course s.log).MayReinstall (actualDigest digest) :=
      { failing := hworks
        kept := ⟨d, hcourse, hkept⟩
        attempts := Nat.lt_of_le_of_lt hreinstalls (Nat.lt_of_not_le hattempts)
        undecided := hnone }
    have hlt := judged_succ_lt (h.judged d window hd hwindow)
    refine ⟨⟨rfl, Nat.lt_of_not_le hattempts⟩, ⟨hmay, Nat.succ_le_succ hreinstalls⟩, ?_⟩
    cases t.dpkgInstall with
    | true =>
      refine ⟨True.intro, True.intro, .inl rfl, True.intro, ?_, True.intro⟩
      intro d' window' hd'
      cases hd'
    | false =>
      refine ⟨True.intro, ?_⟩
      by_cases hagain : s.files.attempts.getD 0 + 1 < revertAttempts
      · rw [if_pos hagain]
        exact ⟨due_finish hd hwindow hlt hspent, True.intro⟩
      · rw [if_neg hagain]
        have hspent' : revertAttempts ≤ s.files.attempts.getD 0 + 1 := Nat.le_of_not_lt hagain
        exact due_decide hspent'

theorem due_spend (h : Sound s) (hattempts : f.attempts = s.files.attempts)
    (hticks : f.ticks = s.files.ticks) (hd : s.files.deadline = some d)
    (hwindow : d.windowSeconds = some window) (hundecided : Undecided s)
    (hstable : ∀ signature, (course s.log).Works signature → s.files.stable = some signature)
    (hworks : (t.now < f.windowEnd epoch + grace (t.look d) ∧
        (s.files.ticks.getD 0 + 1) * tickSeconds < window + grace (t.look d)) ∨
      ∀ signature, ¬ (course s.log).Works signature) :
    EveryStep perform Due s (t.spend f d epoch window ++ [.finish]) := by
  have hsome : s.files.deadline.isSome := by rw [hd]; rfl
  have hspent := h.spent hsome
  have hdue : Due s (.countTick (s.files.ticks.getD 0 + 1)) := ⟨rfl, hstable⟩
  simp only [Tick.spend, hticks]
  refine ⟨hdue, ?_⟩
  have hgrace : grace (t.look d) ≤ 2 * tickSeconds := by
    rw [grace]
    split_ifs
    · exact Nat.le_refl _
    · exact Nat.zero_le _
  by_cases hwaits : t.now < f.windowEnd epoch + grace (t.look d) ∧
      (s.files.ticks.getD 0 + 1) * tickSeconds < window + grace (t.look d)
  · rw [if_pos hwaits]
    refine ⟨due_finish hd hwindow ?_ (Nat.succ_le_succ hspent), True.intro⟩
    have hmul : tickSeconds * ((course s.log).judged + 1) ≤
        (s.files.ticks.getD 0 + 1) * tickSeconds := by
      rw [Nat.mul_comm tickSeconds]
      exact Nat.mul_le_mul_right _ (Nat.succ_le_succ hspent)
    show tickSeconds * ((course s.log).judged + 1) <
      window + 2 * tickSeconds + tickSeconds * s.files.attempts.getD 0
    have hlt := hwaits.2
    omega
  · rw [if_neg hwaits]
    exact due_revert (h.perform hdue) hattempts hd (Nat.succ_le_succ hspent) hundecided
      (hworks.resolve_left hwaits)

def InTimeAt (s : State) (t : Tick) (d : Deadline) (epoch : ℕ) : Prop :=
  ∀ signature, t.look d = some signature → (course s.log).Works signature →
    s.files.stable ≠ some signature → t.now < s.files.windowEnd epoch + 2 * tickSeconds

section

variable (h : Inv s) (hd : s.files.deadline = some d) (hwindow : d.windowSeconds = some window)
include h hd hwindow

theorem due_keep (hlook : t.look d = some signature)
    (hstable : s.files.stable ≠ some signature) (htime : InTimeAt s t d epoch) :
    EveryStep perform Due (perform s (.look (some signature)))
      (.keepStable signature :: t.spend s.files d epoch window ++ [.finish]) := by
  have hsome : s.files.deadline.isSome := by rw [hd]; rfl
  have hlooked : Sound (perform s (.look (some signature))) := h.look (some signature)
  have hkeep : Due (perform s (.look (some signature))) (.keepStable signature) := ⟨_, rfl⟩
  have hhead : ∀ signature',
      (course (perform s (.look (some signature))).log).Works signature' →
        signature' = signature ∧ (course s.log).Works signature' := by
    intro signature' hworks
    constructor
    · exact (Option.some.inj (hworks (some signature) List.mem_cons_self)).symm
    · exact fun seen hseen => hworks seen (List.mem_cons_of_mem _ hseen)
  have hsteady : ∀ signature',
      (course (perform (perform s (.look (some signature))) (.keepStable signature)).log).Works
        signature' → some signature = some signature' := by
    intro signature' hworks
    rw [(hhead signature' hworks).1]
  refine ⟨hkeep, due_spend (hlooked.perform hkeep) rfl rfl hd hwindow h.undecided hsteady ?_⟩
  by_cases hfails : ∀ signature',
      ¬ (course (perform s (.look (some signature))).log).Works signature'
  · exact .inr hfails
  · obtain ⟨signature', hworks'⟩ := not_forall_not.mp hfails
    obtain ⟨rfl, hworks⟩ := hhead signature' hworks'
    have hticks : s.files.ticks.getD 0 = 0 :=
      (h.first hsome signature' hworks).resolve_left hstable
    have hgrace : grace (t.look d) = 2 * tickSeconds := by rw [hlook]; rfl
    left
    rw [hgrace]
    refine ⟨htime signature' hlook hworks hstable, ?_⟩
    show (s.files.ticks.getD 0 + 1) * tickSeconds < window + 2 * tickSeconds
    rw [hticks, tickSeconds]
    omega

theorem due_drop :
    EveryStep perform Due (perform s (.look none))
      (.removeStable :: t.spend s.files d epoch window ++ [.finish]) := by
  have hlooked : Sound (perform s (.look none)) := h.look none
  have hfails : ∀ signature, ¬ (course (perform s (.look none)).log).Works signature := by
    intro signature hworks
    cases hworks none List.mem_cons_self
  have hdrop : Due (perform s (.look none)) .removeStable := .inr hfails
  exact ⟨hdrop, due_spend (hlooked.perform hdrop) rfl rfl hd hwindow h.undecided
    (fun signature hworks => absurd hworks (hfails signature)) (.inr hfails)⟩

/-- **Every command of a tick is due**, when the first look at a working install is in time. -/
theorem due_judge (htime : InTimeAt s t d epoch) :
    EveryStep perform Due s (t.judge s.files d epoch window ++ [.finish]) := by
  have hsome : s.files.deadline.isSome := by rw [hd]; rfl
  cases hlook : t.look d with
  | none =>
    simp only [Tick.judge, hlook]
    exact ⟨True.intro, due_drop h hd hwindow⟩
  | some signature =>
    simp only [Tick.judge, hlook]
    refine ⟨True.intro, ?_⟩
    by_cases hstable : s.files.stable = some signature
    · rw [if_pos hstable]
      obtain ⟨between, earlier, hlooks, hbetween⟩ := h.kept hsome signature hstable
      have hstood : (course (perform s (.look (some signature))).log).Stood := by
        refine ⟨signature, between, earlier, ?_, hbetween⟩
        show some signature :: (course s.log).looks = _
        rw [hlooks]
      exact due_decide hstood
    · rw [if_neg hstable]
      exact due_keep h hd hwindow hlook hstable htime

end

theorem due_tickScript (h : Inv s) (htime : t.InTime s) :
    EveryStep perform Due s (tickScript s t) := by
  cases hd : s.files.deadline with
  | none =>
    simp only [tickScript, hd]
    exact ⟨h.retired hd, True.intro, True.intro⟩
  | some d =>
    obtain ⟨-, harmed⟩ := h.armed d hd
    obtain ⟨epoch, hepoch⟩ := harmed.epoch
    obtain ⟨window, hwindow⟩ := harmed.window
    simp only [tickScript, hd, harmed.schema, hepoch, hwindow, ne_eq, not_true_eq_false, if_false]
    cases hunit : s.unit with
    | some rest =>
      simp only [Option.isSome_some, if_true]
      split_ifs
      · exact ⟨True.intro, True.intro⟩
      · exact True.intro
    | none =>
      simp only [Option.isSome_none, Bool.false_eq_true, if_false]
      refine due_judge h hd hwindow fun signature hlook hworks hstable => ?_
      exact htime (by rw [hunit]; rfl) d hd epoch hepoch signature hlook hworks hstable

/-! ### The shape of a tick's script -/

/-- The commands of a tick after its look. -/
def Command.afterLook : Command → Bool
  | .countTick _ | .countAttempt _ | .extend _ | .reinstall _ | .finish | .configure => true
  | .recordVerdict .reverter _ _ | .recordResult _ _ | .removeFiles | .stopTimer => true
  | _ => false

/-- Commands that follow a look, where a verdict that decides is followed by the removal. -/
def Decisive (script : List Command) : Prop :=
  (∀ c ∈ script, c.afterLook = true) ∧
    ((∃ c ∈ script, c.decides = true) → Command.removeFiles ∈ script)

theorem decisive_decide (verdict : Verdict) (detail : String) :
    Decisive (decide_ verdict detail) := by
  constructor
  · simp [decide_, Command.afterLook]
  · intro _
    simp [decide_]

theorem Decisive.append {script script' : List Command} (h : Decisive script)
    (h' : Decisive script') : Decisive (script ++ script') := by
  constructor
  · intro c hc
    exact (List.mem_append.mp hc).elim (h.1 c) (h'.1 c)
  · rintro ⟨c, hc, hdecides⟩
    rcases List.mem_append.mp hc with hc | hc
    · exact List.mem_append_left _ (h.2 ⟨c, hc, hdecides⟩)
    · exact List.mem_append_right _ (h'.2 ⟨c, hc, hdecides⟩)

theorem Decisive.cons {c : Command} {script : List Command} (hc : c.afterLook = true)
    (hnot : c.decides = false) (h : Decisive script) : Decisive (c :: script) := by
  constructor
  · intro c' hc'
    rcases List.mem_cons.mp hc' with rfl | hrest
    · exact hc
    · exact h.1 c' hrest
  · rintro ⟨c', hc', hdecides⟩
    rcases List.mem_cons.mp hc' with rfl | hrest
    · rw [hnot] at hdecides
      cases hdecides
    · exact List.mem_cons_of_mem c (h.2 ⟨c', hrest, hdecides⟩)

theorem decisive_nil : Decisive [] := by
  constructor
  · simp
  · simp

theorem decisive_revert (t : Tick) (f : Files) (d : Deadline) : Decisive (t.revert f d) := by
  cases harchive : (if d.previousPath = "" then none else t.archive d.previousPath) with
  | none =>
    simp only [Tick.revert, harchive]
    exact decisive_decide _ _
  | some digest =>
    simp only [Tick.revert, harchive]
    split
    · exact decisive_decide _ _
    split
    · exact decisive_decide _ _
    refine .cons rfl rfl (.cons rfl rfl ?_)
    split
    · constructor
      · simp [Command.afterLook]
      · simp
    · refine .cons rfl rfl ?_
      split
      · exact decisive_nil
      · exact decisive_decide _ _

theorem decisive_spend (t : Tick) (f : Files) (d : Deadline) (epoch window : ℕ) :
    Decisive (t.spend f d epoch window) := by
  refine .cons rfl rfl ?_
  split
  · exact decisive_nil
  · exact decisive_revert t f d

/-- What a tick does before its decision: nothing, a look that keeps what it found or drops what
was kept, or a look alone. -/
inductive Looks : List Command → Prop
  | nothing : Looks []
  | healthy (signature : String) : Looks [.look (some signature)]
  | keeps (signature : String) : Looks [.look (some signature), .keepStable signature]
  | drops : Looks [.look none, .removeStable]

theorem tickScript_shape (s : State) (t : Tick) :
    ∃ before after, tickScript s t = before ++ after ∧ Looks before ∧ Decisive after := by
  cases hd : s.files.deadline with
  | none =>
    refine ⟨[], tickScript s t, rfl, .nothing, ?_⟩
    simp only [tickScript, hd]
    exact .cons rfl rfl (.cons rfl rfl decisive_nil)
  | some d =>
    simp only [tickScript, hd]
    split
    · exact ⟨[], _, rfl, .nothing, decisive_decide _ _⟩
    split
    · rename_i epoch window _ _
      split
      · refine ⟨[], _, (List.nil_append _).symm, .nothing, ?_⟩
        split
        · exact .cons rfl rfl decisive_nil
        · exact decisive_nil
      · have hfinish : Decisive [.finish] := .cons rfl rfl decisive_nil
        cases hlook : t.look d with
        | none =>
          refine ⟨_, _, ?_, .drops, (decisive_spend t s.files d epoch window).append hfinish⟩
          simp only [Tick.judge, hlook]
          rfl
        | some signature =>
          by_cases hstable : s.files.stable = some signature
          · refine ⟨_, decide_ .confirmed (package ++ " " ++ d.expectedVersion ++
              " is installed and its services have stayed up") ++ [.finish], ?_,
              .healthy signature, (decisive_decide _ _).append hfinish⟩
            simp only [Tick.judge, hlook, if_pos hstable]
            rfl
          · refine ⟨_, _, ?_, .keeps signature,
              (decisive_spend t s.files d epoch window).append hfinish⟩
            simp only [Tick.judge, hlook, if_neg hstable]
            rfl
    · exact ⟨[], _, rfl, .nothing, decisive_decide _ _⟩

/-! ### What a tick leaves where it ends or is killed -/

def Command.ofTick (c : Command) : Prop :=
  c.afterLook = true ∨ (∃ seen, c = .look seen) ∨ (∃ signature, c = .keepStable signature) ∨
    c = .removeStable

theorem ofTick_of_mem (hc : c ∈ tickScript s t) :
    c.ofTick := by
  obtain ⟨before, after, hscript, hlooks, hafter⟩ := tickScript_shape s t
  rw [hscript] at hc
  rcases List.mem_append.mp hc with hbefore | hlater
  · cases hlooks with
    | nothing => cases hbefore
    | healthy signature => exact .inr (.inl ⟨_, List.mem_singleton.mp hbefore⟩)
    | keeps signature =>
      rcases List.mem_cons.mp hbefore with rfl | hrest
      · exact .inr (.inl ⟨_, rfl⟩)
      · exact .inr (.inr (.inl ⟨_, List.mem_singleton.mp hrest⟩))
    | drops =>
      rcases List.mem_cons.mp hbefore with rfl | hrest
      · exact .inr (.inl ⟨_, rfl⟩)
      · exact .inr (.inr (.inr (List.mem_singleton.mp hrest)))
  · exact .inl (hafter.1 c hlater)

theorem removeFiles_mem_tickScript
    (hc : c ∈ tickScript s t) (hdecides : c.decides = true) : .removeFiles ∈ tickScript s t := by
  obtain ⟨before, after, hscript, hlooks, hafter⟩ := tickScript_shape s t
  rw [hscript] at hc ⊢
  rcases List.mem_append.mp hc with hbefore | hlater
  · have hnot : ∀ c' ∈ before, c'.decides = false := by
      cases hlooks <;> simp [Command.decides]
    rw [hnot c hbefore] at hdecides
    cases hdecides
  · exact List.mem_append_right _ (hafter.2 ⟨c, hlater, hdecides⟩)

theorem removeStable_mem_tickScript (hlook : Command.look none ∈ tickScript s t) :
    .removeStable ∈ tickScript s t ∧
      ∀ c ∈ tickScript s t, ∀ signature, c ≠ .keepStable signature := by
  obtain ⟨before, after, hscript, hlooks, hafter⟩ := tickScript_shape s t
  have hnot : ∀ c ∈ after, c ≠ .look none ∧ ∀ signature, c ≠ .keepStable signature := by
    intro c hc
    have hkind := hafter.1 c hc
    constructor
    · rintro rfl
      cases hkind
    · rintro signature rfl
      cases hkind
  rw [hscript] at hlook ⊢
  have hbefore : Command.look none ∈ before :=
    (List.mem_append.mp hlook).resolve_right fun h => (hnot _ h).1 rfl
  cases hlooks with
  | nothing => cases hbefore
  | healthy signature | keeps signature => simp at hbefore
  | drops =>
    refine ⟨by simp, fun c hc signature => ?_⟩
    rcases List.mem_append.mp hc with hfront | hlater
    · rcases List.mem_cons.mp hfront with rfl | hrest
      · simp
      · rw [List.mem_singleton.mp hrest]
        simp
    · exact (hnot c hlater).2 signature

theorem deadline_perform_ofTick (hc : c.ofTick)
    (hd : s.files.deadline = none) : (perform s c).files.deadline = none := by
  rcases hc with hkind | ⟨seen, rfl⟩ | ⟨signature, rfl⟩ | rfl
  · cases c <;> first | exact hd | rfl | cases hkind
  · exact hd
  · exact hd
  · exact hd

theorem undecided_perform (h : Undecided s) (hdue : Due s c)
    (hc : c.ofTick) (hnot : c.decides = false) : Undecided (perform s c) := by
  rcases hc with hkind | ⟨seen, rfl⟩ | ⟨signature, rfl⟩ | rfl
  · cases c with
    | removeFiles => exact fun hd => by cases hd
    | countAttempt attempts =>
      intro hd verdict hverdict
      obtain ⟨hfailed, hle⟩ := h hd verdict hverdict
      obtain ⟨rfl, -⟩ := hdue
      exact ⟨hfailed, Nat.le_succ_of_le hle⟩
    | recordVerdict author verdict detail =>
      cases author with
      | installer => exact h
      | reverter =>
        cases verdict with
        | revertFailed =>
          intro hd verdict hverdict
          rcases List.mem_cons.mp hverdict with rfl | hearlier
          · exact ⟨rfl, hdue⟩
          · exact h hd verdict hearlier
        | _ => cases hnot
    | _ => first | exact h | cases hkind
  · exact h
  · exact h
  · exact h

theorem kept_perform (h : Kept s) (hdue : Due s c)
    (hc : c.ofTick) (hnot : c ≠ .look none) : Kept (perform s c) := by
  rcases hc with hkind | ⟨seen, rfl⟩ | ⟨signature, rfl⟩ | rfl
  · cases c with
    | removeFiles => exact fun hd => by cases hd
    | recordVerdict author verdict detail => cases author <;> exact h
    | _ => first | exact h | cases hkind
  · intro hd signature hstable
    obtain ⟨between, earlier, hlooks, hbetween⟩ := h hd signature hstable
    refine ⟨seen :: between, earlier, ?_, ?_⟩
    · show seen :: (course s.log).looks = _
      rw [hlooks]
      rfl
    · rw [List.mem_cons, not_or]
      exact ⟨fun hseen => hnot (by rw [← hseen]), hbetween⟩
  · intro hd signature' hstable
    obtain ⟨earlier, hlooks⟩ := hdue
    obtain rfl : signature = signature' := Option.some.inj hstable
    exact ⟨[], earlier, hlooks, by simp⟩
  · exact fun _ _ hstable => by cases hstable

theorem stable_perform_ofTick (hc : c.ofTick)
    (hnot : ∀ signature, c ≠ .keepStable signature) (hs : s.files.stable = none) :
    (perform s c).files.stable = none := by
  rcases hc with hkind | ⟨seen, rfl⟩ | ⟨signature, rfl⟩ | rfl
  · cases c <;> first | exact hs | rfl | cases hkind
  · exact hs
  · exact absurd rfl (hnot signature)
  · rfl

theorem Inv.undecided_tick (h : Inv s) (htime : t.InTime s) (hwhole : t.DecidesWhole s kill) :
    Undecided (run perform s (ran (tickScript s t) kill)) := by
  have hofTick : ∀ c ∈ ran (tickScript s t) kill, c.ofTick :=
    fun c hc => ofTick_of_mem (mem_of_mem_ran hc)
  by_cases hremoved : Command.removeFiles ∈ ran (tickScript s t) kill
  · have hgone : (run perform s (ran (tickScript s t) kill)).files.deadline = none :=
      run_of_mem (P := fun s => s.files.deadline = none) hremoved (fun _ => rfl)
        (fun c hc _ hd => deadline_perform_ofTick (hofTick c hc) hd) s
    intro hd
    rw [hgone] at hd
    cases hd
  · have hnot : ∀ c ∈ ran (tickScript s t) kill, c.decides = false := by
      intro c hc
      cases hdecides : c.decides with
      | false => rfl
      | true =>
        have hremove := removeFiles_mem_tickScript (mem_of_mem_ran hc) hdecides
        exact absurd (mem_ran_of_not_cut hwhole hc hdecides hremove (beq_self_eq_true _)) hremoved
    have hdue := everyStep_ran (due_tickScript h htime) kill
    have hall := hdue.and (everyStep_of_forall (P := fun _ c => c.ofTick ∧ c.decides = false)
      (fun c hc _ => ⟨hofTick c hc, hnot c hc⟩) s)
    exact run_invariant (fun _ _ hu hP => undecided_perform hu hP.1 hP.2.1 hP.2.2) h.undecided hall

theorem Inv.kept_tick (h : Inv s) (htime : t.InTime s) (hnotes : t.NotesFailure s kill) :
    Kept (run perform s (ran (tickScript s t) kill)) := by
  have hofTick : ∀ c ∈ ran (tickScript s t) kill, c.ofTick :=
    fun c hc => ofTick_of_mem (mem_of_mem_ran hc)
  by_cases hfailed : Command.look none ∈ ran (tickScript s t) kill
  · obtain ⟨hremove, hnot⟩ := removeStable_mem_tickScript (mem_of_mem_ran hfailed)
    have hkeeps : ∀ c ∈ ran (tickScript s t) kill, ∀ s : State, s.files.stable = none →
        (perform s c).files.stable = none := fun c hc s' hs' =>
      stable_perform_ofTick (hofTick c hc) (hnot c (mem_of_mem_ran hc)) hs'
    have hgone : (run perform s (ran (tickScript s t) kill)).files.stable = none := by
      cases hstable : s.files.stable with
      | none =>
        exact run_kept (P := fun s : State => s.files.stable = none) hkeeps hstable
      | some signature =>
        have hcut := hnotes (by rw [hstable]; rfl)
        have hdropped : Command.removeStable ∈ ran (tickScript s t) kill :=
          mem_ran_of_not_cut hcut hfailed (beq_self_eq_true _) hremove (beq_self_eq_true _)
        exact run_of_mem (P := fun s => s.files.stable = none) hdropped (fun _ => rfl) hkeeps s
    intro _ signature hstable
    rw [hgone] at hstable
    cases hstable
  · have hdue := everyStep_ran (due_tickScript h htime) kill
    have hall := hdue.and (everyStep_of_forall (P := fun _ c => c.ofTick ∧ c ≠ .look none)
      (fun c hc _ => ⟨hofTick c hc, fun hlook => hfailed (hlook ▸ hc)⟩) s)
    exact run_invariant (fun _ _ hk hP => kept_perform hk hP.1 hP.2.1 hP.2.2) h.kept hall

theorem Inv.tick (h : Inv s)
    (hwhole : t.DecidesWhole s kill) (hnotes : t.NotesFailure s kill) (htime : t.InTime s) :
    Inv (run perform s (ran (tickScript s t) kill)) :=
  { toSound := invariant_ran (fun _ _ hs hdue => hs.perform hdue) h.toSound
      (due_tickScript h htime) kill
    kept := h.kept_tick htime hnotes
    undecided := h.undecided_tick htime hwhole }

end SolarFlowEms.Appliance.InstallDeadline
