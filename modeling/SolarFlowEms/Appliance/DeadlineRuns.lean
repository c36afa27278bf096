import SolarFlowEms.Appliance.DeadlineTicks

/-!
# An undisturbed deadline decides once and rightly

The other steps keep what a tick keeps: arming a deadline starts its course afresh, taking it back
and the install unit's script remove it where a verdict is recorded or nothing was installed.
-/

namespace SolarFlowEms.Appliance.InstallDeadline

open Run KilledScript

/-! ### The other steps -/

theorem Sound.inv_of_none {s : State} (h : Sound s) (hd : s.files.deadline = none) : Inv s :=
  { h with
    kept := fun hsome => by
      rw [hd] at hsome
      cases hsome
    undecided := fun hsome => by
      rw [hd] at hsome
      cases hsome }

theorem due_disarm {s : State} (hinstalled : (course s.log).installed = false) :
    EveryStep perform Due s disarmScript :=
  ⟨.inr hinstalled, rfl, rfl, .inl rfl, True.intro, True.intro, True.intro⟩

variable {c : Command} {s' : State} {d : Deadline} {rest : List Command}

theorem deadline_perform_disarm {s : State} (hc : c ∈ disarmScript)
    (hd : s.files.deadline = none) : (perform s c).files.deadline = none := by
  simp only [disarmScript, List.mem_cons, List.not_mem_nil, or_false] at hc
  rcases hc with rfl | rfl | rfl | rfl | rfl | rfl <;> first | exact hd | rfl

theorem Inv.takeBack {s : State} (h : Inv s) (kill : Option ℕ)
    (hnothing : s.neverStarted = true → (course s.log).installed = false) :
    Inv (run perform s (ran (takeBackScript s) kill)) := by
  have hwithdrawn : Inv (perform s .withdrawRequest) := { h with }
  cases hnever : s.neverStarted with
  | false =>
    have hscript : takeBackScript s = [.withdrawRequest] := by
      rw [takeBackScript, hnever]
      rfl
    rw [hscript]
    rcases kill with _ | _ | count
    · exact hwithdrawn
    · exact h
    · simpa [ran] using hwithdrawn
  | true =>
    have hscript : takeBackScript s = .withdrawRequest :: disarmScript := by
      rw [takeBackScript, hnever]
      rfl
    have hinstalled := hnothing hnever
    -- wherever the rest stops, it has run nothing or has removed the deadline first
    have hrest : ∀ script, script <+: disarmScript →
        Inv (run perform (perform s .withdrawRequest) script) := by
      intro script hprefix
      obtain ⟨later, hlater⟩ := hprefix
      cases script with
      | nil => exact hwithdrawn
      | cons c script =>
        have hdue : EveryStep perform Due (perform s .withdrawRequest) (c :: script) := by
          have hall : EveryStep perform Due (perform s .withdrawRequest) disarmScript :=
            due_disarm hinstalled
          rw [← hlater, everyStep_append] at hall
          exact hall.1
        have hsound : Sound (run perform (perform s .withdrawRequest) (c :: script)) :=
          run_invariant (fun _ _ hs hdue => hs.perform hdue) hwithdrawn.toSound hdue
        obtain rfl : c = .unlinkDeadline := (List.cons.inj hlater).1
        refine hsound.inv_of_none ?_
        refine run_of_mem (P := fun s : State => s.files.deadline = none) List.mem_cons_self
          (fun _ => rfl) (fun c' hc' s' hs' => ?_) _
        refine deadline_perform_disarm ?_ hs'
        rw [← hlater]
        exact List.mem_append_left _ hc'
    rw [hscript]
    rcases kill with _ | _ | count
    · exact hrest disarmScript (List.prefix_rfl)
    · exact h
    · exact hrest (disarmScript.take count) (List.take_prefix count disarmScript)

/-- What an arming that has written its deadline and dropped what an earlier one left may have
done to the rest. -/
structure Fresh (s s' : State) (d : Deadline) : Prop where
  log : s'.log = .armed d :: s.log
  deadline : ∀ d', s'.files.deadline = some d' → d' = d
  attempts : s'.files.attempts = s.files.attempts ∨ s'.files.attempts = none
  ticks : s'.files.ticks = none
  stable : s'.files.stable = none
  unit : s'.unit = none

theorem Fresh.inv {s : State} (h : Inv s) (hf : Fresh s s' d) (hd : d.Armed) :
    Inv s' := by
  have hattempts : s'.files.attempts.getD 0 ≤ revertAttempts := by
    rcases hf.attempts with hsame | hnone
    · rw [hsame]
      exact h.attempts
    · rw [hnone]
      exact Nat.zero_le _
  have hcourse : course s'.log = { Course.empty with deadline := some d } := by rw [hf.log]; rfl
  exact
    { right := by rw [hf.log]; exact ⟨trivial, h.right⟩
      armed := fun d' hd' => by
        rw [hcourse, hf.deadline d' hd']
        exact ⟨rfl, hd⟩
      attempts := hattempts
      reinstalls := fun _ => by rw [hcourse]; exact Nat.zero_le _
      judged := fun _ _ _ _ => .inl (by rw [hcourse]; rfl)
      spent := fun _ => by rw [hcourse]; exact Nat.zero_le _
      verdict := fun hsettled => by rw [hcourse] at hsettled; cases hsettled
      retired := fun _ => .inr (by rw [hcourse]; rfl)
      job := fun _ => ⟨hf.unit, by rw [hcourse]; rfl⟩
      unit := fun rest hrest => by rw [hf.unit] at hrest; cases hrest
      first := fun _ _ _ => .inr (by rw [hf.ticks]; rfl)
      kept := fun _ signature hstable => by rw [hf.stable] at hstable; cases hstable
      undecided := fun _ verdict hverdict => by rw [hcourse] at hverdict; cases hverdict }

/-- The commands of an arming after it has written its deadline. -/
def Command.afterWrite : Command → Bool
  | .unlinkVerdict | .unlinkTicks | .unlinkAttempts | .removeStable | .unlinkExtended => true
  | .startTimer | .askStart | .unlinkDeadline | .withdrawRequest => true
  | _ => false

def afterWrite (a : Arming) : List Command :=
  [.unlinkVerdict, .unlinkTicks, .unlinkAttempts, .removeStable, .unlinkExtended] ++
  if a.timerStarts then [.startTimer, .askStart] else [.unlinkDeadline, .withdrawRequest]

theorem armScript_eq (a : Arming) :
    armScript a = [.stageRequest a.request, .removeResult] ++
      .writeDeadline a.deadline :: afterWrite a := rfl

theorem afterWrite_of_mem {a : Arming} (hc : c ∈ afterWrite a) :
    c.afterWrite = true := by
  rw [afterWrite, List.mem_append] at hc
  rcases hc with hfront | hlater
  · simp only [List.mem_cons, List.not_mem_nil, or_false] at hfront
    rcases hfront with rfl | rfl | rfl | rfl | rfl <;> rfl
  · split_ifs at hlater <;> simp only [List.mem_cons, List.not_mem_nil, or_false] at hlater <;>
      rcases hlater with rfl | rfl <;> rfl

theorem fresh_perform {s : State} (h : Fresh s s' d)
    (hc : c.afterWrite = true) : Fresh s (perform s' c) d := by
  cases c with
  | unlinkVerdict => exact { h with }
  | unlinkTicks => exact { h with ticks := rfl }
  | unlinkAttempts => exact { h with attempts := .inr rfl }
  | removeStable => exact { h with stable := rfl }
  | unlinkExtended | startTimer | askStart => exact { h with }
  | unlinkDeadline => exact { h with deadline := fun _ hd => by cases hd }
  | withdrawRequest => exact { h with }
  | _ => cases hc

theorem fresh_run {s : State} (h : Fresh s s' d) {script : List Command}
    (hscript : ∀ c ∈ script, c.afterWrite = true) : Fresh s (run perform s' script) d :=
  run_kept (P := fun s' => Fresh s s' d) (fun c hc _ hf => fresh_perform hf (hscript c hc)) h

def written (s : State) (a : Arming) : State :=
  run perform s [.stageRequest a.request, .removeResult, .writeDeadline a.deadline]

theorem fresh_of_dropped {s : State} {a : Arming} {script : List Command} (hunit : s.unit = none)
    (hscript : script <+: afterWrite a)
    (hdropped : (s.files.ticks = none ∧ s.files.stable = none) ∨ .removeStable ∈ script) :
    Fresh s (run perform (written s a) script) a.deadline := by
  have hall : ∀ c ∈ script, c.afterWrite = true :=
    fun c hc => afterWrite_of_mem (hscript.subset hc)
  have hdeadline : ∀ d', (written s a).files.deadline = some d' → d' = a.deadline :=
    fun d' hd => (Option.some.inj hd).symm
  rcases hdropped with ⟨hticks, hstable⟩ | hmem
  · have hfresh : Fresh s (written s a) a.deadline :=
      ⟨rfl, hdeadline, .inl rfl, hticks, hstable, hunit⟩
    exact fresh_run hfresh hall
  · obtain ⟨later, hlater⟩ := hscript
    simp only [afterWrite, List.cons_append, List.nil_append] at hlater
    rcases script with _ | ⟨c₁, _ | ⟨c₂, _ | ⟨c₃, _ | ⟨c₄, script⟩⟩⟩⟩
    · cases hmem
    all_goals simp only [List.cons_append, List.cons.injEq] at hlater
    · obtain ⟨rfl, -⟩ := hlater
      simp at hmem
    · obtain ⟨rfl, rfl, -⟩ := hlater
      simp at hmem
    · obtain ⟨rfl, rfl, rfl, -⟩ := hlater
      simp at hmem
    · obtain ⟨rfl, rfl, rfl, rfl, -⟩ := hlater
      have hfresh : Fresh s (run perform (written s a)
          [.unlinkVerdict, .unlinkTicks, .unlinkAttempts, .removeStable]) a.deadline :=
        ⟨rfl, hdeadline, .inr rfl, rfl, rfl, hunit⟩
      exact fresh_run hfresh fun c hc => hall c (by simp [hc])

theorem Arming.armed (a : Arming) (hkeeps : a.KeepsDigest) : a.deadline.Armed :=
  ⟨rfl, ⟨_, rfl⟩, ⟨_, rfl⟩, hkeeps⟩

/-- **Arming a deadline starts its course**, ended or killed. -/
theorem Inv.arm {s : State} (h : Inv s) {a : Arming} {kill : Option ℕ} (hunit : s.unit = none)
    (hkeeps : a.KeepsDigest) (hdrops : a.DropsLeftovers s kill) :
    Inv (run perform s (ran (armScript a) kill)) := by
  have hleft : (s.files.ticks = none ∧ s.files.stable = none) ∨
      (s.files.ticks.isSome ∨ s.files.stable.isSome) := by
    cases s.files.ticks <;> cases s.files.stable <;> simp
  have hrest : ∀ script, script <+: afterWrite a →
      ran (armScript a) kill = [.stageRequest a.request, .removeResult] ++
        .writeDeadline a.deadline :: script →
      Inv (run perform s (ran (armScript a) kill)) := by
    intro script hprefix hran
    have hdropped : (s.files.ticks = none ∧ s.files.stable = none) ∨ .removeStable ∈ script := by
      refine hleft.imp_right fun hsome => ?_
      have hmem : Command.removeStable ∈ ran (armScript a) kill := by
        refine mem_ran_of_not_cut (hdrops hsome) (c := .writeDeadline a.deadline) ?_
          (beq_self_eq_true _) ?_ (beq_self_eq_true _)
        · rw [hran]
          simp
        · simp [armScript]
      rw [hran] at hmem
      simpa using hmem
    rw [hran, run_append]
    exact (fresh_of_dropped hunit hprefix hdropped).inv h (a.armed hkeeps)
  rcases kill with _ | _ | _ | _ | count
  · exact hrest (afterWrite a) List.prefix_rfl (armScript_eq a)
  · exact h
  · exact { h with }
  · exact { h with }
  · refine hrest ((afterWrite a).take count) (List.take_prefix _ _) ?_
    rw [armScript_eq]
    rfl

/-! ### The install unit -/

theorem retires_refuse (outcome : Outcome) (detail : String) :
    Retires false false (refuse outcome detail) := ⟨.inr rfl, trivial⟩

theorem retires_fallbackScript (r : Request) (previous : String) (e : InstallRun) :
    Retires false true (fallbackScript r previous e) := by
  rw [fallbackScript]
  split
  · trivial
  split
  · split
    · exact ⟨trivial, trivial⟩
    · trivial
  split
  · trivial
  · trivial

theorem retires_installScript (request : Option Request) (e : InstallRun) :
    Retires false false (installScript request e) := by
  cases request with
  | none => exact retires_refuse _ _
  | some r =>
    simp only [installScript]
    split
    · exact retires_refuse _ _
    split
    · exact retires_refuse _ _
    split
    · exact retires_refuse _ _
    split
    · exact retires_refuse _ _
    split
    · trivial
    · exact ⟨.inr rfl, trivial⟩
    · exact retires_fallbackScript r _ e

theorem Inv.start {s : State} (h : Inv s) (e : InstallRun) (hjob : s.job = true) :
    Inv { s with job := false, unit := some (installScript s.files.request e) } :=
  { h with
    job := fun hfalse => by cases hfalse
    unit := fun rest hrest => by
      obtain rfl : installScript s.files.request e = rest := Option.some.inj hrest
      have hnot : (course s.log).installed = false := (h.job hjob).2
      refine @Retires.mono false _ false _ _ (fun hfalse => ?_) (fun hinstalled => ?_)
        (retires_installScript s.files.request e)
      · cases hfalse
      · exact absurd (hnot.symm.trans hinstalled) Bool.false_ne_true }

theorem Inv.withUnit {s : State} (h : Inv s) (hjob : s.job = false)
    (hrest : Retires (course s.log).settled (course s.log).installed rest) :
    Inv { s with unit := some rest } :=
  { h with
    job := fun htrue => absurd (hjob.symm.trans htrue) Bool.false_ne_true
    unit := fun rest' hrest' => by
      obtain rfl : rest = rest' := Option.some.inj hrest'
      exact hrest }

theorem Inv.withoutUnit {s : State} (h : Inv s) : Inv { s with unit := none } :=
  { h with
    job := fun hjob => ⟨rfl, (h.job hjob).2⟩
    unit := fun _ hrest => by cases hrest }

theorem Inv.unitCommand {s : State} (h : Inv s) (hunit : s.unit = none) (hjob : s.job = false)
    (hretires : Retires (course s.log).settled (course s.log).installed (c :: rest)) :
    Inv (perform s c) ∧ Retires (course (perform s c).log).settled
      (course (perform s c).log).installed rest := by
  cases c with
  | installPackage pass =>
    have hsound : Sound (perform s (.installPackage pass)) := h.installPackage ⟨hunit, hjob⟩
    rw [perform] at hsound ⊢
    split_ifs at hsound ⊢ with hskip
    · refine ⟨h, hretires.mono id fun hinstalled => ?_⟩
      rw [hinstalled]
      rfl
    · refine ⟨{ hsound with kept := h.kept, undecided := h.undecided }, ?_⟩
      have hworked : pass ≠ .locked := fun hlocked => hskip (.inl hlocked)
      refine hretires.mono id fun _ => ?_
      simp [hworked]
  | configure => exact ⟨h, hretires⟩
  | recordResult outcome detail | stopTimer => exact ⟨{ h with }, hretires⟩
  | retire verdict detail => exact ⟨h, hretires.2⟩
  | removeFiles =>
    exact ⟨(h.removeFiles hretires.1).inv_of_none rfl, hretires.2⟩
  | recordVerdict author verdict detail =>
    cases author with
    | reverter => exact hretires.elim
    | installer =>
      have hdue : Due s (.recordVerdict .installer verdict detail) := True.intro
      exact ⟨{ h.recordVerdict hdue with kept := h.kept, undecided := h.undecided }, hretires⟩
  | _ => exact hretires.elim

theorem perform_unit (s : State) (c : Command) (rest : Option (List Command)) :
    { perform s c with unit := rest } = { perform { s with unit := none } c with unit := rest } := by
  cases c with
  | installPackage pass =>
    rw [perform, perform]
    split_ifs <;> rfl
  | _ => rfl

theorem job_perform {s : State} (hjob : s.job = false) (hc : c ≠ .askStart) :
    (perform s c).job = false := by
  cases c with
  | askStart => exact absurd rfl hc
  | installPackage pass =>
    rw [perform]
    split_ifs
    · exact hjob
    · exact hjob
  | _ => exact hjob

/-- **The next command of the install unit keeps the invariant.** -/
theorem Inv.unitStep {s : State} (h : Inv s) : Inv (unitStep s) := by
  cases hunit : s.unit with
  | none =>
    simp only [InstallDeadline.unitStep, hunit]
    exact h
  | some commands =>
    have hretires := h.unit commands hunit
    have hjob : s.job = false := by
      cases hjob : s.job with
      | false => rfl
      | true =>
        have hnone := (h.job hjob).1
        rw [hunit] at hnone
        cases hnone
    cases commands with
    | nil =>
      simp only [InstallDeadline.unitStep, hunit]
      exact h.withoutUnit
    | cons c rest =>
      obtain ⟨hinv, hrest⟩ := h.withoutUnit.unitCommand rfl hjob hretires
      by_cases hretire : ∃ verdict detail, c = .retire verdict detail
      · obtain ⟨verdict, detail, rfl⟩ := hretire
        simp only [InstallDeadline.unitStep, hunit]
        refine h.withUnit hjob ?_
        split_ifs
        · exact ⟨.inl rfl, hretires.1⟩
        · exact hretires.2
      · have hstep : InstallDeadline.unitStep s = { perform s c with unit := some rest } := by
          cases c with
          | retire verdict detail => exact absurd ⟨verdict, detail, rfl⟩ hretire
          | _ => simp only [InstallDeadline.unitStep, hunit]
        have hask : c ≠ .askStart := by
          rintro rfl
          exact hretires
        rw [hstep, perform_unit]
        exact hinv.withUnit (job_perform hjob hask) hrest

/-! ### Every undisturbed run -/

theorem inv_initial : Inv State.initial :=
  { right := trivial
    armed := fun _ hd => by cases hd
    attempts := Nat.zero_le _
    reinstalls := fun hd => by cases hd
    judged := fun _ _ hd => by cases hd
    spent := fun hd => by cases hd
    verdict := fun hsettled => by cases hsettled
    retired := fun _ => .inr rfl
    job := fun hjob => by cases hjob
    unit := fun _ hrest => by cases hrest
    first := fun hd => by cases hd
    kept := fun hd => by cases hd
    undecided := fun hd => by cases hd }

theorem Inv.step {s : State} (h : Inv s) {a : Step} (hstep : a.Undisturbed s) :
    Inv (step s a) := by
  cases a with
  | arm a kill =>
    simp only [InstallDeadline.step]
    split_ifs with hunjudged
    · exact h
    · obtain ⟨hunit, hkeeps, hdrops⟩ := hstep (Bool.eq_false_iff.mpr hunjudged)
      exact h.arm (Option.isNone_iff_eq_none.mp hunit) hkeeps hdrops
  | takeBack kill => exact h.takeBack kill hstep
  | start e =>
    simp only [InstallDeadline.step]
    split_ifs with hjob
    · rw [Bool.and_eq_true] at hjob
      exact h.start e hjob.1
    · exact h
  | unit => exact h.unitStep
  | unitKilled => exact h.withoutUnit
  | tick t kill =>
    simp only [InstallDeadline.step]
    split_ifs with htimer
    · obtain ⟨hwhole, hnotes, htime⟩ := hstep htimer
      exact h.tick hwhole hnotes htime
    · exact h

theorem Inv.decidesRightly {s : State} (h : Inv s) : DecidesRightly s :=
  { confirmed := fun later past hlog => by
      have hright := h.right
      rw [hlog] at hright
      exact hright.allows
    reinstalled := fun later digest past hlog => by
      have hright := h.right
      rw [hlog] at hright
      exact hright.allows
    bounded := fun d hd => by
      obtain ⟨hcourse, harmed⟩ := h.armed d hd
      obtain ⟨window, hwindow⟩ := harmed.window
      refine ⟨hcourse, window, hwindow, ?_⟩
      have hattempts := h.attempts
      rw [revertAttempts] at hattempts
      rw [tickBound, tickSeconds, revertAttempts]
      rcases h.judged d window hd hwindow with hzero | hlt
      · omega
      · rw [tickSeconds] at hlt
        omega
    settled := fun hd _ => by
      rcases h.retired hd with hsettled | hnothing
      · exact .inl ⟨hsettled, h.verdict hsettled⟩
      · exact .inr hnothing }

/-- **In every run whose steps disturb nothing, the deadline decides once and rightly**, in every
state that is reached. -/
theorem decidesRightly_of_undisturbed {inputs : List Step}
    (h : EveryStep step (fun s a => a.Undisturbed s) State.initial inputs) :
    DecidesRightly (run step State.initial inputs) :=
  (run_invariant (fun _ _ hs ha => hs.step ha) inv_initial h).decidesRightly

/-! ### The runs on which it does not -/

/-- An arming at noon of an update over a kept package. -/
def exampleArming : Arming where
  request := ⟨stateDir ++ "/current.deb", "2.0", none⟩
  expectedVersion := "2.0"
  buildId := "b2"
  previous := previousDeb
  digest := some "sha256:1a"
  operationId := "op1"
  now := 43200
  windowSeconds := defaultWindowSeconds
  timerStarts := true

/-- An install that dpkg carries out. -/
def exampleInstall : InstallRun where
  isFile _ := true
  install _ := .done
  fallback _ := .done
  dpkgQuery := some ("installed", "2.0")

/-- A tick that finds the update and its services running, or stopped. -/
def exampleTick (now : ℕ) (running : Bool) : Tick where
  now := now
  dpkgQuery := some ("installed", "2.0")
  isActive _ := running
  processes service := service ++ " 7:0:"
  webPort := none
  listening := none
  archive _ := some (some "1a")
  dpkgInstall := true

/-- The arming, the install and the end of its unit. -/
def exampleInstalled : List Step :=
  [.arm exampleArming none, .start exampleInstall, .unit, .unit, .unit]

/-- Two ticks confirm an update that runs. -/
theorem decidesRightly_of_undisturbed_confirmed :
    DecidesRightly (run step State.initial
      (exampleInstalled ++ [.tick (exampleTick 43260 true) none,
        .tick (exampleTick 43320 true) none])) :=
  decidesRightly_of_undisturbed (by decide)

/-- The clock jumps past the window before the first tick, which finds the update running. -/
def lateRun : List Step := exampleInstalled ++ [.tick (exampleTick 50000 true) none]

/-- The tick that puts the previous package back is killed between its verdict and the removal of
the deadline; the next one finds the previous package. -/
def cutRun : List Step :=
  exampleInstalled ++ [.tick (exampleTick 44200 false) (some 6),
    .tick { exampleTick 44260 true with dpkgQuery := some ("installed", "1.0") } none]

/-- **A jump of the clock undoes a working install, and a kill after the verdict lets the reverter
install again.** -/
theorem lateRun_cutRun_disturbed :
    ¬ DecidesRightly (run step State.initial lateRun) ∧
      ¬ DecidesRightly (run step State.initial cutRun) := by
  constructor
  · intro h
    have hlog : (run step State.initial lateRun).log =
        (run step State.initial lateRun).log.take 2 ++ .reinstalled "sha256:1a" ::
          (run step State.initial lateRun).log.drop 3 := by decide
    exact (h.reinstalled _ _ _ hlog).failing ((exampleTick 50000 true).signature)
      (by decide)
  · intro h
    have hlog : (run step State.initial cutRun).log =
        (run step State.initial cutRun).log.take 2 ++ .reinstalled "sha256:1a" ::
          (run step State.initial cutRun).log.drop 3 := by decide
    have hverdict : (course ((run step State.initial cutRun).log.drop 3)).verdicts ≠ [] := by
      decide
    exact hverdict (h.reinstalled _ _ _ hlog).undecided

end SolarFlowEms.Appliance.InstallDeadline
