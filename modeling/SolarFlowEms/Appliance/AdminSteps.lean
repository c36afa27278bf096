import SolarFlowEms.Appliance.AdminLifecycle

/-!
# What the steps of an Admin call leave

One rule for each way a step meets the host, and from these what each step of an install or a
rollback leaves of the deployment files, the history, the end of the operation and the deeds.
-/

namespace SolarFlowEms.Appliance.AdminLifecycle

open Python Program KnownGood

variable {site : Site} {answers : Answers} {host : Host}

/-! ### The rules -/

section Rules

variable {α : Type} {Q : α → Host → Prop} {E : Raised → Host → Prop}

@[simp] theorem ends_read (f : Host → α) : Ends (read f) host Q E ↔ Q (f host) host :=
  ends_of_eq_ok rfl

@[simp] theorem ends_alter {Q : Unit → Host → Prop} (change : Host → Host) :
    Ends (alter change) host Q E ↔ Q () (change host) :=
  ends_of_eq_ok rfl

@[simp] theorem ends_note {Q : Unit → Host → Prop} (deed : Deed) :
    Ends (note deed) host Q E ↔ Q () { host with deeds := deed :: host.deeds } :=
  ends_of_eq_ok rfl

theorem ends_ask {answer : ℕ → Except Raised α} : Ends (ask answer) host Q E ↔
    (∀ a, answer host.tick = .ok a → Q a host.next) ∧
      ∀ e, answer host.tick = .error e → E e host.next := by
  cases h : answer host.tick with
  | ok a =>
    have hrun : ask answer host = (.ok a, host.next) := by rw [ask, h]
    rw [ends_of_eq_ok hrun]
    simp
  | error e =>
    have hrun : ask answer host = (.error e, host.next) := by rw [ask, h]
    rw [ends_of_eq_error hrun]
    simp

@[simp] theorem ends_look {Q : Bool → Host → Prop} (answer : ℕ → Bool) :
    Ends (look answer) host Q E ↔ Q (answer host.tick) host.next :=
  ends_of_eq_ok rfl

theorem ends_put {Q : Unit → Host → Prop} {answer : ℕ → WriteAnswer} {change : Host → Host}
    (hdone : answer host.tick = .written → Q () (change host.next))
    (hrefused : ∀ e, answer host.tick = .refused e → E e host.next)
    (hraised : ∀ e, answer host.tick = .writtenThenRaised e → E e (change host.next)) :
    Ends (put answer change) host Q E := by
  cases h : answer host.tick with
  | written =>
    have hrun : put answer change host = (.ok (), change host.next) := by rw [put, h]
    exact (ends_of_eq_ok hrun).mpr (hdone h)
  | refused e =>
    have hrun : put answer change host = (.error e, host.next) := by rw [put, h]
    exact (ends_of_eq_error hrun).mpr (hrefused e h)
  | writtenThenRaised e =>
    have hrun : put answer change host = (.error e, change host.next) := by rw [put, h]
    exact (ends_of_eq_error hrun).mpr (hraised e h)

theorem ends_refuse {code : String} : Ends (refuse code : Call α) host Q E ↔ E (.lifecycle code) host :=
  ends_raise _

theorem ends_demand {Q : Unit → Host → Prop} {p : Prop} [Decidable p] {code : String} :
    Ends (demand p code) host Q E ↔ (p → Q () host) ∧ (¬p → E (.lifecycle code) host) := by
  rw [demand]
  by_cases hp : p
  · rw [if_pos hp, ends_pure]
    simp [hp]
  · rw [if_neg hp, ends_refuse]
    simp [hp]

theorem ends_judged {catches : Raised → Option String} {x : Call α}
    {Q : Except String α → Host → Prop} : Ends (judged catches x) host Q E ↔
      Ends x host (fun a => Q (.ok a)) fun e after =>
        (∀ code, catches e = some code → Q (.error code) after) ∧ (catches e = none → E e after) := by
  rw [judged, ends_catching, ends_bind]
  constructor
  · intro h
    refine h.mono (fun _ _ h => (ends_pure _).mp h) fun e after h => ?_
    cases hcatches : catches e <;> simpa [hcatches] using h
  · intro h
    refine h.mono (fun _ _ h => (ends_pure _).mpr h) fun e after h => ?_
    cases hcatches : catches e <;> simpa [hcatches] using h

end Rules

/-! ### Steps that only ask -/

def Host.at (host : Host) (n : ℕ) : Host := { host with tick := n }

@[simp] theorem Host.at_deeds (n : ℕ) : (host.at n).deeds = host.deeds := rfl

/-- A step that leaves the host as it is but for the moment, and raises only what is possible. -/
def Asks {α : Type} (possible : Raised → Prop) (x : Call α) : Prop :=
  ∀ host, Ends x host (fun _ after => ∃ n, after = host.at n)
    fun e after => possible e ∧ ∃ n, after = host.at n

section Asks

variable {α β : Type} {possible : Raised → Prop}

theorem Asks.ends {x : Call α} (hx : Asks possible x) {Q : α → Host → Prop}
    {E : Raised → Host → Prop} (hQ : ∀ a n, Q a (host.at n))
    (hE : ∀ e n, possible e → E e (host.at n)) : Ends x host Q E := by
  refine (hx host).mono ?_ ?_
  · intro a after h
    obtain ⟨n, rfl⟩ := h
    exact hQ a n
  · intro e after h
    obtain ⟨hp, n, rfl⟩ := h
    exact hE e n hp

theorem Asks.mono {possible' : Raised → Prop} {x : Call α} (hx : Asks possible x)
    (h : ∀ e, possible e → possible' e) : Asks possible' x :=
  fun host => (hx host).mono (fun _ _ h => h) fun e _ he => ⟨h e he.1, he.2⟩

theorem asks_pure (a : α) : Asks possible (pure a : Call α) :=
  fun host => (ends_pure a).mpr ⟨host.tick, rfl⟩

theorem asks_raise {e : Raised} (he : possible e) : Asks possible (raise e : Call α) :=
  fun host => (ends_raise e).mpr ⟨he, host.tick, rfl⟩

theorem asks_read (f : Host → α) : Asks possible (read f) :=
  fun host => (ends_read f).mpr ⟨host.tick, rfl⟩

theorem asks_ask {answer : ℕ → Except Raised α} (h : ∀ n e, answer n = .error e → possible e) :
    Asks possible (ask answer) :=
  fun _ => ends_ask.mpr ⟨fun _ _ => ⟨_, rfl⟩, fun e he => ⟨h _ e he, _, rfl⟩⟩

theorem asks_look (answer : ℕ → Bool) : Asks possible (look answer) :=
  fun _ => (ends_look answer).mpr ⟨_, rfl⟩

theorem asks_demand {p : Prop} [Decidable p] {code : String} (h : possible (.lifecycle code)) :
    Asks possible (demand p code) :=
  fun host => ends_demand.mpr ⟨fun _ => ⟨host.tick, rfl⟩, fun _ => ⟨h, host.tick, rfl⟩⟩

theorem Asks.bind {x : Call α} {f : α → Call β} (hx : Asks possible x)
    (hf : ∀ a, Asks possible (f a)) : Asks possible (x >>= f) :=
  fun host => ends_bind.mpr
    (hx.ends (fun a n => hf a (host.at n)) fun _ n he => ⟨he, n, rfl⟩)

theorem Asks.judged {catches : Raised → Option String} {inner : Raised → Prop} {x : Call α}
    (hx : Asks inner x) (h : ∀ e, inner e → catches e = none → possible e) :
    Asks possible (judged catches x) :=
  fun _ => ends_judged.mpr (hx.ends (fun _ n => ⟨n, rfl⟩)
    fun e n he => ⟨fun _ _ => ⟨n, rfl⟩, fun hnone => ⟨h e he hnone, n, rfl⟩⟩)

theorem Asks.ite {p : Prop} [Decidable p] {x y : Call α} (hx : Asks possible x)
    (hy : Asks possible y) : Asks possible (if p then x else y) := by
  split
  · exact hx
  · exact hy

end Asks

abbrev Anything (_ : Raised) : Prop := True

theorem asks_announce (stage : String) (possible : Raised → Prop)
    (h : ∀ n e, answers.announce n = .error e → possible e) :
    Asks possible (announce answers stage) := asks_ask h

theorem asks_validated {α : Type} (x : Except ValidationError α) : Asks Anything (validated x) :=
  fun host => (ends_ofExcept).mpr ⟨fun _ _ => ⟨host.tick, rfl⟩, fun _ _ => ⟨trivial, host.tick, rfl⟩⟩

theorem asks_requireNoAdminTransition : Asks (fun e => ∃ code, e = .lifecycle code)
    (requireNoAdminTransition answers) := by
  rw [requireNoAdminTransition]
  exact (asks_look _).bind fun _ => asks_demand ⟨_, rfl⟩

theorem asks_requireNoPackageRun : Asks Anything (requireNoPackageRun answers) := by
  rw [requireNoPackageRun]
  exact (asks_look _).bind fun _ => asks_demand trivial

theorem asks_requireLocalImage (watched : Bool) :
    Asks Anything (requireLocalImage answers watched) := by
  rw [requireLocalImage]
  refine (asks_ask fun _ _ _ => trivial).bind fun image => Asks.ite (asks_pure ()) ?_
  rw [pullMissing]
  have hannounce : Asks Anything (announcePull answers watched) := by
    rw [announcePull]
    exact Asks.ite (asks_ask fun _ _ _ => trivial) (asks_pure ())
  refine hannounce.bind fun _ => ?_
  refine (Asks.judged (asks_ask fun _ _ _ => trivial) fun _ _ _ => trivial).bind fun outcome => ?_
  cases outcome with
  | error code => exact asks_raise trivial
  | ok _ => exact (asks_ask fun _ _ _ => trivial).bind fun _ => asks_demand trivial

theorem asks_requirePlannedDeployment (plan : Plan) :
    Asks Anything (requirePlannedDeployment site plan) := by
  rw [requirePlannedDeployment, requireAbsentDeployment, requireSameDeployment]
  refine Asks.ite ((asks_read _).bind fun _ => asks_demand trivial) ?_
  refine Asks.bind (asks_demand trivial) fun _ => (asks_read _).bind fun files => ?_
  refine Asks.bind (asks_demand trivial) fun _ => Asks.bind (asks_demand trivial) fun _ => ?_
  exact Asks.bind (asks_demand trivial) fun _ => asks_demand trivial

theorem asks_requirePlannedCurrentAdmin (plan : Plan) :
    Asks Anything (requirePlannedCurrentAdmin answers plan) := by
  rw [requirePlannedCurrentAdmin]
  split
  · exact asks_pure ()
  · exact (asks_ask fun _ _ _ => trivial).bind fun _ => asks_demand trivial

theorem asks_requirePlannedImage (plan : Plan) (requireLabels watched : Bool) :
    Asks Anything (requirePlannedImage site answers plan requireLabels watched) := by
  rw [requirePlannedImage]
  refine (asks_requireLocalImage watched).bind fun _ => ?_
  refine (asks_ask fun _ _ _ => trivial).bind fun image => ?_
  refine Asks.bind (asks_demand trivial) fun _ => Asks.bind (asks_demand trivial) fun _ => ?_
  refine (asks_validated _).bind fun _ => Asks.bind (asks_demand trivial) fun _ => ?_
  refine Asks.bind (asks_demand trivial) fun _ => Asks.bind (asks_demand trivial) fun _ => ?_
  exact Asks.ite ((asks_validated _).bind fun _ => asks_pure ()) (asks_pure ())

theorem asks_installPreflight (plan : Plan) : Asks Anything (installPreflight site answers plan) :=
  (asks_requireNoAdminTransition.mono fun _ _ => trivial).bind fun _ =>
    asks_requireNoPackageRun.bind fun _ =>
      (asks_requirePlannedDeployment plan).bind fun _ =>
        (asks_requirePlannedCurrentAdmin plan).bind fun _ => asks_requirePlannedImage plan true false

theorem asks_rollbackPreflight (plan : Plan) :
    Asks Anything (rollbackPreflight site answers plan) :=
  (asks_requireNoAdminTransition.mono fun _ _ => trivial).bind fun _ =>
    asks_requireNoPackageRun.bind fun _ =>
      (asks_requirePlannedDeployment plan).bind fun _ =>
        (asks_requirePlannedCurrentAdmin plan).bind fun _ => asks_requirePlannedImage plan false true

theorem asks_composeUp {possible : Raised → Prop}
    (h : ∀ n e, answers.composeUp n = .error e → (∃ code, e = .docker code) ∨ possible e)
    (hcode : ∀ code, possible (.lifecycle code)) : Asks possible (composeUp answers) := by
  rw [composeUp]
  refine (Asks.judged (asks_ask fun n e he => h n e he) ?_).bind fun outcome => ?_
  · intro e he hnone
    rcases he with ⟨code, rfl⟩ | he
    · cases hnone
    · exact he
  · cases outcome with
    | error code => exact asks_raise (hcode code)
    | ok ok => exact asks_demand (hcode _)

/-! ### The stop and the verification -/

/-- What steps besides those of Docker leave alone. -/
structure Kept (before after : Host) : Prop where
  files : after.files = before.files
  history : after.history = before.history
  ended : after.ended = before.ended

theorem Kept.refl (host : Host) : Kept host host := ⟨rfl, rfl, rfl⟩

/-- What the Docker commands that only tell may raise. -/
structure TellsOnly (answers : Answers) (possible : Raised → Prop) : Prop where
  inspectContainer : ∀ n e, answers.inspectContainer n = .error e → possible e
  inspectImage : ∀ n e, answers.inspectImage n = .error e → possible e
  stopContainer : ∀ n e, answers.stopContainer n = .error e → possible e
  probe : ∀ n e, answers.probe n = .error e → possible e

theorem TellsOnly.anything (answers : Answers) : TellsOnly answers Anything :=
  ⟨fun _ _ _ => trivial, fun _ _ _ => trivial, fun _ _ _ => trivial, fun _ _ _ => trivial⟩

def StopDeeds (before after : Host) : Prop :=
  after.deeds = before.deeds ∨ after.deeds = .stopSent :: before.deeds

theorem ends_stopAdmin {possible : Raised → Prop} (htells : TellsOnly answers possible) :
    Ends (stopAdmin answers) host (fun _ after => Kept host after ∧ StopDeeds host after)
      fun e after => possible e ∧ Kept host after ∧ StopDeeds host after := by
  rw [stopAdmin, ends_bind, ends_ask]
  refine ⟨fun container _ => ?_, fun e he =>
    ⟨htells.inspectContainer _ e he, ⟨rfl, rfl, rfl⟩, .inl rfl⟩⟩
  split
  · rw [ends_bind, ends_note, ends_ask]
    exact ⟨fun _ _ => ⟨⟨rfl, rfl, rfl⟩, .inr rfl⟩,
      fun e he => ⟨htells.stopContainer _ e he, ⟨rfl, rfl, rfl⟩, .inr rfl⟩⟩
  · exact (ends_pure ()).mpr ⟨⟨rfl, rfl, rfl⟩, .inl rfl⟩

/-- What a verification says, and what it leaves. -/
structure Verifies (expectedDigest : String) (before : Host) (v : Verification) (after : Host) :
    Prop where
  kept : Kept before after
  deeds : after.deeds =
    if v.verified = true then .verified v.activeDigest :: before.deeds else before.deeds
  digest : v.verified = true → expectedDigest ≠ "" → v.activeDigest = expectedDigest

variable {v : Verification} {expectedDigest : String} {a b c : Host} {saved : Files}

theorem ends_concluded {E : Raised → Host → Prop}
    (hdigest : v.verified = true → expectedDigest ≠ "" → v.activeDigest = expectedDigest) :
    Ends (concluded v) host (Verifies expectedDigest host) E := by
  rw [concluded]
  by_cases hv : v.verified = true
  · rw [if_pos hv, ends_bind, ends_note, ends_pure]
    exact ⟨⟨rfl, rfl, rfl⟩, by rw [if_pos hv], hdigest⟩
  · rw [if_neg hv, ends_pure]
    exact ⟨Kept.refl _, by rw [if_neg hv], hdigest⟩

theorem not_verified_of_failure {failure digest : String} :
    ¬ (Verification.mk [failure] digest).verified = true := by
  simp [Verification.verified]

theorem activeDigest_of_verified {container : ContainerState} {activeDigest : String}
    {labels : List (String × String)} {probe : Probe} {expectedVersion : String}
    (h : (Verification.mk (verificationFailures container activeDigest labels probe expectedVersion
      expectedDigest) activeDigest).verified = true) (hne : expectedDigest ≠ "") :
    activeDigest = expectedDigest := by
  by_contra hdigest
  simp [Verification.verified, verificationFailures, hne, hdigest] at h

theorem Verifies.at {before after : Host} {n : ℕ}
    (h : Verifies expectedDigest (before.at n) v after) : Verifies expectedDigest before v after :=
  ⟨⟨h.kept.files, h.kept.history, h.kept.ended⟩, h.deeds, h.digest⟩

theorem ends_verifyAdmin {possible : Raised → Prop} (htells : TellsOnly answers possible)
    (expectedVersion expectedDigest : String) :
    Ends (verifyAdmin answers expectedVersion expectedDigest) host
      (Verifies expectedDigest host) fun e after => possible e ∧ ∃ n, after = host.at n := by
  rw [verifyAdmin, ends_bind]
  refine (asks_ask htells.inspectContainer).ends (fun container n => ?_) fun e n he => ⟨he, n, rfl⟩
  split
  · exact (ends_concluded fun h => absurd h not_verified_of_failure).mono
      (fun _ _ h => Verifies.at h) fun _ _ h => h
  · split
    · exact (ends_concluded fun h => absurd h not_verified_of_failure).mono
        (fun _ _ h => Verifies.at h) fun _ _ h => h
    · rw [ends_bind]
      have hactive : Asks possible (activeImage answers container) := by
        rw [activeImage]
        exact Asks.ite (asks_pure _) ((asks_ask htells.inspectImage).bind fun _ => asks_pure _)
      refine hactive.ends (fun active m => ?_) fun e m he => ⟨he, m, rfl⟩
      rw [ends_bind]
      refine (asks_ask htells.probe).ends (fun probe k => ?_) fun e k he => ⟨he, k, rfl⟩
      exact (ends_concluded fun h => activeDigest_of_verified h).mono
        (fun _ _ h => h.at.at.at) fun _ _ h => h

/-! ### The deployment files -/

def SameShape (before after : Files) : Prop :=
  (before.compose = none → after.compose = none) ∧ (before.env = none → after.env = none)

theorem SameShape.refl (files : Files) : SameShape files files := ⟨id, id⟩

/-- Everything but the deployment files. -/
structure FilesOnly (before after : Host) : Prop where
  history : after.history = before.history
  ended : after.ended = before.ended
  deeds : after.deeds = before.deeds

def Names (reference : String) (files : Files) : Prop :=
  ∃ compose, files.compose = some compose ∧ compose.image = some reference

theorem FilesOnly.refl (host : Host) : FilesOnly host host := ⟨rfl, rfl, rfl⟩

theorem FilesOnly.trans (hab : FilesOnly a b) (hbc : FilesOnly b c) :
    FilesOnly a c :=
  ⟨hbc.history.trans hab.history, hbc.ended.trans hab.ended, hbc.deeds.trans hab.deeds⟩

theorem SameShape.trans {a b c : Files} (hab : SameShape a b) (hbc : SameShape b c) :
    SameShape a c := ⟨fun h => hbc.1 (hab.1 h), fun h => hbc.2 (hab.2 h)⟩

def Rewritten (before after : Host) : Prop :=
  FilesOnly before after ∧ SameShape before.files after.files

theorem Rewritten.refl (host : Host) : Rewritten host host := ⟨.refl host, .refl host.files⟩

theorem Rewritten.next (host : Host) : Rewritten host host.next := ⟨⟨rfl, rfl, rfl⟩, .refl host.files⟩

theorem Rewritten.trans (hab : Rewritten a b) (hbc : Rewritten b c) :
    Rewritten a c := ⟨hab.1.trans hbc.1, hab.2.trans hbc.2⟩

theorem rewritten_setCompose {compose : ComposeFile} (h : host.files.compose ≠ none) (n : ℕ) :
    Rewritten host (setCompose compose (host.at n)) :=
  ⟨⟨rfl, rfl, rfl⟩, fun hnone => absurd hnone h, id⟩

theorem rewritten_setEnvironment {env : EnvFile} (h : host.files.env ≠ none) (n : ℕ) :
    Rewritten host (setEnvironment env (host.at n)) :=
  ⟨⟨rfl, rfl, rfl⟩, id, fun hnone => absurd hnone h⟩

theorem ends_put_either {P : Host → Prop} {Q : Unit → Host → Prop} {answer : ℕ → WriteAnswer}
    {change : Host → Host} (hdone : Q () (change host.next)) (hbefore : P host.next)
    (hafter : P (change host.next)) : Ends (put answer change) host Q fun _ => P :=
  ends_put (fun _ => hdone) (fun _ _ => hbefore) fun _ _ => hafter

theorem ends_pinEnvironment (repository digest tag : String) :
    Ends (pinEnvironment answers repository digest tag) host
      (fun _ after => Rewritten host after ∧ after.files.compose = host.files.compose)
      fun _ after => Rewritten host after := by
  rw [pinEnvironment, ends_bind, ends_read]
  cases henv : host.files.env with
  | none => exact (ends_pure ()).mpr ⟨.refl host, rfl⟩
  | some env =>
    have hne : host.files.env ≠ none := by simp [henv]
    exact ends_translating.mpr (ends_put_either ⟨rewritten_setEnvironment hne _, rfl⟩
      (Rewritten.next host) (rewritten_setEnvironment hne _))

/-- **A pinned deployment names the digest**, and one that could not be pinned has lost no file. -/
theorem ends_applyDigest (repository digest tag : String) :
    Ends (applyDigest answers repository digest tag) host
      (fun _ after => Rewritten host after ∧ Names (repository ++ "@" ++ digest) after.files)
      fun _ after => Rewritten host after := by
  rw [applyDigest, ends_bind, ends_read]
  cases hcompose : host.files.compose with
  | none => exact (ends_raise _).mpr (.refl host)
  | some compose =>
    have hne : host.files.compose ≠ none := by simp [hcompose]
    by_cases himage : compose.image = none
    · simpa [himage] using Rewritten.refl host
    · simp only [if_neg himage, ends_bind]
      refine ends_put_either ?_ (Rewritten.next host) (rewritten_setCompose hne _)
      refine (ends_pinEnvironment repository digest tag).mono ?_ ?_
      · intro _ after h
        exact ⟨(rewritten_setCompose hne _).trans h.1, _, h.2, rfl⟩
      · intro _ after h
        exact (rewritten_setCompose hne _).trans h

/-! ### Writing the files back -/

section

variable (hshape : SameShape saved host.files)
include hshape

theorem ends_writeBack_compose :
    Ends (writeBack answers saved.compose setCompose) host
      (fun _ after => FilesOnly host after ∧
        after.files = { host.files with compose := saved.compose })
      fun _ after => FilesOnly host after ∧ SameShape saved after.files := by
  cases hsaved : saved.compose with
  | none =>
    refine (ends_pure ()).mpr ⟨.refl host, ?_⟩
    rw [← hshape.1 hsaved]
  | some compose =>
    exact ends_put_either ⟨⟨rfl, rfl, rfl⟩, rfl⟩ ⟨⟨rfl, rfl, rfl⟩, hshape⟩
      ⟨⟨rfl, rfl, rfl⟩, fun hnone => (by rw [hsaved] at hnone; cases hnone), hshape.2⟩

theorem ends_writeBack_env :
    Ends (writeBack answers saved.env setEnvironment) host
      (fun _ after => FilesOnly host after ∧ after.files = { host.files with env := saved.env })
      fun _ after => FilesOnly host after ∧ SameShape saved after.files := by
  cases hsaved : saved.env with
  | none =>
    refine (ends_pure ()).mpr ⟨.refl host, ?_⟩
    rw [← hshape.2 hsaved]
  | some env =>
    exact ends_put_either ⟨⟨rfl, rfl, rfl⟩, rfl⟩ ⟨⟨rfl, rfl, rfl⟩, hshape⟩
      ⟨⟨rfl, rfl, rfl⟩, hshape.1, fun hnone => (by rw [hsaved] at hnone; cases hnone)⟩

/-- **A deployment that is written back is the one that was saved.** -/
theorem ends_restore :
    Ends (restore answers saved) host (fun _ after => FilesOnly host after ∧ after.files = saved)
      fun _ after => FilesOnly host after ∧ SameShape saved after.files := by
  rw [restore, ends_bind]
  refine (ends_writeBack_compose hshape).mono ?_ fun _ _ h => h
  intro _ mid hmid
  have hshape' : SameShape saved mid.files := by
    rw [hmid.2]
    exact ⟨id, hshape.2⟩
  refine (ends_writeBack_env hshape').mono ?_ ?_
  · intro _ after h
    refine ⟨hmid.1.trans h.1, ?_⟩
    rw [h.2, hmid.2]
  · intro _ after h
    exact ⟨hmid.1.trans h.1, h.2⟩

/-- A restore that must not raise: it says whether it was done, and notes where it was not. -/
structure Restored (saved : Files) (before : Host) (done : Bool) (after : Host) : Prop where
  history : after.history = before.history
  ended : after.ended = before.ended
  shape : SameShape saved after.files
  done_files : done = true → after.files = saved ∧ after.deeds = before.deeds
  failed_deeds : done = false → after.deeds = .writeBackFailed :: before.deeds

theorem ends_safeRestore :
    Ends (safeRestore answers saved) host (Restored saved host) fun e after =>
      writeFailures "" e = none ∧ FilesOnly host after ∧ SameShape saved after.files := by
  rw [safeRestore, ends_bind, ends_judged]
  refine (ends_restore hshape).mono ?_ ?_
  · intro _ after h
    refine (ends_pure _).mpr ⟨h.1.history, h.1.ended, ?_, fun _ => ⟨h.2, h.1.deeds⟩, by simp⟩
    rw [h.2]
    exact .refl saved
  · intro e after h
    refine ⟨fun code _ => ?_, fun hnone => ⟨hnone, h⟩⟩
    rw [ends_bind, ends_note, ends_pure]
    exact ⟨h.1.history, h.1.ended, h.2, by simp, fun _ => congrArg _ h.1.deeds⟩

end

/-! ### The history -/

/-- Everything but the history. -/
structure HistoryOnly (before after : Host) : Prop where
  files : after.files = before.files
  ended : after.ended = before.ended
  deeds : after.deeds = before.deeds

theorem HistoryOnly.refl (host : Host) : HistoryOnly host host := ⟨rfl, rfl, rfl⟩

theorem HistoryOnly.trans (hab : HistoryOnly a b) (hbc : HistoryOnly b c) :
    HistoryOnly a c :=
  ⟨hbc.files.trans hab.files, hbc.ended.trans hab.ended, hbc.deeds.trans hab.deeds⟩

/-- A host that the history is written to whenever it is. -/
structure HistoryTaken (answers : Answers) : Prop where
  setAside : ∀ n, answers.setAside n = .ok ()
  writeHistory : ∀ n, answers.writeHistory n = .written

theorem ends_setAsideUnreadable :
    Ends (setAsideUnreadable answers) host (fun _ after => HistoryOnly host after)
      fun _ after => HistoryOnly host after ∧ ¬HistoryTaken answers := by
  rw [setAsideUnreadable, ends_bind, ends_read]
  split
  · rw [ends_bind, ends_ask]
    refine ⟨fun _ _ => (ends_alter _).mpr ⟨rfl, rfl, rfl⟩, fun e he => ⟨⟨rfl, rfl, rfl⟩, ?_⟩⟩
    intro htaken
    rw [htaken.setAside] at he
    cases he
  · exact (ends_pure ()).mpr (.refl host)

theorem ends_recordKnownGood (entry : Entry) :
    Ends (recordKnownGood site answers entry) host (fun _ after => HistoryOnly host after)
      fun _ after => HistoryOnly host after ∧ ¬HistoryTaken answers := by
  rw [recordKnownGood, ends_bind]
  refine ends_setAsideUnreadable.mono (fun _ mid hmid => ?_) fun _ _ h => h
  rw [ends_bind, ends_alter]
  refine ends_put (fun _ => hmid.trans ⟨rfl, rfl, rfl⟩) ?_ ?_
  · intro e he
    refine ⟨hmid.trans ⟨rfl, rfl, rfl⟩, fun htaken => ?_⟩
    rw [htaken.writeHistory] at he
    cases he
  · intro e he
    refine ⟨hmid.trans ⟨rfl, rfl, rfl⟩, fun htaken => ?_⟩
    rw [htaken.writeHistory] at he
    cases he

theorem ends_recordRunningAdmin (state : Detected) (composeHash : String) :
    Ends (recordRunningAdmin site answers state composeHash) host
      (fun _ after => HistoryOnly host after) fun _ after => HistoryOnly host after := by
  rw [recordRunningAdmin, ends_bind, unguarded, ends_ofExcept]
  refine ⟨fun _ _ => ?_, fun _ _ => .refl host⟩
  rw [ends_bind, ends_read]
  exact (ends_recordKnownGood _).mono (fun _ _ h => h) fun _ _ h => h.1

end SolarFlowEms.Appliance.AdminLifecycle
