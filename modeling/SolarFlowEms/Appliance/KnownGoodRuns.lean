import SolarFlowEms.Appliance.ProvenAdmin

/-!
# The history across every run of Admin calls

Installs, rollbacks, repairs and status reads, in any order and each failing anywhere, record Admins
into one history.  What a call does besides recording leaves the history as it is; a record keeps the
way back where it spells the Admin that is current as the history does.  An Admin recorded once under
the tag it was installed by and once under the label of its image stands in the history twice.
-/

namespace SolarFlowEms.Appliance.AdminLifecycle

open Python Program KnownGood

variable {site : Site} {answers : Answers} {host : Host}

/-- What holds of the history while no record has spelled the current Admin otherwise. -/
structure WayBack (host : Host) : Prop where
  trimmed : ∀ entry ∈ host.history.entries, pyStrip entry.adminDigest = entry.adminDigest
  leads : (∀ r ∈ host.records, Spelled r.1 r.2) → LeadsBack host.digests host.history.entries

theorem WayBack.of_same {after : Host} (h : WayBack host) (hhistory : after.history = host.history)
    (hrecords : after.records = host.records) (hdigests : after.digests = host.digests) :
    WayBack after := by
  refine ⟨?_, ?_⟩
  · rw [hhistory]
    exact h.trimmed
  · rw [hrecords, hdigests, hhistory]
    exact h.leads

/-! ### Programs that keep the way back -/

/-- However a program ends, it has kept the way back. -/
def Keeps {α : Type} (x : Call α) : Prop := ∀ host, WayBack host → Always x host WayBack

section Rules

variable {α β : Type}

theorem keeps_pure (a : α) : Keeps (pure a : Call α) := fun _ h => (ends_pure a).mpr h

theorem keeps_raise (e : Raised) : Keeps (raise e : Call α) := fun _ h => (ends_raise e).mpr h

theorem keeps_refuse (code : String) : Keeps (refuse code : Call α) := keeps_raise _

variable {x : Call α} {change : Host → Host}

theorem Keeps.bind {f : α → Call β} (hx : Keeps x) (hf : ∀ a, Keeps (f a)) :
    Keeps (x >>= f) :=
  fun host h => ends_bind.mpr ((hx host h).mono (fun a after h => hf a after h) fun _ _ h => h)

theorem Keeps.judged {catches : Raised → Option String} (hx : Keeps x) :
    Keeps (judged catches x) :=
  fun host h => ends_judged.mpr ((hx host h).mono (fun _ _ h => h)
    fun _ _ h => ⟨fun _ _ => h, fun _ => h⟩)

theorem Keeps.translating {f : Raised → Raised} (hx : Keeps x) :
    Keeps (translating f x : Call α) :=
  fun host h => ends_translating.mpr (hx host h)

theorem Keeps.ite {p : Prop} [Decidable p] {y : Call α} (hx : Keeps x) (hy : Keeps y) :
    Keeps (if p then x else y) := by
  split
  · exact hx
  · exact hy

theorem Asks.keeps {possible : Raised → Prop} (hx : Asks possible x) : Keeps x :=
  fun _ h => hx.ends (fun _ _ => h.of_same rfl rfl rfl) fun _ _ _ => h.of_same rfl rfl rfl

theorem keeps_ask (answer : ℕ → Except Raised α) : Keeps (ask answer) :=
  (show Asks Anything (ask answer) from asks_ask fun _ _ _ => trivial).keeps

theorem keeps_look (answer : ℕ → Bool) : Keeps (look answer) :=
  (show Asks Anything (look answer) from asks_look answer).keeps

theorem keeps_read (f : Host → α) : Keeps (read f) :=
  (show Asks Anything (read f) from asks_read f).keeps

theorem keeps_demand (p : Prop) [Decidable p] (code : String) : Keeps (demand p code) :=
  (show Asks Anything (demand p code) from asks_demand trivial).keeps

theorem keeps_ofExcept (x : Except Raised α) : Keeps (ofExcept x : Call α) :=
  fun _ h => ends_ofExcept.mpr ⟨fun _ _ => h, fun _ _ => h⟩

theorem keeps_alter (hhistory : ∀ host, (change host).history = host.history)
    (hrecords : ∀ host, (change host).records = host.records)
    (hdigests : ∀ host, (change host).digests = host.digests) : Keeps (alter change) :=
  fun _ h => (ends_alter change).mpr (h.of_same (hhistory _) (hrecords _) (hdigests _))

theorem keeps_put {answer : ℕ → WriteAnswer}
    (hhistory : ∀ host, (change host).history = host.history)
    (hrecords : ∀ host, (change host).records = host.records)
    (hdigests : ∀ host, (change host).digests = host.digests) : Keeps (put answer change) := by
  intro host h
  have hchanged : WayBack (change host.next) := h.of_same (hhistory _) (hrecords _) (hdigests _)
  exact ends_put (fun _ => hchanged) (fun _ _ => h.of_same rfl rfl rfl) fun _ _ => hchanged

theorem keeps_note (deed : Deed) : Keeps (note deed) :=
  keeps_alter (fun _ => rfl) (fun _ => rfl) fun _ => rfl

end Rules

/-! ### Records -/

theorem wayBack_absent {after : Host} (hhistory : after.history = .absent)
    (hdigests : after.digests = []) : WayBack after := by
  refine ⟨?_, ?_⟩
  · rw [hhistory]
    intro entry hentry
    cases hentry
  · intro _
    rw [hdigests, hhistory]
    exact .empty

theorem keeps_setAsideUnreadable : Keeps (setAsideUnreadable answers) := by
  rw [setAsideUnreadable]
  refine (keeps_read _).bind fun history => Keeps.ite ((keeps_ask _).bind fun _ => ?_) (keeps_pure ())
  exact fun _ _ => (ends_alter _).mpr (wayBack_absent rfl rfl)

theorem mem_entries_recorded {retention : Retention} {entry item : Entry} {history : HistoryFile}
    (h : item ∈ (recorded retention entry history).entries) :
    item = entry ∨ item ∈ history.entries := by
  rw [entries_recorded, List.mem_cons] at h
  rcases h with h | h
  · exact .inl h
  · exact .inr (List.mem_filter.mp (List.mem_of_mem_take h)).1

theorem keeps_recordKnownGood {entry : Entry}
    (htrimmed : pyStrip entry.adminDigest = entry.adminDigest) :
    Keeps (recordKnownGood site answers entry) := by
  rw [recordKnownGood]
  refine keeps_setAsideUnreadable.bind fun _ host h => ?_
  rw [Always, ends_bind, ends_alter]
  have hold : ∀ (p : HistoryFile × Entry → Prop),
      (∀ r ∈ (host.history, entry) :: host.records, p r) → ∀ r ∈ host.records, p r :=
    fun p hall r hr => hall r (List.mem_cons_of_mem _ hr)
  refine ends_put_either ?_ ⟨h.trimmed, fun hall => h.leads (hold _ hall)⟩ ?_ <;>
  · refine ⟨fun item hitem => ?_, fun hall => ?_⟩
    · rcases mem_entries_recorded hitem with rfl | hitem
      · exact htrimmed
      · exact h.trimmed item hitem
    · exact (h.leads (hold _ hall)).recorded (hall _ List.mem_cons_self)

/-- Docker gives a digest as its registry spells it, without whitespace around it. -/
def DigestsTrimmed (answers : Answers) : Prop :=
  ∀ n state, answers.detect n = .ok state → pyStrip state.digest = state.digest

theorem keeps_recordRunningAdmin {state : Detected} (htrimmed : pyStrip state.digest = state.digest)
    (composeHash : String) : Keeps (recordRunningAdmin site answers state composeHash) := by
  rw [recordRunningAdmin, unguarded]
  exact (keeps_ofExcept _).bind fun _ => (keeps_read _).bind fun _ => keeps_recordKnownGood htrimmed

theorem keeps_detected {α : Type} {f : Detected → Call α} (hdocker : DigestsTrimmed answers)
    (hf : ∀ state, pyStrip state.digest = state.digest → Keeps (f state)) :
    Keeps (ask answers.detect >>= f) := by
  intro host h
  refine ends_bind.mpr (ends_ask.mpr ⟨fun state hstate => ?_, fun _ _ => h.of_same rfl rfl rfl⟩)
  exact hf state (hdocker _ state hstate) _ (h.of_same rfl rfl rfl)

/-! ### The steps of a call -/

theorem keeps_announce (stage : String) : Keeps (announce answers stage) := keeps_ask _

theorem keeps_finish (ended : Ended) : Keeps (finish answers ended) :=
  keeps_put (fun _ => rfl) (fun _ => rfl) fun _ => rfl

theorem keeps_preflightFailure (state : OperationState) (code : String) :
    Keeps (preflightFailure answers state code) := by
  rw [preflightFailure]
  exact (keeps_ask _).bind fun _ => keeps_finish _

theorem keeps_writeCompose (compose : ComposeFile) :
    Keeps (put answers.writeFile (setCompose compose)) :=
  keeps_put (fun _ => rfl) (fun _ => rfl) fun _ => rfl

theorem keeps_writeEnvironment (env : EnvFile) :
    Keeps (put answers.writeFile (setEnvironment env)) :=
  keeps_put (fun _ => rfl) (fun _ => rfl) fun _ => rfl

theorem keeps_applyDigest (repository digest tag : String) :
    Keeps (applyDigest answers repository digest tag) := by
  rw [applyDigest]
  refine (keeps_read _).bind fun compose => ?_
  cases compose with
  | none => exact keeps_raise _
  | some compose =>
    refine Keeps.ite (keeps_raise _) ((keeps_writeCompose _).bind fun _ => ?_)
    rw [pinEnvironment]
    refine (keeps_read _).bind fun env => ?_
    cases env with
    | none => exact keeps_pure ()
    | some env => exact (keeps_writeEnvironment _).translating

theorem keeps_restore (saved : Files) : Keeps (restore answers saved) := by
  rw [restore]
  refine Keeps.bind ?_ fun _ => ?_
  · cases saved.compose with
    | none => exact keeps_pure ()
    | some compose => exact keeps_writeCompose compose
  · cases saved.env with
    | none => exact keeps_pure ()
    | some env => exact keeps_writeEnvironment env

theorem keeps_safeRestore (saved : Files) : Keeps (safeRestore answers saved) := by
  rw [safeRestore]
  refine (keeps_restore saved).judged.bind fun outcome => ?_
  cases outcome with
  | ok _ => exact keeps_pure true
  | error _ => exact (keeps_note _).bind fun _ => keeps_pure false

theorem keeps_stopAdmin : Keeps (stopAdmin answers) := by
  rw [stopAdmin]
  exact (keeps_ask _).bind fun _ =>
    Keeps.ite ((keeps_note _).bind fun _ => keeps_ask _) (keeps_pure ())

theorem keeps_composeUp : Keeps (composeUp answers) :=
  (show Asks Anything (composeUp answers) from
    asks_composeUp (fun _ _ _ => .inr trivial) fun _ => trivial).keeps

theorem keeps_concluded (v : Verification) : Keeps (concluded v) := by
  rw [concluded]
  exact Keeps.ite ((keeps_note _).bind fun _ => keeps_pure v) (keeps_pure v)

theorem keeps_verifyAdmin (expectedVersion expectedDigest : String) :
    Keeps (verifyAdmin answers expectedVersion expectedDigest) := by
  rw [verifyAdmin]
  refine (keeps_ask _).bind fun container => Keeps.ite (keeps_concluded _)
    (Keeps.ite (keeps_concluded _) (Keeps.bind ?_ fun active => (keeps_ask _).bind fun probe =>
      keeps_concluded _))
  rw [activeImage]
  exact Keeps.ite (keeps_pure _) ((keeps_ask _).bind fun _ => keeps_pure _)

theorem keeps_requireNoAdminTransition : Keeps (requireNoAdminTransition answers) :=
  asks_requireNoAdminTransition.keeps

theorem keeps_bringBack {target : Identity} {writeSaved : Call Unit} (hwrite : Keeps writeSaved) :
    Keeps (bringBack answers target writeSaved) := by
  rw [bringBack]
  exact (keeps_note _).bind fun _ => keeps_stopAdmin.bind fun _ => hwrite.bind fun _ =>
    (asks_requireLocalImage false).keeps.bind fun _ => (keeps_applyDigest _ _ _).bind fun _ =>
      keeps_composeUp.bind fun _ => keeps_verifyAdmin _ _

theorem keeps_transitionStarted (saved : Files) : Keeps (transitionStarted answers saved) := by
  rw [transitionStarted]
  refine keeps_requireNoAdminTransition.judged.bind fun outcome => ?_
  cases outcome with
  | ok _ => exact keeps_pure false
  | error code =>
    exact (keeps_safeRestore saved).bind fun _ => (keeps_preflightFailure _ _).bind fun _ =>
      keeps_pure true

/-! ### Installs -/

section Install

variable {plan : Plan}

theorem keeps_stopAndWriteBack (saved : Files) : Keeps (stopAndWriteBack answers saved) := by
  rw [stopAndWriteBack]
  refine (keeps_stopAdmin.bind fun _ => (keeps_note _).bind fun _ =>
    keeps_safeRestore saved).judged.bind fun outcome => ?_
  cases outcome with
  | ok _ => exact keeps_pure ()
  | error _ => exact keeps_note _

theorem keeps_rollbackAfterFailure (saved : Files) (code : String) :
    Keeps (rollbackAfterFailure answers plan saved code) := by
  rw [rollbackAfterFailure]
  refine keeps_requireNoAdminTransition.judged.bind fun outcome => ?_
  cases outcome with
  | error live => exact (keeps_finish _).bind fun _ => keeps_refuse live
  | ok _ =>
    rw [rollbackUnobserved]
    refine (keeps_read _).bind fun target => ?_
    cases target with
    | none =>
      rw [nothingToRestore]
      exact (keeps_stopAndWriteBack saved).bind fun _ =>
        (keeps_finish _).bind fun _ => keeps_refuse _
    | some target =>
      refine (keeps_announce _).bind fun _ =>
        (keeps_bringBack (keeps_restore saved)).judged.bind fun outcome => ?_
      cases outcome with
      | error _ => exact (keeps_finish _).bind fun _ => keeps_refuse _
      | ok v =>
        rw [recoveryEnded]
        exact Keeps.ite ((keeps_finish _).bind fun _ => keeps_refuse _)
          ((keeps_finish _).bind fun _ => keeps_refuse _)

theorem keeps_bootstrapFailure (code : String) : Keeps (bootstrapFailure answers code) := by
  rw [bootstrapFailure]
  exact (keeps_ask _).bind fun _ => keeps_finish _

theorem keeps_installFailed (saved : Files) (code : String) :
    Keeps (installFailed answers plan saved code) := by
  rw [installFailed]
  exact Keeps.ite (keeps_bootstrapFailure code) (keeps_rollbackAfterFailure saved code)

theorem keeps_recordInstalled : Keeps (recordInstalled site answers plan) := by
  rw [recordInstalled]
  exact (keeps_announce _).bind fun _ => (keeps_read _).bind fun _ =>
    (keeps_recordKnownGood (pyStrip_of_isDigest plan.valid)).bind fun _ => keeps_finish _

theorem keeps_installReplaced (saved : Files) :
    Keeps (installReplaced site answers plan saved) := by
  rw [installReplaced]
  have hreplace : Keeps (replaceAdmin answers plan) :=
    (keeps_announce _).bind fun _ => keeps_stopAdmin.bind fun _ => (keeps_announce _).bind fun _ =>
      keeps_composeUp.bind fun _ => (keeps_announce _).bind fun _ =>
        (keeps_verifyAdmin _ _).bind fun _ => keeps_demand _ _
  refine hreplace.judged.bind fun outcome => ?_
  cases outcome with
  | error code => exact keeps_installFailed saved code
  | ok _ => exact keeps_recordInstalled

theorem keeps_installPinned (saved : Files) : Keeps (installPinned site answers plan saved) := by
  rw [installPinned]
  refine (keeps_announce _).bind fun _ => (keeps_applyDigest _ _ _).judged.bind fun outcome => ?_
  cases outcome with
  | error code =>
    exact (keeps_restore saved).bind fun _ => (keeps_finish _).bind fun _ => keeps_refuse _
  | ok _ =>
    rw [installGuarded]
    exact (keeps_transitionStarted saved).bind fun stands =>
      Keeps.ite (keeps_pure ()) (keeps_installReplaced saved)

theorem keeps_recordBefore {before : Detected} (htrimmed : pyStrip before.digest = before.digest)
    (saved : Files) : Keeps (recordBefore site answers before saved) := by
  rw [recordBefore]
  exact (keeps_announce _).bind fun _ =>
    Keeps.ite (keeps_recordRunningAdmin htrimmed _) (keeps_pure ())

theorem keeps_installRecorded (hdocker : DigestsTrimmed answers) :
    Keeps (installRecorded site answers plan) := by
  rw [installRecorded]
  exact (keeps_read _).bind fun saved => keeps_detected hdocker fun before htrimmed =>
    (keeps_recordBefore htrimmed saved).bind fun _ => keeps_installPinned saved

theorem keeps_bootstrapDeployment : Keeps (bootstrapDeployment answers) := by
  rw [bootstrapDeployment]
  have hinstaller : Keeps (put answers.installer fun host =>
      { host with files := answers.installed host.tick }) :=
    keeps_put (fun _ => rfl) (fun _ => rfl) fun _ => rfl
  exact (keeps_announce _).bind fun _ => hinstaller.bind fun _ =>
    (keeps_read _).bind fun _ => keeps_demand _ _

/-- **An install keeps the way back**, wherever it fails. -/
theorem keeps_executeInstall (hdocker : DigestsTrimmed answers) :
    Keeps (executeInstall site answers plan) := by
  rw [executeInstall]
  refine (keeps_announce _).bind fun _ =>
    (asks_installPreflight plan).keeps.judged.bind fun outcome => ?_
  cases outcome with
  | error code => exact keeps_preflightFailure _ _
  | ok _ =>
    refine Keeps.ite ?_ (keeps_installRecorded hdocker)
    rw [installBootstrapped]
    refine keeps_bootstrapDeployment.judged.bind fun outcome => ?_
    cases outcome with
    | error code => exact keeps_bootstrapFailure code
    | ok _ => exact keeps_installRecorded hdocker

end Install

/-! ### Rollbacks -/

section Rollback

variable {plan : Plan}

theorem keeps_rollbackRecoveryFailure (saved : Files) (code : String) :
    Keeps (rollbackRecoveryFailure answers plan saved code) := by
  rw [rollbackRecoveryFailure]
  refine (keeps_announce _).bind fun _ => (keeps_read _).bind fun target =>
    Keeps.bind (Keeps.judged ?_) fun _ => keeps_finish _
  cases target with
  | none => exact keeps_refuse _
  | some target =>
    refine keeps_bringBack ?_
    rw [restoreOrRaise]
    exact (keeps_safeRestore saved).bind fun restored => Keeps.ite (keeps_pure ()) (keeps_raise _)

theorem keeps_rollbackVerified {target : RollbackTarget} (htarget : target.digest = plan.digest)
    (saved : Files) : Keeps (rollbackVerified site answers plan saved target) := by
  rw [rollbackVerified]
  have htrimmed : pyStrip target.digest = target.digest :=
    htarget ▸ pyStrip_of_isDigest plan.valid
  have hrecord : ∀ files, Keeps (recordKnownGood site answers (verifiedEntry site target.repository
      plan.tag target.digest target.reference "" "" "" files)) :=
    fun files => keeps_recordKnownGood htrimmed
  exact (keeps_announce _).bind fun _ => (keeps_verifyAdmin _ _).bind fun v =>
    Keeps.ite ((keeps_read _).bind fun files => (hrecord files).bind fun _ => keeps_finish _)
      (keeps_rollbackRecoveryFailure saved _)

theorem keeps_rollbackReplaced {target : RollbackTarget} (htarget : target.digest = plan.digest)
    (saved : Files) : Keeps (rollbackReplaced site answers plan saved target) := by
  rw [rollbackReplaced]
  refine (keeps_announce _).bind fun _ => keeps_stopAdmin.bind fun _ =>
    (keeps_announce _).bind fun _ => keeps_composeUp.judged.bind fun outcome => ?_
  cases outcome with
  | error code => exact keeps_rollbackRecoveryFailure saved code
  | ok _ => exact keeps_rollbackVerified htarget saved

theorem keeps_rollbackPinned {target : RollbackTarget} (htarget : target.digest = plan.digest) :
    Keeps (rollbackPinned site answers plan target) := by
  rw [rollbackPinned]
  refine (keeps_read _).bind fun saved => (keeps_announce _).bind fun _ =>
    (keeps_applyDigest _ _ _).judged.bind fun outcome => ?_
  cases outcome with
  | error code =>
    exact (keeps_safeRestore saved).bind fun _ => keeps_preflightFailure _ _
  | ok _ =>
    rw [rollbackGuarded]
    exact (keeps_transitionStarted saved).bind fun stands =>
      Keeps.ite (keeps_pure ()) (keeps_rollbackReplaced htarget saved)

theorem keeps_executeRollback : Keeps (executeRollback site answers plan) := by
  rw [executeRollback]
  refine (keeps_announce _).bind fun _ => ?_
  split
  · exact keeps_preflightFailure _ _
  · next target htarget =>
    rw [rollbackChecked]
    refine (keeps_announce _).bind fun _ =>
      (asks_rollbackPreflight plan).keeps.judged.bind fun outcome => ?_
    cases outcome with
    | error code => exact keeps_preflightFailure _ _
    | ok _ => exact keeps_rollbackPinned (digest_of_validatedRollbackTarget htarget)

end Rollback

/-! ### Status reads and repairs -/

theorem keeps_deployedDigest : Keeps (deployedDigest answers) := by
  rw [deployedDigest]
  refine (keeps_read _).bind fun image => ?_
  cases image with
  | none => exact keeps_pure ""
  | some _ =>
    refine (keeps_ask _).judged.bind fun outcome => ?_
    cases outcome with
    | error _ => exact keeps_pure ""
    | ok _ => exact keeps_pure _

theorem keeps_adoptSettled {state : Detected} (htrimmed : pyStrip state.digest = state.digest)
    (active pending : Bool) : Keeps (adoptSettled site answers state active pending) := by
  rw [adoptSettled]
  refine Keeps.ite (keeps_pure ()) ((keeps_ofExcept _).bind fun _ =>
    keeps_deployedDigest.bind fun deployed => ?_)
  rw [adoptDeployed]
  refine Keeps.ite (keeps_pure ()) ((keeps_verifyAdmin _ _).bind fun v => ?_)
  rw [adoptVerified]
  exact Keeps.ite (keeps_pure ()) (keeps_requireNoAdminTransition.bind fun _ =>
    (keeps_read _).bind fun _ => keeps_recordRunningAdmin htrimmed _)

theorem keeps_detect (hdocker : DigestsTrimmed answers) : Keeps (detect site answers) := by
  rw [detect]
  refine keeps_detected hdocker fun state htrimmed => ?_
  rw [adoptRunningAdmin]
  refine (keeps_read _).bind fun history => Keeps.ite (keeps_pure ()) ?_
  have hsettled : ∀ active pending, Keeps (adoptSettled site answers state active pending) :=
    fun active pending => keeps_adoptSettled htrimmed active pending
  have hadopt := (keeps_look answers.operationActive).bind fun active =>
    (keeps_look answers.managerPending).bind fun pending => hsettled active pending
  exact hadopt.judged.bind fun _ => keeps_pure ()

theorem keeps_verifiedOrReason (asDeployed : Bool) : Keeps (verifiedOrReason answers asDeployed) := by
  rw [verifiedOrReason]
  refine (keeps_read _).bind fun current => Keeps.bind ?_ fun deployed => Keeps.bind ?_
    fun _ => keeps_pure _
  · rw [askedDigest]
    exact Keeps.ite keeps_deployedDigest (keeps_pure "")
  · rw [verifyExpected]
    exact Keeps.ite (keeps_verifyAdmin _ _) (keeps_verifyAdmin _ _)

theorem keeps_pinKnownGood (entry : Entry) (target : Except ValidationError RollbackTarget) :
    Keeps (pinKnownGood answers entry target) := by
  cases target with
  | error e => exact keeps_pure _
  | ok target =>
    exact (asks_requireLocalImage false).keeps.bind fun _ =>
      (keeps_applyDigest _ _ _).bind fun _ => keeps_pure _

theorem keeps_pinCurrent (current : Option Entry) : Keeps (pinCurrent site answers current) := by
  cases current with
  | none => exact keeps_pure _
  | some entry =>
    have hpin : pinCurrent site answers (some entry) = pinKnownGood answers entry
        (validatedRollbackTarget site entry.adminImage entry.adminDigest entry.adminReference) := by
      simp only [pinCurrent]
    rw [hpin]
    exact keeps_pinKnownGood entry _

theorem keeps_recreateUp (current : Option Entry) : Keeps (recreateUp site answers current) := by
  rw [recreateUp]
  refine (keeps_pinCurrent current).bind fun outcome => ?_
  cases outcome with
  | error reason => exact keeps_pure _
  | ok _ => exact keeps_composeUp.bind fun _ => keeps_pure _

theorem keeps_recreateAdmin : Keeps (recreateAdmin site answers) := by
  rw [recreateAdmin]
  refine (keeps_read _).bind fun current => (keeps_recreateUp current).judged.bind fun outcome => ?_
  match outcome with
  | .error _ => exact keeps_pure _
  | .ok (.error reason) => exact keeps_pure reason
  | .ok (.ok _) => exact keeps_verifiedOrReason false

theorem keeps_applyRepair (action : RepairAction) : Keeps (applyRepair site answers action) := by
  cases action with
  | startAdmin =>
    exact (keeps_ask _).bind fun _ => Keeps.ite (keeps_verifiedOrReason true) (keeps_pure _)
  | restartAdmin =>
    exact (keeps_ask _).bind fun _ => Keeps.ite (keeps_verifiedOrReason true) (keeps_pure _)
  | recreateAdmin => exact keeps_recreateAdmin
  | other => exact (keeps_ask _).bind fun _ => keeps_pure _

theorem keeps_applyRepairs (actions : List RepairAction) :
    Keeps (applyRepairs site answers actions) := by
  induction actions with
  | nil => exact keeps_pure []
  | cons action actions ih =>
    rw [applyRepairs]
    exact (keeps_announce _).bind fun _ => (keeps_applyRepair action).bind fun _ =>
      ih.bind fun _ => keeps_pure _

theorem keeps_executeRepair (actions : List RepairAction) :
    Keeps (executeRepair site answers actions) := by
  rw [executeRepair]
  exact asks_requireNoPackageRun.keeps.bind fun _ => (keeps_applyRepairs actions).bind fun _ =>
    (keeps_announce _).bind fun _ => (keeps_ask _).bind fun _ => keeps_finish _

/-! ### Runs -/

/-- What happens to an appliance: a call with the answers it meets, or what the host does besides. -/
inductive Step where
  | install (answers : Answers) (plan : Plan)
  | rollback (answers : Answers) (plan : Plan)
  | repair (answers : Answers) (actions : List RepairAction)
  | statusRead (answers : Answers)
  | planRollback (answers : Answers)
  | deploymentChanged (files : Files)
  /-- `history.json` can be read no more, and what was recorded in it with it. -/
  | historySpoiled

/-- A call begins an operation of its own. -/
def Host.begin (host : Host) : Host := { host with ended := none, deeds := [] }

def step (site : Site) (host : Host) : Step → Host
  | .install answers plan => (executeInstall site answers plan host.begin).2
  | .rollback answers plan => (executeRollback site answers plan host.begin).2
  | .repair answers actions => (executeRepair site answers actions host.begin).2
  | .statusRead answers => (detect site answers host).2
  | .planRollback answers => (planRollback site answers host.begin).2
  | .deploymentChanged files => { host with files := files }
  | .historySpoiled => { host with history := .unreadable, digests := [] }

def run (site : Site) (host : Host) (steps : List Step) : Host := steps.foldl (step site) host

/-- An appliance on which no Admin has been recorded. -/
structure Initial (host : Host) : Prop where
  history : host.history = .absent
  records : host.records = []
  digests : host.digests = []

/-- What Docker gives the calls of a step is trimmed. -/
def Step.Trimmed : Step → Prop
  | .install answers _ => DigestsTrimmed answers
  | .statusRead answers => DigestsTrimmed answers
  | _ => True

theorem WayBack.begin (h : WayBack host) : WayBack host.begin := h.of_same rfl rfl rfl

theorem asks_planRollback : Asks Anything (planRollback site answers) := by
  have hprevious : Asks Anything previousKnownGood := by
    rw [previousKnownGood]
    refine (asks_read _).bind fun history => Asks.bind (asks_demand trivial) fun _ => ?_
    split
    · exact asks_raise trivial
    · exact asks_pure _
  have hof : ∀ {α : Type} (x : Except Raised α), Asks Anything (ofExcept x : Call α) :=
    fun x host => ends_ofExcept.mpr ⟨fun _ _ => ⟨host.tick, rfl⟩,
      fun _ _ => ⟨trivial, host.tick, rfl⟩⟩
  have hcapture : ∀ state, Asks Anything (captureRecoveryIdentity site state) := by
    intro state
    rw [captureRecoveryIdentity]
    exact Asks.ite (asks_pure _) (Asks.ite (asks_raise trivial)
      ((hof _).bind fun _ => asks_pure _))
  have hdocker : Asks Anything (requireDocker answers) := by
    rw [requireDocker]
    exact (asks_look _).bind fun _ => asks_demand trivial
  have hdeployment : Asks Anything requireDeployment := by
    rw [requireDeployment]
    exact (asks_read _).bind fun _ => Asks.bind (asks_demand trivial) fun _ => asks_demand trivial
  rw [planRollback]
  exact (asks_ask fun _ _ _ => trivial).bind fun state =>
    (asks_announce _ _ fun _ _ _ => trivial).bind fun _ => hdocker.bind fun _ =>
      (asks_requireNoAdminTransition.mono fun _ _ => trivial).bind fun _ =>
        asks_requireNoPackageRun.bind fun _ => hdeployment.bind fun _ =>
          hprevious.bind fun _ => (hof _).bind fun _ => (hcapture state).bind fun _ =>
            (asks_read _).bind fun _ => asks_pure _

theorem wayBack_step {s : Step} (hdocker : s.Trimmed) (h : WayBack host) :
    WayBack (step site host s) := by
  cases s with
  | install answers plan => exact Ends.state (keeps_executeInstall hdocker host.begin h.begin)
  | rollback answers plan => exact Ends.state (keeps_executeRollback host.begin h.begin)
  | repair answers actions => exact Ends.state (keeps_executeRepair actions host.begin h.begin)
  | statusRead answers => exact Ends.state (keeps_detect hdocker host h)
  | planRollback answers => exact Ends.state (asks_planRollback.keeps host.begin h.begin)
  | deploymentChanged files => exact h.of_same rfl rfl rfl
  | historySpoiled =>
    exact ⟨fun entry hentry => (by cases hentry), fun _ => .empty⟩

theorem wayBack_run {steps : List Step} (hdocker : ∀ s ∈ steps, s.Trimmed) (h : WayBack host) :
    WayBack (run site host steps) := by
  induction steps generalizing host with
  | nil => exact h
  | cons s steps ih =>
    exact ih (fun s' hs' => hdocker s' (List.mem_cons_of_mem _ hs'))
      (wayBack_step (hdocker s List.mem_cons_self) h)

/-! ### The way back -/

/-- What the history has to offer: two entries that differ once two digests are recorded, the Admin
recorded last as the current one, and a rollback to another. -/
structure HasWayBack (site : Site) (host : Host) : Prop where
  differ : ∀ d ∈ host.digests, ∀ d' ∈ host.digests, d ≠ d' → ∃ current previous,
    host.history.current = some current ∧ host.history.previous = some previous ∧
      current.adminDigest ≠ previous.adminDigest
  last : host.history.current.map Entry.adminDigest = host.digests.head?
  planned : ∀ answers plan after, planRollback site answers host = (.ok plan, after) →
    ∀ current, host.history.current = some current → plan.target.digest ≠ current.adminDigest

theorem ends_planRollback : Ends (planRollback site answers) host
    (fun plan _ => ∃ previous, host.history.previous = some previous ∧
      plan.target.digest = pyStrip previous.adminDigest) fun _ _ => True := by
  rw [planRollback, ends_bind]
  refine (asks_ask (fun _ _ _ => trivial : ∀ n e, _ → Anything e)).ends (fun state n => ?_)
    fun _ _ _ => trivial
  rw [ends_bind]
  refine (asks_announce _ Anything fun _ _ _ => trivial).ends (fun _ m => ?_) fun _ _ _ => trivial
  rw [requireDocker, ends_bind, ends_bind, ends_look, ends_demand]
  refine ⟨fun _ => ?_, fun _ => trivial⟩
  rw [ends_bind]
  refine asks_requireNoAdminTransition.ends (fun _ k => ?_) fun _ _ _ => trivial
  rw [ends_bind]
  refine asks_requireNoPackageRun.ends (fun _ j => ?_) fun _ _ _ => trivial
  rw [requireDeployment, ends_bind, ends_bind, ends_read, ends_bind, ends_demand]
  refine ⟨fun _ => ends_demand.mpr ⟨fun _ => ?_, fun _ => trivial⟩, fun _ => trivial⟩
  rw [ends_bind, previousKnownGood, ends_bind, ends_read, ends_bind, ends_demand]
  refine ⟨fun _ => ?_, fun _ => trivial⟩
  split
  · exact ends_refuse.mpr trivial
  · next previous hprevious =>
    rw [ends_pure, ends_bind, ends_ofExcept]
    refine ⟨fun target htarget => ?_, fun _ _ => trivial⟩
    have hdigest : target.digest = pyStrip previous.adminDigest := by
      cases hvalid : validatedRollbackTarget site previous.adminImage previous.adminDigest
          previous.adminReference with
      | error e =>
        rw [hvalid] at htarget
        cases htarget
      | ok t =>
        rw [hvalid] at htarget
        rw [← Except.ok.inj htarget]
        exact stripped_of_validatedRollbackTarget hvalid
    have hread : ∀ (recovery : Option Identity) (after : Host), Ends (do
        let files ← read Host.files
        pure (RollbackPlan.mk target previous.adminVersion recovery (site.composeHash files.compose)
          (site.environmentHash files.env)) : Call RollbackPlan) after
        (fun plan _ => ∃ previous, host.history.previous = some previous ∧
          plan.target.digest = pyStrip previous.adminDigest) fun _ _ => True := by
      intro recovery after
      rw [ends_bind, ends_read, ends_pure]
      exact ⟨previous, hprevious, hdigest⟩
    rw [ends_bind, captureRecoveryIdentity]
    split
    · exact (ends_pure _).mpr (hread _ _)
    · split
      · exact ends_refuse.mpr trivial
      · rw [ends_bind, unguarded, ends_ofExcept]
        exact ⟨fun _ _ => (ends_pure _).mpr (hread _ _), fun _ _ => trivial⟩

theorem WayBack.has (h : WayBack host) (hspelled : ∀ r ∈ host.records, Spelled r.1 r.2) :
    HasWayBack site host := by
  have hleads := h.leads hspelled
  refine ⟨?_, hleads.head.symm, ?_⟩
  · intro d hd d' hd' hne
    obtain ⟨current, previous, older, hentries, hdiffer⟩ := hleads.two_of_ne hd hd' hne
    refine ⟨current, previous, ?_, ?_, hdiffer⟩
    · rw [HistoryFile.current, hentries]
      rfl
    · rw [HistoryFile.previous, hentries]
      rfl
  · intro answers plan after hplan current hcurrent
    obtain ⟨previous, hprevious, hdigest⟩ := ends_planRollback.of_ok hplan
    have hmem : previous ∈ host.history.entries := by
      rw [HistoryFile.previous] at hprevious
      exact List.mem_of_getElem? hprevious
    rw [hdigest, h.trimmed previous hmem]
    exact (hleads.previous_ne hcurrent hprevious).symm

/-- **A history in which no record spells the current Admin otherwise keeps a real way back**, in every
state of every run. -/
theorem way_back_kept (site : Site) (host : Host) (steps : List Step) (hinitial : Initial host)
    (hdocker : ∀ s ∈ steps, s.Trimmed)
    (hspelled : ∀ r ∈ (run site host steps).records, Spelled r.1 r.2) :
    HasWayBack site (run site host steps) := by
  have hfirst : WayBack host := wayBack_absent hinitial.history hinitial.digests
  exact (wayBack_run hdocker hfirst).has hspelled

/-! ### An Admin recorded under its tag and under its label -/

def releaseLabels (version : String) : List (String × String) :=
  [(labelSource, "ems"), (labelVersion, version), (labelRevision, "r"),
    ("org.opencontainers.image.created", "c")]

def newestDigest : String :=
  "sha256:3333333333333333333333333333333333333333333333333333333333333333"

/-- Every answer as it is hoped for, of the image that is installed. -/
def releaseAnswers (digest version : String) : Answers :=
  { homeAnswers with
    inspectImage := fun _ => .ok ⟨true, digest, "arm64", releaseLabels version⟩
    probe := fun _ => .ok ⟨true, version⟩ }

def releasePlan (tag digest : String) (valid : isDigest digest = true) : Plan :=
  { homePlan with
    tag := tag
    digest := digest
    reference := "ems/admin@" ++ digest
    recovery := none
    valid := valid }

/-- Two releases installed one after the other, the second by a tag that spells its label otherwise. -/
def twoInstalls : List Step :=
  [.install (releaseAnswers runningDigest "1.2.2")
      (releasePlan "1.2.2" runningDigest isDigest_runningDigest),
    .install (releaseAnswers plannedDigest "1.2.3")
      (releasePlan "v1.2.3" plannedDigest isDigest_plannedDigest)]

/-- The next install records the second release as it runs, under its label, and does not come up. -/
def failedThird : Step :=
  .install
    { releaseAnswers newestDigest "1.2.4" with
      detect := fun _ => .ok ⟨true, true, plannedDigest,
        some ⟨true, plannedDigest, "arm64", releaseLabels "1.2.3"⟩⟩
      composeUp := fun _ => .ok false }
    (releasePlan "1.2.4" newestDigest (by decide))

theorem digestsTrimmed_releaseAnswers (digest version : String) :
    DigestsTrimmed (releaseAnswers digest version) := by
  intro n state h
  obtain rfl := Except.ok.inj h
  decide

theorem way_back_kept_twoInstalls : HasWayBack homeSite (run homeSite homeHost twoInstalls) := by
  refine way_back_kept homeSite homeHost twoInstalls ⟨rfl, rfl, rfl⟩ ?_ (by decide +kernel)
  intro s hs
  rw [twoInstalls, List.mem_cons, List.mem_singleton] at hs
  rcases hs with rfl | rfl <;> exact digestsTrimmed_releaseAnswers _ _

/-- **The way back is lost to a second spelling**: two releases are recorded, and the history names the
same one as current and as previous. -/
theorem way_back_lost :
    ¬ HasWayBack homeSite (run homeSite homeHost (twoInstalls ++ [failedThird])) := by
  have hrun : ((run homeSite homeHost (twoInstalls ++ [failedThird])).digests,
      (run homeSite homeHost (twoInstalls ++ [failedThird])).history.current.map Entry.adminDigest,
      (run homeSite homeHost (twoInstalls ++ [failedThird])).history.previous.map
        Entry.adminDigest) =
      ([plannedDigest, plannedDigest, runningDigest], some plannedDigest, some plannedDigest) := by
    decide +kernel
  intro h
  simp only [Prod.mk.injEq] at hrun
  have hmem : plannedDigest ∈ (run homeSite homeHost (twoInstalls ++ [failedThird])).digests := by
    simp [hrun.1]
  have hmem' : runningDigest ∈ (run homeSite homeHost (twoInstalls ++ [failedThird])).digests := by
    simp [hrun.1]
  obtain ⟨current, previous, hcurrent, hprevious, hdiffer⟩ :=
    h.differ _ hmem _ hmem' (by decide)
  rw [hcurrent, hprevious] at hrun
  exact hdiffer ((Option.some.inj hrun.2.1).trans (Option.some.inj hrun.2.2).symm)

end SolarFlowEms.Appliance.AdminLifecycle
