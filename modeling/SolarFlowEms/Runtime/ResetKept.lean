import SolarFlowEms.Runtime.FreshSetup

/-!
# A fresh setup's reset is neither lost nor misdirected

Behind the config write of a Setup apply the runtime state has to be built afresh.  Until it is,
the request that names the installed config is all that says so.  The invariant of a run is that
it stands there as long as the old state does.

An apply whose own config does not arrive has overwritten that request with its own.  It keeps the
invariant where it gives the old one back: it has read it, its process lives, and its own write of
it succeeds.  The death of the Admin between its two writes loses the request of the setup before.
-/

namespace SolarFlowEms.Runtime

open Python Documents Config Program Run

variable {Payload : Type} {site : Installation Payload} {w : World Payload}

/-! ### How the steps end -/

section

variable {α : Type} {Q : α → World Payload → Prop} {E : Stop → World Payload → Prop}

@[simp] theorem ends_read {f : World Payload → α} : Ends (Act.read f) w Q E ↔ Q (f w) w :=
  ends_of_eq_ok rfl

theorem ends_write {fault : StepFault} {change : World Payload → World Payload}
    {Q : Unit → World Payload → Prop} :
    Ends (Act.write fault change) w Q E ↔
      (fault = .none → Q () (change w)) ∧ (∀ stop, fault = .before stop → E stop w) ∧
        ∀ stop, fault = .after stop → E stop (change w) := by
  cases fault with
  | none =>
    rw [ends_of_eq_ok (x := Act.write .none change) rfl]
    simp
  | before stop =>
    rw [ends_of_eq_error (x := Act.write (.before stop) change) rfl]
    simp
  | after stop =>
    rw [ends_of_eq_error (x := Act.write (.after stop) change) rfl]
    simp

theorem ends_pass {stop : Option Stop} {Q : Unit → World Payload → Prop} :
    Ends (Act.pass stop) w Q E ↔ (stop = none → Q () w) ∧ ∀ s, stop = some s → E s w := by
  cases stop with
  | none =>
    show Ends (pure ()) w Q E ↔ _
    simp
  | some s =>
    show Ends (raise s) w Q E ↔ _
    simp

end

/-! ### What was taken away -/

/-- Every file that a reset took away is there under its backup name, and Setup left a request with
the config that was installed. -/
def TakenKept (w : World Payload) : Prop :=
  ∀ taken ∈ w.taken, taken.installed ∈ w.asked ∧ w.backups.lookup taken.name = some taken.file

/-- Every pending request was left by Setup, and what was taken away is kept. -/
structure Accounted (w : World Payload) : Prop where
  asked : ∀ path digest, pendingRuntimeReset w path = some digest → digest ∈ w.asked
  taken : TakenKept w

theorem pending_setRequest (w : World Payload) (path : String) (request : Option JsonFile)
    (path' : String) :
    pendingRuntimeReset (w.setRequest path request) path' =
      if path' = path then request.bind JsonFile.requestedDigest else pendingRuntimeReset w path' := by
  show ((Function.update w.request path request) path').bind _ = _
  rw [Function.update_apply]
  split_ifs with h
  · rfl
  · rfl

variable {digest installed path : String} {backups : List (BackupName × JsonFile)}
  {name : BackupName} {payload : Payload} {start : EmsStart} {fault : StepFault}
  {apply : SetupApply Payload} {previous : Option String} {P : World Payload → Prop}

theorem requestedDigest_requestDocument (h : digest ≠ "") :
    (requestDocument digest).requestedDigest = some digest := by
  show (if digest = "" then none else some digest) = some digest
  rw [if_neg h]

theorem requestedDigest_requestDocument_eq_some {named : String}
    (h : (requestDocument digest).requestedDigest = some named) : named = digest := by
  have hread : (requestDocument digest).requestedDigest =
      if digest = "" then none else some digest := rfl
  rw [hread] at h
  split_ifs at h
  exact (Option.some.inj h).symm

theorem Accounted.setRequest_none (h : Accounted w) (path : String) :
    Accounted (w.setRequest path none) := by
  refine ⟨fun path' digest hpending => ?_, h.taken⟩
  rw [pending_setRequest] at hpending
  split_ifs at hpending
  · cases hpending
  · exact h.asked path' digest hpending

theorem Accounted.asks (h : Accounted w) (path digest : String) :
    Accounted (w.leaveRequest path digest) := by
  constructor
  · intro path' named hpending
    have hpending' : pendingRuntimeReset (w.setRequest path (some (requestDocument digest))) path' =
        some named := hpending
    rw [pending_setRequest] at hpending'
    split_ifs at hpending'
    · exact List.mem_cons.mpr (.inl (requestedDigest_requestDocument_eq_some hpending'))
    · exact List.mem_cons_of_mem _ (h.asked path' named hpending')
  · intro taken htaken
    exact ⟨List.mem_cons_of_mem _ (h.taken taken htaken).1, (h.taken taken htaken).2⟩

theorem lookup_append_of_notMem (hname : name ∉ backups.map Prod.fst) (file : JsonFile) :
    (backups ++ [(name, file)]).lookup name = some file := by
  induction backups with
  | nil => simp
  | cons kept backups ih =>
    have hne : (name == kept.1) = false := by
      refine beq_eq_false_iff_ne.mpr fun h => hname ?_
      simp [h]
    have hrest : name ∉ backups.map Prod.fst := fun h => hname (by simp [h])
    rw [List.cons_append, List.lookup_cons, hne]
    exact ih hrest

theorem lookup_append_of_some
    {file : JsonFile} (h : backups.lookup name = some file) (added : BackupName × JsonFile) :
    (backups ++ [added]).lookup name = some file := by
  induction backups with
  | nil => cases h
  | cons kept backups ih =>
    rw [List.cons_append, List.lookup_cons]
    rw [List.lookup_cons] at h
    cases hname : name == kept.1 with
    | true =>
      rw [hname] at h
      exact h
    | false =>
      rw [hname] at h
      exact ih h

/-- `_setup_backup_path` names no file that exists. -/
theorem setupBackupPath_notMem (backups : List (BackupName × JsonFile)) (path stamp : String) :
    setupBackupPath backups path stamp ∉ backups.map Prod.fst :=
  Nat.find_spec (exists_free backups path stamp)

theorem Accounted.keepAside (h : Accounted w) (hasked : installed ∈ w.asked)
    (path stamp : String) (file : JsonFile) : Accounted (w.keepAside path stamp installed file) := by
  refine ⟨h.asked, fun taken htaken => ?_⟩
  rcases List.mem_append.mp htaken with hold | hnew
  · exact ⟨(h.taken taken hold).1, lookup_append_of_some (h.taken taken hold).2 _⟩
  · obtain rfl := List.mem_singleton.mp hnew
    exact ⟨hasked, lookup_append_of_notMem (setupBackupPath_notMem _ _ _) file⟩

theorem Accounted.setFileAside (h : Accounted w) (hasked : installed ∈ w.asked)
    (path stamp : String) : Accounted (w.setFileAside path stamp installed) := by
  rw [World.setFileAside]
  cases w.files path with
  | none => exact h
  | some file => exact h.keepAside hasked path stamp file

theorem asked_setFileAside (w : World Payload) (path stamp installed : String) :
    (w.setFileAside path stamp installed).asked = w.asked := by
  rw [World.setFileAside]
  cases w.files path <;> rfl

/-! ### The reset that stands out -/

/-- The state at a path is gone, cannot be read, or was built behind every Setup write so far. -/
def Fresh (w : World Payload) (path : String) : Prop :=
  w.files path = none ∨ w.files path = some .corrupt ∨ w.builtAfter path = w.setupWrites

variable (site) in
/-- The installed config's state is fresh, or the request beside it names that config. -/
def Stands (payload : Payload) (path : String) (w : World Payload) : Prop :=
  w.config = some payload ∧
    (Fresh w path ∨ pendingRuntimeReset w path = some (site.digest payload))

variable (site) in
/-- Behind the first config write of Setup, a reset that is owed is asked for. -/
def ResetStands (w : World Payload) : Prop :=
  w.setupWrites = 0 ∨ ∃ payload path, runtimeStatePath site payload = some path ∧
    Stands site payload path w

/-- A state that is fresh unless no config of Setup ever arrived. -/
def FreshSince (payload : Payload) (path : String) (w : World Payload) : Prop :=
  Accounted w ∧ w.config = some payload ∧ (w.setupWrites = 0 ∨ Fresh w path)

variable (site) in
structure Invariant (w : World Payload) : Prop where
  accounted : Accounted w
  stands : ResetStands site w

theorem FreshSince.invariant (h : FreshSince payload path w)
    (hpath : runtimeStatePath site payload = some path) : Invariant site w := by
  obtain ⟨haccounted, hconfig, hzero | hfresh⟩ := h
  · exact ⟨haccounted, .inl hzero⟩
  · exact ⟨haccounted, .inr ⟨payload, path, hpath, hconfig, .inl hfresh⟩⟩

theorem FreshSince.cancel (h : FreshSince payload path w)
    (path' : String) : FreshSince payload path (w.setRequest path' none) :=
  ⟨h.1.setRequest_none path', h.2⟩

theorem fresh_setFileAside (h : Fresh w path) (path' stamp installed : String) :
    Fresh (w.setFileAside path' stamp installed) path := by
  rw [World.setFileAside]
  cases w.files path' with
  | none => exact h
  | some file =>
    show (Function.update w.files path' none path = none ∨
      Function.update w.files path' none path = some .corrupt ∨ w.builtAfter path = w.setupWrites)
    by_cases hpath : path = path'
    · left
      rw [hpath, Function.update_self]
    · rw [Function.update_of_ne hpath]
      exact h

theorem fresh_setFileAside_self (w : World Payload) (path stamp installed : String) :
    Fresh (w.setFileAside path stamp installed) path := by
  left
  rw [World.setFileAside]
  cases hfile : w.files path with
  | none => exact hfile
  | some file => exact Function.update_self path none w.files

theorem config_setFileAside (w : World Payload) (path stamp installed : String) :
    (w.setFileAside path stamp installed).config = w.config := by
  rw [World.setFileAside]
  cases w.files path <;> rfl

/-! ### A start -/

theorem ends_setStateAside (hinv : Invariant site w) (hconfig : w.config = some payload)
    (hpath : runtimeStatePath site payload = some path) (hasked : site.digest payload ∈ w.asked) :
    Ends (setStateAside start path (site.digest payload)) w
      (fun _ => FreshSince payload path) (fun _ => Invariant site) := by
  have haside : ∀ stamp, FreshSince payload path (w.setFileAside path stamp (site.digest payload)) :=
    fun stamp => ⟨hinv.accounted.setFileAside hasked path stamp,
      (config_setFileAside w path stamp _).trans hconfig, .inr (fresh_setFileAside_self w path stamp _)⟩
  rw [setStateAside, ends_bind, setFileAside, ends_write]
  refine ⟨fun _ => ?_, fun _ _ => hinv, fun _ _ => (haside _).invariant hpath⟩
  obtain ⟨haccounted, hconfig', hfresh⟩ := haside start.stamp
  have hasked' : site.digest payload ∈
      (w.setFileAside path start.stamp (site.digest payload)).asked := by
    rw [asked_setFileAside]
    exact hasked
  have hschedules : FreshSince payload path
      ((w.setFileAside path start.stamp (site.digest payload)).setFileAside
        (resolveSchedulesPath path) start.schedulesStamp (site.digest payload)) :=
    ⟨haccounted.setFileAside hasked' _ _, (config_setFileAside _ _ _ _).trans hconfig',
      .inr (fresh_setFileAside (fresh_setFileAside_self w path _ _) _ _ _)⟩
  rw [setFileAside, ends_write]
  exact ⟨fun _ => hschedules, fun _ _ => (haside _).invariant hpath,
    fun _ _ => hschedules.invariant hpath⟩

theorem ends_cancel
    (h : FreshSince payload path w) (hpath : runtimeStatePath site payload = some path) :
    Ends (cancelRuntimeReset fault path) w
      (fun _ => FreshSince payload path) (fun _ => Invariant site) := by
  rw [cancelRuntimeReset, ends_write]
  exact ⟨fun _ => h.cancel path, fun _ _ => h.invariant hpath, fun _ _ => (h.cancel path).invariant hpath⟩

/-- **Behind the settling of a request the state is fresh**, and wherever it stops the reset still
stands out. -/
theorem ends_settle (hinv : Invariant site w) (hconfig : w.config = some payload)
    (hpath : runtimeStatePath site payload = some path) :
    Ends (settleRuntimeReset start path (site.digest payload)) w
      (fun _ => FreshSince payload path) (fun _ => Invariant site) := by
  have hunasked : pendingRuntimeReset w path ≠ some (site.digest payload) →
      FreshSince payload path w := by
    intro hpending
    refine ⟨hinv.accounted, hconfig, ?_⟩
    obtain hzero | ⟨payload', path', hpath', hconfig', hfresh | hstands⟩ := hinv.stands
    · exact .inl hzero
    · obtain rfl : payload' = payload := Option.some.inj (hconfig'.symm.trans hconfig)
      obtain rfl : path' = path := Option.some.inj (hpath'.symm.trans hpath)
      exact .inr hfresh
    · obtain rfl : payload' = payload := Option.some.inj (hconfig'.symm.trans hconfig)
      obtain rfl : path' = path := Option.some.inj (hpath'.symm.trans hpath)
      exact absurd hstands hpending
  rw [settleRuntimeReset, ends_bind, ends_read]
  cases hmarker : w.request path with
  | none =>
    have hnone : pendingRuntimeReset w path = none := by rw [pendingRuntimeReset, hmarker]; rfl
    exact (ends_pure _).mpr (hunasked (by rw [hnone]; exact nofun))
  | some request =>
    have hpending : pendingRuntimeReset w path = request.requestedDigest := by
      rw [pendingRuntimeReset, hmarker]
      rfl
    show Ends ((if request.requestedDigest = some (site.digest payload) then
      setStateAside start path (site.digest payload) else pure ()) >>= fun _ =>
        cancelRuntimeReset start.dropRequest path) w _ _
    rw [ends_bind]
    split_ifs with hnamed
    · have hasked := hinv.accounted.asked path _ (hpending.trans hnamed)
      exact (ends_setStateAside hinv hconfig hpath hasked).mono (fun _ _ h => ends_cancel h hpath)
        (fun _ _ h => h)
    · rw [ends_pure]
      exact ends_cancel (hunasked (by rw [hpending]; exact hnamed)) hpath

theorem Accounted.save (h : Accounted w) (path : String) (data : Entries) (built : ℕ) :
    Accounted { w with
      files := Function.update w.files path (some (.json (.dict data)))
      builtAfter := Function.update w.builtAfter path built } :=
  ⟨h.asked, h.taken⟩

theorem FreshSince.save (h : FreshSince payload path w)
    (data : Entries) {built : ℕ} (hbuilt : w.setupWrites = 0 ∨ built = w.setupWrites) :
    FreshSince payload path { w with
      files := Function.update w.files path (some (.json (.dict data)))
      builtAfter := Function.update w.builtAfter path built } := by
  refine ⟨h.1.save path data built, h.2.1, ?_⟩
  obtain hzero | rfl := hbuilt
  · exact .inl hzero
  · exact .inr (.inr (.inr (Function.update_self path _ w.builtAfter)))

theorem ends_loadOrCreate (defaults : RuntimeDefaults) (h : FreshSince payload path w)
    (hpath : runtimeStatePath site payload = some path) :
    Ends (loadOrCreate start path defaults) w
      (fun f w' => Invariant site w' ∧ w'.setupWrites ≤ f.builtAfter)
      (fun _ => Invariant site) := by
  rw [loadOrCreate, ends_bind, ends_read]
  cases hfile : w.files path with
  | none =>
    have hsaved := h.save (mergeRuntimeDefaults [] defaults) (.inr rfl)
    simp only [id_eq, hfile, ends_bind, saveState, ends_write, ends_pure]
    exact ⟨fun _ => ⟨hsaved.invariant hpath, le_refl _⟩, fun _ _ => h.invariant hpath,
      fun _ _ => hsaved.invariant hpath⟩
  | some file =>
    cases file with
    | corrupt =>
      simp only [id_eq, hfile, ends_pure]
      exact ⟨h.invariant hpath, le_refl _⟩
    | json loaded =>
      have hbuilt : w.setupWrites = 0 ∨ w.builtAfter path = w.setupWrites := by
        obtain hzero | hnone | hcorrupt | hbuilt := h.2.2
        · exact .inl hzero
        · rw [hfile] at hnone
          cases hnone
        · rw [hfile] at hcorrupt
          cases hcorrupt
        · exact .inr hbuilt
      have hle : w.setupWrites ≤ w.builtAfter path := by
        obtain hzero | hbuilt := hbuilt
        · omega
        · omega
      have hsaved := h.save (reconciledState defaults loaded).1 hbuilt
      simp only [id_eq, hfile, ends_bind, saveIfChanged]
      cases (reconciledState defaults loaded).2 with
      | false =>
        simp only [Bool.false_eq_true, if_false, ends_pure]
        exact ⟨h.invariant hpath, hle⟩
      | true =>
        simp only [if_true, saveState, ends_write, ends_pure]
        exact ⟨fun _ => ⟨hsaved.invariant hpath, hle⟩, fun _ _ => h.invariant hpath,
          fun _ _ => hsaved.invariant hpath⟩

/-- **A start that completes has a state that was built behind the latest Setup write in force**,
and every start keeps the invariant. -/
theorem ends_start (hinv : Invariant site w) :
    Ends (startRuntimeState site start) w
      (fun f w' => Invariant site w' ∧ w'.setupWrites ≤ f.builtAfter)
      (fun _ => Invariant site) := by
  rw [startRuntimeState, ends_bind, ends_read]
  cases hconfig : w.config with
  | none => exact (ends_raise _).mpr hinv
  | some payload =>
    cases hparse : site.parse payload with
    | none =>
      simp only [hparse, ends_raise]
      exact hinv
    | some document =>
      cases hpath : runtimeStatePath site payload with
      | none =>
        simp only [hparse, hpath, ends_raise]
        exact hinv
      | some path =>
        simp only [hparse, hpath, ends_bind]
        exact (ends_settle hinv hconfig hpath).mono (fun _ _ h => ends_loadOrCreate _ h hpath)
          (fun _ _ h => h)

/-! ### An apply -/

variable (site) in
/-- The reset of the installed config is still to come, and its request stands there. -/
def Awaited (w : World Payload) (path : String) : Prop :=
  ∃ payload, w.config = some payload ∧ runtimeStatePath site payload = some path ∧
    ¬ Fresh w path ∧ pendingRuntimeReset w path = some (site.digest payload)

theorem ResetStands.of_requests (h : ResetStands site w) {request : String → Option JsonFile}
    {asked : List String}
    (hpending : ∀ path, Awaited site w path →
      pendingRuntimeReset { w with request := request, asked := asked } path =
        pendingRuntimeReset w path) :
    ResetStands site { w with request := request, asked := asked } := by
  obtain hzero | ⟨payload, path, hpath, hconfig, hstands⟩ := h
  · exact .inl hzero
  · refine .inr ⟨payload, path, hpath, hconfig, ?_⟩
    by_cases hfresh : Fresh w path
    · exact .inl hfresh
    · obtain hfresh' | hstands := hstands
      · exact absurd hfresh' hfresh
      · exact .inr ((hpending path ⟨payload, hconfig, hpath, hfresh, hstands⟩).trans hstands)

theorem Invariant.leaveRequest (h : Invariant site w) (hdigest : digest ≠ "")
    (hpending : Awaited site w path → pendingRuntimeReset w path = some digest) :
    Invariant site (w.leaveRequest path digest) := by
  refine ⟨h.accounted.asks path digest, h.stands.of_requests fun path' hawaited => ?_⟩
  refine (pending_setRequest w path _ path').trans ?_
  split_ifs with hsame
  · subst hsame
    rw [hpending hawaited]
    exact requestedDigest_requestDocument hdigest
  · rfl

/-- What an apply makes of the request it found. -/
def World.putBack (w : World Payload) (path : String) : Option String → World Payload
  | none => w.setRequest path none
  | some digest => w.leaveRequest path digest

theorem requestedDigest_ne_empty {request : JsonFile}
    (h : request.requestedDigest = some digest) : digest ≠ "" := by
  cases request with
  | corrupt => cases h
  | json value =>
    cases value with
    | dict entries =>
      simp only [JsonFile.requestedDigest] at h
      cases hvalue : getValue entries "config_sha256" with
      | str text =>
        simp only [hvalue] at h
        split_ifs at h with hempty
        exact Option.some.inj h ▸ hempty
      | _ =>
        simp only [hvalue] at h
        cases h
    | _ => cases h

theorem pending_ne_empty (h : pendingRuntimeReset w path = some digest) :
    digest ≠ "" := by
  rw [pendingRuntimeReset] at h
  obtain ⟨request, -, hdigest⟩ := Option.bind_eq_some_iff.mp h
  exact requestedDigest_ne_empty hdigest

theorem Invariant.putBack (h : Invariant site w) (digest : String) :
    Invariant site ((w.leaveRequest path digest).putBack path (pendingRuntimeReset w path)) := by
  cases hprevious : pendingRuntimeReset w path with
  | none =>
    refine ⟨(h.accounted.asks path digest).setRequest_none path,
      h.stands.of_requests fun path' _ => ?_⟩
    refine (pending_setRequest (w.leaveRequest path digest) path none path').trans ?_
    split_ifs with hsame
    · rw [hsame, hprevious]
      rfl
    · refine (pending_setRequest w path _ path').trans ?_
      rw [if_neg hsame]
  | some previous =>
    refine ⟨(h.accounted.asks path digest).asks path previous,
      h.stands.of_requests fun path' _ => ?_⟩
    refine (pending_setRequest (w.leaveRequest path digest) path _ path').trans ?_
    split_ifs with hsame
    · rw [hsame, hprevious]
      exact requestedDigest_requestDocument (pending_ne_empty hprevious)
    · refine (pending_setRequest w path _ path').trans ?_
      rw [if_neg hsame]

theorem Invariant.cancelUnawaited (h : Invariant site w) (digest : String)
    (hunawaited : ¬ Awaited site w path) :
    Invariant site ((w.leaveRequest path digest).putBack path none) := by
  refine ⟨(h.accounted.asks path digest).setRequest_none path,
    h.stands.of_requests fun path' hawaited => ?_⟩
  refine (pending_setRequest (w.leaveRequest path digest) path none path').trans ?_
  have hother : path' ≠ path := fun hsame => hunawaited (hsame ▸ hawaited)
  rw [if_neg hother]
  refine (pending_setRequest w path _ path').trans ?_
  rw [if_neg hother]

theorem Invariant.install (h : Invariant site w)
    (hpath : runtimeStatePath site apply.payload = some path) :
    Invariant site
      ((w.leaveRequest path (site.digest apply.payload)).install apply.payload) := by
  have hasks := h.accounted.asks path (site.digest apply.payload)
  refine ⟨⟨hasks.asked, hasks.taken⟩, .inr ⟨apply.payload, path, hpath, rfl, .inr ?_⟩⟩
  refine (pending_setRequest w path _ path).trans ?_
  rw [if_pos rfl]
  exact requestedDigest_requestDocument (site.digest_ne_empty _)

theorem ends_putBackQuietly (hbefore : fault.lands = false → P w)
    (hafter : fault.lands = true → P (w.putBack path previous)) :
    Ends (putBackQuietly fault path previous) w (fun _ => P) (fun _ => P) := by
  have hput : ∀ {E : Stop → World Payload → Prop}, (fault = .none → P (w.putBack path previous)) →
      (∀ stop, fault = .before stop → E stop w) →
      (∀ stop, fault = .after stop → E stop (w.putBack path previous)) →
      Ends (putBackRuntimeReset fault path previous) w (fun _ => P) E := by
    intro E hnone hbefore hafter
    cases previous with
    | none | some digest => exact ends_write.mpr ⟨hnone, hbefore, hafter⟩
  rw [putBackQuietly, ends_catching]
  refine hput (fun h => hafter (by rw [h]; rfl)) (fun stop h => ?_) (fun stop h => ?_)
  · have hw := hbefore (by rw [h]; rfl)
    cases stop with
    | raised => exact (ends_pure _).mpr hw
    | died => exact (ends_raise _).mpr hw
  · have hw := hafter (by rw [h]; rfl)
    cases stop with
    | raised => exact (ends_pure _).mpr hw
    | died => exact (ends_raise _).mpr hw

variable [DecidableEq Payload]

variable (site) in
def ConfigArrives (apply : SetupApply Payload) (w : World Payload) : Prop :=
  apply.request = .none ∧ apply.read = none ∧ checkExpected site apply w.config = .changed ∧
    apply.backup = none ∧ apply.write.lands = true

variable (site) in
def Unchanged (apply : SetupApply Payload) (w : World Payload) : Prop :=
  apply.request = .none ∧ apply.read = none ∧ checkExpected site apply w.config = .unchanged

/-- An apply that gives back the request that it found: its process does not die before the config
is written, it could read that request, and it can write it again. -/
def GivesBack (apply : SetupApply Payload) : Prop :=
  apply.request = .none ∧ apply.read ≠ some .died ∧ apply.backup ≠ some .died ∧
    apply.write ≠ .before .died ∧ apply.previousReadable = true ∧ apply.putBack.lands = true

variable (site) in
/-- The request that an apply found names its own config, and it could read it. -/
def Repeats (apply : SetupApply Payload) (w : World Payload) (path : String) : Prop :=
  pendingRuntimeReset w path = some (site.digest apply.payload) ∧ apply.previousReadable = true

variable (site) in
/-- An apply that leaves its request spares the reset: its config arrives, and the config can be
read again if an exception comes behind that, or it gives back the request that is awaited. -/
def Spares (apply : SetupApply Payload) (w : World Payload) (path : String) : Prop :=
  ConfigArrives site apply w ∧
      (apply.write = .after .raised → apply.heldReadable = true ∨ apply.putBack.lands = false) ∨
    ¬ ConfigArrives site apply w ∧ (Awaited site w path →
      Unchanged site apply w ∨ Repeats site apply w path ∨ GivesBack apply)

theorem ends_afterFailure_died (h : P w) :
    Ends (afterFailure apply path previous .died) w (fun _ => P) (fun _ => P) :=
  (ends_raise _).mpr h

theorem ends_afterFailure_raised
    (hheld : holds apply w = true → P w) (hbefore : apply.putBack.lands = false → P w)
    (hafter : holds apply w = false → apply.putBack.lands = true → P (w.putBack path previous)) :
    Ends (afterFailure apply path previous .raised) w (fun _ => P) (fun _ => P) := by
  show Ends (Act.read (holds apply) >>= fun held =>
    if held = true then Program.raise .raised
    else putBackQuietly apply.putBack path previous >>= fun _ => Program.raise .raised) w _ _
  rw [ends_bind, ends_read]
  split_ifs with h
  · exact (ends_raise _).mpr (hheld h)
  · rw [ends_bind]
    refine (ends_putBackQuietly hbefore (hafter (Bool.not_eq_true _ ▸ h))).mono ?_ fun _ _ h => h
    exact fun _ _ h => (ends_raise _).mpr h

theorem ends_raised_unarrived (h : Invariant site w)
    (hgives : Awaited site w path → Repeats site apply w path ∨ GivesBack apply) :
    Ends (afterFailure apply path
        (if apply.previousReadable then pendingRuntimeReset w path else none) .raised)
      (w.leaveRequest path (site.digest apply.payload))
      (fun _ => Invariant site) (fun _ => Invariant site) := by
  apply ends_afterFailure_raised
  · intro hheld
    rw [holds, Bool.and_eq_true, decide_eq_true_eq] at hheld
    refine h.leaveRequest (site.digest_ne_empty _) fun ⟨payload, hconfig, _, _, hpending⟩ => ?_
    have hpayload : w.config = some apply.payload := hheld.2
    obtain rfl : payload = apply.payload := Option.some.inj (hconfig.symm.trans hpayload)
    exact hpending
  · intro hlost
    refine h.leaveRequest (site.digest_ne_empty _) fun hawaited => ?_
    obtain hrepeats | hgives := hgives hawaited
    · exact hrepeats.1
    · rw [hgives.2.2.2.2.2] at hlost
      cases hlost
  · intro _ _
    cases hreadable : apply.previousReadable with
    | true => exact h.putBack _
    | false =>
      refine h.cancelUnawaited _ fun hawaited => ?_
      obtain hrepeats | hgives := hgives hawaited
      · rw [hrepeats.2] at hreadable
        cases hreadable
      · rw [hgives.2.2.2.2.1] at hreadable
        cases hreadable

theorem unchanged_config {config : Option Payload}
    (hconfig : config = some payload) (h : checkExpected site apply config = .unchanged) :
    payload = apply.payload := by
  rw [hconfig, checkExpected] at h
  cases hexpected : apply.expected with
  | unchecked | absent => simp [hexpected] at h
  | revision sha256 =>
    simp only [hexpected, Option.getD_some] at h
    split_ifs at h with _ hsame
    exact hsame

theorem ends_applyPrepared (h : Invariant site w)
    (hpath : runtimeStatePath site apply.payload = some path) (hrequest : apply.request = .none)
    (hspares : Spares site apply w path) :
    Ends (applyPrepared site apply) (w.leaveRequest path (site.digest apply.payload))
      (fun _ => Invariant site)
      (fun stop w' => Ends (afterFailure apply path
          (if apply.previousReadable then pendingRuntimeReset w path else none) stop) w'
        (fun _ => Invariant site) (fun _ => Invariant site)) := by
  have hdied : ¬ ConfigArrives site apply w → ¬ Unchanged site apply w → ¬ GivesBack apply →
      Invariant site (w.leaveRequest path (site.digest apply.payload)) := by
    intro harrives hchanged hkeeps
    obtain ⟨harrives', -⟩ | ⟨-, hgives⟩ := hspares
    · exact absurd harrives' harrives
    · refine h.leaveRequest (site.digest_ne_empty _) fun hawaited => ?_
      obtain hsame | hrepeats | hgives := hgives hawaited
      · exact absurd hsame hchanged
      · exact hrepeats.1
      · exact absurd hgives hkeeps
  have hraised : ¬ ConfigArrives site apply w → ¬ Unchanged site apply w →
      Awaited site w path → Repeats site apply w path ∨ GivesBack apply := by
    intro harrives hchanged hawaited
    obtain ⟨harrives', -⟩ | ⟨-, hgives⟩ := hspares
    · exact absurd harrives' harrives
    · exact (hgives hawaited).resolve_left hchanged
  have hstops : ∀ stop, ¬ ConfigArrives site apply w → ¬ Unchanged site apply w →
      (stop = .died → ¬ GivesBack apply) →
      Ends (afterFailure apply path
          (if apply.previousReadable then pendingRuntimeReset w path else none) stop)
        (w.leaveRequest path (site.digest apply.payload))
        (fun _ => Invariant site) (fun _ => Invariant site) := by
    intro stop harrives hchanged hkeeps
    cases stop with
    | died => exact ends_afterFailure_died (hdied harrives hchanged (hkeeps rfl))
    | raised => exact ends_raised_unarrived h (hraised harrives hchanged)
  simp only [applyPrepared, ends_bind, ends_pass, ends_read]
  refine ⟨fun hread => ?_, fun stop hread => hstops stop ?_ ?_ ?_⟩
  case refine_2 => exact fun harrives => absurd (harrives.2.1.symm.trans hread) (by simp)
  case refine_3 => exact fun hsame => absurd (hsame.2.1.symm.trans hread) (by simp)
  case refine_4 =>
    rintro rfl hkeeps
    exact hkeeps.2.1 hread
  cases hcheck : checkExpected site apply w.config with
  | conflict =>
    have hcheck' : checkExpected site apply
        (w.leaveRequest path (site.digest apply.payload)).config = .conflict := hcheck
    simp only [hcheck', ends_raise]
    refine hstops .raised ?_ ?_ fun heq => by cases heq
    · exact fun harrives => absurd (harrives.2.2.1.symm.trans hcheck) (by simp)
    · exact fun hsame => absurd (hsame.2.2.symm.trans hcheck) (by simp)
  | unchanged =>
    have hcheck' : checkExpected site apply
        (w.leaveRequest path (site.digest apply.payload)).config = .unchanged := hcheck
    simp only [hcheck', ends_pure]
    refine h.leaveRequest (site.digest_ne_empty _) fun hawaited => ?_
    obtain ⟨payload, hconfig, -, -, hpending⟩ := hawaited
    rw [← unchanged_config hconfig hcheck]
    exact hpending
  | changed =>
    have hcheck' : checkExpected site apply
        (w.leaveRequest path (site.digest apply.payload)).config = .changed := hcheck
    have hchanged : ¬ Unchanged site apply w := fun hsame =>
      absurd (hsame.2.2.symm.trans hcheck) (by simp)
    simp only [hcheck', ends_bind, ends_pass]
    refine ⟨fun hbackup => ?_, fun stop hbackup => hstops stop ?_ hchanged ?_⟩
    case refine_2 => exact fun harrives => absurd (harrives.2.2.2.1.symm.trans hbackup) (by simp)
    case refine_3 =>
      rintro rfl hkeeps
      exact hkeeps.2.2.1 hbackup
    have harrives : apply.write.lands = true → ConfigArrives site apply w := fun hlands =>
      ⟨hrequest, hread, hcheck, hbackup, hlands⟩
    rw [ends_write]
    refine ⟨fun _ => h.install hpath, fun stop hwrite => hstops stop ?_ hchanged ?_,
      fun stop hwrite => ?_⟩
    · intro harrives'
      have hlands := harrives'.2.2.2.2
      rw [hwrite] at hlands
      cases hlands
    · rintro rfl hkeeps
      exact hkeeps.2.2.2.1 hwrite
    · cases stop with
      | died => exact ends_afterFailure_died (h.install hpath)
      | raised =>
        obtain ⟨-, hheld⟩ | ⟨hlost, -⟩ := hspares
        · refine ends_afterFailure_raised (fun _ => h.install hpath) (fun _ => h.install hpath) ?_
          intro hnot hlands
          obtain hreadable | hlost := hheld hwrite
          · rw [holds, hreadable, Bool.true_and, decide_eq_false_iff_not] at hnot
            exact absurd rfl hnot
          · rw [hlands] at hlost
            cases hlost
        · exact absurd (harrives (by rw [hwrite]; rfl)) hlost

/-- **An apply that spares the reset keeps the invariant**, however it ends. -/
theorem ends_setupApply (h : Invariant site w)
    (hspares : ∀ path, runtimeStatePath site apply.payload = some path →
      apply.request.lands = true → Spares site apply w path) :
    Ends (setupApply site apply) w (fun _ => Invariant site) (fun _ => Invariant site) := by
  rw [setupApply]
  cases hpath : runtimeStatePath site apply.payload with
  | none => exact (ends_raise _).mpr h
  | some path =>
    simp only [ends_bind, ends_read, requestRuntimeReset, ends_write, ends_catching]
    refine ⟨fun hrequest => ?_, fun _ _ => h, fun stop hrequest => ?_⟩
    case refine_2 =>
      obtain ⟨harrives, -⟩ | ⟨-, hgives⟩ := hspares path hpath (by rw [hrequest]; rfl)
      · exact absurd (harrives.1.symm.trans hrequest) (by simp)
      · refine h.leaveRequest (site.digest_ne_empty _) fun hawaited => ?_
        obtain hsame | hrepeats | hgives := hgives hawaited
        · exact absurd (hsame.1.symm.trans hrequest) (by simp)
        · exact hrepeats.1
        · exact absurd (hgives.1.symm.trans hrequest) (by simp)
    have hspare := hspares path hpath (by rw [hrequest]; rfl)
    exact ends_applyPrepared h hpath hrequest hspare

/-! ### Runs -/

variable (site)

/-- A start that completes has a state that was built behind the latest Setup write. -/
def StartsFresh (w : World Payload) : Event Payload → Prop
  | .setup _ => True
  | .start start =>
    Ends (startRuntimeState site start) w (fun f w' => w'.setupWrites ≤ f.builtAfter)
      (fun _ _ => True)

/-- Every start of a run that completes is fresh, and what resets took away is kept, each of them
under an installed config that Setup left a request with. -/
def ResetKept (w : World Payload) (events : List (Event Payload)) : Prop :=
  EveryStep (step site) (StartsFresh site) w events ∧ TakenKept (run (step site) w events)

/-- No config of Setup has arrived, nothing was taken away, and every request is one of Setup's. -/
structure Begins (w : World Payload) : Prop where
  setupWrites : w.setupWrites = 0
  builtAfter : ∀ path, w.builtAfter path = 0
  taken : w.taken = []
  asked : ∀ path digest, pendingRuntimeReset w path = some digest → digest ∈ w.asked

/-- Every apply that leaves its request spares the reset that is awaited. -/
def Spared (w : World Payload) : Event Payload → Prop
  | .start _ => True
  | .setup apply => ∀ path, runtimeStatePath site apply.payload = some path →
      apply.request.lands = true → Spares site apply w path

variable {site}

omit [DecidableEq Payload] in
theorem Begins.invariant (h : Begins w) : Invariant site w := by
  refine ⟨⟨h.asked, fun taken htaken => ?_⟩, .inl h.setupWrites⟩
  rw [h.taken] at htaken
  cases htaken

theorem invariant_step {event : Event Payload} (h : Invariant site w)
    (hspared : Spared site w event) : Invariant site (step site w event) := by
  cases event with
  | setup apply => exact (ends_setupApply h hspared).state
  | start start =>
    have hends : Ends (startRuntimeState site start) w (fun _ => Invariant site)
        (fun _ => Invariant site) := (ends_start h).mono (fun _ _ hf => hf.1) fun _ _ he => he
    exact hends.state

/-- **A fresh setup's reset is neither lost nor misdirected**, in every run of Setup applies and EMS
starts whose applies spare the reset that is awaited: every start that completes runs on a state
built behind the latest config write of Setup, no file was reset but under a config that Setup
left a request with, and every file that a reset took away is there under its backup name. -/
theorem reset_kept (hbegins : Begins w) {events : List (Event Payload)}
    (hspared : EveryStep (step site) (Spared site) w events) : ResetKept site w events := by
  have hinv : Invariant site w := hbegins.invariant
  refine ⟨?_, (run_invariant (fun _ _ => invariant_step) hinv hspared).accounted.taken⟩
  refine EveryStep.of_invariant (fun _ _ => invariant_step) (fun w event h _ => ?_) hinv hspared
  cases event with
  | setup apply => trivial
  | start start => exact (ends_start h).mono (fun _ _ hf => hf.2) fun _ _ _ => trivial

/-! ### A request that is lost -/

/-- An installation whose configs are empty objects. -/
def sampleSite : Installation String where
  digest payload :=
    if payload = "\x7b\x7d" then "44136fa355b3678a1146ad16f7e8649e94fb4fc21fe77e8310c060f61caaff8a"
    else if payload = "\x7b \x7d" then
      "257c1be96ae69f4b01c2c69bdb6d78605f59175819fb007d0bf245bf48444c4a"
    else "e3b0c44298fc1c149afbf4c8996fb92427ae41e4649b934ca495991b7852b855"
  digest_ne_empty payload := by split_ifs <;> decide
  empty := ""
  parse payload := if payload = "\x7b\x7d" ∨ payload = "\x7b \x7d" then some (.dict []) else none
  root := "/app"
  defaults _ := ⟨[], [], [], []⟩

/-- A runtime state of before Setup, and no config. -/
def sampleWorld : World String where
  config := none
  request _ := none
  files path := if path = "/app/runtime-state.json" then some (.json (.dict [])) else none
  backups := []
  setupWrites := 0
  builtAfter _ := 0
  asked := []
  taken := []

def sampleApply (payload : String) (expected : Expected) (read : Option Stop) :
    SetupApply String where
  payload := payload
  expected := expected
  previousReadable := true
  request := .none
  read := read
  backup := none
  write := .none
  heldReadable := true
  putBack := .none

def sampleStart : EmsStart where
  stamp := "20260101-000000"
  setAside := .none
  schedulesStamp := "20260101-000000"
  setSchedulesAside := .none
  dropRequest := .none
  save := .none

def sampleSetup : Event String := .setup (sampleApply "\x7b\x7d" .absent none)

/-- A second Setup, whose process dies behind its request. -/
def sampleDeath : Event String :=
  .setup (sampleApply "\x7b \x7d" (.revision (sampleSite.digest "\x7b\x7d")) (some .died))

theorem sampleWorld_begins : Begins sampleWorld where
  setupWrites := rfl
  builtAfter _ := rfl
  taken := rfl
  asked _ _ h := by cases h

/-- The reset of a Setup that is followed by a start. -/
theorem reset_kept_sample : ResetKept sampleSite sampleWorld [sampleSetup, .start sampleStart] := by
  refine reset_kept sampleWorld_begins ⟨fun path _ _ => .inl ⟨?_, nofun⟩, trivial, trivial⟩
  exact ⟨rfl, rfl, rfl, rfl, rfl⟩

theorem reset_lost : ¬ ResetKept sampleSite sampleWorld
    [sampleSetup, sampleDeath, .start sampleStart] := by
  intro hkept
  have hstart := hkept.1.2.2.1
  have hwrites : (startRuntimeState sampleSite sampleStart (run (step sampleSite) sampleWorld
      [sampleSetup, sampleDeath])).2.setupWrites = 1 := by decide +kernel
  have hbuilt : ((startRuntimeState sampleSite sampleStart (run (step sampleSite) sampleWorld
      [sampleSetup, sampleDeath])).1.map InForce.builtAfter) = .ok 0 := by decide +kernel
  cases hrun : startRuntimeState sampleSite sampleStart (run (step sampleSite) sampleWorld
      [sampleSetup, sampleDeath]) with
  | mk outcome w' =>
    rw [hrun] at hwrites hbuilt
    cases outcome with
    | error stop => cases hbuilt
    | ok f =>
      have hle : w'.setupWrites ≤ f.builtAfter := hstart.of_ok hrun
      rw [hwrites, Except.ok.inj hbuilt] at hle
      exact absurd hle (by decide)

end SolarFlowEms.Runtime
