import SolarFlowEms.Appliance.AdminSteps

/-!
# A replaced Admin is proven, or the call says that it is not

A call that replaces the Admin ends in one of few ways.  Where it says that it succeeded, the Admin it
was planned to bring up was verified and nothing was done after.  Where it says that it rolled back,
the Admin it went back to was.  Where it says that the running Admin was not touched, no stop was sent.

A call that has sent a stop and brings no proven Admin up begins a recovery.  One exception is made on
purpose: an Admin that has begun to replace itself meanwhile is left to finish.
-/

namespace SolarFlowEms.Appliance.AdminLifecycle

open Python Program KnownGood

/-- The operations that replace the Admin of a deployment. -/
inductive Replacement where
  | install
  | rollback
deriving DecidableEq

def execute (site : Site) (answers : Answers) (plan : Plan) : Replacement → Call Unit
  | .install => executeInstall site answers plan
  | .rollback => executeRollback site answers plan

/-! ### How a call ends -/

/-- What the handlers around the steps behind the stop name. -/
def Replacement.Handles : Replacement → Raised → Prop
  | .install, e => stepFailures e ≠ none
  | .rollback, _ => False

/-- The operation's record, the log and the history take what is written to them, and behind the stop
nothing is raised but what the call handles. -/
structure Answered (kind : Replacement) (answers : Answers) : Prop where
  announce : ∀ n, answers.announce n = .ok ()
  finish : ∀ n e, answers.finish n ≠ .refused e
  history : HistoryTaken answers
  tells : TellsOnly answers kind.Handles
  composeUp : ∀ n e, answers.composeUp n = .error e → stepFailures e ≠ none

theorem tellsOnly_answered {answers : Answers} (kind : Replacement) :
    TellsOnly answers fun e => Answered kind answers → kind.Handles e :=
  ⟨fun n e he hanswered => hanswered.tells.inspectContainer n e he,
    fun n e he hanswered => hanswered.tells.inspectImage n e he,
    fun n e he hanswered => hanswered.tells.stopContainer n e he,
    fun n e he hanswered => hanswered.tells.probe n e he⟩

/-- Where no recovery is begun: an install leaves an Admin that replaces itself alone, or has none to
go back to and could not stop the new one, and says so; and a rollback has none to go back to. -/
def StoodBack (plan : Plan) (after : Host) : Replacement → Prop
  | .install => ∃ ended, after.ended = some ended ∧ ended.state = .manualActionRequired ∧
      (ended.stage = "admin_transition_in_flight" ∨ ended.stage = "no_previous_admin" ∧
        recoveryIdentity plan after.history = none ∧ .stopFailed ∈ after.deeds)
  | .rollback => recoveryIdentity plan after.history = none

def NamesDigest (digest : String) (files : Files) : Prop :=
  ∃ repository, Names (repository ++ "@" ++ digest) files

/-- What the end of a call says of the host it leaves. -/
structure Outcome (kind : Replacement) (answers : Answers) (plan : Plan) (saved : Files)
    (after : Host) : Prop where
  succeeded : ∀ ended, after.ended = some ended → ended.state = .succeeded →
    after.deeds.head? = some (.verified plan.digest) ∧ NamesDigest plan.digest after.files
  rolledBack : ∀ ended, after.ended = some ended → ended.state = .rolledBack →
    ∃ target, recoveryIdentity plan after.history = some target ∧
      .recoveryBegun (some target) ∈ after.deeds ∧
      after.deeds.head? = some (.verified target.digest)
  untouched : ∀ ended, after.ended = some ended → ended.adminUntouched = some true →
    .stopSent ∉ after.deeds ∧ (after.files = saved ∨ .writeBackFailed ∈ after.deeds)
  stopped : Answered kind answers → .stopSent ∈ after.deeds →
    (∀ ended, after.ended = some ended → ended.state ≠ .succeeded) →
    .recoveryBegun (recoveryIdentity plan after.history) ∈ after.deeds ∨ StoodBack plan after kind

variable {site : Site} {answers : Answers} {kind : Replacement} {plan : Plan} {saved : Files}
  {host : Host}

/-- However a program ends, the host it leaves is as stated. -/
abbrev Always {α : Type} (x : Call α) (host : Host) (P : Host → Prop) : Prop :=
  Ends x host (fun _ => P) fun _ => P

variable {after a b c before : Host} {ended : Ended} {code stage digest repository : String}
  {x : Unit → Call Unit} {v : Verification} {target : RollbackTarget}

theorem Outcome.at (h : Outcome kind answers plan saved after) (n : ℕ) :
    Outcome kind answers plan saved (after.at n) :=
  ⟨h.succeeded, h.rolledBack, h.untouched, fun hanswered hstop hended => by
    cases kind <;> exact h.stopped hanswered hstop hended⟩

theorem Outcome.of_open (hended : after.ended = none)
    (hstopped : Answered kind answers → .stopSent ∈ after.deeds →
      .recoveryBegun (recoveryIdentity plan after.history) ∈ after.deeds ∨
        StoodBack plan after kind) :
    Outcome kind answers plan saved after where
  succeeded := by simp [hended]
  rolledBack := by simp [hended]
  untouched := by simp [hended]
  stopped hanswered hstop _ := hstopped hanswered hstop

theorem Outcome.of_unanswered (hended : after.ended = none)
    (h : ¬Answered kind answers) : Outcome kind answers plan saved after :=
  .of_open hended fun hanswered => absurd hanswered h

theorem Outcome.of_unstopped (hended : after.ended = none)
    (h : .stopSent ∉ after.deeds) : Outcome kind answers plan saved after :=
  .of_open hended fun _ hstop => absurd hstop h

theorem Outcome.of_failure (hsucceeded : ended.state ≠ .succeeded)
    (hrolledBack : ended.state ≠ .rolledBack) (huntouched : ended.adminUntouched ≠ some true)
    (hstopped : Answered kind answers → .stopSent ∈ host.deeds →
      .recoveryBegun (recoveryIdentity plan host.history) ∈ host.deeds ∨
        StoodBack plan { host with ended := some ended } kind) :
    Outcome kind answers plan saved { host with ended := some ended } where
  succeeded ended' hended h := by
    obtain rfl := Option.some.inj hended
    exact absurd h hsucceeded
  rolledBack ended' hended h := by
    obtain rfl := Option.some.inj hended
    exact absurd h hrolledBack
  untouched ended' hended h := by
    obtain rfl := Option.some.inj hended
    exact absurd h huntouched
  stopped hanswered hstop _ := hstopped hanswered hstop

/-- **The end a call writes is the end of it**, and where it cannot be written there is none. -/
theorem always_finish (hended : host.ended = none)
    (h : Outcome kind answers plan saved { host with ended := some ended }) :
    Always (finish answers ended) host (Outcome kind answers plan saved) := by
  have hwritten : ({ host.next with ended := host.next.ended.or (some ended) } : Host) =
      Host.at { host with ended := some ended } (host.tick + 1) := by
    simp [Host.next, Host.at, hended]
  refine ends_put ?_ ?_ ?_
  · intro _
    rw [hwritten]
    exact h.at _
  · intro e he
    exact .of_unanswered hended fun hanswered => hanswered.finish _ e he
  · intro e _
    rw [hwritten]
    exact h.at _

theorem always_finish_refuse (hended : host.ended = none)
    (h : Outcome kind answers plan saved { host with ended := some ended }) :
    Always (finish answers ended >>= fun _ => refuse code : Call Unit) host
      (Outcome kind answers plan saved) :=
  ends_bind.mpr ((always_finish hended h).mono (fun _ _ h => ends_refuse.mpr h) fun _ _ h => h)

theorem always_announce (hended : host.ended = none)
    (h : ∀ n, Always (x ()) (host.at n) (Outcome kind answers plan saved)) :
    Always (announce answers stage >>= x) host (Outcome kind answers plan saved) := by
  have hannounce : Asks (fun _ => ¬Answered kind answers) (announce answers stage) := by
    refine asks_announce stage _ fun n e he hanswered => ?_
    rw [hanswered.announce] at he
    cases he
  exact ends_bind.mpr (hannounce.ends (fun _ n => h n) fun _ n hno => .of_unanswered hended hno)

/-! ### Before the stop -/

theorem always_preflightFailure {state : OperationState}
    (hended : host.ended = none) (hstop : .stopSent ∉ host.deeds)
    (hfiles : host.files = saved ∨ .writeBackFailed ∈ host.deeds)
    (hsucceeded : state ≠ .succeeded) (hrolledBack : state ≠ .rolledBack) :
    Always (preflightFailure answers state code) host (Outcome kind answers plan saved) := by
  rw [preflightFailure, Always, ends_bind]
  refine (asks_ask fun _ _ _ => trivial).ends (fun _ n => ?_) fun _ n _ => .of_unstopped hended hstop
  refine always_finish hended ⟨?_, ?_, ?_, fun _ h _ => absurd h hstop⟩
  · intro ended h hstate
    obtain rfl := Option.some.inj h
    exact absurd hstate hsucceeded
  · intro ended h hstate
    obtain rfl := Option.some.inj h
    exact absurd hstate hrolledBack
  · intro ended _ _
    exact ⟨hstop, hfiles⟩

/-- The host of a call that has pinned the deployment and stopped nothing. -/
structure Pinned (plan : Plan) (saved : Files) (host : Host) : Prop where
  ended : host.ended = none
  deeds : host.deeds = []
  shape : SameShape saved host.files
  names : NamesDigest plan.digest host.files

theorem Pinned.at (h : Pinned plan saved host) (n : ℕ) : Pinned plan saved (host.at n) :=
  ⟨h.ended, h.deeds, h.shape, h.names⟩

theorem ends_transitionStarted (h : Pinned plan saved host) :
    Ends (transitionStarted answers saved) host
      (fun stands after => if stands = true then Outcome kind answers plan saved after
        else Pinned plan saved after)
      fun _ => Outcome kind answers plan saved := by
  rw [transitionStarted, ends_bind, ends_judged]
  refine asks_requireNoAdminTransition.ends (fun _ n => ?_) fun e n he => ?_
  · exact (ends_pure false).mpr (h.at n)
  obtain ⟨code, rfl⟩ := he
  refine ⟨fun code _ => ?_, fun hnone => (by cases hnone)⟩
  rw [ends_bind]
  have hpinned : Pinned plan saved (host.at n) := h.at n
  refine (ends_safeRestore hpinned.shape).mono ?_ ?_
  · intro done mid hmid
    have hended : mid.ended = none := hmid.ended.trans h.ended
    rw [ends_bind]
    refine Ends.mono (always_preflightFailure hended ?_ ?_ (by decide) (by decide))
      (fun _ after h => (ends_pure true).mpr h) fun _ _ h => h
    · cases done with
      | true => simp [(hmid.done_files rfl).2, h.deeds]
      | false => simp [hmid.failed_deeds rfl, h.deeds]
    · cases done with
      | true => exact .inl (hmid.done_files rfl).1
      | false => exact .inr (by simp [hmid.failed_deeds rfl])
  · intro e mid hmid
    refine .of_unstopped (hmid.2.1.ended.trans h.ended) ?_
    simp [hmid.2.1.deeds, h.deeds]

/-! ### Recoveries -/

/-- What a recovery leaves alone; what it does is added to the deeds. -/
structure Grows (before after : Host) : Prop where
  history : after.history = before.history
  ended : after.ended = before.ended
  deeds : before.deeds <:+ after.deeds

theorem Grows.refl (host : Host) : Grows host host := ⟨rfl, rfl, List.suffix_refl _⟩

theorem Grows.trans (hab : Grows a b) (hbc : Grows b c) : Grows a c :=
  ⟨hbc.history.trans hab.history, hbc.ended.trans hab.ended, hab.deeds.trans hbc.deeds⟩

theorem Grows.at (h : Grows before after) (n : ℕ) :
    Grows before (after.at n) := ⟨h.history, h.ended, h.deeds⟩

theorem grows_note (deed : Deed) : Grows host { host with deeds := deed :: host.deeds } :=
  ⟨rfl, rfl, List.suffix_cons _ _⟩

theorem FilesOnly.grows (h : FilesOnly before after) : Grows before after :=
  ⟨h.history, h.ended, h.deeds ▸ List.suffix_refl _⟩

theorem Kept.grows (h : Kept before after) (hstop : StopDeeds before after) :
    Grows before after := by
  refine ⟨h.history, h.ended, ?_⟩
  rcases hstop with hdeeds | hdeeds
  · exact hdeeds ▸ List.suffix_refl _
  · exact hdeeds ▸ List.suffix_cons _ _

theorem Restored.grows {done : Bool} (h : Restored saved before done after) :
    Grows before after := by
  refine ⟨h.history, h.ended, ?_⟩
  cases done with
  | true => exact (h.done_files rfl).2 ▸ List.suffix_refl _
  | false => exact h.failed_deeds rfl ▸ List.suffix_cons _ _

theorem Verifies.grows (h : Verifies digest before v after) : Grows before after := by
  refine ⟨h.kept.history, h.kept.ended, ?_⟩
  rw [h.deeds]
  split
  · exact List.suffix_cons _ _
  · exact List.suffix_refl _

theorem Verifies.head
    (h : Verifies digest before v after) (hv : v.verified = true) (hne : digest ≠ "") :
    after.deeds.head? = some (.verified digest) := by
  rw [h.deeds, if_pos hv, h.digest hv hne]
  rfl

/-- The host behind a recovery that was begun. -/
structure Begun (target : Option Identity) (before after : Host) : Prop where
  grows : Grows before after
  begun : .recoveryBegun target ∈ after.deeds

theorem Begun.grow {target : Option Identity} (h : Begun target a b)
    (hbc : Grows b c) : Begun target a c :=
  ⟨h.grows.trans hbc, hbc.deeds.mem h.begun⟩

/-- **Where a recovery verifies an Admin, that is the one it was begun for.** -/
theorem ends_bringBack {target : Identity} {writeSaved : Call Unit}
    (hshape : SameShape saved host.files)
    (hwrite : ∀ mid, SameShape saved mid.files →
      Ends writeSaved mid (fun _ after => Grows mid after) fun _ after => Grows mid after) :
    Ends (bringBack answers target writeSaved) host
      (fun v after => Begun (some target) host after ∧ (v.verified = true → target.digest ≠ "" →
        after.deeds.head? = some (.verified target.digest)))
      fun _ after => Begun (some target) host after := by
  rw [bringBack, ends_bind, ends_note, ends_bind]
  have hbegun : Begun (some target) host { host with
      deeds := .recoveryBegun (some target) :: host.deeds } :=
    ⟨grows_note _, List.mem_cons_self⟩
  refine (ends_stopAdmin (.anything answers)).mono ?_ fun _ _ h => hbegun.grow (h.2.1.grows h.2.2)
  intro _ stopped hstopped
  have hbegun := hbegun.grow (hstopped.1.grows hstopped.2)
  rw [ends_bind]
  refine (hwrite stopped (hstopped.1.files ▸ hshape)).mono ?_ fun _ _ h => hbegun.grow h
  intro _ written hwritten
  have hbegun := hbegun.grow hwritten
  rw [ends_bind]
  refine (asks_requireLocalImage false).ends (fun _ n => ?_) fun _ n _ => hbegun.grow ((Grows.refl _).at n)
  have hbegun := hbegun.grow ((Grows.refl _).at n)
  rw [ends_bind]
  refine (ends_applyDigest _ _ _).mono ?_ fun _ _ h => hbegun.grow h.1.grows
  intro _ pinned hpinned
  have hbegun := hbegun.grow hpinned.1.1.grows
  rw [ends_bind]
  refine (asks_composeUp (fun _ _ _ => .inr trivial) fun _ => trivial).ends (fun _ m => ?_)
    fun _ m _ => hbegun.grow ((Grows.refl _).at m)
  have hbegun := hbegun.grow ((Grows.refl _).at m)
  refine (ends_verifyAdmin (.anything answers) _ _).mono ?_ ?_
  · intro v after h
    exact ⟨hbegun.grow h.grows, h.head⟩
  · intro e after h
    obtain ⟨_, k, rfl⟩ := h
    exact hbegun.grow ((Grows.refl _).at k)

theorem digest_ne_of_recoveryIdentity {history : HistoryFile} {target : Identity}
    (h : recoveryIdentity plan history = some target) : target.digest ≠ "" := by
  rw [recoveryIdentity] at h
  cases hcaptured : plan.recovery with
  | some captured =>
    rw [hcaptured] at h
    obtain rfl := Option.some.inj h
    intro hempty
    have hvalid := captured.valid
    rw [show captured.digest = "" from hempty] at hvalid
    exact absurd hvalid (by decide)
  | none =>
    rw [hcaptured] at h
    simp only [Option.map_eq_some_iff, Option.filter_eq_some_iff, decide_eq_true_eq] at h
    obtain ⟨entry, ⟨_, hne⟩, rfl⟩ := h
    exact hne

/-- The host of a call that has not ended and has begun the recovery it is to make. -/
structure Recovers (plan : Plan) (host : Host) : Prop where
  ended : host.ended = none
  begun : .recoveryBegun (recoveryIdentity plan host.history) ∈ host.deeds

theorem Recovers.outcome (h : Recovers plan host) : Outcome kind answers plan saved host :=
  .of_open h.ended fun _ _ => .inl h.begun

theorem Begun.recovers {target : Option Identity}
    (h : Begun target before after) (hended : before.ended = none)
    (htarget : recoveryIdentity plan before.history = target) : Recovers plan after := by
  refine ⟨h.grows.ended.trans hended, ?_⟩
  rw [h.grows.history, htarget]
  exact h.begun

theorem Recovers.finished (h : Recovers plan host)
    (hsucceeded : ended.state ≠ .succeeded) (hrolledBack : ended.state ≠ .rolledBack)
    (huntouched : ended.adminUntouched ≠ some true) :
    Outcome kind answers plan saved { host with ended := some ended } :=
  .of_failure hsucceeded hrolledBack huntouched fun _ _ => .inl h.begun

theorem Recovers.finished_rolledBack {target : Identity} (h : Recovers plan host)
    (htarget : recoveryIdentity plan host.history = some target)
    (hhead : host.deeds.head? = some (.verified target.digest))
    (hstate : ended.state = .rolledBack) (huntouched : ended.adminUntouched ≠ some true) :
    Outcome kind answers plan saved { host with ended := some ended } where
  succeeded ended' hended h := by
    obtain rfl := Option.some.inj hended
    rw [hstate] at h
    cases h
  rolledBack _ _ _ := ⟨target, htarget, htarget ▸ h.begun, hhead⟩
  untouched ended' hended h := by
    obtain rfl := Option.some.inj hended
    exact absurd h huntouched
  stopped _ _ _ := .inl h.begun

/-! ### Installs -/

theorem recoveryFailures_ne_none {e : Raised} (h : stepFailures e ≠ none) :
    recoveryFailures e ≠ none := by
  cases e with
  | os => exact Option.some_ne_none _
  | _ => exact h

/-- **The write-back is begun, or the stop before it failed** and that is noted. -/
theorem ends_stopAndWriteBack (hshape : SameShape saved host.files) :
    Ends (stopAndWriteBack answers saved) host
      (fun _ after => Grows host after ∧
        (.recoveryBegun none ∈ after.deeds ∨ .stopFailed ∈ after.deeds))
      fun _ after => Grows host after ∧
        (Answered .install answers → .recoveryBegun none ∈ after.deeds) := by
  rw [stopAndWriteBack, ends_bind, ends_judged, ends_bind]
  refine (ends_stopAdmin (tellsOnly_answered .install)).mono ?_ ?_
  · intro _ stopped hstopped
    rw [ends_bind, ends_note]
    let begun : Host := { stopped with deeds := .recoveryBegun none :: stopped.deeds }
    have hbegun : Begun none host begun :=
      ⟨(hstopped.1.grows hstopped.2).trans (grows_note _), List.mem_cons_self⟩
    have hshape : SameShape saved begun.files := hstopped.1.files ▸ hshape
    refine (ends_safeRestore hshape).mono ?_ ?_
    · intro _ after h
      have hafter := hbegun.grow h.grows
      exact (ends_pure ()).mpr ⟨hafter.grows, .inl hafter.begun⟩
    · intro _ after h
      have hafter := hbegun.grow h.2.1.grows
      exact ⟨fun _ _ => (ends_note _).mpr
          ⟨hafter.grows.trans (grows_note _), .inr List.mem_cons_self⟩,
        fun _ => ⟨hafter.grows, fun _ => hafter.begun⟩⟩
  · intro e after h
    have hafter := h.2.1.grows h.2.2
    exact ⟨fun _ _ => (ends_note _).mpr
        ⟨hafter.trans (grows_note _), .inr List.mem_cons_self⟩,
      fun hnone => ⟨hafter, fun hanswered =>
        absurd hnone (recoveryFailures_ne_none (h.1 hanswered))⟩⟩

theorem always_nothingToRestore (hended : host.ended = none)
    (hshape : SameShape saved host.files) (htarget : recoveryIdentity plan host.history = none) :
    Always (nothingToRestore answers saved code) host (Outcome .install answers plan saved) := by
  rw [nothingToRestore, Always, ends_bind]
  refine (ends_stopAndWriteBack hshape).mono ?_ ?_
  · intro _ after h
    have htarget : recoveryIdentity plan after.history = none :=
      (congrArg _ h.1.history).trans htarget
    refine always_finish_refuse (h.1.ended.trans hended)
      (.of_failure (by simp) (by simp) (by simp) fun _ _ => ?_)
    rw [htarget]
    exact h.2.imp_right fun hfailed => ⟨_, rfl, rfl, .inr ⟨rfl, htarget, hfailed⟩⟩
  · intro _ after h
    refine .of_open (h.1.ended.trans hended) fun hanswered _ => .inl ?_
    rw [h.1.history, htarget]
    exact h.2 hanswered

theorem always_recoveryEnded {target : Identity}
    {outcome : Except String Verification} (h : Recovers plan host)
    (htarget : recoveryIdentity plan host.history = some target)
    (hhead : ∀ v, outcome = .ok v → v.verified = true →
      host.deeds.head? = some (.verified target.digest)) :
    Always (recoveryEnded answers code outcome) host (Outcome kind answers plan saved) := by
  cases outcome with
  | error failed =>
    exact always_finish_refuse h.ended (h.finished (by simp) (by simp) (by simp))
  | ok v =>
    rw [recoveryEnded]
    split
    · next hv =>
      exact always_finish_refuse h.ended (h.finished_rolledBack htarget (hhead v rfl hv) rfl (by simp))
    · exact always_finish_refuse h.ended (h.finished (by simp) (by simp) (by simp))

/-- **An install that fails behind the stop begins a recovery**, or leaves an Admin that replaces
itself to finish. -/
theorem always_rollbackAfterFailure (hended : host.ended = none)
    (hshape : SameShape saved host.files) :
    Always (rollbackAfterFailure answers plan saved code) host
      (Outcome .install answers plan saved) := by
  rw [rollbackAfterFailure, Always, ends_bind, ends_judged]
  refine asks_requireNoAdminTransition.ends (fun _ n => ?_) fun e n he => ?_
  · -- Nothing replaces the Admin: the recovery is made.
    have hended : (host.at n).ended = none := hended
    rw [rollbackUnobserved, recoveryTarget, ends_bind, ends_read]
    cases htarget : recoveryIdentity plan (host.at n).history with
    | none => exact always_nothingToRestore hended hshape htarget
    | some target =>
      refine always_announce hended fun m => ?_
      have hshape : SameShape saved ((host.at n).at m).files := hshape
      rw [Always, ends_bind, ends_judged]
      refine (ends_bringBack hshape fun mid hmid => ?_).mono ?_ ?_
      · exact (ends_restore hmid).mono (fun _ _ h => h.1.grows) fun _ _ h => h.1.grows
      · intro v after h
        have hrecovers : Recovers plan after := h.1.recovers hended htarget
        have htarget : recoveryIdentity plan after.history = some target :=
          (congrArg _ h.1.grows.history).trans htarget
        refine always_recoveryEnded hrecovers htarget fun v' hv' hverified => ?_
        obtain rfl := Except.ok.inj hv'
        exact h.2 hverified (digest_ne_of_recoveryIdentity htarget)
      · intro e after h
        have hrecovers : Recovers plan after := h.recovers hended htarget
        have htarget : recoveryIdentity plan after.history = some target :=
          (congrArg _ h.grows.history).trans htarget
        exact ⟨fun code _ => always_recoveryEnded hrecovers htarget (by simp),
          fun _ => hrecovers.outcome⟩
  · -- The Admin replaces itself, which the end says.
    obtain ⟨live, rfl⟩ := he
    refine ⟨fun _ _ => ?_, fun hnone => (by cases hnone)⟩
    refine always_finish_refuse hended (.of_failure (by simp) (by simp) (by simp) ?_)
    exact fun _ _ => .inr ⟨_, rfl, rfl, .inl rfl⟩

theorem digest_ne (plan : Plan) : plan.digest ≠ "" := by
  intro hempty
  have hvalid := plan.valid
  rw [hempty] at hvalid
  exact absurd hvalid (by decide)

/-- The host of a call that has pinned the deployment and not ended. -/
structure Underway (plan : Plan) (saved : Files) (host : Host) : Prop where
  ended : host.ended = none
  shape : SameShape saved host.files
  names : NamesDigest plan.digest host.files

theorem Pinned.underway (h : Pinned plan saved host) : Underway plan saved host :=
  ⟨h.ended, h.shape, h.names⟩

theorem Underway.at (h : Underway plan saved host) (n : ℕ) : Underway plan saved (host.at n) :=
  ⟨h.ended, h.shape, h.names⟩

theorem Underway.kept (h : Underway plan saved host) (hkept : Kept host after) :
    Underway plan saved after :=
  ⟨hkept.ended.trans h.ended, hkept.files ▸ h.shape, hkept.files ▸ h.names⟩

/-- An Admin that is verified, behind which the end is all that is missing. -/
structure Proven (plan : Plan) (saved : Files) (host : Host) : Prop where
  underway : Underway plan saved host
  head : host.deeds.head? = some (.verified plan.digest)

theorem Proven.recorded (h : Proven plan saved host)
    (hrecorded : HistoryOnly host after) : Proven plan saved after :=
  ⟨⟨hrecorded.ended.trans h.underway.ended, hrecorded.files ▸ h.underway.shape,
    hrecorded.files ▸ h.underway.names⟩, hrecorded.deeds ▸ h.head⟩

theorem Proven.succeeded (h : Proven plan saved host)
    (hstate : ended.state = .succeeded) (huntouched : ended.adminUntouched ≠ some true) :
    Outcome kind answers plan saved { host with ended := some ended } where
  succeeded _ _ _ := ⟨h.head, h.underway.names⟩
  rolledBack ended' hended h := by
    obtain rfl := Option.some.inj hended
    rw [hstate] at h
    cases h
  untouched ended' hended h := by
    obtain rfl := Option.some.inj hended
    exact absurd h huntouched
  stopped _ _ hended := absurd hstate (hended _ rfl)

/-- **A verified Admin is recorded and the success written.** -/
theorem always_recorded {entry : Entry} (h : Proven plan saved host) :
    Always (recordKnownGood site answers entry >>= fun _ =>
      finish answers ⟨.succeeded, stage, none, none⟩ : Call Unit) host
      (Outcome kind answers plan saved) := by
  rw [Always, ends_bind]
  refine (ends_recordKnownGood entry).mono ?_ ?_
  · intro _ after hrecorded
    have hproven := h.recorded hrecorded
    exact always_finish hproven.underway.ended (hproven.succeeded rfl (by simp))
  · intro _ after hfailed
    refine .of_unanswered ((h.recorded hfailed.1).underway.ended) fun hanswered => ?_
    exact hfailed.2 hanswered.history

/-- What interrupts an install behind the stop, handled where the call is answered. -/
structure Interrupted (answers : Answers) (plan : Plan) (saved : Files) (e : Raised) (after : Host) :
    Prop where
  underway : Underway plan saved after
  handled : Answered .install answers → stepFailures e ≠ none

theorem ends_announce {Q : Unit → Host → Prop} (h : Underway plan saved host)
    (hx : ∀ n, Ends (x ()) (host.at n) Q (Interrupted answers plan saved)) :
    Ends (announce answers stage >>= x) host Q (Interrupted answers plan saved) := by
  have hannounce : Asks (fun _ => ¬Answered .install answers) (announce answers stage) := by
    refine asks_announce stage _ fun n e he hanswered => ?_
    rw [hanswered.announce] at he
    cases he
  exact ends_bind.mpr (hannounce.ends (fun _ n => hx n)
    fun _ n hno => ⟨h.at n, fun hanswered => absurd hanswered hno⟩)

theorem ends_replaceAdmin (h : Underway plan saved host) :
    Ends (replaceAdmin answers plan) host (fun _ after => Proven plan saved after)
      (Interrupted answers plan saved) := by
  have htells : TellsOnly answers fun e => Answered .install answers → stepFailures e ≠ none :=
    tellsOnly_answered .install
  rw [replaceAdmin]
  refine ends_announce h fun n => ends_bind.mpr ?_
  refine (ends_stopAdmin htells).mono ?_ fun e after he => ⟨(h.at n).kept he.2.1, he.1⟩
  intro _ stopped hstopped
  have hunder := (h.at n).kept hstopped.1
  refine ends_announce hunder fun m => ends_bind.mpr ?_
  have hcompose : Asks (fun e => Answered .install answers → stepFailures e ≠ none)
      (composeUp answers) :=
    asks_composeUp (fun n e he => .inr fun hanswered => hanswered.composeUp n e he)
      fun code _ => by simp [stepFailures]
  refine hcompose.ends (fun _ k => ?_) fun e k he => ⟨(hunder.at m).at k, he⟩
  refine ends_announce ((hunder.at m).at k) fun j => ends_bind.mpr ?_
  refine (ends_verifyAdmin htells _ _).mono ?_ ?_
  · intro v after hv
    have hunder := (((hunder.at m).at k).at j).kept hv.kept
    refine ends_demand.mpr ⟨fun hverified => ⟨hunder, hv.head hverified (digest_ne plan)⟩,
      fun _ => ⟨hunder, fun _ => by simp [stepFailures]⟩⟩
  · intro e after he
    obtain ⟨hhandled, i, rfl⟩ := he
    exact ⟨(((hunder.at m).at k).at j).at i, hhandled⟩

theorem always_installReplaced (hplan : plan.bootstrap = false) (h : Underway plan saved host) :
    Always (installReplaced site answers plan saved) host
      (Outcome .install answers plan saved) := by
  rw [installReplaced, Always, ends_bind, ends_judged]
  refine (ends_replaceAdmin h).mono ?_ ?_
  · intro _ after hproven
    rw [recordInstalled]
    refine always_announce hproven.underway.ended fun n => ?_
    rw [Always, ends_bind, ends_read]
    exact always_recorded ⟨hproven.underway.at n, hproven.head⟩
  · intro e after he
    refine ⟨fun code _ => ?_, fun hnone => .of_unanswered he.underway.ended fun hanswered => ?_⟩
    · have hfailed : installFailed answers plan saved code =
          rollbackAfterFailure answers plan saved code := by
        rw [installFailed, hplan, if_neg Bool.false_ne_true]
      show Always (installFailed answers plan saved code) after _
      rw [hfailed]
      exact always_rollbackAfterFailure he.underway.ended he.underway.shape
    · exact he.handled hanswered hnone

/-- The host of a call that has only read and recorded what runs. -/
structure Unchanged (saved : Files) (host : Host) : Prop where
  ended : host.ended = none
  deeds : host.deeds = []
  files : host.files = saved

theorem Unchanged.at (h : Unchanged saved host) (n : ℕ) : Unchanged saved (host.at n) :=
  ⟨h.ended, h.deeds, h.files⟩

theorem Unchanged.unstopped (h : Unchanged saved host) : .stopSent ∉ host.deeds := by
  simp [h.deeds]

theorem Unchanged.outcome (h : Unchanged saved host) : Outcome kind answers plan saved host :=
  .of_unstopped h.ended h.unstopped

theorem Unchanged.pinned (h : Unchanged saved host)
    (hrewritten : Rewritten host after) (hnames : Names (repository ++ "@" ++ plan.digest) after.files) :
    Pinned plan saved after :=
  ⟨hrewritten.1.ended.trans h.ended, hrewritten.1.deeds.trans h.deeds, h.files ▸ hrewritten.2,
    repository, hnames⟩

theorem always_installPinned (hplan : plan.bootstrap = false) (h : Unchanged saved host) :
    Always (installPinned site answers plan saved) host (Outcome .install answers plan saved) := by
  rw [installPinned]
  refine always_announce h.ended fun n => ?_
  rw [Always, ends_bind, ends_judged]
  refine (ends_applyDigest _ _ _).mono ?_ ?_
  · intro _ after hpinned
    have hpinned := (h.at n).pinned hpinned.1 hpinned.2
    rw [installGuarded, ends_bind]
    refine (ends_transitionStarted hpinned).mono ?_ fun _ _ h => h
    intro stands mid hmid
    cases stands with
    | true => exact (ends_pure ()).mpr hmid
    | false => exact always_installReplaced hplan (Pinned.underway hmid)
  · intro e after hrewritten
    have hended : after.ended = none := hrewritten.1.ended.trans h.ended
    have hdeeds : after.deeds = [] := hrewritten.1.deeds.trans h.deeds
    refine ⟨fun code _ => ?_, fun _ => .of_unstopped hended (by simp [hdeeds])⟩
    have hshape : SameShape saved after.files := h.files ▸ hrewritten.2
    rw [ends_bind]
    refine (ends_restore hshape).mono ?_ ?_
    · intro _ back hback
      have hstop : .stopSent ∉ back.deeds := by simp [hback.1.deeds, hdeeds]
      exact always_finish_refuse (hback.1.ended.trans hended)
        (.of_failure (by simp) (by simp) (by simp) fun _ h => absurd h hstop)
    · intro _ back hback
      exact .of_unstopped (hback.1.ended.trans hended) (by simp [hback.1.deeds, hdeeds])

theorem ends_recordBefore {before : Detected} :
    Ends (recordBefore site answers before saved) host (fun _ after => HistoryOnly host after)
      fun _ after => HistoryOnly host after := by
  rw [recordBefore, ends_bind, announce, ends_ask]
  refine ⟨fun _ _ => ?_, fun _ _ => ⟨rfl, rfl, rfl⟩⟩
  have hnext : HistoryOnly host host.next := ⟨rfl, rfl, rfl⟩
  split
  · exact (ends_recordRunningAdmin before _).mono (fun _ _ h => hnext.trans h)
      fun _ _ h => hnext.trans h
  · exact (ends_pure ()).mpr hnext

theorem always_executeInstall (hplan : plan.bootstrap = false) (h : Unchanged saved host) :
    Always (executeInstall site answers plan) host (Outcome .install answers plan saved) := by
  rw [executeInstall]
  refine always_announce h.ended fun n => ?_
  rw [Always, ends_bind, ends_judged]
  refine (asks_installPreflight plan).ends (fun _ m => ?_) fun e m _ => ⟨fun code _ => ?_,
    fun _ => ((h.at n).at m).outcome⟩
  · have h := (h.at n).at m
    simp only [hplan, Bool.false_eq_true, if_false]
    rw [installRecorded, snapshot, ends_bind, ends_read, h.files,
      ends_bind]
    refine (asks_ask fun _ _ _ => trivial).ends (fun before k => ?_) fun _ k _ => (h.at k).outcome
    rw [ends_bind]
    have hkept : ∀ {after}, HistoryOnly (((host.at n).at m).at k) after → Unchanged saved after :=
      fun hrecorded => ⟨hrecorded.ended.trans h.ended, hrecorded.deeds.trans h.deeds,
        hrecorded.files.trans h.files⟩
    exact ends_recordBefore.mono (fun _ _ hrecorded => always_installPinned hplan (hkept hrecorded))
      fun _ _ hrecorded => (hkept hrecorded).outcome
  · exact always_preflightFailure h.ended h.unstopped (.inl h.files) (by decide) (by decide)

/-! ### Rollbacks -/

theorem stripped_of_validatedRollbackTarget {reference : String}
    (h : validatedRollbackTarget site repository digest reference = .ok target) :
    target.digest = pyStrip digest := by
  rw [validatedRollbackTarget] at h
  obtain ⟨repository, _, h⟩ := Fallible.bind_eq_ok.mp h
  obtain ⟨digest, hdigest, h⟩ := Fallible.bind_eq_ok.mp h
  obtain ⟨built, _, h⟩ := Fallible.bind_eq_ok.mp h
  split at h
  · cases h
  · rw [← Except.ok.inj h]
    exact eq_of_validateDigest hdigest

theorem digest_of_validatedRollbackTarget
    (h : validatedRollbackTarget site plan.repository plan.digest plan.reference = .ok target) :
    target.digest = plan.digest :=
  (stripped_of_validatedRollbackTarget h).trans (pyStrip_of_isDigest plan.valid)

theorem ends_restoreOrRaise (hshape : SameShape saved host.files) :
    Ends (restoreOrRaise answers saved) host (fun _ after => Grows host after)
      fun _ after => Grows host after := by
  rw [restoreOrRaise, ends_bind]
  refine (ends_safeRestore hshape).mono ?_ fun _ _ h => h.2.1.grows
  intro restored after h
  cases restored with
  | true => exact (ends_pure ()).mpr h.grows
  | false => exact (ends_raise _).mpr h.grows

/-- **A rollback that fails behind the stop begins to bring the captured Admin back.** -/
theorem always_rollbackRecoveryFailure (h : Underway plan saved host) :
    Always (rollbackRecoveryFailure answers plan saved code) host
      (Outcome .rollback answers plan saved) := by
  rw [rollbackRecoveryFailure]
  refine always_announce h.ended fun n => ?_
  rw [Always, recoveryTarget, ends_bind, ends_read, ends_bind, ends_judged]
  have hended : (host.at n).ended = none := h.ended
  cases htarget : recoveryIdentity plan (host.at n).history with
  | none =>
    refine ends_refuse.mpr ⟨fun _ _ => ?_, fun hnone => (by cases hnone)⟩
    exact always_finish hended (.of_failure (by simp) (by simp) (by simp) fun _ _ => .inr htarget)
  | some target =>
    have hshape : SameShape saved (host.at n).files := h.shape
    refine (ends_bringBack hshape fun _ => ends_restoreOrRaise).mono ?_ ?_
    · intro v after hback
      have hrecovers : Recovers plan after := hback.1.recovers hended htarget
      have htarget : recoveryIdentity plan after.history = some target :=
        (congrArg _ hback.1.grows.history).trans htarget
      refine always_finish hrecovers.ended ?_
      by_cases hv : v.verified = true
      · exact hrecovers.finished_rolledBack htarget
          (hback.2 hv (digest_ne_of_recoveryIdentity htarget)) (by simp [hv]) (by simp)
      · exact hrecovers.finished (by simp [hv]) (by simp [hv]) (by simp)
    · intro e after hback
      have hrecovers : Recovers plan after := hback.recovers hended htarget
      exact ⟨fun _ _ => always_finish hrecovers.ended
        (hrecovers.finished (by simp) (by simp) (by simp)), fun _ => hrecovers.outcome⟩

theorem always_rollbackVerified (htarget : target.digest = plan.digest)
    (h : Underway plan saved host) :
    Always (rollbackVerified site answers plan saved target) host
      (Outcome .rollback answers plan saved) := by
  have htells : TellsOnly answers fun _ => ¬Answered .rollback answers :=
    tellsOnly_answered .rollback
  rw [rollbackVerified]
  refine always_announce h.ended fun n => ?_
  rw [Always, ends_bind]
  refine (ends_verifyAdmin htells _ _).mono ?_ ?_
  · intro v after hv
    have hunder := (h.at n).kept hv.kept
    split
    · next hverified =>
      have hhead := hv.head hverified (htarget ▸ digest_ne plan)
      rw [htarget] at hhead
      rw [ends_bind, ends_read]
      exact always_recorded ⟨hunder, hhead⟩
    · exact always_rollbackRecoveryFailure hunder
  · intro e after he
    obtain ⟨hno, m, rfl⟩ := he
    exact .of_unanswered h.ended hno

theorem always_rollbackReplaced (htarget : target.digest = plan.digest)
    (h : Underway plan saved host) :
    Always (rollbackReplaced site answers plan saved target) host
      (Outcome .rollback answers plan saved) := by
  have htells : TellsOnly answers fun _ => ¬Answered .rollback answers :=
    tellsOnly_answered .rollback
  rw [rollbackReplaced]
  refine always_announce h.ended fun n => ?_
  rw [Always, ends_bind]
  refine (ends_stopAdmin htells).mono ?_ ?_
  · intro _ stopped hstopped
    have hunder := (h.at n).kept hstopped.1
    refine always_announce hunder.ended fun m => ?_
    rw [Always, ends_bind, ends_judged]
    have hcompose : Asks (fun e => Answered .rollback answers → stepFailures e ≠ none)
        (composeUp answers) :=
      asks_composeUp (fun n e he => .inr fun hanswered => hanswered.composeUp n e he)
        fun code _ => by simp [stepFailures]
    refine hcompose.ends (fun _ k => always_rollbackVerified htarget ((hunder.at m).at k)) ?_
    intro e k hhandled
    exact ⟨fun code _ => always_rollbackRecoveryFailure ((hunder.at m).at k),
      fun hnone => .of_unanswered hunder.ended fun hanswered => hhandled hanswered hnone⟩
  · intro e after he
    exact .of_unanswered ((h.at n).kept he.2.1).ended he.1

theorem always_rollbackPinned (htarget : target.digest = plan.digest) (h : Unchanged saved host) :
    Always (rollbackPinned site answers plan target) host
      (Outcome .rollback answers plan saved) := by
  rw [rollbackPinned, snapshot, Always, ends_bind, ends_read, h.files]
  refine always_announce h.ended fun n => ?_
  rw [Always, ends_bind, ends_judged, htarget]
  refine (ends_applyDigest _ _ _).mono ?_ ?_
  · intro _ after hpinned
    have hpinned := (h.at n).pinned hpinned.1 hpinned.2
    rw [rollbackGuarded, ends_bind]
    refine (ends_transitionStarted hpinned).mono ?_ fun _ _ h => h
    intro stands mid hmid
    cases stands with
    | true => exact (ends_pure ()).mpr hmid
    | false => exact always_rollbackReplaced htarget (Pinned.underway hmid)
  · intro e after hrewritten
    have hended : after.ended = none := hrewritten.1.ended.trans h.ended
    have hdeeds : after.deeds = [] := hrewritten.1.deeds.trans h.deeds
    have hshape : SameShape saved after.files := h.files ▸ hrewritten.2
    refine ⟨fun code _ => ?_, fun _ => .of_unstopped hended (by simp [hdeeds])⟩
    rw [ends_bind]
    refine (ends_safeRestore hshape).mono ?_ ?_
    · intro done back hback
      refine always_preflightFailure (hback.ended.trans hended) ?_ ?_ (by decide) (by decide)
      · cases done with
        | true => simp [(hback.done_files rfl).2, hdeeds]
        | false => simp [hback.failed_deeds rfl, hdeeds]
      · cases done with
        | true => exact .inl (hback.done_files rfl).1
        | false => exact .inr (by simp [hback.failed_deeds rfl])
    · intro e back hback
      exact .of_unstopped (hback.2.1.ended.trans hended) (by simp [hback.2.1.deeds, hdeeds])

theorem always_executeRollback (h : Unchanged saved host) :
    Always (executeRollback site answers plan) host (Outcome .rollback answers plan saved) := by
  rw [executeRollback]
  refine always_announce h.ended fun n => ?_
  have h := h.at n
  split
  · exact always_preflightFailure h.ended h.unstopped (.inl h.files) (by decide) (by decide)
  · next target hvalid =>
    rw [rollbackChecked]
    refine always_announce h.ended fun m => ?_
    have h := h.at m
    rw [Always, ends_bind, ends_judged]
    refine (asks_rollbackPreflight plan).ends (fun _ k => ?_) fun e k _ => ⟨fun code _ => ?_,
      fun _ => (h.at k).outcome⟩
    · exact always_rollbackPinned (digest_of_validatedRollbackTarget hvalid) (h.at k)
    · exact always_preflightFailure h.ended h.unstopped (.inl h.files) (by decide) (by decide)

/-! ### Both -/

/-- **A call that replaces the Admin ends with a proven Admin, or says that it did not.** -/
theorem proven_or_said (site : Site) (answers : Answers) (kind : Replacement) (plan : Plan)
    (before : Host) (hplan : kind = .install → plan.bootstrap = false)
    (hended : before.ended = none) (hdeeds : before.deeds = []) :
    Outcome kind answers plan before.files (execute site answers plan kind before).2 := by
  have h : Unchanged before.files before := ⟨hended, hdeeds, rfl⟩
  cases kind with
  | install =>
    rw [execute]
    exact Ends.state (P := Outcome .install answers plan before.files) (always_executeInstall (hplan rfl) h)
  | rollback =>
    rw [execute]
    exact Ends.state (P := Outcome .rollback answers plan before.files) (always_executeRollback h)

/-! ### An Admin that begins to replace itself while it is replaced -/

def runningDigest : String :=
  "sha256:1111111111111111111111111111111111111111111111111111111111111111"

def plannedDigest : String :=
  "sha256:2222222222222222222222222222222222222222222222222222222222222222"

theorem isDigest_runningDigest : isDigest runningDigest = true := by decide

theorem isDigest_plannedDigest : isDigest plannedDigest = true := by decide

/-- A host that allows its own Admin image, with one release that carries no labels. -/
def homeSite : Site where
  images := ⟨["ems/admin"], "ems/admin", false, ["arm64"], "", ["1.2.3"]⟩
  retention := ⟨2, le_refl 2⟩
  composeHash _ := "c"
  environmentHash _ := "e"

def homePlan : Plan where
  bootstrap := false
  repository := "ems/admin"
  tag := "1.2.3"
  digest := plannedDigest
  reference := "ems/admin@" ++ plannedDigest
  revision := ""
  source := ""
  architecture := "arm64"
  composeHash := "c"
  environmentHash := "e"
  recovery := some ⟨"ems/admin", runningDigest, "1.2.2", isDigest_runningDigest⟩
  valid := isDigest_plannedDigest

def homeHost : Host where
  files := ⟨some ⟨some "ems/admin:latest", none, false, ""⟩, none⟩
  history := .absent
  ended := none
  deeds := []
  records := []
  digests := []
  tick := 0

/-- Every answer as it is hoped for; the image that runs is the planned one. -/
def homeAnswers : Answers where
  announce _ := .ok ()
  finish _ := .written
  detect _ := .ok ⟨true, false, runningDigest, none⟩
  inspectContainer _ := .ok ⟨true, .running, .healthy, "ems/admin"⟩
  inspectImage _ := .ok ⟨true, plannedDigest, "arm64", []⟩
  pullImage _ := .ok ()
  stopContainer _ := .ok ()
  composeUp _ := .ok true
  probe _ := .ok ⟨true, "1.2.3"⟩
  repairCommand _ := .ok true
  findings _ := .ok []
  dockerRunning _ := true
  adminTransitionLive _ := false
  packageRun _ := false
  managerPending _ := false
  operationActive _ := false
  writeFile _ := .written
  installer _ := .written
  installed _ := ⟨none, none⟩
  setAside _ := .ok ()
  writeHistory _ := .written

/-- The planned Admin does not come up, and the running one has begun to replace itself behind its
stop. -/
def lateTransition : Answers :=
  { homeAnswers with
    composeUp := fun _ => .ok false
    adminTransitionLive := fun n => 14 < n }

theorem proven_or_said_home :
    Outcome .install homeAnswers homePlan homeHost.files
        (execute homeSite homeAnswers homePlan .install homeHost).2 ∧
      ((execute homeSite homeAnswers homePlan .install homeHost).2.ended.map Ended.state) =
        some .succeeded := by
  exact ⟨proven_or_said homeSite homeAnswers .install homePlan homeHost (fun _ => rfl) rfl rfl,
    by decide +kernel⟩

/-- **A call that has stopped the Admin and brought none up need not begin a recovery**: the Admin that
replaces itself is left to finish. -/
theorem stop_without_recovery :
    ¬ (.stopSent ∈ (execute homeSite lateTransition homePlan .install homeHost).2.deeds →
      (∀ ended, (execute homeSite lateTransition homePlan .install homeHost).2.ended = some ended →
        ended.state ≠ .succeeded) →
      ∃ target, .recoveryBegun target ∈
        (execute homeSite lateTransition homePlan .install homeHost).2.deeds) := by
  have hdeeds : (execute homeSite lateTransition homePlan .install homeHost).2.deeds =
      [.stopSent] := by decide +kernel
  have hended : (execute homeSite lateTransition homePlan .install homeHost).2.ended =
      some ⟨.manualActionRequired, "admin_transition_in_flight", some false,
        some "compose_up_failed"⟩ := by decide +kernel
  intro hclaim
  rw [hdeeds, hended] at hclaim
  obtain ⟨target, htarget⟩ := hclaim (by simp) fun ended h => by
    obtain rfl := Option.some.inj h
    simp
  simp at htarget

end SolarFlowEms.Appliance.AdminLifecycle
