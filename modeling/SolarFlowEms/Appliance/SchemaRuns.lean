import SolarFlowEms.Appliance.SchemaHistory

/-!
# An accepted install can read what is on the disk

The record never forgets: no axis is dropped or lowered by any step.  As long as every axis on the
disk that the running manager does not write is named at the number it was last written at, an
install that is accepted starts a manager that is not behind the record and reads the state of
every axis that it declares.

`Tracks` says when an install leaves that so, in terms of the two managers, the record and the
disk.  An install that does not track goes through unrefused, and one behind it starts a manager on
state that it cannot read.
-/

namespace SolarFlowEms.Appliance.StateSchemas

open Run

variable (architecture : String)

/-- Every axis on the disk that the running manager does not write is named at the number that it
was last written at. -/
structure Tracked (w : World) : Prop where
  namesSome : NamesSome w.record
  disk : ∀ axis number, w.disk axis = some number → w.running.written.lookup axis = none →
    w.named axis = some number

theorem lookup_writeFormats (manager : Manager) (disk : String → Option ℕ) (axis : String) :
    writeFormats manager disk axis =
      match manager.written.lookup axis with
      | some number => some number
      | none => disk axis := rfl

variable {w : World} {axis : String} {number : ℕ} {install : Install}

theorem Tracked.run (h : Tracked w) : Tracked w.run := by
  refine ⟨h.namesSome, fun axis number hdisk hunwritten => ?_⟩
  have hdisk' : writeFormats w.running w.disk axis = some number := hdisk
  rw [lookup_writeFormats, show w.running.written.lookup axis = none from hunwritten] at hdisk'
  exact h.disk axis number hdisk' hunwritten

theorem disk_run
    (h : w.running.written.lookup axis = some number) : w.run.disk axis = some number := by
  show writeFormats w.running w.disk axis = some number
  rw [lookup_writeFormats, h]

/-! ### The record -/

/-- No axis of the record is dropped or lowered. -/
def Rises (w w' : World) : Prop :=
  ∀ axis number, w.named axis = some number →
    ∃ number', w'.named axis = some number' ∧ number ≤ number'

theorem outcome_ne_behind (h : w.behind = false) :
    (compare (readStamp w.record) w.running.implemented).outcome ≠ .behind := by
  intro hbehind
  rw [World.behind, recordedForJudging, if_neg (by rw [hbehind]; simp), decide_eq_false_iff_not] at h
  split_ifs at h
  · exact h hbehind
  · exact h hbehind

theorem outcome_behind (h : w.behind = true) :
    (compare (readStamp w.record) w.running.implemented).outcome = .behind := by
  rw [World.behind, recordedForJudging, decide_eq_true_eq] at h
  split_ifs at h
  · exact h
  · exact h
  · exact h

theorem named_claimed (h : NamesSome w.record) (install : Install) (axis : String) :
    (w.claimed architecture install).named axis =
      if w.behind then w.named axis
      else
        match (claimOf w.running.implemented (w.incoming architecture install)).lookup axis with
        | some claim => some (max claim ((w.named axis).getD 0))
        | none => w.named axis := by
  cases hbehind : w.behind with
  | true =>
    show ((reconcile w.record w.running.implemented _).getD ∅).lookup axis = _
    rw [reconcile_of_behind (outcome_behind hbehind), if_pos rfl]
    rfl
  | false =>
    refine (lookup_reconcile h (outcome_ne_behind hbehind) _ axis).trans ?_
    rw [lookup_merge, if_neg (by simp)]
    rfl

theorem rises_claimed (h : NamesSome w.record) (install : Install) :
    Rises w (w.claimed architecture install) := by
  intro axis number hnamed
  rw [named_claimed architecture h]
  split_ifs
  · exact ⟨number, hnamed, le_refl number⟩
  · cases (claimOf w.running.implemented (w.incoming architecture install)).lookup axis with
    | none => exact ⟨number, hnamed, le_refl number⟩
    | some claim =>
      refine ⟨_, rfl, ?_⟩
      rw [hnamed]
      exact Nat.le_max_right claim number

theorem ended_record (w : World) (install : Install) : (w.ended install).record = w.record := by
  rw [World.ended]
  cases install.ending <;> rfl

theorem named_ended (w : World) (install : Install) (axis : String) :
    (w.ended install).named axis = w.named axis := by
  rw [World.named, ended_record]
  rfl

theorem rises_step (h : NamesSome w.record) (event : Event) :
    Rises w (step architecture w event) := by
  have hself : Rises w w.run := fun axis number hnamed => ⟨number, hnamed, le_refl number⟩
  cases event with
  | run => exact hself
  | install install =>
    show Rises w (w.install architecture install)
    rw [World.install]
    split_ifs
    · intro axis number hnamed
      rw [named_ended]
      exact rises_claimed architecture (w := w.run) h install axis number hnamed
    · exact hself

theorem namesSome_step (h : NamesSome w.record) (event : Event) :
    NamesSome (step architecture w event).record := by
  cases event with
  | run => exact h
  | install install =>
    show NamesSome (w.install architecture install).record
    rw [World.install]
    split_ifs
    · rw [ended_record]
      exact namesSome_reconcile h _ _
    · exact h

/-! ### The condition -/

/-- How an install keeps an axis named at the number of its state: the record names it so and the
claim does not raise it, or the outgoing manager is not behind and claims it, where it writes it so or
just that is the claim and the record names it no higher. -/
def NamedAs (w : World) (install : Install) (axis : String) (number : ℕ) : Prop :=
  (w.named axis = some number ∧ (w.behind = false → ∀ claim,
    (claimOf w.running.implemented (w.incoming architecture install)).lookup axis = some claim →
      claim ≤ number)) ∨
  (w.running.written.lookup axis = some number ∧ w.behind = false ∧
    ((claimOf w.running.implemented (w.incoming architecture install)).lookup axis).isSome) ∨
  (w.behind = false ∧
    (claimOf w.running.implemented (w.incoming architecture install)).lookup axis = some number ∧
      ∀ named, w.named axis = some named → named ≤ number)

/-- An install that is accepted keeps every axis named that is on the disk behind it and not written
by the manager that runs then. -/
def Tracks (w : World) : Event → Prop
  | .run => True
  | .install install => w.run.accepts architecture install = true →
      ∀ axis number, (w.run.ended install).disk axis = some number →
        (w.run.ended install).running.written.lookup axis = none →
        NamedAs architecture w.run install axis number

theorem named_of_claim (h : NamesSome w.record) (hbehind : w.behind = false)
    (hclaim : (claimOf w.running.implemented (w.incoming architecture install)).lookup axis =
      some number) (hnamed : ∀ named, w.named axis = some named → named ≤ number) :
    (w.claimed architecture install).named axis = some number := by
  rw [named_claimed architecture h, hbehind, if_neg (by simp), hclaim]
  have hrecorded : (w.named axis).getD 0 ≤ number := by
    cases hfound : w.named axis with
    | none => exact Nat.zero_le number
    | some named => exact hnamed named hfound
  exact congrArg some (Nat.max_eq_left hrecorded)

theorem named_of_namedAs (h : NamesSome w.record) (haccepts : w.accepts architecture install = true)
    (hnamed : NamedAs architecture w install axis number) :
    (w.claimed architecture install).named axis = some number := by
  obtain ⟨hrecorded, hclaim⟩ | ⟨hwritten, hbehind, hclaimed⟩ | ⟨hbehind, hclaim, hle⟩ := hnamed
  · rw [named_claimed architecture h]
    split_ifs with hbehind
    · exact hrecorded
    · rw [hrecorded]
      cases hlookup :
          (claimOf w.running.implemented (w.incoming architecture install)).lookup axis with
      | none => rfl
      | some claim =>
        have hle := hclaim ((Bool.not_eq_true _).mp hbehind) claim hlookup
        exact congrArg some (Nat.max_eq_right hle)
  · obtain ⟨claim, hlookup⟩ := Option.isSome_iff_exists.mp hclaimed
    have himplemented := implemented_of_written hwritten
    have hclaim : claim = number := by
      cases hincoming : w.incoming architecture install with
      | none =>
        rw [hincoming] at hlookup
        exact Option.some.inj (hlookup.symm.trans himplemented)
      | some incoming =>
        rw [hincoming] at hlookup
        have hlookup' : (claimable w.running.implemented incoming).lookup axis = some claim := hlookup
        rw [lookup_claimable, himplemented] at hlookup'
        cases hother : incoming.lookup axis with
        | none => simp [hother] at hlookup'
        | some other =>
          have hle := written_le_incoming h haccepts hincoming hwritten hother
          simp only [hother, Option.some.injEq] at hlookup'
          rw [← hlookup', Nat.min_eq_left hle]
    refine named_of_claim architecture h hbehind (hclaim ▸ hlookup) fun named hnamed => ?_
    have hle := (behind_iff h).mp hbehind axis named hnamed
    rw [numberOr0_of_some himplemented] at hle
    exact hle
  · exact named_of_claim architecture h hbehind hclaim hle

theorem tracked_step (h : Tracked w) {event : Event}
    (htracks : Tracks architecture w event) : Tracked (step architecture w event) := by
  cases event with
  | run => exact h.run
  | install install =>
    refine ⟨namesSome_step architecture h.namesSome (.install install), ?_⟩
    show ∀ axis number, (w.install architecture install).disk axis = some number →
      (w.install architecture install).running.written.lookup axis = none →
        (w.install architecture install).named axis = some number
    rw [World.install]
    split_ifs with haccepts
    · intro axis number hdisk hunwritten
      rw [named_ended]
      refine named_of_namedAs architecture (w := w.run) h.namesSome haccepts ?_
      refine htracks haccepts axis number ?_ ?_
      · rw [← hdisk, World.ended, World.ended]
        cases install.ending <;> rfl
      · rw [← hunwritten, World.ended, World.ended]
        cases install.ending <;> rfl
    · exact h.run.disk

/-! ### What an accepted install starts -/

/-- An install that is accepted, whose package declares its formats, and that nobody forced, starts
a manager that is not behind the record and reads the state of every axis that it declares. -/
def InstallReads (w : World) : Event → Prop
  | .run => True
  | .install install => w.run.accepts architecture install = true → install.package.Declares →
      ¬ install.Forced → install.ending = .started →
        (w.install architecture install).behind = false ∧
          ∀ axis number, (w.install architecture install).disk axis = some number →
            install.package.declaration.Reads axis number

theorem implements_of_declares {package : Package} (h : package.Declares) :
    package.declaration.implements = package.manager.implemented := by
  rw [Package.Declares] at h
  rw [Package.declaration] at h ⊢
  split_ifs at h ⊢
  · rfl
  · cases h

theorem incoming_of_accepts (hforced : ¬ install.Forced)
    (h : w.accepts architecture install = true) :
    w.incoming architecture install = some install.package.declaration.implements := by
  rw [World.incoming, problems_of_accepts hforced h]
  cases install.route <;> rfl

theorem judgedBy_of_named
    (h : w.named axis = some number) : w.judgedBy.lookup axis = some number := by
  rw [World.named] at h
  rw [World.judgedBy]
  cases hrecord : w.record with
  | none =>
    rw [hrecord] at h
    cases h
  | some schemas =>
    rw [hrecord] at h
    exact h

theorem installReads (h : Tracked w) (event : Event) :
    InstallReads architecture w event := by
  cases event with
  | run => trivial
  | install install =>
    intro haccepts hdeclares hforced hstarted
    have hproblems := problems_of_accepts hforced haccepts
    have hjudged := judged_of_problems (judged (w := w.run) h.namesSome hdeclares
      (fun problem hproblem => by rw [hproblems] at hproblem; cases hproblem))
    have hrecorded : ∀ axis number, w.run.named axis = some number →
        (∃ implements, install.package.declaration.implements.lookup axis = some implements) ∧
          install.package.declaration.Reads axis number := fun axis number hnamed =>
      reads_of_recorded (hjudged.1 axis number (judgedBy_of_named hnamed))
    have hworld : w.install architecture install =
        { w.run.claimed architecture install with running := install.package.manager } := by
      rw [World.install, if_pos haccepts, World.ended, hstarted]
    rw [hworld]
    constructor
    · refine (behind_iff (namesSome_reconcile h.namesSome _ _)).mpr fun axis number hnamed => ?_
      have hle : ∀ named, w.run.named axis = some named →
          named ≤ numberOr0 install.package.manager.implemented axis := by
        intro named hnamed
        obtain ⟨⟨implements, himplements⟩, hreads⟩ := hrecorded axis named hnamed
        rw [← implements_of_declares hdeclares, numberOr0_of_some himplements]
        exact (hreads implements himplements).2
      have hnamed' : (w.run.claimed architecture install).named axis = some number := hnamed
      rw [named_claimed architecture (w := w.run) h.namesSome,
        incoming_of_accepts architecture hforced haccepts] at hnamed'
      split_ifs at hnamed' with hbehind
      · exact hle number hnamed'
      · cases hclaim : (claimOf w.run.running.implemented
            (some install.package.declaration.implements)).lookup axis with
        | none =>
          rw [hclaim] at hnamed'
          exact hle number hnamed'
        | some claim =>
          rw [hclaim] at hnamed'
          have hclaim' : (claimable w.run.running.implemented
              install.package.declaration.implements).lookup axis = some claim := hclaim
          rw [lookup_claimable, implements_of_declares hdeclares] at hclaim'
          have hclaim_le : claim ≤ numberOr0 install.package.manager.implemented axis := by
            cases hnumber : w.run.running.implemented.lookup axis with
            | none => simp [hnumber] at hclaim'
            | some number =>
              cases hother : install.package.manager.implemented.lookup axis with
              | none => simp [hnumber, hother] at hclaim'
              | some other =>
                simp only [hnumber, hother, Option.some.injEq] at hclaim'
                rw [numberOr0_of_some hother, ← hclaim']
                exact Nat.min_le_right number other
          rw [← Option.some.inj hnamed']
          refine Nat.max_le.mpr ⟨hclaim_le, ?_⟩
          cases hnamed'' : w.run.named axis with
          | none => exact Nat.zero_le _
          | some named => exact hle named hnamed''
    · intro axis number hdisk
      have hdisk' : w.run.disk axis = some number := hdisk
      cases hwritten : w.run.running.written.lookup axis with
      | some written =>
        have hsame := disk_run (w := w) hwritten
        obtain rfl := Option.some.inj (hsame.symm.trans hdisk')
        exact reads_of_written (hjudged.2 axis _ hwritten)
      | none => exact (hrecorded axis number (h.run.disk axis number hdisk' hwritten)).2

def ReadsDisk (w : World) (events : List Event) : Prop :=
  EveryStep (step architecture) (fun w event =>
    Rises w (step architecture w event) ∧ InstallReads architecture w event) w events

/-- A partition without a record, on which no manager but the running one has written. -/
structure Begins (w : World) : Prop where
  record : w.record = none
  disk : ∀ axis number, w.disk axis = some number → (w.running.written.lookup axis).isSome

theorem Begins.tracked (h : Begins w) : Tracked w := by
  refine ⟨fun schemas hschemas => ?_, fun axis number hdisk hunwritten => ?_⟩
  · rw [h.record] at hschemas
    cases hschemas
  · have hwritten := h.disk axis number hdisk
    rw [hunwritten] at hwritten
    cases hwritten

/-- **An accepted install can read what is on the disk**, in every run from a partition without a
record whose installs track: no axis of the record is dropped or lowered, and whatever manager an
accepted install starts is not behind the record and reads every axis that it declares. -/
theorem reads_disk {w : World} (hbegins : Begins w) {events : List Event}
    (htracks : EveryStep (step architecture) (Tracks architecture) w events) :
    ReadsDisk architecture w events :=
  EveryStep.of_invariant (fun _ _ h htracks => tracked_step architecture h htracks)
    (fun _ event h _ => ⟨rises_step architecture h.namesSome event, installReads architecture h event⟩)
    hbegins.tracked htracks

/-! ### An axis that is left behind -/

/-- A manager that keeps one format at a number, and reads it at no other. -/
def plainManager (number : ℕ) (hpositive : 0 < number) : Manager where
  implemented := .singleton "operations" number
  positive axis number' h := by
    have hmem := AList.mem_lookup_iff.mp h
    rw [AList.singleton_entries, List.mem_singleton] at hmem
    obtain ⟨rfl, hnumber⟩ := Sigma.mk.inj hmem
    rw [eq_of_heq hnumber]
    exact hpositive
  retired := []
  floors := .singleton "operations" number

/-- A manager with a format more. -/
def widerManager (number : ℕ) (hpositive : 0 < number) : Manager where
  implemented := (AList.singleton "operations" 1).insert "manager_verify" number
  positive axis number' h := by
    by_cases haxis : axis = "manager_verify"
    · subst haxis
      rw [AList.lookup_insert] at h
      rw [← Option.some.inj h]
      exact hpositive
    · rw [AList.lookup_insert_ne haxis] at h
      exact (plainManager 1 Nat.one_pos).positive axis number' h
  retired := []
  floors := (AList.singleton "operations" 1).insert "manager_verify" number

def sampleInstall (route : Route) (manager : Manager) : Event :=
  .install ⟨route, ⟨manager, true, "arm64"⟩, .started⟩

def sampleWorld : World where
  record := none
  running := plainManager 1 Nat.one_pos
  disk _ := none

theorem sampleWorld_begins : Begins sampleWorld where
  record := rfl
  disk _ _ h := by cases h

/-- A manager that still reads the format more and writes it no longer. -/
def retiredManager : Manager := { widerManager 2 Nat.two_pos with retired := ["manager_verify"] }

/-- Nothing is implemented or on the disk but these two axes. -/
def OfTwo (w : World) : Prop :=
  ∀ axis, axis ≠ "operations" → axis ≠ "manager_verify" →
    w.running.implemented.lookup axis = none ∧ w.disk axis = none

theorem lookup_operations (h : axis ≠ "operations") {number : ℕ} :
    (AList.singleton "operations" number : Schemas).lookup axis = none :=
  AList.lookup_eq_none.mpr fun hmem => h (List.mem_singleton.mp hmem)

theorem OfTwo.run (h : OfTwo w) : OfTwo w.run := by
  intro axis hne hne'
  obtain ⟨himplemented, hdisk⟩ := h axis hne hne'
  refine ⟨himplemented, ?_⟩
  show writeFormats w.running w.disk axis = none
  rw [lookup_writeFormats, lookup_written, himplemented, ite_self, hdisk]

theorem OfTwo.installed (h : OfTwo w) (route : Route) {manager : Manager}
    (hmanager : manager.implemented = (widerManager 2 Nat.two_pos).implemented) :
    OfTwo (step "arm64" w (sampleInstall route manager)) := by
  intro axis hne hne'
  show (w.install "arm64" _).running.implemented.lookup axis = none ∧
    (w.install "arm64" _).disk axis = none
  rw [World.install]
  split_ifs
  · refine ⟨?_, (h.run axis hne hne').2⟩
    show manager.implemented.lookup axis = none
    rw [hmanager]
    exact (AList.lookup_insert_ne hne').trans (lookup_operations hne)
  · exact h.run axis hne hne'

/-- The two axes of the sample: operations is written by each of its managers. -/
theorem tracks_sample (h : OfTwo w) {route : Route} {manager : Manager}
    (hwritten : (manager.written.lookup "operations").isSome = true)
    (hverify : ∀ number, w.run.disk "manager_verify" = some number →
      manager.written.lookup "manager_verify" = none →
        NamedAs "arm64" w.run ⟨route, ⟨manager, true, "arm64"⟩, .started⟩ "manager_verify" number) :
    Tracks "arm64" w (sampleInstall route manager) := by
  intro _ axis number hdisk hunwritten
  by_cases hne : axis = "operations"
  · subst hne
    rw [show manager.written.lookup "operations" = none from hunwritten] at hwritten
    cases hwritten
  · by_cases hne' : axis = "manager_verify"
    · subst hne'
      exact hverify number hdisk hunwritten
    · cases (h.run axis hne hne').2.symm.trans hdisk

/-- Updates to a manager with a format more and on to one that does not write it, and the return to
the kept package of that one, the format recorded at 2. -/
theorem reads_disk_sample : ReadsDisk "arm64" sampleWorld
    [sampleInstall .update (widerManager 2 Nat.two_pos), sampleInstall .update retiredManager,
      sampleInstall .revert retiredManager] := by
  have hstart : OfTwo sampleWorld := fun axis hne _ => ⟨lookup_operations hne, rfl⟩
  have hwider := @OfTwo.installed _ hstart .update (widerManager 2 Nat.two_pos) rfl
  have hretired := @OfTwo.installed _ hwider .update retiredManager rfl
  refine reads_disk "arm64" sampleWorld_begins
    ⟨tracks_sample hstart rfl ?_, tracks_sample hwider rfl ?_, tracks_sample hretired rfl ?_, trivial⟩
  · intro number hdisk _
    cases hdisk
  · intro number hdisk _
    obtain rfl : 2 = number := Option.some.inj hdisk
    exact .inr (.inl ⟨by decide, by decide, by decide⟩)
  · intro number hdisk _
    obtain rfl : 2 = number := Option.some.inj hdisk
    refine .inl ⟨by decide, fun _ claim hclaim => ?_⟩
    obtain rfl : 2 = claim := Option.some.inj hclaim
    exact le_rfl

/-- The format that the second manager wrote at 2 is not declared by the first, whose return leaves
it unrecorded, and the third reads it at 1 only. -/
theorem reads_disk_not : ¬ ReadsDisk "arm64" sampleWorld
    [sampleInstall .update (widerManager 2 Nat.two_pos),
      sampleInstall .revert (plainManager 1 Nat.one_pos),
      sampleInstall .update (widerManager 1 Nat.one_pos)] := by
  intro hreads
  have hdeclares : (Package.mk (widerManager 1 Nat.one_pos) true "arm64").Declares := rfl
  have hlast := hreads.2.2.1.2 (by decide) hdeclares (by rw [Install.Forced]; simp) rfl
  have hreads := hlast.2 "manager_verify" 2 (by decide) 1 (by decide)
  exact absurd hreads.2 (by decide)

end SolarFlowEms.Appliance.StateSchemas
