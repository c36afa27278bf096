import SolarFlowEms.Appliance.StateSchemas

/-!
# Which installs keep the record true

The record names an axis at the number that it was claimed at.  It is as good as what is on the
disk where every axis that the running manager does not write itself is named at the number that it
was last written at.  An install that is accepted then starts a manager that can read everything
on the disk.

Two kinds of install lose that.  One leaves an axis behind that the new package does not declare:
nothing claims it.  The other is made by a manager that has retired an axis at a higher number than
its state has: it claims a number that nobody wrote.
-/

namespace SolarFlowEms.Appliance.StateSchemas

open AssocFold

/-! ### Numbers of tables -/

theorem lookup_merge (recorded implemented : Schemas) (axis : String) :
    (merge recorded implemented).lookup axis =
      match implemented.lookup axis with
      | some number => some (max number (numberOr0 recorded axis))
      | none => recorded.lookup axis := by
  have hother : ∀ (s : Schemas) name number (k : String), k ≠ name →
      (s.insert name (max number (numberOr0 s name))).lookup k = s.lookup k :=
    fun s name number k hk => AList.lookup_insert_ne hk
  cases haxis : implemented.lookup axis with
  | none => exact obs_foldl_of_none (fun k (s : Schemas) => s.lookup k) hother haxis recorded
  | some number =>
    obtain ⟨s, hs, hrun⟩ :=
      obs_foldl_of_some (fun k (s : Schemas) => s.lookup k) hother haxis recorded
    refine hrun.trans ((AList.lookup_insert s).trans ?_)
    show some (max number ((s.lookup axis).getD 0)) = some (max number ((recorded.lookup axis).getD 0))
    rw [show s.lookup axis = recorded.lookup axis from hs]

theorem lookup_claimable (implemented incoming : Schemas) (axis : String) :
    (claimable implemented incoming).lookup axis =
      match implemented.lookup axis, incoming.lookup axis with
      | some number, some other => some (min number other)
      | _, _ => none := by
  have hother : ∀ (s : Schemas) name number (k : String), k ≠ name →
      (match incoming.lookup name with
        | some other => s.insert name (min number other)
        | none => s).lookup k = s.lookup k := by
    intro s name number k hk
    cases incoming.lookup name with
    | none => rfl
    | some other => exact AList.lookup_insert_ne hk
  cases haxis : implemented.lookup axis with
  | none => exact obs_foldl_of_none (fun k (s : Schemas) => s.lookup k) hother haxis ∅
  | some number =>
    obtain ⟨s, hs, hrun⟩ := obs_foldl_of_some (fun k (s : Schemas) => s.lookup k) hother haxis ∅
    refine hrun.trans ?_
    cases hincoming : incoming.lookup axis with
    | none => exact hs
    | some other => exact AList.lookup_insert s

theorem lookup_written (manager : Manager) (axis : String) :
    manager.written.lookup axis =
      if axis ∈ manager.retired then none else manager.implemented.lookup axis := by
  have hother : ∀ (s : Schemas) name number (k : String), k ≠ name →
      (if name ∈ manager.retired then s else s.insert name number).lookup k = s.lookup k := by
    intro s name number k hk
    split_ifs
    · rfl
    · exact AList.lookup_insert_ne hk
  cases haxis : manager.implemented.lookup axis with
  | none =>
    refine (obs_foldl_of_none (fun k (s : Schemas) => s.lookup k) hother haxis ∅).trans ?_
    split_ifs <;> rfl
  | some number =>
    obtain ⟨s, hs, hrun⟩ := obs_foldl_of_some (fun k (s : Schemas) => s.lookup k) hother haxis ∅
    refine hrun.trans ?_
    split_ifs
    · exact hs
    · exact AList.lookup_insert s

variable {manager : Manager} {axis : String} {number : ℕ} {schemas implemented : Schemas}
  {w : World} {record : Option Schemas} {problem : Problem} {install : Install}

theorem implemented_of_written (h : manager.written.lookup axis = some number) :
    manager.implemented.lookup axis = some number := by
  rw [lookup_written] at h
  split_ifs at h
  exact h

theorem lookup_of_sameSchemas {other : Schemas} (h : sameSchemas schemas other = true)
    (axis : String) : schemas.lookup axis = other.lookup axis := by
  rw [sameSchemas, decide_eq_true_eq] at h
  obtain ⟨hlength, hentries⟩ := h
  have hsome : ∀ {axis number}, schemas.lookup axis = some number →
      other.lookup axis = some number := by
    intro axis number hlookup
    exact hentries ⟨axis, number⟩ (AList.mem_lookup_iff.mp hlookup)
  cases hlookup : schemas.lookup axis with
  | some number => exact (hsome hlookup).symm
  | none =>
    have hsubset : schemas.keys ⊆ other.keys := by
      intro key hkey
      obtain ⟨number, hnumber⟩ := Option.isSome_iff_exists.mp (AList.lookup_isSome.mpr hkey)
      exact AList.lookup_isSome.mp (by rw [hsome hnumber]; rfl)
    have hperm : schemas.keys.Perm other.keys :=
      (List.subperm_of_subset schemas.keys_nodup hsubset).perm_of_length_le
        (Nat.le_of_eq hlength.symm)
    have hnone : axis ∉ other.keys := fun hmem =>
      AList.lookup_eq_none.mp hlookup (hperm.mem_iff.mpr hmem)
    exact (AList.lookup_eq_none.mpr hnone).symm

/-! ### The record and the claim -/

def World.named (w : World) (axis : String) : Option ℕ := (w.record.getD ∅).lookup axis

def NamesSome (record : Option Schemas) : Prop := ∀ schemas, record = some schemas →
  schemas.keys.isEmpty = false

theorem readStamp_some (h : schemas.keys.isEmpty = false) :
    readStamp (some schemas) = ⟨true, schemas, ""⟩ := by
  rw [readStamp, h]
  rfl

theorem mem_sortedAxes :
    axis ∈ sortedAxes schemas ↔ axis ∈ schemas := List.mem_insertionSort _

theorem numberOr0_of_some
    (h : schemas.lookup axis = some number) : numberOr0 schemas axis = number := by
  rw [numberOr0, h]
  rfl

theorem behindAxes_eq_nil_iff {recorded : Schemas} :
    behindAxes recorded implemented = [] ↔
      ∀ axis number, recorded.lookup axis = some number → number ≤ numberOr0 implemented axis := by
  rw [behindAxes, List.filter_eq_nil_iff]
  constructor
  · intro h axis number hnumber
    have hmem : axis ∈ sortedAxes recorded := mem_sortedAxes.mpr
      (AList.lookup_isSome.mp (by rw [hnumber]; rfl))
    have hle := h axis hmem
    rw [numberOr0_of_some hnumber, decide_eq_true_eq, not_lt] at hle
    exact hle
  · intro h axis hmem
    obtain ⟨number, hnumber⟩ :=
      Option.isSome_iff_exists.mp (AList.lookup_isSome.mpr (mem_sortedAxes.mp hmem))
    rw [numberOr0_of_some hnumber, decide_eq_true_eq, not_lt]
    exact h axis number hnumber

theorem outcome_none (implemented : Schemas) :
    (compare (readStamp none) implemented).outcome = .adopted := rfl

theorem outcome_some (h : schemas.keys.isEmpty = false) (implemented : Schemas) :
    (compare (readStamp (some schemas)) implemented).outcome =
      if behindAxes schemas implemented ≠ [] then .behind
      else if ((sortedAxes implemented).filter fun axis =>
        numberOr0 implemented axis > numberOr0 schemas axis) ≠ [] then .raised
      else .matched := by
  rw [readStamp_some h, compare]
  simp only [ne_eq, not_true_eq_false, if_false, Bool.not_true, Bool.false_eq_true]
  cases hbehind : behindAxes schemas implemented with
  | cons axis axes => rfl
  | nil =>
    cases hraised : (sortedAxes implemented).filter fun axis =>
        numberOr0 implemented axis > numberOr0 schemas axis with
    | cons axis axes | nil => rfl

theorem behind_iff (h : NamesSome w.record) :
    w.behind = false ↔
      ∀ axis number, w.named axis = some number → number ≤ numberOr0 w.running.implemented axis := by
  have hverdict : w.behind = decide
      ((compare (readStamp w.record) w.running.implemented).outcome = .behind) := by
    rw [World.behind, recordedForJudging]
    split_ifs with hunreadable
    · rfl
    · rfl
    · rfl
  rw [hverdict, decide_eq_false_iff_not]
  cases hrecord : w.record with
  | none =>
    rw [outcome_none]
    constructor
    · intro _ axis number hnamed
      rw [World.named, hrecord] at hnamed
      cases hnamed
    · intro _ hbehind
      cases hbehind
  | some schemas =>
    have hnamed : ∀ axis, w.named axis = schemas.lookup axis := by
      intro axis
      rw [World.named, hrecord]
      rfl
    simp only [hnamed, ← behindAxes_eq_nil_iff]
    rw [outcome_some (h schemas hrecord)]
    split_ifs with hbehind hraised
    · simp [hbehind]
    · simpa using hbehind
    · simpa using hbehind

theorem lookup_claimOf_le {incoming : Option Schemas}
    {claim : ℕ} (h : (claimOf implemented incoming).lookup axis = some claim) :
    ∃ number, implemented.lookup axis = some number ∧ claim ≤ number := by
  cases incoming with
  | none => exact ⟨claim, h, le_refl claim⟩
  | some incoming =>
    have hclaim : (claimable implemented incoming).lookup axis = some claim := h
    rw [lookup_claimable] at hclaim
    cases hnumber : implemented.lookup axis with
    | none => simp [hnumber] at hclaim
    | some number =>
      cases hother : incoming.lookup axis with
      | none => simp [hnumber, hother] at hclaim
      | some other =>
        simp only [hnumber, hother, Option.some.injEq] at hclaim
        exact ⟨number, rfl, hclaim ▸ min_le_left number other⟩

/-- **What a claim makes of the record**: each axis that is claimed is named at its claim or at
what it was named at, whichever is higher. -/
theorem lookup_reconcile (hrecord : NamesSome record)
    (hbehind : (compare (readStamp record) manager.implemented).outcome ≠ .behind)
    (incoming : Option Schemas) (axis : String) :
    ((reconcile record manager.implemented incoming).getD ∅).lookup axis =
      (merge (record.getD ∅) (claimOf manager.implemented incoming)).lookup axis := by
  have hwritten : ∀ {stamp : StateStamp} {schemas : Schemas}, stamp.schemas = record.getD ∅ →
      schemas = merge stamp.schemas (claimOf manager.implemented incoming) →
      ((if schemas.keys.isEmpty || sameSchemas schemas stamp.schemas then record
        else some schemas).getD ∅).lookup axis =
        (merge (record.getD ∅) (claimOf manager.implemented incoming)).lookup axis := by
    intro stamp schemas hstamp hschemas
    rw [← hstamp, ← hschemas]
    split_ifs with hsame
    · rw [← hstamp]
      rcases Bool.or_eq_true_iff.mp hsame with hempty | hsame
      · have hmissing : ∀ axis, schemas.lookup axis = none := by
          intro axis
          rw [AList.lookup_eq_none, AList.mem_keys, List.isEmpty_iff.mp hempty]
          exact List.not_mem_nil
        rw [hmissing]
        cases hnumber : stamp.schemas.lookup axis with
        | none => rfl
        | some number =>
          have hmerged := lookup_merge stamp.schemas (claimOf manager.implemented incoming) axis
          rw [← hschemas, hmissing] at hmerged
          cases hclaim : (claimOf manager.implemented incoming).lookup axis with
          | none => rw [hclaim, hnumber] at hmerged; cases hmerged
          | some claim => rw [hclaim] at hmerged; cases hmerged
      · exact (lookup_of_sameSchemas hsame axis).symm
    · rfl
  rw [reconcile]
  cases record with
  | none => exact hwritten rfl rfl
  | some schemas =>
    have hnames := hrecord schemas rfl
    have hnil : ¬ behindAxes schemas manager.implemented ≠ [] := by
      intro hbehind'
      rw [outcome_some hnames, if_pos hbehind'] at hbehind
      exact hbehind rfl
    rw [outcome_some hnames, readStamp_some hnames, if_neg hnil]
    split_ifs with hraised
    · exact @hwritten ⟨true, schemas, ""⟩ _ rfl rfl
    · have hmatched : ∀ axis number, manager.implemented.lookup axis = some number →
          number ≤ numberOr0 schemas axis := by
        intro axis number hnumber
        have hnil := not_not.mp hraised
        rw [List.filter_eq_nil_iff] at hnil
        have hle := hnil axis (mem_sortedAxes.mpr (AList.lookup_isSome.mp (by rw [hnumber]; rfl)))
        rw [numberOr0_of_some hnumber, decide_eq_true_eq, not_lt] at hle
        exact hle
      show schemas.lookup axis = _
      rw [lookup_merge]
      cases hclaim : (claimOf manager.implemented incoming).lookup axis with
      | none => rfl
      | some claim =>
        obtain ⟨number, hnumber, hle⟩ := lookup_claimOf_le hclaim
        have hnumber' := hmatched axis number hnumber
        have hpositive := manager.positive axis number hnumber
        cases hnamed : schemas.lookup axis with
        | none =>
          rw [numberOr0, hnamed] at hnumber'
          exact absurd (lt_of_lt_of_le hpositive hnumber') (lt_irrefl 0)
        | some named =>
          rw [numberOr0_of_some hnamed] at hnumber'
          show some named = some (max claim (numberOr0 schemas axis))
          rw [numberOr0_of_some hnamed, Nat.max_eq_right (Nat.le_trans hle hnumber')]

theorem namesSome_reconcile (hrecord : NamesSome record)
    (implemented : Schemas) (incoming : Option Schemas) :
    NamesSome (reconcile record implemented incoming) := by
  rw [reconcile]
  split
  · exact hrecord
  · exact hrecord
  · exact hrecord
  · dsimp only
    split_ifs with hempty
    · exact hrecord
    · intro schemas hschemas
      obtain rfl := Option.some.inj hschemas
      rw [Bool.not_eq_true, Bool.or_eq_false_iff] at hempty
      exact hempty.1

theorem reconcile_of_behind
    (h : (compare (readStamp record) implemented).outcome = .behind) (incoming : Option Schemas) :
    reconcile record implemented incoming = record := by
  rw [reconcile, h]

/-! ### What an accepted install was judged by -/

section

variable {release : Declaration} {recorded writing : Schemas}

theorem judged_of_problems (h : stateSchemaProblems release (some recorded) writing = []) :
    (∀ axis number, recorded.lookup axis = some number →
      recordedSchemaProblem release axis number = none) ∧
    ∀ axis number, writing.lookup axis = some number →
      writtenSchemaProblem release axis number = none := by
  rw [stateSchemaProblems] at h
  split_ifs at h
  obtain ⟨hrecorded, hwritten⟩ := List.append_eq_nil_iff.mp h
  have hnamed : recordedProblems release recorded = [] := List.map_eq_nil_iff.mp hrecorded
  rw [hnamed] at hwritten
  constructor
  · intro axis number hnumber
    have hmem : axis ∈ sortedAxes recorded :=
      mem_sortedAxes.mpr (AList.lookup_isSome.mp (by rw [hnumber]; rfl))
    have hnone := List.filterMap_eq_nil_iff.mp hnamed axis hmem
    rw [numberOr0_of_some hnumber] at hnone
    exact Option.map_eq_none_iff.mp hnone
  · intro axis number hnumber
    have hmem : axis ∈ sortedAxes writing :=
      mem_sortedAxes.mpr (AList.lookup_isSome.mp (by rw [hnumber]; rfl))
    have hnone := List.filterMap_eq_nil_iff.mp hwritten axis hmem
    rw [if_neg (by simp), numberOr0_of_some hnumber] at hnone
    exact hnone

/-- A package's manager reads an axis at a number: it lies between its floor and what it
implements. -/
def Declaration.Reads (release : Declaration) (axis : String) (number : ℕ) : Prop :=
  ∀ implements, release.implements.lookup axis = some implements →
    (release.reads.lookup axis).getD implements ≤ number ∧ number ≤ implements

theorem reads_of_recorded {axis : String} {number : ℕ}
    (h : recordedSchemaProblem release axis number = none) :
    (∃ implements, release.implements.lookup axis = some implements) ∧
      release.Reads axis number := by
  rw [recordedSchemaProblem] at h
  cases himplements : release.implements.lookup axis with
  | none =>
    rw [himplements] at h
    cases h
  | some implements =>
    simp only [himplements] at h
    split_ifs at h with hhigh hlow
    refine ⟨⟨implements, rfl⟩, fun implements' himplements' => ?_⟩
    obtain rfl := Option.some.inj (himplements.symm.trans himplements')
    exact ⟨Nat.le_of_not_lt hlow, Nat.le_of_not_lt hhigh⟩

theorem reads_of_written {axis : String} {number : ℕ}
    (h : writtenSchemaProblem release axis number = none) : release.Reads axis number := by
  intro implements himplements
  rw [writtenSchemaProblem, himplements] at h
  simp only at h
  split_ifs at h with hhigh hlow
  exact ⟨Nat.le_of_not_lt hlow, Nat.le_of_not_lt hhigh⟩

end

/-- The package of an install says what its manager implements. -/
def Package.Declares (package : Package) : Prop :=
  package.declaration.implements.keys.isEmpty = false

/-- What an install is judged against: the record, or the running manager's own set. -/
def World.judgedBy (w : World) : Schemas :=
  match w.record with
  | none => w.running.implemented
  | some schemas => schemas

theorem recordedForJudging_fst (h : NamesSome w.record) :
    (recordedForJudging w.record w.running.implemented).1 = some w.judgedBy := by
  rw [World.judgedBy]
  cases hrecord : w.record with
  | none => rfl
  | some schemas =>
    have houtcome := outcome_some (h schemas hrecord) w.running.implemented
    rw [readStamp_some (h schemas hrecord)] at houtcome
    rw [recordedForJudging, readStamp_some (h schemas hrecord)]
    have hreadable : (compare ⟨true, schemas, ""⟩ w.running.implemented).outcome ≠ .unreadable := by
      rw [houtcome]
      split_ifs <;> simp
    simp only [if_neg hreadable, Bool.not_true, Bool.false_eq_true, if_false]

theorem ofSchema_of_recorded {release : Declaration}
    (h : recordedSchemaProblem release axis number = some problem) : problem.ofSchema = true := by
  rw [recordedSchemaProblem] at h
  cases himplements : release.implements.lookup axis with
  | none =>
    rw [himplements] at h
    obtain rfl := Option.some.inj h
    show "artifact_state_schema".toList.isPrefixOf "artifact_state_schema_undeclared".toList = true
    decide
  | some implements =>
    simp only [himplements] at h
    split_ifs at h
    · obtain rfl := Option.some.inj h
      show "artifact_state_schema".toList.isPrefixOf "artifact_state_schema_too_old".toList = true
      decide
    · obtain rfl := Option.some.inj h
      show "artifact_state_schema".toList.isPrefixOf "artifact_state_schema_unreadable".toList = true
      decide

theorem ofSchema_of_written {release : Declaration}
    (h : writtenSchemaProblem release axis number = some problem) : problem.ofSchema = true := by
  rw [writtenSchemaProblem] at h
  cases himplements : release.implements.lookup axis with
  | none =>
    rw [himplements] at h
    cases h
  | some implements =>
    simp only [himplements] at h
    split_ifs at h
    · obtain rfl := Option.some.inj h
      show "artifact_state_schema".toList.isPrefixOf "artifact_state_schema_too_old".toList = true
      decide
    · obtain rfl := Option.some.inj h
      show "artifact_state_schema".toList.isPrefixOf "artifact_state_schema_unreadable".toList = true
      decide

theorem ofSchema_of_mem {release : Declaration} {recorded writing : Schemas}
    (h : problem ∈ stateSchemaProblems release (some recorded) writing) :
    problem.ofSchema = true := by
  rw [stateSchemaProblems] at h
  split_ifs at h
  · obtain rfl := List.mem_singleton.mp h
    decide
  · rcases List.mem_append.mp h with hrecorded | hwritten
    · obtain ⟨named, hnamed, rfl⟩ := List.mem_map.mp hrecorded
      obtain ⟨axis, -, haxis⟩ := List.mem_filterMap.mp hnamed
      obtain ⟨problem, hproblem, rfl⟩ := Option.map_eq_some_iff.mp haxis
      exact ofSchema_of_recorded hproblem
    · obtain ⟨axis, -, haxis⟩ := List.mem_filterMap.mp hwritten
      split_ifs at haxis
      exact ofSchema_of_written haxis

variable {architecture : String}

theorem judged (hrecord : NamesSome w.record) (hdeclares : install.package.Declares)
    (h : ∀ problem ∈ w.problems architecture install, problem.ofSchema = false) :
    stateSchemaProblems install.package.declaration (some w.judgedBy) w.running.written = [] := by
  have hincluded : ∀ problem ∈ stateSchemaProblems install.package.declaration (some w.judgedBy)
      w.running.written, problem ∈ w.problems architecture install := by
    intro problem hproblem
    have hretained : problem ∈ retainedProblems architecture install.package (some w.judgedBy)
        w.running.written := by
      rw [retainedProblems, if_neg (by rw [hdeclares]; simp)]
      exact List.mem_append.mpr (.inr hproblem)
    rw [World.problems, recordedForJudging_fst hrecord]
    cases install.route with
    | update => exact List.mem_append.mpr (.inr hproblem)
    | revert | rollback force => exact hretained
  refine List.eq_nil_iff_forall_not_mem.mpr fun problem hproblem => ?_
  have hcode := h problem (hincluded problem hproblem)
  rw [ofSchema_of_mem hproblem] at hcode
  cases hcode

def Install.Forced (install : Install) : Prop := install.route = .rollback true

theorem problems_of_accepts (hforced : ¬ install.Forced)
    (h : w.accepts architecture install = true) : w.problems architecture install = [] := by
  rw [World.accepts] at h
  cases hroute : install.route with
  | update =>
    rw [hroute, Bool.and_eq_true] at h
    exact List.isEmpty_iff.mp h.2
  | revert =>
    rw [hroute, Bool.and_eq_true] at h
    exact List.isEmpty_iff.mp h.2
  | rollback force =>
    cases force with
    | true => exact absurd hroute hforced
    | false =>
      rw [hroute] at h
      have hnone : (false || (w.problems architecture install).isEmpty) = true := h
      exact List.isEmpty_iff.mp hnone

theorem written_le_incoming (hrecord : NamesSome w.record)
    (haccepts : w.accepts architecture install = true) {incoming : Schemas}
    (hincoming : w.incoming architecture install = some incoming) {other : ℕ}
    (hwritten : w.running.written.lookup axis = some number)
    (hother : incoming.lookup axis = some other) : number ≤ other := by
  have hdeclared : incoming = install.package.declaration.implements ∧
      ∀ problem ∈ w.problems architecture install, problem.ofSchema = false := by
    have hnil : ¬ install.Forced → ∀ problem ∈ w.problems architecture install,
        problem.ofSchema = false := by
      intro hforced problem hproblem
      rw [problems_of_accepts hforced haccepts] at hproblem
      cases hproblem
    rw [World.incoming] at hincoming
    cases hroute : install.route with
    | update =>
      rw [hroute] at hincoming
      exact ⟨(Option.some.inj hincoming).symm, hnil (by rw [Install.Forced, hroute]; simp)⟩
    | revert =>
      rw [hroute] at hincoming
      exact ⟨(Option.some.inj hincoming).symm, hnil (by rw [Install.Forced, hroute]; simp)⟩
    | rollback force =>
      rw [hroute] at hincoming
      dsimp only at hincoming
      split_ifs at hincoming with hschema
      rw [Bool.not_eq_true, List.any_eq_false] at hschema
      exact ⟨(Option.some.inj hincoming).symm, fun problem hproblem =>
        (Bool.not_eq_true _).mp (hschema problem hproblem)⟩
  obtain ⟨rfl, hproblems⟩ := hdeclared
  have hdeclares : install.package.Declares := by
    rw [Package.Declares, List.isEmpty_eq_false_iff_exists_mem]
    exact ⟨axis, AList.lookup_isSome.mp (by rw [hother]; rfl)⟩
  have hjudged := (judged_of_problems (judged hrecord hdeclares hproblems)).2 axis number hwritten
  exact (reads_of_written hjudged other hother).2

end SolarFlowEms.Appliance.StateSchemas
