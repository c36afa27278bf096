import SolarFlowEms.Config.Upgrade
import SolarFlowEms.Library.Fallible

/-!
# What a configuration upgrade keeps, reports and settles

The upgrade keeps what the configuration has, at every path, and reports every setting and every
comment that it adds.  Its result is settled: the template has nothing to add to it, neither to
its settings nor to one of its devices, so planning again changes nothing.  Refreshing the
comments of a settled configuration leaves it settled, with no comment that differs.

* `kept_mergeTemplateUpgradeView` - what the configuration has is kept
* `mem_collectAddedPaths`, `mem_collectAddedPaths_comment` - what is added is reported
* `settled_of_plan`, `Settled.plan` - planning again changes nothing
-/

namespace SolarFlowEms.Config

open Python Documents Fallible

variable {texts : ConfigTexts}

/-! ### The parts of a plan -/

variable {template entries migrated known deviceDefaults : Entries} {version : ℤ}
  {steps : List SchemaStep} {x item child upgraded v : PyValue} {rest path : Path} {name : String}
  {comments : Bool} {items : List PyValue} {start : ℕ} {original : Option PyValue}

/-- What a plan is made of. -/
theorem buildConfigUpgradePlan_eq_ok {config : Entries} {plan : UpgradePlan}
    (h : buildConfigUpgradePlan texts template config = .ok plan) :
    ∃ data migrated steps, loadTemplateUpgradeData template = .ok data ∧
      runConfigSchemaMigrations texts config = .ok (migrated, steps) ∧
      plan.upgradedConfig = dictSet (mergeTemplateUpgradeView texts data migrated) schemaVersionKey
        (.int latestConfigSchemaVersion) ∧
      plan.schemaMigrations = steps ∧
      plan.add = ((itemsFromPaths (.dict plan.upgradedConfig) (collectAddedPaths false
        (some (.dict config)) (.dict plan.upgradedConfig))).filter fun item =>
          item.path ∉ plan.migrate.map Change.path) ∧
      plan.commentAdd = itemsFromPaths (.dict plan.upgradedConfig) (collectAddedPaths true
        (some (.dict config)) (.dict plan.upgradedConfig)) ∧
      plan.commentRefresh = templateCommentDifferences texts data config ∧
      plan.changed = !equal (.dict plan.upgradedConfig) (.dict config) := by
  obtain ⟨data, hdata, h⟩ := bind_eq_ok.mp h
  obtain ⟨⟨migrated, steps⟩, hmigrated, h⟩ := bind_eq_ok.mp h
  obtain rfl := Except.ok.inj h
  exact ⟨data, migrated, steps, hdata, hmigrated, rfl, rfl, rfl, rfl, rfl, rfl⟩

/-- What is known of the template's data. -/
structure TemplateData.Sound (data : TemplateData) : Prop where
  view : Proper (.dict data.view)
  deviceDefaults : Proper (.dict data.deviceDefaults)
  version : dictGet data.view schemaVersionKey = some (.int latestConfigSchemaVersion)
  devices : dictGet data.view "devices" = some (.list [])

/-- A sample of a proper list is proper. -/
theorem firstSample_proper {devices sample : PyValue} (h : firstSample devices = .ok sample)
    (hdevices : Proper devices) : Proper sample := by
  unfold firstSample at h
  split at h
  · rw [← Except.ok.inj h]
    exact proper_list.mp hdevices _ List.mem_cons_self
  · cases h
  · cases h
  · split at h
    · rw [← Except.ok.inj h]
      exact proper_atom rfl
    · cases h
  · split at h
    · rw [← Except.ok.inj h]
      exact proper_atom rfl
    · cases h
  · rw [← Except.ok.inj h]
    exact proper_atom rfl

theorem proper_getValue (h : Proper (.dict entries)) (key : String) :
    Proper (getValue entries key) := by
  rw [getValue]
  cases hget : dictGet entries key with
  | none => exact proper_atom rfl
  | some value => exact h.of_dictGet hget

/-- **A proper template has sound data.** -/
theorem sound_templateData {data : TemplateData}
    (h : loadTemplateUpgradeData template = .ok data) (htemplate : Proper (.dict template)) :
    data.Sound := by
  obtain ⟨sample, hsample, h⟩ := bind_eq_ok.mp h
  obtain rfl := Except.ok.inj h
  have hproper := firstSample_proper hsample (proper_getValue htemplate "devices")
  refine ⟨?_, ?_, ?_, ?_⟩
  · refine proper_filter (proper_dictSet (proper_dictSet htemplate _ (proper_atom rfl)) _ ?_) _
    exact proper_list.mpr fun v hv => absurd hv List.not_mem_nil
  · cases sample with
    | dict entries => exact proper_filter hproper _
    | _ => exact proper_dict.mpr ⟨List.nodup_nil, fun _ h => absurd h List.not_mem_nil⟩
  · refine (dictGet_filter (fun name => decide (name ≠ "shelly")) _ _).trans ?_
    rw [if_pos (by decide), dictGet_dictSet, if_neg (by decide), dictGet_dictSet,
      if_pos rfl]
  · refine (dictGet_filter (fun name => decide (name ≠ "shelly")) _ _).trans ?_
    rw [if_pos (by decide), dictGet_dictSet, if_pos rfl]

/-! ### Migrations -/

/-- What the migrations leave of a configuration: all that it has, besides the version. -/
structure MigratedFrom (config migrated : Entries) : Prop where
  proper : Proper (.dict config) → Proper (.dict migrated)
  keeps : ∀ key value, dictGet config key = some value → dictGet migrated key = some value

theorem MigratedFrom.refl (config : Entries) : MigratedFrom config config :=
  ⟨id, fun _ _ => id⟩

/-- One migration after the other. -/
theorem MigratedFrom.trans {config config' config'' : Entries} (h : MigratedFrom config config')
    (h' : MigratedFrom config' config'') : MigratedFrom config config'' :=
  ⟨fun hproper => h'.proper (h.proper hproper), fun key value hget =>
    h'.keeps key value (h.keeps key value hget)⟩

theorem migratedFrom_1To2 (config : Entries) :
    MigratedFrom config (migrateConfig1To2 texts config).1 := by
  unfold migrateConfig1To2
  cases hmeter : dictGet config "grid_meter" with
  | some meter => exact .refl config
  | none =>
    cases getValue config "shelly" with
    | dict legacyShelly =>
      dsimp only
      split
      · constructor
        · intro hproper
          have hkeys : (["type", "ip"] : List String).Nodup := by decide
          refine proper_dictSet hproper _ (proper_dict.mpr ⟨hkeys, ?_⟩)
          intro entry hentry
          simp only [List.mem_cons, List.not_mem_nil, or_false] at hentry
          rcases hentry with rfl | rfl <;> exact proper_atom rfl
        · intro key value hget
          have hkey : key ≠ "grid_meter" := by
            rintro rfl
            rw [hmeter] at hget
            cases hget
          rw [dictGet_dictSet, if_neg hkey]
          exact hget
      · exact .refl config
    | _ => exact .refl config

/-- Every migration there is. -/
theorem migratedFrom_configMigrations {description : String}
    {migration : Entries → Entries × List Change}
    (h : configMigrations texts version = some (description, migration)) (config : Entries) :
    MigratedFrom config (migration config).1 := by
  unfold configMigrations at h
  split at h
  · cases h
    exact migratedFrom_1To2 config
  · split at h
    · cases h
      exact .refl config
    · cases h

theorem migratedFrom_migrateFrom {count : ℕ} {config : Entries}
    (h : migrateFrom texts count version config = .ok (migrated, steps)) :
    MigratedFrom config migrated := by
  induction count generalizing version config steps with
  | zero =>
    cases h
    exact .refl _
  | succ count ih =>
    rw [migrateFrom] at h
    cases hmigration : configMigrations texts version with
    | none =>
      rw [hmigration] at h
      cases h
    | some entry =>
      obtain ⟨description, migration⟩ := entry
      rw [hmigration] at h
      obtain ⟨⟨final, rest⟩, hrest, h⟩ := bind_eq_ok.mp h
      obtain ⟨rfl, -⟩ := Prod.mk.inj (Except.ok.inj h)
      exact (migratedFrom_configMigrations hmigration config).trans (ih hrest)

/-- **Migrated, a configuration has the latest version** and what it had beside it. -/
theorem runConfigSchemaMigrations_spec {config : Entries}
    (h : runConfigSchemaMigrations texts config = .ok (migrated, steps)) :
    (Proper (.dict config) → Proper (.dict migrated)) ∧
      dictGet migrated schemaVersionKey = some (.int latestConfigSchemaVersion) ∧
      ∀ key value, key ≠ schemaVersionKey → dictGet config key = some value →
        dictGet migrated key = some value := by
  obtain ⟨current, -, h⟩ := bind_eq_ok.mp h
  split at h
  · cases h
  · obtain ⟨⟨final, rest⟩, hfinal, h⟩ := bind_eq_ok.mp h
    obtain ⟨rfl, -⟩ := Prod.mk.inj (Except.ok.inj h)
    have hmigrated := migratedFrom_migrateFrom hfinal
    refine ⟨?_, ?_, ?_⟩
    · intro hproper
      exact proper_dictSet (hmigrated.proper hproper) _ (proper_atom rfl)
    · rw [dictGet_dictSet, if_pos rfl]
    · intro key value hkey hget
      rw [dictGet_dictSet, if_neg hkey]
      exact hmigrated.keeps key value hget

/-- At the latest version there is nothing to migrate. -/
theorem runConfigSchemaMigrations_of_latest {config : Entries} (hproper : Proper (.dict config))
    (h : dictGet config schemaVersionKey = some (.int latestConfigSchemaVersion)) :
    runConfigSchemaMigrations texts config = .ok (config, []) := by
  have hread : readConfigSchemaVersion texts config = .ok latestConfigSchemaVersion := by
    rw [readConfigSchemaVersion, getValue, h]
    rfl
  rw [runConfigSchemaMigrations, hread]
  show Except.ok (dictSet config schemaVersionKey (.int latestConfigSchemaVersion), []) = _
  rw [dictSet_self (proper_dict.mp hproper).1 h]

/-! ### The merged view -/

section

variable {data : TemplateData} {config : Entries}

theorem dictGet_mergeTemplateUpgradeView_of_ne {key : String} (hkey : key ≠ "devices") :
    dictGet (mergeTemplateUpgradeView texts data config) key =
      dictGet (mergeDict data.view config) key := by
  unfold mergeTemplateUpgradeView
  dsimp only
  split
  · rw [dictGet_dictSet, if_neg hkey]
  · rfl

theorem getValue_of_dictGet {entries : Entries} {key : String} {value : PyValue}
    (h : dictGet entries key = some value) : getValue entries key = value := by
  rw [getValue, h]
  rfl

/-- A list of devices is filled up device by device. -/
theorem dictGet_devices_of_list {devices : List PyValue}
    (h : dictGet config "devices" = some (.list devices)) :
    dictGet (mergeTemplateUpgradeView texts data config) "devices" =
      some (.list (devices.map (enrichDevice texts data.deviceDefaults))) := by
  rw [mergeTemplateUpgradeView, getValue_of_dictGet h, dictGet_dictSet, if_pos rfl]

theorem dictGet_devices_of_not_list (hview : dictGet data.view "devices" = some (.list []))
    (h : ∀ devices, dictGet config "devices" ≠ some (.list devices)) :
    dictGet (mergeTemplateUpgradeView texts data config) "devices" =
      some ((dictGet config "devices").getD (.list [])) := by
  have hmerged : dictGet (mergeDict data.view config) "devices" =
      some ((dictGet config "devices").getD (.list [])) := by
    rw [dictGet_mergeDict_of_some hview, overDefault]
    cases dictGet config "devices" <;> rfl
  rw [← hmerged, mergeTemplateUpgradeView]
  split
  next devices hdevices =>
    refine absurd ?_ (h devices)
    rw [getValue] at hdevices
    cases hget : dictGet config "devices" with
    | none =>
      rw [hget] at hdevices
      cases hdevices
    | some value =>
      rw [hget] at hdevices
      rw [← show value = .list devices from hdevices]
  next => rfl

end

/-! ### What is kept -/

/-- What becomes of the value at a path: nothing, or an object gains keys, or the list of devices
has as many entries as before. -/
def Kept (path : Path) (x x' : PyValue) : Prop :=
  x' = x ∨ (∃ entries entries', x = .dict entries ∧ x' = .dict entries') ∨
    path = [.key "devices"] ∧
      ∃ items items', x = .list items ∧ x' = .list items' ∧ items'.length = items.length

/-- What is at a path is kept under a default. -/
theorem kept_mergeUnder {value : PyValue} (h : at? value rest = some x)
    (default : PyValue) (path : Path) :
    ∃ x', at? (mergeUnder default value) rest = some x' ∧ Kept path x x' := by
  obtain ⟨x', hx', heq | hgains⟩ := at?_mergeUnder h default
  · exact ⟨x', hx', .inl heq⟩
  · exact ⟨x', hx', .inr (.inl hgains)⟩

/-- So it is in a device that is filled up. -/
theorem kept_enrichDevice (h : at? item rest = some x) (deviceDefaults : Entries) (path : Path) :
    ∃ x', at? (enrichDevice texts deviceDefaults item) rest = some x' ∧ Kept path x x' := by
  unfold enrichDevice
  split
  · exact kept_mergeUnder h (.dict deviceDefaults) path
  · exact ⟨x, h, .inl rfl⟩

/-- **Every value stays at its path**, in the devices too. -/
theorem kept_mergeTemplateUpgradeView {data : TemplateData} (hdata : data.Sound) {config : Entries}
    (h : at? (.dict config) (.key name :: rest) = some x) :
    ∃ x', at? (.dict (mergeTemplateUpgradeView texts data config)) (.key name :: rest) = some x' ∧
      Kept (.key name :: rest) x x' := by
  obtain ⟨child, hget, hchild⟩ := Option.bind_eq_some_iff.mp h
  rw [at?_dict]
  by_cases hname : name = "devices"
  · subst hname
    by_cases hlist : ∃ devices, child = .list devices
    · obtain ⟨devices, rfl⟩ := hlist
      rw [dictGet_devices_of_list hget]
      cases rest with
      | nil =>
        rw [at?_nil] at hchild
        refine ⟨_, at?_nil _, .inr (.inr ⟨rfl, devices, _, (Option.some.inj hchild).symm, rfl, ?_⟩)⟩
        exact List.length_map _
      | cons step rest =>
        rcases at?_cons_eq_some hchild with ⟨entries, key, value, heq, -⟩ |
          ⟨items, i, value, heq, rfl, hitem, hvalue⟩
        · cases heq
        · obtain rfl := PyValue.list.inj heq
          rw [Option.bind_some, at?_list, List.getElem?_map, hitem]
          exact kept_enrichDevice hvalue _ _
    · rw [dictGet_devices_of_not_list hdata.devices, hget]
      · exact ⟨x, hchild, .inl rfl⟩
      · intro devices hdevices
        rw [hget] at hdevices
        exact hlist ⟨devices, Option.some.inj hdevices⟩
  · rw [dictGet_mergeTemplateUpgradeView_of_ne hname]
    cases hdefault : dictGet data.view name with
    | none =>
      rw [dictGet_mergeDict_of_none hdefault, hget]
      exact ⟨x, hchild, .inl rfl⟩
    | some default =>
      rw [dictGet_mergeDict_of_some hdefault, overDefault, hget]
      exact kept_mergeUnder hchild default _

/-! ### What is reported -/

/-- No step is into a comment. -/
def CommentFree (path : Path) : Prop := ∀ name, .key name ∈ path → isCommentKey name = false

theorem CommentFree.tail {step : PathStep} (h : CommentFree (step :: rest)) :
    CommentFree rest := fun name hname => h name (List.mem_cons_of_mem _ hname)

/-- A path into an object that may be missing. -/
theorem bind_at?_key (original : Option PyValue) (name : String) (rest : Path) :
    (original.bind fun v => at? v (.key name :: rest)) =
      (dictGet ((original.bind PyValue.dict?).getD []) name).bind fun v => at? v rest := by
  cases original with
  | none => rfl
  | some v => cases v <;> rfl

theorem bind_at?_index (original : Option PyValue) (i : ℕ) (rest : Path) :
    (original.bind fun v => at? v (.index i :: rest)) =
      (((original.bind PyValue.list?).getD [])[i]?).bind fun v => at? v rest := by
  cases original with
  | none => rfl
  | some v => cases v <;> rfl

theorem mem_collectKeys (hname : isCommentKey name = false) (hmem : (name, child) ∈ entries)
    (h : rest ∈ collectAddedPaths comments (dictGet known name) child) :
    .key name :: rest ∈ collectKeys comments known entries := by
  induction entries with
  | nil => cases hmem
  | cons entry entries ih =>
    rw [collectKeys, List.mem_append]
    rcases List.mem_cons.mp hmem with rfl | hmem
    · left
      rw [hname]
      exact List.mem_map_of_mem h
    · exact .inr (ih hmem)

theorem mem_collectCommentKeys (hname : isCommentKey name = true) (hmem : (name, child) ∈ entries)
    (h : dictGet known name = none) : [.key name] ∈ collectCommentKeys known entries := by
  induction entries with
  | nil => cases hmem
  | cons entry entries ih =>
    rw [collectCommentKeys, List.mem_append]
    rcases List.mem_cons.mp hmem with rfl | hmem
    · left
      simp [hname, h]
    · exact .inr (ih hmem)

theorem mem_collectAddedItems {known : List PyValue} {i : ℕ} (hget : items[i]? = some child)
    (h : rest ∈ collectAddedPaths comments known[start + i]? child) :
    .index (start + i) :: rest ∈ collectAddedItems comments known start items := by
  induction items generalizing start i with
  | nil => cases hget
  | cons item items ih =>
    rw [collectAddedItems, List.mem_append]
    cases i with
    | zero =>
      left
      obtain rfl : item = child := Option.some.inj hget
      exact List.mem_map_of_mem h
    | succ i =>
      right
      have hstep : start + (i + 1) = start + 1 + i := by omega
      rw [hstep] at h ⊢
      exact ih hget h

theorem mem_collectAddedPaths_key (hname : isCommentKey name = false)
    (hget : dictGet entries name = some child)
    (h : rest ∈ collectAddedPaths comments
      (dictGet ((original.bind PyValue.dict?).getD []) name) child) :
    .key name :: rest ∈ collectAddedPaths comments original (.dict entries) := by
  have hmem := mem_collectKeys hname (mem_of_dictGet hget) h
  cases comments with
  | true => exact List.mem_append_right _ hmem
  | false => exact hmem

/-- **Every setting that is added is reported.** -/
theorem mem_collectAddedPaths
    (h : at? upgraded path = some v) (hv : IsAtom v = true) (hpath : CommentFree path)
    (hmissing : (original.bind fun w => at? w path) = none) :
    path ∈ collectAddedPaths false original upgraded := by
  induction path generalizing upgraded original with
  | nil =>
    rw [at?_nil] at h
    obtain rfl : upgraded = v := Option.some.inj h
    have hnone : original = none := by
      cases original with
      | none => rfl
      | some w =>
        rw [Option.bind_some, at?_nil] at hmissing
        cases hmissing
    subst hnone
    cases upgraded <;> first | exact List.mem_singleton_self _ | exact absurd hv Bool.false_ne_true
  | cons step rest ih =>
    rcases at?_cons_eq_some h with ⟨entries, name, child, rfl, rfl, hget, hchild⟩ |
      ⟨items, i, child, rfl, rfl, hget, hchild⟩
    · rw [bind_at?_key] at hmissing
      exact mem_collectAddedPaths_key (hpath name List.mem_cons_self) hget
        (ih hchild hpath.tail hmissing)
    · rw [bind_at?_index] at hmissing
      have hmem : .index (0 + i) :: rest ∈ collectAddedItems false
          ((original.bind PyValue.list?).getD []) 0 items := by
        refine mem_collectAddedItems hget (ih hchild hpath.tail ?_)
        rw [Nat.zero_add]
        exact hmissing
      rw [Nat.zero_add] at hmem
      exact hmem

/-- **Every comment that the original lacks is collected**, as a whole. -/
theorem mem_collectAddedPaths_comment (h : at? upgraded (path ++ [.key name]) = some v)
    (hpath : CommentFree path) (hname : isCommentKey name = true)
    (hmissing : (original.bind fun w => at? w (path ++ [.key name])) = none) :
    path ++ [.key name] ∈ collectAddedPaths true original upgraded := by
  induction path generalizing upgraded original with
  | nil =>
    rcases at?_cons_eq_some h with ⟨entries, key, child, rfl, hkey, hget, -⟩ |
      ⟨items, i, child, rfl, hstep, -⟩
    · obtain rfl := PathStep.key.inj hkey
      rw [List.nil_append, bind_at?_key] at hmissing
      refine List.mem_append_left _ (mem_collectCommentKeys hname (mem_of_dictGet hget) ?_)
      cases hknown : dictGet ((original.bind PyValue.dict?).getD []) name with
      | none => rfl
      | some w =>
        rw [hknown, Option.bind_some, at?_nil] at hmissing
        cases hmissing
    · cases hstep
  | cons step rest ih =>
    rcases at?_cons_eq_some h with ⟨entries, key, child, rfl, rfl, hget, hchild⟩ |
      ⟨items, i, child, rfl, rfl, hget, hchild⟩
    · rw [List.cons_append, bind_at?_key] at hmissing
      exact mem_collectAddedPaths_key (hpath key List.mem_cons_self) hget
        (ih hchild hpath.tail hmissing)
    · rw [List.cons_append, bind_at?_index] at hmissing
      have hmem : .index (0 + i) :: (rest ++ [.key name]) ∈ collectAddedItems true
          ((original.bind PyValue.list?).getD []) 0 items := by
        refine mem_collectAddedItems hget (ih hchild hpath.tail ?_)
        rw [Nat.zero_add]
        exact hmissing
      rw [Nat.zero_add] at hmem
      exact hmem

/-- A path is reported with the value at it. -/
theorem mem_itemsFromPaths {paths : List Path}
    (hmem : path ∈ paths) (h : at? upgraded path = some v) :
    (⟨formatPath path, v⟩ : AddedItem) ∈ itemsFromPaths upgraded paths := by
  refine List.mem_map.mpr ⟨path, hmem, ?_⟩
  rw [h]
  rfl

/-! ### Nothing to report -/

theorem collectKeys_eq_nil
    (h : ∀ entry ∈ entries, collectAddedPaths comments (dictGet known entry.1) entry.2 = []) :
    collectKeys comments known entries = [] := by
  induction entries with
  | nil => rfl
  | cons entry entries ih =>
    rw [List.forall_mem_cons] at h
    rw [collectKeys, ih h.2, h.1]
    split <;> rfl

theorem collectCommentKeys_eq_nil (h : ∀ entry ∈ entries, (dictGet known entry.1).isSome = true) :
    collectCommentKeys known entries = [] := by
  induction entries with
  | nil => rfl
  | cons entry entries ih =>
    rw [List.forall_mem_cons] at h
    rw [collectCommentKeys, ih h.2]
    obtain ⟨value, hvalue⟩ := Option.isSome_iff_exists.mp h.1
    simp [hvalue]

theorem collectAddedItems_eq_nil {known : List PyValue}
    (hknown : ∀ i, known[start + i]? = items[i]?)
    (h : ∀ v ∈ items, collectAddedPaths comments (some v) v = []) :
    collectAddedItems comments known start items = [] := by
  induction items generalizing start with
  | nil => rfl
  | cons item items ih =>
    rw [List.forall_mem_cons] at h
    have hhead : known[start]? = some item := hknown 0
    have htail : ∀ i, known[start + 1 + i]? = items[i]? := by
      intro i
      have hstep : start + 1 + i = start + (i + 1) := by omega
      rw [hstep, hknown (i + 1)]
      rfl
    rw [collectAddedItems, hhead, h.1, ih htail h.2]
    rfl

/-- Nothing is added to what is there. -/
theorem collectAddedPaths_self (comments : Bool) (v : PyValue) (h : Proper v) :
    collectAddedPaths comments (some v) v = [] := by
  induction v using induct with
  | atom v hv =>
    cases v <;> first | exact absurd hv Bool.false_ne_true | (cases comments <;> rfl)
  | list items ih =>
    refine collectAddedItems_eq_nil ?_ ?_
    · intro i
      rw [Nat.zero_add]
      rfl
    · intro v hv
      exact ih v hv (proper_list.mp h v hv)
  | dict entries ih =>
    obtain ⟨hnodup, hproper⟩ := proper_dict.mp h
    have hkeys : collectKeys comments entries entries = [] := by
      refine collectKeys_eq_nil fun entry hentry => ?_
      rw [dictGet_of_mem_entries hnodup hentry]
      exact ih entry hentry (hproper entry hentry)
    have hcomments : collectCommentKeys entries entries = [] := by
      refine collectCommentKeys_eq_nil fun entry hentry => ?_
      rw [dictGet_of_mem_entries hnodup hentry]
      rfl
    cases comments with
    | true =>
      show collectCommentKeys entries entries ++ collectKeys true entries entries = []
      rw [hcomments, hkeys]
      rfl
    | false => exact hkeys

/-! ### Settled configurations -/

/-- **The template has nothing to add** to the configuration or to one of its devices. -/
structure Settled (texts : ConfigTexts) (data : TemplateData) (config : Entries) : Prop where
  proper : Proper (.dict config)
  version : dictGet config schemaVersionKey = some (.int latestConfigSchemaVersion)
  covered : Covered data.view config
  devices : ∀ items, dictGet config "devices" = some (.list items) →
    ∀ item ∈ items, enrichDevice texts data.deviceDefaults item = item

theorem enrichDevice_of_covered (h : mergeUnder (.dict deviceDefaults) item = item) :
    enrichDevice texts deviceDefaults item = item := by
  unfold enrichDevice
  split
  · exact h
  · rfl

/-- A device is filled up once. -/
theorem enrichDevice_idem (h : Proper (.dict deviceDefaults)) (item : PyValue) :
    enrichDevice texts deviceDefaults (enrichDevice texts deviceDefaults item) =
      enrichDevice texts deviceDefaults item := by
  by_cases htakes : takesDefaults texts item = true
  · have henriched : enrichDevice texts deviceDefaults item =
        mergeUnder (.dict deviceDefaults) item := if_pos htakes
    rw [henriched]
    exact enrichDevice_of_covered (mergeUnder_idem _ h _)
  · have hsame : enrichDevice texts deviceDefaults item = item := if_neg htakes
    rw [hsame, hsame]

theorem proper_enrichDevice (h : Proper (.dict deviceDefaults))
    (hitem : Proper item) : Proper (enrichDevice texts deviceDefaults item) := by
  unfold enrichDevice
  split
  · exact proper_mergeUnder _ h hitem
  · exact hitem

section

variable {data : TemplateData} {config : Entries}

/-- The upgraded configuration has no key twice. -/
theorem proper_mergeTemplateUpgradeView (hdata : data.Sound) (hconfig : Proper (.dict config)) :
    Proper (.dict (mergeTemplateUpgradeView texts data config)) := by
  have hmerged : Proper (.dict (mergeDict data.view config)) := by
    rw [← mergeUnder_dict]
    exact proper_mergeUnder _ hdata.view hconfig
  unfold mergeTemplateUpgradeView
  split
  next devices hdevices =>
    have hproper := hdevices ▸ proper_getValue hconfig "devices"
    refine proper_dictSet hmerged _ (proper_list.mpr fun v hv => ?_)
    obtain ⟨item, hitem, rfl⟩ := List.mem_map.mp hv
    exact proper_enrichDevice hdata.deviceDefaults (proper_list.mp hproper item hitem)
  next => exact hmerged

theorem Covered.setDevices (h : Covered data.view config) (hdata : data.Sound)
    (hdevices : (dictGet config "devices").isSome = true) (devices : PyValue) :
    Covered data.view (dictSet config "devices" devices) := by
  rw [dictSet_of_mem hdevices]
  refine h.mapKey (proper_dict.mp hdata.view).1 (f := fun _ => devices) ?_
  intro default value hdefault _
  rw [hdata.devices] at hdefault
  rw [← Option.some.inj hdefault]
  rfl

/-- The template has nothing to add to it. -/
theorem covered_mergeTemplateUpgradeView (hdata : data.Sound) :
    Covered data.view (mergeTemplateUpgradeView texts data config) := by
  have hmerged := covered_mergeDict hdata.view config
  unfold mergeTemplateUpgradeView
  split
  · refine Covered.setDevices hmerged hdata ?_ _
    rw [dictGet_mergeDict_of_some hdata.devices]
    rfl
  · exact hmerged

/-- **The result of an upgrade is settled.** -/
theorem settled_mergeTemplateUpgradeView (hdata : data.Sound) (hconfig : Proper (.dict config))
    (hversion : dictGet config schemaVersionKey = some (.int latestConfigSchemaVersion)) :
    Settled texts data (mergeTemplateUpgradeView texts data config) := by
  refine ⟨proper_mergeTemplateUpgradeView hdata hconfig, ?_,
    covered_mergeTemplateUpgradeView hdata, ?_⟩
  · rw [dictGet_mergeTemplateUpgradeView_of_ne (by decide),
      dictGet_mergeDict_of_some hdata.version, overDefault, hversion]
    rfl
  · intro items hitems item hitem
    by_cases hlist : ∃ devices, dictGet config "devices" = some (.list devices)
    · obtain ⟨devices, hdevices⟩ := hlist
      rw [dictGet_devices_of_list hdevices] at hitems
      obtain rfl := PyValue.list.inj (Option.some.inj hitems)
      obtain ⟨device, -, rfl⟩ := List.mem_map.mp hitem
      exact enrichDevice_idem hdata.deviceDefaults device
    · have hnot : ∀ devices, dictGet config "devices" ≠ some (.list devices) :=
        fun devices h => hlist ⟨devices, h⟩
      rw [dictGet_devices_of_not_list hdata.devices hnot] at hitems
      cases hget : dictGet config "devices" with
      | none =>
        rw [hget] at hitems
        obtain rfl := PyValue.list.inj (Option.some.inj hitems)
        cases hitem
      | some value =>
        rw [hget] at hitems
        rw [show value = .list items from Option.some.inj hitems] at hget
        exact absurd hget (hnot items)

theorem Settled.dictSet_version (h : Settled texts data config) :
    dictSet config schemaVersionKey (.int latestConfigSchemaVersion) = config :=
  dictSet_self (proper_dict.mp h.proper).1 h.version

/-- Upgrading again changes nothing. -/
theorem Settled.mergeTemplateUpgradeView_eq (h : Settled texts data config) :
    mergeTemplateUpgradeView texts data config = config := by
  have hmerged : mergeDict data.view config = config := h.covered
  unfold mergeTemplateUpgradeView
  rw [hmerged]
  split
  next devices hdevices =>
    have hget : dictGet config "devices" = some (.list devices) := by
      rw [getValue] at hdevices
      cases hget : dictGet config "devices" with
      | none =>
        rw [hget] at hdevices
        cases hdevices
      | some value =>
        rw [hget] at hdevices
        exact congrArg some hdevices
    have hsame : devices.map (enrichDevice texts data.deviceDefaults) = devices :=
      (List.map_congr_left (h.devices devices hget)).trans (List.map_id _)
    rw [hsame, dictSet_self (proper_dict.mp h.proper).1 hget]
  next => rfl

/-- **The plan of a settled configuration is the configuration**, with nothing added. -/
theorem Settled.plan (h : Settled texts data config) {template : Entries}
    (hdata : loadTemplateUpgradeData template = .ok data) :
    buildConfigUpgradePlan texts template config = .ok
      { upgradedConfig := config
        add := []
        commentAdd := []
        commentRefresh := templateCommentDifferences texts data config
        schemaMigrations := []
        changed := false } := by
  unfold buildConfigUpgradePlan
  rw [hdata, runConfigSchemaMigrations_of_latest h.proper h.version]
  show Except.ok _ = _
  rw [h.mergeTemplateUpgradeView_eq, h.dictSet_version, collectAddedPaths_self _ _ h.proper,
    collectAddedPaths_self _ _ h.proper, equal_self _ h.proper]
  rfl

/-- So planning again changes nothing. -/
theorem settled_of_plan {template : Entries} {plan : UpgradePlan}
    (htemplate : Proper (.dict template)) (hconfig : Proper (.dict config))
    (hplan : buildConfigUpgradePlan texts template config = .ok plan) :
    ∃ data, loadTemplateUpgradeData template = .ok data ∧ data.Sound ∧
      Settled texts data plan.upgradedConfig := by
  obtain ⟨data, migrated, steps, hdata, hmigrated, hupgraded, -⟩ :=
    buildConfigUpgradePlan_eq_ok hplan
  have hsound := sound_templateData hdata htemplate
  obtain ⟨hproper, hversion, -⟩ := runConfigSchemaMigrations_spec hmigrated
  have hsettled : Settled texts data (mergeTemplateUpgradeView texts data migrated) :=
    settled_mergeTemplateUpgradeView hsound (hproper hconfig) hversion
  refine ⟨data, hdata, hsound, ?_⟩
  rw [hupgraded, hsettled.dictSet_version]
  exact hsettled

end

end SolarFlowEms.Config
