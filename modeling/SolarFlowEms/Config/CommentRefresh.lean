import SolarFlowEms.Config.UpgradeKeeps

/-!
# Refreshing the comments of a configuration, and the upgrade as a whole

The comments of the template, and those of its sample device at every device that takes it, are
at paths apart from each other, so each of them can be put in place without touching another.  A
comment in place of the user's is what the template has there, so a settled configuration stays
settled, and afterwards no comment differs, but a NaN, which differs from itself.

* `Settled.refresh` - the comments refreshed.
* `config_upgrade_keeps_and_settles` - the upgrade as a whole.
-/

namespace SolarFlowEms.Config

open Python Documents

variable {texts : ConfigTexts}

/-! ### Where the comments are -/

/-- A comment that the value has at its path. -/
structure CommentOf (v : PyValue) (item : Path × PyValue) : Prop where
  found : at? v item.1 = some item.2
  comment : ∃ path name, item.1 = path ++ [.key name] ∧ isCommentKey name = true

variable {entries template config : Entries} {name : String} {v : PyValue} {item : Path × PyValue}
  {path : Path} {plan : UpgradePlan}

theorem CommentOf.of_key (hget : dictGet entries name = some v) (h : CommentOf v item) :
    CommentOf (.dict entries) (.key name :: item.1, item.2) := by
  obtain ⟨path, key, hpath, hkey⟩ := h.comment
  constructor
  · rw [at?_dict, hget]
    exact h.found
  · exact ⟨.key name :: path, key, congrArg (List.cons _) hpath, hkey⟩

theorem mem_commentItemsOfKeys (h : item ∈ commentItemsOfKeys entries) :
    ∃ entry ∈ entries, isCommentKey entry.1 = true ∧ item = ([.key entry.1], entry.2) ∨
      ∃ below ∈ collectCommentItems entry.2, item = (.key entry.1 :: below.1, below.2) := by
  induction entries with
  | nil => cases h
  | cons entry entries ih =>
    rw [commentItemsOfKeys, List.mem_append] at h
    rcases h with hhead | htail
    · refine ⟨entry, List.mem_cons_self, ?_⟩
      split at hhead
      next hcomment => exact .inl ⟨hcomment, List.mem_singleton.mp hhead⟩
      next =>
        obtain ⟨below, hbelow, heq⟩ := List.mem_map.mp hhead
        exact .inr ⟨below, hbelow, heq.symm⟩
    · obtain ⟨entry', hentry', hcases⟩ := ih htail
      exact ⟨entry', List.mem_cons_of_mem _ hentry', hcases⟩

theorem mem_commentItemsOfItems {items : List PyValue} {start : ℕ}
    (h : item ∈ commentItemsOfItems start items) :
    ∃ i v, items[i]? = some v ∧
      ∃ below ∈ collectCommentItems v, item = (.index (start + i) :: below.1, below.2) := by
  induction items generalizing start with
  | nil => cases h
  | cons v items ih =>
    rw [commentItemsOfItems, List.mem_append] at h
    rcases h with hhead | htail
    · obtain ⟨below, hbelow, heq⟩ := List.mem_map.mp hhead
      exact ⟨0, v, rfl, below, hbelow, heq.symm⟩
    · obtain ⟨i, v', hget, below, hbelow, heq⟩ := ih htail
      refine ⟨i + 1, v', hget, below, hbelow, ?_⟩
      rw [heq, Nat.add_right_comm, Nat.add_assoc]

/-- **The comments of a value are found at their paths**, which end in comment keys. -/
theorem commentOf_of_mem (v : PyValue) (h : Proper v) (item : Path × PyValue)
    (hitem : item ∈ collectCommentItems v) : CommentOf v item := by
  induction v using induct generalizing item with
  | atom v hv => cases v <;> first | cases hitem | exact absurd hv Bool.false_ne_true
  | list items ih =>
    obtain ⟨i, v, hget, below, hbelow, rfl⟩ := mem_commentItemsOfItems hitem
    have hv := List.mem_of_getElem? hget
    have hbelow := ih v hv (proper_list.mp h v hv) below hbelow
    obtain ⟨path, name, hpath, hname⟩ := hbelow.comment
    constructor
    · rw [Nat.zero_add, at?_list, hget]
      exact hbelow.found
    · exact ⟨.index (0 + i) :: path, name, congrArg (List.cons _) hpath, hname⟩
  | dict entries ih =>
    obtain ⟨hnodup, hproper⟩ := proper_dict.mp h
    obtain ⟨entry, hentry, ⟨hcomment, rfl⟩ | ⟨below, hbelow, rfl⟩⟩ := mem_commentItemsOfKeys hitem
    · constructor
      · rw [at?_dict, dictGet_of_mem_entries hnodup hentry]
        exact at?_nil _
      · exact ⟨[], entry.1, rfl, hcomment⟩
    · exact (ih entry hentry (hproper entry hentry) below hbelow).of_key
        (dictGet_of_mem_entries hnodup hentry)

/-! ### Apart from each other -/

def ItemsApart (item item' : Path × PyValue) : Prop := Apart item.1 item'.1

theorem apart_symm {path' : Path} (h : Apart path path') : Apart path' path := by
  induction path generalizing path' with
  | nil => cases path' <;> cases h
  | cons step rest ih =>
    cases path' with
    | nil => cases h
    | cons step' rest' =>
      rw [Apart] at h ⊢
      rcases h with hne | hrest
      · exact .inl hne.symm
      · exact .inr (ih hrest)

theorem pairwise_below {items : List (Path × PyValue)} (h : items.Pairwise ItemsApart)
    (pre : Path) : (items.map fun item => (pre ++ item.1, item.2)).Pairwise ItemsApart := by
  refine List.pairwise_map.mpr (h.imp fun {item item'} happart => ?_)
  show Apart (pre ++ item.1) (pre ++ item'.1)
  induction pre with
  | nil => exact happart
  | cons step pre ih => exact .inr ih

/-- **The comments of a value are apart from each other.** -/
theorem pairwise_collectCommentItems (v : PyValue) (h : Proper v) :
    (collectCommentItems v).Pairwise ItemsApart := by
  induction v using induct with
  | atom v hv => cases v <;> first | exact List.Pairwise.nil | exact absurd hv Bool.false_ne_true
  | list items ih =>
    rw [proper_list] at h
    show (commentItemsOfItems 0 items).Pairwise ItemsApart
    generalize 0 = start
    induction items generalizing start with
    | nil => exact List.Pairwise.nil
    | cons v items ihtail =>
      rw [List.forall_mem_cons] at ih h
      rw [commentItemsOfItems]
      refine List.pairwise_append.mpr ⟨pairwise_below (ih.1 h.1) [.index start],
        ihtail ih.2 h.2 (start + 1), ?_⟩
      intro item hitem item' hitem'
      obtain ⟨below, -, rfl⟩ := List.mem_map.mp hitem
      obtain ⟨i, v', -, below', -, rfl⟩ := mem_commentItemsOfItems hitem'
      refine .inl fun heq => ?_
      have := PathStep.index.inj heq
      omega
  | dict entries ih =>
    rw [proper_dict] at h
    obtain ⟨hnodup, hproper⟩ := h
    show (commentItemsOfKeys entries).Pairwise ItemsApart
    induction entries with
    | nil => exact List.Pairwise.nil
    | cons entry entries ihtail =>
      rw [List.forall_mem_cons] at ih hproper
      rw [List.map_cons, List.nodup_cons] at hnodup
      rw [commentItemsOfKeys]
      have hhead (item : Path × PyValue) (hitem : item ∈ (if isCommentKey entry.1 then
          [([PathStep.key entry.1], entry.2)]
        else (collectCommentItems entry.2).map fun item => (.key entry.1 :: item.1, item.2))) :
          ∃ rest, item.1 = .key entry.1 :: rest := by
        split at hitem
        · rw [List.mem_singleton.mp hitem]
          exact ⟨[], rfl⟩
        · obtain ⟨below, -, rfl⟩ := List.mem_map.mp hitem
          exact ⟨below.1, rfl⟩
      refine List.pairwise_append.mpr ⟨?_, ihtail ih.2 hnodup.2 hproper.2, ?_⟩
      · split
        · exact List.pairwise_singleton _ _
        · exact pairwise_below (ih.1 hproper.1) [.key entry.1]
      · intro item hitem item' hitem'
        obtain ⟨rest, hrest⟩ := hhead item hitem
        obtain ⟨entry', hentry', hcases⟩ := mem_commentItemsOfKeys hitem'
        have hrest' : ∃ rest', item'.1 = .key entry'.1 :: rest' := by
          rcases hcases with ⟨-, rfl⟩ | ⟨below, -, rfl⟩
          · exact ⟨[], rfl⟩
          · exact ⟨below.1, rfl⟩
        obtain ⟨rest', hrest'⟩ := hrest'
        show Apart item.1 item'.1
        rw [hrest, hrest']
        refine .inl fun heq => hnodup.1 ?_
        rw [PathStep.key.inj heq]
        exact List.mem_map.mpr ⟨entry', hentry', rfl⟩

/-! ### Comments at the devices -/

section

variable {data : TemplateData}

variable {devices : List PyValue} {start i : ℕ} {item below : Path × PyValue}
  {device config : PyValue} {old new : Entries}

theorem mem_commentItemsOfDevices (h : item ∈ commentItemsOfDevices texts data start devices) :
    ∃ i device, devices[i]? = some device ∧ takesDefaults texts device = true ∧
      ∃ below ∈ collectCommentItems (.dict data.deviceDefaults),
        item = (.key "devices" :: .index (start + i) :: below.1, below.2) := by
  induction devices generalizing start with
  | nil => cases h
  | cons device devices ih =>
    rw [commentItemsOfDevices, List.mem_append] at h
    rcases h with hhead | htail
    · split at hhead
      next htakes =>
        obtain ⟨below, hbelow, heq⟩ := List.mem_map.mp hhead
        exact ⟨0, device, rfl, htakes, below, hbelow, heq.symm⟩
      next => cases hhead
    · obtain ⟨i, device', hget, htakes, below, hbelow, heq⟩ := ih htail
      refine ⟨i + 1, device', hget, htakes, below, hbelow, ?_⟩
      rw [heq, Nat.add_right_comm, Nat.add_assoc]

theorem commentItemsOfDevices_of_get (hget : devices[i]? = some device)
    (htakes : takesDefaults texts device = true)
    (hbelow : below ∈ collectCommentItems (.dict data.deviceDefaults)) :
    (.key "devices" :: .index (start + i) :: below.1, below.2) ∈
      commentItemsOfDevices texts data start devices := by
  induction devices generalizing start i with
  | nil => cases hget
  | cons head devices ih =>
    rw [commentItemsOfDevices, List.mem_append]
    cases i with
    | zero =>
      obtain rfl : head = device := Option.some.inj hget
      left
      rw [if_pos htakes]
      exact List.mem_map.mpr ⟨below, hbelow, rfl⟩
    | succ i =>
      right
      rw [show start + (i + 1) = start + 1 + i by omega]
      exact ih hget

theorem pairwise_commentItemsOfDevices (hdata : data.Sound) (devices : List PyValue) (start : ℕ) :
    (commentItemsOfDevices texts data start devices).Pairwise ItemsApart := by
  induction devices generalizing start with
  | nil => exact List.Pairwise.nil
  | cons device devices ih =>
    rw [commentItemsOfDevices]
    refine List.pairwise_append.mpr ⟨?_, ih (start + 1), ?_⟩
    · split
      · exact pairwise_below (pairwise_collectCommentItems _ hdata.deviceDefaults)
          [.key "devices", .index start]
      · exact List.Pairwise.nil
    · intro item hitem item' hitem'
      split at hitem
      next =>
        obtain ⟨below, -, rfl⟩ := List.mem_map.mp hitem
        obtain ⟨i, device', -, -, below', -, rfl⟩ := mem_commentItemsOfDevices hitem'
        refine .inr (.inl fun heq => ?_)
        have := PathStep.index.inj heq
        omega
      next => cases hitem

theorem key_of_view_comment {name : String} {v : PyValue} (hget : dictGet data.view name = some v)
    (hname : isCommentKey name = false) (hv : ∀ step rest, at? v (step :: rest) = none)
    (h : CommentOf (.dict data.view) item) :
    ∀ rest, item.1 ≠ .key name :: rest := by
  intro rest hpath
  have hfound := h.found
  rw [hpath, at?_dict, hget, Option.bind_some] at hfound
  obtain ⟨path, key, hitem, hkey⟩ := h.comment
  cases rest with
  | nil =>
    rw [hpath] at hitem
    have hlast : [PathStep.key name].getLast? = (path ++ [PathStep.key key]).getLast? :=
      congrArg List.getLast? hitem
    rw [List.getLast?_append] at hlast
    rw [← PathStep.key.inj (Option.some.inj hlast), hname] at hkey
    cases hkey
  | cons step rest =>
    rw [hv] at hfound
    cases hfound

theorem at?_emptyList (step : PathStep) (rest : Path) : at? (.list []) (step :: rest) = none := by
  cases step <;> rfl

theorem at?_int (z : ℤ) (step : PathStep) (rest : Path) : at? (.int z) (step :: rest) = none := by
  cases step <;> rfl

theorem pairwise_templateCommentItems (hdata : data.Sound) (config : Entries) :
    (templateCommentItemsForConfig texts data config).Pairwise ItemsApart := by
  refine List.pairwise_append.mpr ⟨pairwise_collectCommentItems _ hdata.view, ?_, ?_⟩
  · split
    · exact pairwise_commentItemsOfDevices hdata _ 0
    · exact List.Pairwise.nil
  · intro item hitem item' hitem'
    have hcomment := commentOf_of_mem _ hdata.view item hitem
    have hdevices : ∃ rest, item'.1 = .key "devices" :: rest := by
      split at hitem'
      · obtain ⟨i, device, -, -, below, -, rfl⟩ := mem_commentItemsOfDevices hitem'
        exact ⟨_, rfl⟩
      · cases hitem'
    obtain ⟨rest', hrest'⟩ := hdevices
    obtain ⟨path, name, hpath, -⟩ := hcomment.comment
    show Apart item.1 item'.1
    rw [hrest']
    cases hhead : item.1 with
    | nil =>
      rw [hhead] at hpath
      exact absurd (congrArg List.length hpath) (by simp)
    | cons step rest =>
      refine .inl fun heq => ?_
      exact key_of_view_comment hdata.devices (by decide) at?_emptyList hcomment rest (heq ▸ hhead)

/-! ### What the refresh has changed so far -/

/-- What became of one device: one that takes the defaults is still an object that they cover, and
any other is as it was. -/
structure RefreshedDevice (texts : ConfigTexts) (data : TemplateData) (old new : PyValue) :
    Prop where
  taking : takesDefaults texts old = true →
    (∃ entries, new = .dict entries) ∧ mergeUnder (.dict data.deviceDefaults) new = new
  other : takesDefaults texts old = false → new = old

/-- **What became of a configuration**: the template still has nothing to add, and the devices
correspond. -/
structure RefreshedFrom (texts : ConfigTexts) (data : TemplateData) (old new : Entries) : Prop where
  proper : Proper (.dict new)
  version : dictGet new schemaVersionKey = some (.int latestConfigSchemaVersion)
  covered : Covered data.view new
  devices : (∃ items items', dictGet old "devices" = some (.list items) ∧
      dictGet new "devices" = some (.list items') ∧
        List.Forall₂ (RefreshedDevice texts data) items items') ∨
    dictGet new "devices" = dictGet old "devices" ∧
      ∀ items, dictGet old "devices" ≠ some (.list items)

theorem RefreshedFrom.refl {config : Entries} (h : Settled texts data config) :
    RefreshedFrom texts data config config := by
  refine ⟨h.proper, h.version, h.covered, ?_⟩
  by_cases hlist : ∃ items, dictGet config "devices" = some (.list items)
  · obtain ⟨items, hitems⟩ := hlist
    refine .inl ⟨items, items, hitems, hitems, List.forall₂_same.mpr fun item hitem => ⟨?_, ?_⟩⟩
    · intro htakes
      have hsame := h.devices items hitems item hitem
      rw [enrichDevice, if_pos htakes] at hsame
      refine ⟨?_, hsame⟩
      rw [takesDefaults, Bool.and_eq_true_iff] at htakes
      obtain ⟨entries, hentries⟩ := Option.isSome_iff_exists.mp htakes.1
      exact ⟨entries, PyValue.dict?_eq_some hentries⟩
    · intro _
      rfl
  · exact .inr ⟨rfl, fun items hitems => hlist ⟨items, hitems⟩⟩

theorem RefreshedFrom.settled (h : RefreshedFrom texts data old new)
    (hold : Settled texts data old) : Settled texts data new := by
  refine ⟨h.proper, h.version, h.covered, ?_⟩
  intro items hitems item hitem
  rcases h.devices with ⟨olds, news, holds, hnews, hforall⟩ | ⟨hsame, hnot⟩
  · rw [hnews] at hitems
    obtain rfl := PyValue.list.inj (Option.some.inj hitems)
    obtain ⟨i, hi⟩ := List.mem_iff_getElem?.mp hitem
    obtain ⟨hlength, hforall⟩ := List.forall₂_iff_get.mp hforall
    obtain ⟨hlt, hget⟩ := List.getElem?_eq_some_iff.mp hi
    have hdevice := hforall i (hlength ▸ hlt) hlt
    rw [List.get_eq_getElem, List.get_eq_getElem, hget] at hdevice
    cases htakes : takesDefaults texts olds[i] with
    | true => exact enrichDevice_of_covered (hdevice.taking htakes).2
    | false =>
      rw [hdevice.other htakes]
      exact hold.devices olds holds _ (List.getElem_mem _)
  · rw [hsame] at hitems
    exact absurd hitems (hnot items)

theorem RefreshedFrom.mem_items (h : RefreshedFrom texts data old new)
    (hitem : item ∈ templateCommentItemsForConfig texts data new) :
    item ∈ templateCommentItemsForConfig texts data old := by
  rw [templateCommentItemsForConfig, List.mem_append] at hitem ⊢
  refine hitem.imp id fun hdevices => ?_
  rcases h.devices with ⟨olds, news, holds, hnews, hforall⟩ | ⟨hsame, -⟩
  · rw [getValue_of_dictGet hnews] at hdevices
    rw [getValue_of_dictGet holds]
    obtain ⟨i, device, hget, htakes, below, hbelow, rfl⟩ := mem_commentItemsOfDevices hdevices
    obtain ⟨hlength, hforall⟩ := List.forall₂_iff_get.mp hforall
    obtain ⟨hlt, hnew⟩ := List.getElem?_eq_some_iff.mp hget
    have hdevice := hforall i (hlength ▸ hlt) hlt
    rw [List.get_eq_getElem, List.get_eq_getElem, hnew] at hdevice
    refine commentItemsOfDevices_of_get (List.getElem?_eq_getElem (hlength ▸ hlt)) ?_ hbelow
    cases hold : takesDefaults texts olds[i] with
    | true => rfl
    | false =>
      rw [hdevice.other hold, hold] at htakes
      cases htakes
  · rw [getValue, hsame] at hdevices
    exact hdevices

/-! ### One comment refreshed -/

theorem isSome_commentDifference :
    (commentDifference config item).isSome = true ↔
      ∃ current, at? config item.1 = some current ∧ differs current item.2 = true := by
  rw [commentDifference]
  cases at? config item.1 with
  | none => simp
  | some current => cases h : differs current item.2 <;> simp [h]

theorem differs_self {value : PyValue} (hproper : Proper value) (hnan : value ≠ .float .nan) :
    differs value value = false := by
  rw [differs.eq_def]
  split
  · exact absurd rfl hnan
  · rw [equal_self _ hproper]
    rfl

theorem refreshComment_of_none
    (h : commentDifference config item = none) : refreshComment config item = config := by
  rw [refreshComment, h]

theorem refreshComment_of_some (h : (commentDifference config item).isSome = true) :
    refreshComment config item = setAt config item.1 item.2 := by
  obtain ⟨difference, hsome⟩ := Option.isSome_iff_exists.mp h
  rw [refreshComment, hsome]

theorem commentDifference_refreshComment (config : PyValue) (hproper : Proper item.2)
    (hnan : item.2 ≠ .float .nan) : commentDifference (refreshComment config item) item = none := by
  cases h : commentDifference config item with
  | none => rw [refreshComment_of_none h, h]
  | some difference =>
    have hsome : (commentDifference config item).isSome = true := by
      rw [h]
      rfl
    obtain ⟨current, hcurrent, -⟩ := isSome_commentDifference.mp hsome
    rw [refreshComment_of_some hsome, commentDifference, at?_setAt_self hcurrent]
    show (if differs item.2 item.2 = true then _ else none) = none
    rw [differs_self hproper hnan]
    rfl

theorem commentDifference_of_apart {item' : Path × PyValue} (h : ItemsApart item item')
    (config : PyValue) :
    commentDifference (refreshComment config item) item' = commentDifference config item' := by
  cases hdifference : commentDifference config item with
  | none => rw [refreshComment_of_none hdifference]
  | some difference =>
    rw [refreshComment_of_some (by rw [hdifference]; rfl), commentDifference, commentDifference,
      at?_setAt_of_apart h]

theorem forall₂_modify {α β : Type*} {R : α → β → Prop} {l : List α} {l' : List β}
    (h : List.Forall₂ R l l') {f : β → β}
    (hf : ∀ a b, l[i]? = some a → l'[i]? = some b → R a b → R a (f b)) :
    List.Forall₂ R l (l'.modify i f) := by
  induction h generalizing i with
  | nil => cases i <;> exact .nil
  | cons hab hrest ih =>
    cases i with
    | zero =>
      rw [List.modify_zero_cons]
      exact .cons (hf _ _ rfl rfl hab) hrest
    | succ i =>
      rw [List.modify_succ_cons]
      exact .cons hab (ih fun a b ha hb => hf a b ha hb)

theorem CommentOf.below_key {entries : Entries} (h : CommentOf (.dict entries) item) :
    ∃ name rest child, item.1 = .key name :: rest ∧ dictGet entries name = some child ∧
      at? child rest = some item.2 := by
  obtain ⟨path, value⟩ := item
  cases path with
  | nil =>
    obtain ⟨pre, key, hpath, -⟩ := h.comment
    exact absurd (congrArg List.length hpath) (by simp)
  | cons step rest =>
    rcases at?_cons_eq_some h.found with ⟨entries', name, child, heq, rfl, hget, hchild⟩ |
      ⟨items, i, child, heq, -⟩
    · obtain rfl := PyValue.dict.inj heq
      exact ⟨name, rest, child, rfl, hget, hchild⟩
    · cases heq

theorem dictGet_changeKey (f : PyValue → PyValue) (entries : Entries) (name key : String) :
    dictGet (entries.map fun entry => (entry.1, if entry.1 = name then f entry.2 else entry.2))
        key =
      if key = name then (dictGet entries key).map f else dictGet entries key := by
  rw [dictGet_map fun key old => if key = name then f old else old]
  split_ifs
  · rfl
  · exact Option.map_id'

section

variable (hdata : data.Sound) (h : RefreshedFrom texts data old new)
include hdata h

/-- **A comment of the template goes into a configuration without uncovering it.** -/
theorem RefreshedFrom.setViewComment (hitem : CommentOf (.dict data.view) item) :
    ∃ next, setAt (.dict new) item.1 item.2 = .dict next ∧ RefreshedFrom texts data old next := by
  obtain ⟨name, rest, default, hpath, hget, hrest⟩ := hitem.below_key
  have hversion : schemaVersionKey ≠ name := by
    rintro rfl
    exact key_of_view_comment hdata.version (by decide) (at?_int _) hitem rest hpath
  have hdevices : "devices" ≠ name := by
    rintro rfl
    exact key_of_view_comment hdata.devices (by decide) at?_emptyList hitem rest hpath
  have hproper := proper_setAt h.proper (proper_at? hdata.view hitem.found) item.1
  rw [hpath, setAt] at hproper ⊢
  refine ⟨_, rfl, hproper, ?_, ?_, ?_⟩
  · rw [dictGet_changeKey fun v => setAt v rest item.2, if_neg hversion]
    exact h.version
  · refine h.covered.mapKey (proper_dict.mp hdata.view).1 (f := fun v => setAt v rest item.2) ?_
    intro default' value hdefault' hvalue
    obtain rfl : default = default' := Option.some.inj (hget ▸ hdefault')
    exact mergeUnder_setAt (h.covered.mergeUnder_eq hget hvalue) (hdata.view.of_dictGet hget) hrest
  · rw [dictGet_changeKey fun v => setAt v rest item.2, if_neg hdevices]
    exact h.devices

theorem RefreshedFrom.setDeviceComment
    (holds : dictGet old "devices" = some (.list devices)) (hget : devices[i]? = some device)
    (htakes : takesDefaults texts device = true)
    (hbelow : CommentOf (.dict data.deviceDefaults) below) :
    ∃ next, setAt (.dict new) (.key "devices" :: .index i :: below.1) below.2 = .dict next ∧
      RefreshedFrom texts data old next := by
  have hproper := proper_setAt h.proper (proper_at? hdata.deviceDefaults hbelow.found)
    (.key "devices" :: .index i :: below.1)
  rw [setAt] at hproper ⊢
  refine ⟨_, rfl, hproper, ?_, ?_, .inl ?_⟩
  · rw [dictGet_changeKey fun v => setAt v (.index i :: below.1) below.2, if_neg (by decide)]
    exact h.version
  · refine h.covered.mapKey (proper_dict.mp hdata.view).1
      (f := fun v => setAt v (.index i :: below.1) below.2) ?_
    intro default value hdefault _
    rw [hdata.devices] at hdefault
    rw [← Option.some.inj hdefault]
    rfl
  · rcases h.devices with ⟨items, items', hitems, hitems', hforall⟩ | ⟨-, hnot⟩
    · obtain rfl : devices = items := PyValue.list.inj (Option.some.inj (holds ▸ hitems))
      refine ⟨devices, items'.modify i fun v => setAt v below.1 below.2, holds, ?_,
        forall₂_modify hforall ?_⟩
      · rw [dictGet_changeKey fun v => setAt v (.index i :: below.1) below.2, if_pos rfl, hitems']
        rfl
      · intro a b ha _ hab
        obtain rfl : device = a := Option.some.inj (hget ▸ ha)
        obtain ⟨⟨entries, rfl⟩, hcovered⟩ := hab.taking htakes
        refine ⟨fun _ => ⟨?_, ?_⟩, fun hnot => ?_⟩
        · obtain ⟨name, rest, child, hpath, -⟩ := hbelow.below_key
          rw [hpath]
          exact ⟨_, rfl⟩
        · exact mergeUnder_setAt hcovered hdata.deviceDefaults hbelow.found
        · rw [htakes] at hnot
          cases hnot
    · exact absurd holds (hnot devices)

theorem RefreshedFrom.refreshComment (hitem : item ∈ templateCommentItemsForConfig texts data old) :
    (∃ next, refreshComment (.dict new) item = .dict next ∧ RefreshedFrom texts data old next) ∧
      Proper item.2 := by
  have hset : (∃ next, setAt (.dict new) item.1 item.2 = .dict next ∧
      RefreshedFrom texts data old next) ∧ Proper item.2 := by
    rw [templateCommentItemsForConfig, List.mem_append] at hitem
    rcases hitem with hview | hdevices
    · have hcomment := commentOf_of_mem _ hdata.view item hview
      exact ⟨h.setViewComment hdata hcomment, proper_at? hdata.view hcomment.found⟩
    · split at hdevices
      next devices hlist =>
        have holds : dictGet old "devices" = some (.list devices) := by
          rw [getValue] at hlist
          cases hget : dictGet old "devices" with
          | none =>
            rw [hget] at hlist
            cases hlist
          | some value =>
            rw [hget] at hlist
            exact congrArg some hlist
        obtain ⟨i, device, hget, htakes, below, hbelow, rfl⟩ := mem_commentItemsOfDevices hdevices
        have hcomment := commentOf_of_mem _ hdata.deviceDefaults below hbelow
        rw [Nat.zero_add]
        exact ⟨h.setDeviceComment hdata holds hget htakes hcomment,
          proper_at? hdata.deviceDefaults hcomment.found⟩
      next => cases hdevices
  refine ⟨?_, hset.2⟩
  cases hdifference : commentDifference (.dict new) item with
  | none => exact ⟨new, refreshComment_of_none hdifference, h⟩
  | some difference =>
    rw [refreshComment_of_some (by rw [hdifference]; rfl)]
    exact hset.1

end

/-! ### All of them -/

/-- **After its pass over a list of comments none of them differs**, besides a NaN, and whatever is
apart from all of them is as it was. -/
theorem RefreshedFrom.foldl (hdata : data.Sound) {items : List (Path × PyValue)}
    (hitems : ∀ item ∈ items, item ∈ templateCommentItemsForConfig texts data old)
    (hapart : items.Pairwise ItemsApart) (h : RefreshedFrom texts data old new) :
    ∃ final, items.foldl Config.refreshComment (.dict new) = .dict final ∧
      RefreshedFrom texts data old final ∧
      (∀ item ∈ items, item.2 ≠ .float .nan → commentDifference (.dict final) item = none) ∧
      ∀ item, (∀ other ∈ items, ItemsApart other item) →
        commentDifference (.dict final) item = commentDifference (.dict new) item := by
  induction items generalizing new with
  | nil => exact ⟨new, rfl, h, nofun, fun _ _ => rfl⟩
  | cons item items ih =>
    rw [List.forall_mem_cons] at hitems
    rw [List.pairwise_cons] at hapart
    obtain ⟨⟨next, hnext, hrefreshed⟩, hproper⟩ := h.refreshComment hdata hitems.1
    obtain ⟨final, hfinal, hdone, hnone, hothers⟩ := ih hitems.2 hapart.2 hrefreshed
    refine ⟨final, ?_, hdone, ?_, ?_⟩
    · rw [List.foldl_cons, hnext]
      exact hfinal
    · refine List.forall_mem_cons.mpr ⟨fun hnan => ?_, hnone⟩
      rw [hothers item fun other hother => apart_symm (hapart.1 other hother), ← hnext]
      exact commentDifference_refreshComment _ hproper hnan
    · intro other hother
      rw [List.forall_mem_cons] at hother
      rw [hothers other hother.2, ← hnext]
      exact commentDifference_of_apart hother.1 _

/-- **Refreshing the comments of a settled configuration leaves it settled**, and no comment of the
template differs but one that is NaN, which nothing equals. -/
theorem Settled.refresh (hdata : data.Sound) {config : Entries} (h : Settled texts data config) :
    ∃ refreshed, refreshTemplateComments texts data config = .dict refreshed ∧
      Settled texts data refreshed ∧
      ∀ difference ∈ templateCommentDifferences texts data refreshed,
        difference.value = .float .nan := by
  obtain ⟨refreshed, hfold, hrefreshed, hnone, -⟩ := (RefreshedFrom.refl h).foldl hdata
    (fun _ => id) (pairwise_templateCommentItems hdata config)
  refine ⟨refreshed, hfold, hrefreshed.settled h, fun difference hmem => ?_⟩
  obtain ⟨item, hitem, hdifference⟩ := List.mem_filterMap.mp hmem
  have hvalue : difference.value = item.2 := by
    rw [commentDifference.eq_def] at hdifference
    split at hdifference
    · split_ifs at hdifference
      rw [← Option.some.inj hdifference]
    · cases hdifference
  by_contra hnan
  rw [hvalue] at hnan
  rw [hnone item (hrefreshed.mem_items hitem) hnan] at hdifference
  cases hdifference

end

/-! ### The upgrade as a whole -/

theorem kept_of_plan (htemplate : Proper (.dict template))
    (hplan : buildConfigUpgradePlan texts template config = .ok plan) {x : PyValue}
    (hpath : path.head? ≠ some (.key schemaVersionKey)) (h : at? (.dict config) path = some x) :
    ∃ x', at? (.dict plan.upgradedConfig) path = some x' ∧ Kept path x x' := by
  obtain ⟨data, migrated, steps, hdata, hmigrated, hupgraded, -⟩ :=
    buildConfigUpgradePlan_eq_ok hplan
  obtain ⟨-, -, hkeeps⟩ := runConfigSchemaMigrations_spec hmigrated
  cases path with
  | nil =>
    rw [at?_nil] at h
    exact ⟨_, at?_nil _, .inr (.inl ⟨config, _, (Option.some.inj h).symm, rfl⟩)⟩
  | cons step rest =>
    rcases at?_cons_eq_some h with ⟨entries, name, child, heq, rfl, hget, hchild⟩ |
      ⟨items, i, child, heq, -⟩
    · obtain rfl := PyValue.dict.inj heq
      have hname : name ≠ schemaVersionKey := fun heq => hpath (congrArg (some ∘ PathStep.key) heq)
      have hmigratedAt : at? (.dict migrated) (.key name :: rest) = some x := by
        rw [at?_dict, hkeeps name child hname hget]
        exact hchild
      obtain ⟨x', hx', hkept⟩ :=
        kept_mergeTemplateUpgradeView (sound_templateData hdata htemplate) hmigratedAt
      refine ⟨x', ?_, hkept⟩
      rw [hupgraded, at?_dict, dictGet_dictSet, if_neg hname]
      exact hx'
    · cases heq

theorem reported_of_plan (hplan : buildConfigUpgradePlan texts template config = .ok plan)
    (hnew : at? (.dict plan.upgradedConfig) path = some v)
    (hold : at? (.dict config) path = none) (hv : IsAtom v = true) (hpath : CommentFree path) :
    (⟨formatPath path, v⟩ : AddedItem) ∈ plan.add ∨
      ∃ change ∈ plan.migrate, change.path = formatPath path := by
  obtain ⟨-, -, -, -, -, -, -, hadd, -⟩ := buildConfigUpgradePlan_eq_ok hplan
  by_cases hmigrated : formatPath path ∈ plan.migrate.map Change.path
  · obtain ⟨change, hchange, heq⟩ := List.mem_map.mp hmigrated
    exact .inr ⟨change, hchange, heq⟩
  · left
    rw [hadd]
    exact List.mem_filter.mpr ⟨mem_itemsFromPaths (mem_collectAddedPaths hnew hv hpath hold) hnew,
      decide_eq_true hmigrated⟩

theorem reported_comment_of_plan (hplan : buildConfigUpgradePlan texts template config = .ok plan)
    (hnew : at? (.dict plan.upgradedConfig) (path ++ [.key name]) = some v)
    (hold : at? (.dict config) (path ++ [.key name]) = none) (hpath : CommentFree path)
    (hname : isCommentKey name = true) :
    (⟨formatPath (path ++ [.key name]), v⟩ : AddedItem) ∈ plan.commentAdd := by
  obtain ⟨-, -, -, -, -, -, -, -, hcomments, -⟩ := buildConfigUpgradePlan_eq_ok hplan
  rw [hcomments]
  exact mem_itemsFromPaths (mem_collectAddedPaths_comment hnew hpath hname hold) hnew

/-- A plan that changes nothing and adds nothing. -/
structure UpgradePlan.Idle (plan : UpgradePlan) : Prop where
  unchanged : plan.changed = false
  nothingAdded : plan.add = [] ∧ plan.commentAdd = []

/-- **The upgrade keeps every value of the configuration, reports what it adds, and is done in one
go.**  Every value is where it was, besides the schema version; an object may gain keys, and only
the list of devices may hold objects that did.  Every setting and every comment that is new is
reported.  Planning again on the result changes and adds nothing, and once the template's comments
are refreshed it finds no comment to refresh either, but one that is NaN in the template. -/
theorem config_upgrade_keeps_and_settles (texts : ConfigTexts) (template config : Document)
    (plan : UpgradePlan)
    (hplan : buildConfigUpgradePlan texts template.entries config.entries = .ok plan) :
    (∀ path x, path.head? ≠ some (.key schemaVersionKey) → at? (.dict config.entries) path = some x →
      ∃ x', at? (.dict plan.upgradedConfig) path = some x' ∧ Kept path x x') ∧
    (∀ path v, at? (.dict plan.upgradedConfig) path = some v →
      at? (.dict config.entries) path = none → IsAtom v = true → CommentFree path →
        (⟨formatPath path, v⟩ : AddedItem) ∈ plan.add ∨
          ∃ change ∈ plan.migrate, change.path = formatPath path) ∧
    (∀ path name v, at? (.dict plan.upgradedConfig) (path ++ [.key name]) = some v →
      at? (.dict config.entries) (path ++ [.key name]) = none → CommentFree path →
        isCommentKey name = true →
          (⟨formatPath (path ++ [.key name]), v⟩ : AddedItem) ∈ plan.commentAdd) ∧
    (∃ again, buildConfigUpgradePlan texts template.entries plan.upgradedConfig = .ok again ∧
      again.upgradedConfig = plan.upgradedConfig ∧ again.Idle) ∧
    ∃ data refreshed again, loadTemplateUpgradeData template.entries = .ok data ∧
      refreshTemplateComments texts data plan.upgradedConfig = .dict refreshed ∧
      buildConfigUpgradePlan texts template.entries refreshed = .ok again ∧
      again.upgradedConfig = refreshed ∧ again.Idle ∧
      ∀ difference ∈ again.commentRefresh, difference.value = .float .nan := by
  obtain ⟨data, hdata, hsound, hsettled⟩ := settled_of_plan template.proper config.proper hplan
  obtain ⟨refreshed, hrefresh, hagain, hnone⟩ := hsettled.refresh hsound
  refine ⟨fun path x => kept_of_plan template.proper hplan, fun path v => reported_of_plan hplan,
    fun path name v => reported_comment_of_plan hplan, ?_, ?_⟩
  · exact ⟨_, hsettled.plan hdata, rfl, rfl, rfl, rfl⟩
  · exact ⟨data, refreshed, _, hdata, hrefresh, hagain.plan hdata, rfl, ⟨rfl, rfl, rfl⟩, hnone⟩

/-! ### One upgrade -/

/-- Texts of the values that the runs below hold. -/
def plainTexts : ConfigTexts where
  str v := v.str?.getD ""
  repr v := v.str?.getD ""
  int _ := none
  str_str := getD_str?_str

def sampleTemplate : Document where
  entries := [("_comment", .str "new"), ("system", .dict [("dry_run", .bool false)]),
    ("devices", .list [])]
  proper := proper_dict.mpr ⟨by decide, by
    intro entry hentry
    simp only [List.mem_cons, List.not_mem_nil, or_false] at hentry
    rcases hentry with rfl | rfl | rfl <;> simp [Proper, ProperItems, ProperEntries]⟩

def sampleConfig : Document where
  entries := [("config_schema_version", .int 3), ("_comment", .str "old"),
    ("system", .dict [("dry_run", .none)])]
  proper := proper_dict.mpr ⟨by decide, by
    intro entry hentry
    simp only [List.mem_cons, List.not_mem_nil, or_false] at hentry
    rcases hentry with rfl | rfl | rfl <;> simp [Proper, ProperEntries]⟩

theorem config_upgrade_keeps_and_settles_sample :
    ∃ plan again,
      buildConfigUpgradePlan plainTexts sampleTemplate.entries sampleConfig.entries = .ok plan ∧
      buildConfigUpgradePlan plainTexts sampleTemplate.entries plan.upgradedConfig = .ok again ∧
      again.upgradedConfig = plan.upgradedConfig ∧ again.Idle := by
  obtain ⟨-, -, -, ⟨again, hagain⟩, -⟩ :=
    config_upgrade_keeps_and_settles plainTexts sampleTemplate sampleConfig _ rfl
  exact ⟨_, again, rfl, hagain⟩

/-- The upgrade leaves a comment that differs as it is, so the next plan lists it again; and the
empty list of devices that it adds is no setting, and is not reported. -/
theorem config_upgrade_leaves_comments :
    ∃ plan again,
      buildConfigUpgradePlan plainTexts sampleTemplate.entries sampleConfig.entries = .ok plan ∧
      buildConfigUpgradePlan plainTexts sampleTemplate.entries plan.upgradedConfig = .ok again ∧
      again.commentRefresh ≠ [] ∧
      at? (.dict sampleConfig.entries) [.key "devices"] = none ∧
      (at? (.dict plan.upgradedConfig) [.key "devices"]).isSome = true ∧
      plan.add = [] ∧ plan.commentAdd = [] ∧ plan.migrate = [] := by
  refine ⟨_, _, rfl, rfl, ?_, rfl, rfl, rfl, rfl, rfl⟩
  exact List.cons_ne_nil _ _

end SolarFlowEms.Config
