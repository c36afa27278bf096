import SolarFlowEms.Runtime.RuntimeDevices

/-!
# Which loaded entry a configured device takes over

A reconciliation goes through the configured devices; each takes over the loaded entry it owns,
unless a device before it did.  What is not taken over stays where nothing is pruned, as long as
no configured device bears its name: the result holds one entry under a name, and the configured
device's is there first.
-/

namespace SolarFlowEms.Runtime

open Python Documents

theorem filter_key_of_mem {entries : Entries} {entry : String × PyValue}
    (hkeys : (entries.map Prod.fst).Nodup) (h : entry ∈ entries) :
    entries.filter (·.1 = entry.1) = [entry] := by
  induction entries with
  | nil => cases h
  | cons head rest ih =>
    rw [List.map_cons, List.nodup_cons] at hkeys
    rcases List.mem_cons.mp h with rfl | hrest
    · have hnone : rest.filter (·.1 = entry.1) = [] := by
        refine List.filter_eq_nil_iff.mpr fun other hother hsame => hkeys.1 ?_
        exact of_decide_eq_true hsame ▸ List.mem_map_of_mem hother
      rw [List.filter_cons, if_pos (decide_eq_true rfl), hnone]
    · have hne : ¬decide (head.1 = entry.1) = true := fun hsame =>
        hkeys.1 ((of_decide_eq_true hsame).symm ▸ List.mem_map_of_mem hrest)
      rw [List.filter_cons, if_neg hne]
      exact ih hkeys.2 hrest

/-! ### The reconciliation as a list -/

/-- The loaded entry that a device takes over, where those in `consumed` are taken. -/
def takes (loaded : Entries) (consumed : List String) (device : String × Entries) : Option String :=
  (runtimeDeviceFor loaded device.1 (getValue device.2 "identity")).filter fun name =>
    name ∉ consumed

/-- Every configured device with the loaded entry it takes over. -/
def takeOver (loaded : Entries) :
    List String → List (String × Entries) → List ((String × Entries) × Option String)
  | _, [] => []
  | consumed, device :: devices =>
    (device, takes loaded consumed device) ::
      takeOver loaded ((takes loaded consumed device).toList ++ consumed) devices

def takenNames (loaded : Entries) (devices : List (String × Entries)) : List String :=
  (takeOver loaded [] devices).filterMap (·.2)

/-- What the result holds for a device: the settings it takes over, or its defaults. -/
def resultEntry (loaded : Entries) (owner : (String × Entries) × Option String) :
    String × PyValue :=
  (owner.1.1, .dict (match owner.2 with
    | some matched => adoptedEntry owner.1.2 (objectAt loaded matched)
    | none => dictPop owner.1.2 "offgrid_socket"))

section

variable {loaded : Entries} {consumed : List String} {device : String × Entries}
  {devices : List (String × Entries)} {name matched : String} {identity : PyValue}

theorem takes_eq_some (h : takes loaded consumed device = some matched) :
    runtimeDeviceFor loaded device.1 (getValue device.2 "identity") = some matched ∧
      matched ∉ consumed := by
  obtain ⟨hfor, hfree⟩ := Option.filter_eq_some_iff.mp h
  exact ⟨hfor, of_decide_eq_true hfree⟩

@[simp] theorem map_fst_takeOver (loaded : Entries) (consumed : List String)
    (devices : List (String × Entries)) :
    (takeOver loaded consumed devices).map Prod.fst = devices := by
  induction devices generalizing consumed with
  | nil => rfl
  | cons device devices ih => rw [takeOver, List.map_cons, ih]

theorem map_fst_resultEntry (loaded : Entries) (devices : List (String × Entries)) :
    ((takeOver loaded [] devices).map (resultEntry loaded)).map Prod.fst =
      devices.map Prod.fst := by
  conv_rhs => rw [← map_fst_takeOver loaded [] devices, List.map_map]
  rw [List.map_map]
  rfl

theorem taken_cons (loaded : Entries) (consumed : List String) (device : String × Entries)
    (devices : List (String × Entries)) :
    (takeOver loaded consumed (device :: devices)).filterMap (·.2) =
      (takes loaded consumed device).toList ++
        (takeOver loaded ((takes loaded consumed device).toList ++ consumed) devices).filterMap
          (·.2) := by
  rw [takeOver]
  cases takes loaded consumed device <;> rfl

theorem nodup_taken (loaded : Entries) (consumed : List String)
    (devices : List (String × Entries)) :
    ((takeOver loaded consumed devices).filterMap (·.2)).Nodup ∧
      ∀ name ∈ (takeOver loaded consumed devices).filterMap (·.2), name ∉ consumed := by
  induction devices generalizing consumed with
  | nil => simp [takeOver]
  | cons device devices ih =>
    obtain ⟨hnodup, hfree⟩ := ih ((takes loaded consumed device).toList ++ consumed)
    rw [taken_cons]
    cases htakes : takes loaded consumed device with
    | none =>
      rw [htakes] at hnodup hfree
      exact ⟨hnodup, hfree⟩
    | some matched =>
      rw [htakes] at hnodup hfree
      constructor
      · refine List.nodup_cons.mpr ⟨fun hmem => hfree matched hmem ?_, hnodup⟩
        exact List.mem_cons_self
      · intro name hname
        rcases List.mem_cons.mp hname with rfl | hlater
        · exact (takes_eq_some htakes).2
        · exact fun hmem => hfree name hlater (List.mem_append_right _ hmem)

theorem dictGet_of_runtimeDeviceFor (hloaded : (loaded.map Prod.fst).Nodup)
    (h : runtimeDeviceFor loaded name identity = some matched) :
    ∃ state, dictGet loaded matched = some (.dict state) := by
  unfold runtimeDeviceFor at h
  dsimp only at h
  split at h
  · rename_i entry hentry
    obtain rfl := Option.some.inj h
    obtain ⟨serial, -, hhead⟩ := Option.bind_eq_some_iff.mp hentry
    obtain ⟨hmem, hcarries⟩ := List.mem_filter.mp (List.mem_of_head? hhead)
    have hget := dictGet_of_mem_entries hloaded hmem
    cases hstate : entry.2 with
    | dict state => exact ⟨state, by rw [hget, hstate]⟩
    | none | bool b | int z | float x | str s | list items => simp [hstate] at hcarries
  · unfold namedRuntimeDevice at h
    split at h
    · rename_i state hget
      split_ifs at h
      obtain rfl := Option.some.inj h
      exact ⟨state, hget⟩
    · cases h

end

/-! ### The configured devices -/

section

variable {loaded : Entries} {r : Reconciling} {device : String × Entries}
  {devices : List (String × Entries)}

/-- **One configured device** adds its entry, and takes one loaded entry at the most. -/
theorem reconcileDevice_eq (hloaded : (loaded.map Prod.fst).Nodup)
    (hnew : dictGet r.merged device.1 = none) :
    (reconcileDevice loaded r device).merged =
        r.merged ++ [resultEntry loaded (device, takes loaded r.consumed device)] ∧
      (reconcileDevice loaded r device).consumed =
        (takes loaded r.consumed device).toList ++ r.consumed := by
  have hadd : r.merged ++ [resultEntry loaded (device, none)] =
      (r.add device.1 device.2).merged := (dictSet_of_notMem hnew _).symm
  unfold reconcileDevice takes
  dsimp only
  cases hfor : runtimeDeviceFor loaded device.1 (getValue device.2 "identity") with
  | none => exact ⟨hadd.symm, rfl⟩
  | some matched =>
    dsimp only
    by_cases hconsumed : matched ∈ r.consumed
    · rw [if_pos hconsumed, Option.filter_some, if_neg (by simpa using hconsumed)]
      exact ⟨hadd.symm, rfl⟩
    · obtain ⟨state, hstate⟩ := dictGet_of_runtimeDeviceFor hloaded hfor
      rw [if_neg hconsumed, Option.filter_some, if_pos (by simpa using hconsumed), hstate]
      refine ⟨?_, rfl⟩
      dsimp only
      rw [dictSet_of_notMem hnew, resultEntry]
      dsimp only
      rw [objectAt, getValue, hstate]
      rfl

theorem foldl_reconcileDevice (hloaded : (loaded.map Prod.fst).Nodup)
    (hnames : (devices.map Prod.fst).Nodup)
    (hnew : ∀ device ∈ devices, dictGet r.merged device.1 = none) :
    (devices.foldl (reconcileDevice loaded) r).merged =
        r.merged ++ (takeOver loaded r.consumed devices).map (resultEntry loaded) ∧
      ∀ name, name ∈ (devices.foldl (reconcileDevice loaded) r).consumed ↔
        name ∈ (takeOver loaded r.consumed devices).filterMap (·.2) ∨ name ∈ r.consumed := by
  induction devices generalizing r with
  | nil => simp [takeOver]
  | cons device devices ih =>
    rw [List.map_cons, List.nodup_cons] at hnames
    obtain ⟨hmerged, hconsumed⟩ :=
      reconcileDevice_eq hloaded (hnew device List.mem_cons_self)
    have hlater : ∀ other ∈ devices,
        dictGet (reconcileDevice loaded r device).merged other.1 = none := by
      intro other hother
      have hne : device.1 ≠ other.1 := by
        rintro heq
        exact hnames.1 (heq ▸ List.mem_map_of_mem hother)
      rw [hmerged, dictGet_append, hnew other (List.mem_cons_of_mem _ hother), dictGet_cons]
      exact if_neg hne
    obtain ⟨ihmerged, ihconsumed⟩ := ih hnames.2 hlater
    rw [List.foldl_cons]
    constructor
    · rw [ihmerged, hmerged, hconsumed, takeOver, List.map_cons, List.append_assoc]
      rfl
    · intro name
      rw [ihconsumed name, hconsumed, taken_cons]
      simp only [List.mem_append]
      exact or_left_comm.trans or_assoc.symm

end

/-! ### The loaded entries that nothing took over -/

section

variable {r : Reconciling} {loaded : Entries}

theorem foldl_reconcileOrphan_keeping (hloaded : (loaded.map Prod.fst).Nodup) :
    (loaded.foldl (reconcileOrphan false) r).merged =
      r.merged ++ (loaded.filter fun entry =>
        entry.1 ∉ r.consumed ∧ dictGet r.merged entry.1 = none).map fun entry =>
          (entry.1, sanitizedDevice entry.2) := by
  induction loaded generalizing r with
  | nil => simp
  | cons entry loaded ih =>
    rw [List.map_cons, List.nodup_cons] at hloaded
    have hkept : r.consumed = (reconcileOrphan false r entry).consumed := by
      unfold reconcileOrphan
      split_ifs <;> rfl
    rw [List.foldl_cons, ih hloaded.2, ← hkept]
    have hsame (hmerged : (reconcileOrphan false r entry).merged = r.merged)
        (hnot : ¬(entry.1 ∉ r.consumed ∧ dictGet r.merged entry.1 = none)) :
        (reconcileOrphan false r entry).merged ++ (loaded.filter fun other =>
          other.1 ∉ r.consumed ∧
            dictGet (reconcileOrphan false r entry).merged other.1 = none).map
              (fun other => (other.1, sanitizedDevice other.2)) =
        r.merged ++ ((entry :: loaded).filter fun other =>
          other.1 ∉ r.consumed ∧ dictGet r.merged other.1 = none).map
            fun other => (other.1, sanitizedDevice other.2) := by
      rw [hmerged, List.filter_cons_of_neg (by simpa using hnot)]
    by_cases hconsumed : entry.1 ∈ r.consumed
    · refine hsame ?_ fun hboth => hboth.1 hconsumed
      rw [reconcileOrphan, if_pos hconsumed]
    · cases hget : dictGet r.merged entry.1 with
      | some value =>
        refine hsame ?_ fun hboth => ?_
        · simp [reconcileOrphan, hconsumed, hget]
        · rw [hget] at hboth
          cases hboth.2
      | none =>
        have hmerged : (reconcileOrphan false r entry).merged =
            r.merged ++ [(entry.1, sanitizedDevice entry.2)] := by
          rw [reconcileOrphan, if_neg hconsumed, if_neg Bool.false_ne_true, if_neg (by simp [hget])]
          exact dictSet_of_notMem hget _
        have hfree : ∀ other ∈ loaded,
            (dictGet (reconcileOrphan false r entry).merged other.1 = none ↔
              dictGet r.merged other.1 = none) := by
          intro other hother
          have hne : entry.1 ≠ other.1 := by
            intro heq
            exact hloaded.1 (heq ▸ List.mem_map_of_mem hother)
          rw [hmerged, dictGet_append, dictGet_cons, if_neg hne]
          cases dictGet r.merged other.1 <;> simp [dictGet]
        have hlater : (loaded.filter fun other => other.1 ∉ r.consumed ∧
            dictGet (reconcileOrphan false r entry).merged other.1 = none) =
              loaded.filter fun other => other.1 ∉ r.consumed ∧ dictGet r.merged other.1 = none :=
          List.filter_congr fun other hother =>
            decide_eq_decide.mpr (and_congr Iff.rfl (hfree other hother))
        rw [List.filter_cons_of_pos (by simp [hconsumed, hget]), List.map_cons, hlater, hmerged,
          List.append_assoc]
        rfl

end

/-! ### Without pruning -/

/-- **What a reconciliation without pruning keeps.** -/
structure KeepsEntries (loaded : Entries) (defaults : List (String × Entries)) (result : Entries) :
    Prop where
  /-- A configured device has one entry: the settings it takes over, or its defaults. -/
  one_each : ∀ owner ∈ takeOver loaded [] defaults,
    result.filter (·.1 = owner.1.1) = [resultEntry loaded owner]
  /-- No two devices take the same loaded entry over. -/
  taken_once : (takenNames loaded defaults).Nodup
  /-- What no device takes over is still there, under a name that no configured device bears. -/
  left : ∀ entry ∈ loaded, entry.1 ∉ takenNames loaded defaults →
    entry.1 ∉ defaults.map Prod.fst → (entry.1, sanitizedDevice entry.2) ∈ result

section

variable {loaded : Entries} {defaults : List (String × Entries)}

/-- **The result, entry by entry.** -/
theorem reconcileRuntimeDevices_keeping (hloaded : (loaded.map Prod.fst).Nodup)
    (hnames : (defaults.map Prod.fst).Nodup) (hsome : defaults ≠ []) :
    (reconcileRuntimeDevices loaded defaults false).1 =
      (takeOver loaded [] defaults).map (resultEntry loaded) ++
        (loaded.filter fun entry =>
          entry.1 ∉ takenNames loaded defaults ∧ entry.1 ∉ defaults.map Prod.fst).map fun entry =>
            (entry.1, sanitizedDevice entry.2) := by
  obtain ⟨hmerged, hconsumed⟩ := foldl_reconcileDevice (r := {}) hloaded hnames fun _ _ => rfl
  have hempty : ¬defaults.isEmpty = true := by simpa using hsome
  unfold reconcileRuntimeDevices
  rw [if_neg hempty]
  dsimp only
  rw [foldl_reconcileOrphan_keeping hloaded]
  have hfree : ∀ name, dictGet (defaults.foldl (reconcileDevice loaded) {}).merged name = none ↔
      name ∉ defaults.map Prod.fst := by
    intro name
    rw [← Option.not_isSome_iff_eq_none, dictGet_isSome_iff, hmerged]
    exact not_congr (by rw [← map_fst_resultEntry loaded defaults]; rfl)
  rw [List.filter_congr (q := fun entry => decide (entry.1 ∉ takenNames loaded defaults ∧
    entry.1 ∉ defaults.map Prod.fst))]
  · rw [hmerged]
    rfl
  · intro entry _
    refine decide_eq_decide.mpr (and_congr (not_congr ?_) (hfree entry.1))
    rw [hconsumed entry.1]
    exact or_iff_left List.not_mem_nil

/-- **A reconciliation that prunes nothing keeps the settings** of every configured device and of
every loaded entry that none took over and whose name none bears. -/
theorem reconcile_keeps (hloaded : (loaded.map Prod.fst).Nodup)
    (hnames : (defaults.map Prod.fst).Nodup) :
    KeepsEntries loaded defaults (reconcileRuntimeDevices loaded defaults false).1 where
  one_each := by
    intro owner howner
    have hname : owner.1.1 ∈ defaults.map Prod.fst := by
      rw [← map_fst_takeOver loaded [] defaults]
      exact List.mem_map_of_mem (List.mem_map_of_mem howner)
    have hsome : defaults ≠ [] := List.ne_nil_of_mem (List.mem_map.mp hname).choose_spec.1
    rw [reconcileRuntimeDevices_keeping hloaded hnames hsome, List.filter_append]
    have hothers : ((loaded.filter fun entry => entry.1 ∉ takenNames loaded defaults ∧
        entry.1 ∉ defaults.map Prod.fst).map fun entry =>
          (entry.1, sanitizedDevice entry.2)).filter (·.1 = owner.1.1) = [] := by
      refine List.filter_eq_nil_iff.mpr fun entry hentry hsame => ?_
      obtain ⟨old, hold, rfl⟩ := List.mem_map.mp hentry
      have hnot := (of_decide_eq_true (List.mem_filter.mp hold).2).2
      exact hnot ((of_decide_eq_true hsame : old.1 = owner.1.1) ▸ hname)
    rw [hothers, List.append_nil]
    have hmem : resultEntry loaded owner ∈
        (takeOver loaded [] defaults).map (resultEntry loaded) := List.mem_map_of_mem howner
    have hkeys := map_fst_resultEntry loaded defaults
    exact filter_key_of_mem (hkeys ▸ hnames) hmem
  taken_once := (nodup_taken loaded [] defaults).1
  left := by
    intro entry hentry htaken hname
    by_cases hsome : defaults = []
    · subst hsome
      exact List.mem_map_of_mem hentry
    · rw [reconcileRuntimeDevices_keeping hloaded hnames hsome]
      refine List.mem_append_right _ (List.mem_map_of_mem (List.mem_filter.mpr ⟨hentry, ?_⟩))
      exact decide_eq_true ⟨htaken, hname⟩

end

/-- An entry whose name now belongs to other hardware, and one that still has the legacy key. -/
def reusedLoaded : Entries :=
  [("WR1", .dict [("identity", .str "S1"), ("max_power", .int 650)]),
    ("WR2", .dict [("max_power", .int 500), ("offgrid_socket", .bool true)])]

def reusedDefaults : List (String × Entries) :=
  [("WR1", [("max_power", .int 800), ("identity", .str "S2")])]

/-- A third is of hardware that bears another name now. -/
def movedLoaded : Entries :=
  ("Shed", .dict [("identity", .str "S3"), ("max_power", .int 700)]) :: reusedLoaded

def movedDefaults : List (String × Entries) :=
  ("Garage", [("max_power", .int 800), ("identity", .str "S3")]) :: reusedDefaults

theorem reconcile_keeps_moved :
    takenNames movedLoaded movedDefaults = ["Shed"] ∧
      KeepsEntries movedLoaded movedDefaults
        (reconcileRuntimeDevices movedLoaded movedDefaults false).1 :=
  ⟨rfl, reconcile_keeps (by decide) (by decide)⟩

theorem reconciled_reused :
    (reconcileRuntimeDevices reusedLoaded reusedDefaults false).1 =
      [("WR1", .dict [("max_power", .int 800), ("identity", .str "S2")]),
        ("WR2", .dict [("max_power", .int 500)])] := rfl

/-- **Not everything is kept.**  No device takes an entry over here, and neither entry is in the
result as it was loaded. -/
theorem reconcile_loses_a_reused_name :
    takenNames reusedLoaded reusedDefaults = [] ∧
      ∀ entry ∈ reusedLoaded,
        entry ∉ (reconcileRuntimeDevices reusedLoaded reusedDefaults false).1 := by
  refine ⟨rfl, ?_⟩
  rw [reconciled_reused]
  simp [reusedLoaded]

end SolarFlowEms.Runtime
