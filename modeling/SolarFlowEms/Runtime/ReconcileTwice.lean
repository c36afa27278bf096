import Mathlib.Algebra.Order.Ring.Unbundled.Rat
import Mathlib.Data.List.Pairwise
import SolarFlowEms.Library.StrippedText
import SolarFlowEms.Runtime.DeviceOwners

/-!
# Reconciling a second time

The EMS reconciles the runtime state with the configured devices at every start, and writes the
file where anything changed.  The defaults of a configured device carry its serial as it is
stamped, so a reconciled state is found again device by device, each under its own name, and a
second reconciliation changes nothing.
-/

namespace SolarFlowEms.Runtime

open Python Documents

/-! ### Defaults of the configured devices -/

/-- A configured device as `build_runtime_defaults` reads it. -/
structure ConfiguredDevice where
  name : String
  sn : String
  maxPower : ℤ
  gridOffMode : Option ℤ
  pvPriorityFactor : ℚ
  acChargeEnabled : Bool

def offgridSocketModeFor : Option ℤ → String
  | some 0 => "standard"
  | some 1 => "eco"
  | _ => "off"

namespace ConfiguredDevice

variable (dev : ConfiguredDevice)

/-- The serial as the runtime state is stamped with it. -/
def identity : Option String := cleanIdentity (.str dev.sn)

/-- What the device's runtime entry is seeded with. -/
def runtimeDefaults : Entries :=
  [("enabled", .bool true), ("max_power", .int (max 0 dev.maxPower)),
    ("offgrid_socket_mode", .str (offgridSocketModeFor dev.gridOffMode)),
    ("pv_priority_factor", .float (.finite (max (1 / 100) dev.pvPriorityFactor))),
    ("ac_charge_enabled", .bool dev.acChargeEnabled)] ++
    (dev.identity.map fun ident => ("identity", .str ident)).toList

end ConfiguredDevice

/-- `build_runtime_defaults`, as far as the devices. -/
def buildRuntimeDevices (devices : List ConfiguredDevice) : List (String × Entries) :=
  devices.foldl (fun defaults dev => dictSet defaults dev.name dev.runtimeDefaults) []

/-! ### Updates and removals, key by key -/

section

variable {entries entries' base values : Entries} {key : String}

theorem entries_ext (hkeys : entries.map Prod.fst = entries'.map Prod.fst)
    (hnodup : (entries.map Prod.fst).Nodup)
    (hget : ∀ key, dictGet entries key = dictGet entries' key) : entries = entries' := by
  induction entries generalizing entries' with
  | nil => exact (List.map_eq_nil_iff.mp hkeys.symm).symm
  | cons entry rest ih =>
    cases entries' with
    | nil => cases hkeys
    | cons entry' rest' =>
      obtain ⟨hkey, hrest⟩ := List.cons.inj hkeys
      rw [List.map_cons, List.nodup_cons] at hnodup
      have hhead := hget entry.1
      rw [dictGet_cons, dictGet_cons, if_pos rfl, if_pos hkey.symm] at hhead
      have hentry : entry = entry' := Prod.ext hkey (Option.some.inj hhead)
      subst hentry
      refine congrArg (entry :: ·) (ih hrest hnodup.2 fun key => ?_)
      have hvalue := hget key
      rw [dictGet_cons, dictGet_cons] at hvalue
      by_cases hsame : entry.1 = key
      · have hnone (list : Entries) (hlist : entry.1 ∉ list.map Prod.fst) :
            dictGet list key = none := by
          rw [← hsame, ← Option.not_isSome_iff_eq_none, dictGet_isSome_iff]
          exact hlist
        rw [hnone rest hnodup.1, hnone rest' (hrest ▸ hnodup.1)]
      · rwa [if_neg hsame, if_neg hsame] at hvalue

theorem map_getValue (hnodup : (entries.map Prod.fst).Nodup) :
    (entries.map Prod.fst).map (fun key => (key, getValue entries key)) = entries := by
  rw [List.map_map]
  refine (List.map_congr_left fun entry hentry => ?_).trans (List.map_id _)
  show (entry.1, getValue entries entry.1) = entry
  rw [getValue, dictGet_of_mem_entries hnodup hentry]
  rfl

theorem keys_dictPop (entries : Entries) (key : String) :
    (dictPop entries key).map Prod.fst = (entries.map Prod.fst).filter (· ≠ key) := by
  rw [dictPop, List.filter_map]
  rfl

theorem dictGet_dictUpdate (base values : Entries) (hvalues : (values.map Prod.fst).Nodup)
    (key : String) :
    dictGet (dictUpdate base values) key = (dictGet values key).or (dictGet base key) := by
  induction values generalizing base with
  | nil => rfl
  | cons entry values ih =>
    rw [List.map_cons, List.nodup_cons] at hvalues
    show dictGet (dictUpdate (dictSet base entry.1 entry.2) values) key = _
    rw [ih _ hvalues.2, dictGet_dictSet, dictGet_cons]
    by_cases h : key = entry.1
    · have hnone : dictGet values key = none := by
        rw [← Option.not_isSome_iff_eq_none, dictGet_isSome_iff, h]
        exact hvalues.1
      rw [if_pos h, if_pos h.symm, hnone]
      rfl
    · rw [if_neg h, if_neg (Ne.symm h)]

theorem keys_dictUpdate (base values : Entries) (hvalues : (values.map Prod.fst).Nodup) :
    (dictUpdate base values).map Prod.fst =
      base.map Prod.fst ++ (values.map Prod.fst).filter (· ∉ base.map Prod.fst) := by
  induction values generalizing base with
  | nil => simp [dictUpdate]
  | cons entry values ih =>
    rw [List.map_cons, List.nodup_cons] at hvalues
    show (dictUpdate (dictSet base entry.1 entry.2) values).map Prod.fst = _
    rw [ih _ hvalues.2, List.map_cons]
    by_cases h : entry.1 ∈ base.map Prod.fst
    · rw [keys_dictSet_of_mem (dictGet_isSome_iff.mpr h), List.filter_cons,
        if_neg (by simpa using h)]
    · have hnone : dictGet base entry.1 = none := by
        rw [← Option.not_isSome_iff_eq_none, dictGet_isSome_iff]
        exact h
      have hlater : (values.map Prod.fst).filter (· ∉ base.map Prod.fst ++ [entry.1]) =
          (values.map Prod.fst).filter (· ∉ base.map Prod.fst) := by
        refine List.filter_congr fun key hkey => decide_eq_decide.mpr (not_congr ?_)
        rw [List.mem_append, List.mem_singleton]
        refine or_iff_left ?_
        rintro rfl
        exact hvalues.1 hkey
      have hkeys : (dictSet base entry.1 entry.2).map Prod.fst = base.map Prod.fst ++ [entry.1] := by
        rw [dictSet_of_notMem hnone, List.map_append]
        rfl
      rw [hkeys, hlater, List.filter_cons, if_pos (by simpa using h), List.append_assoc]
      rfl

end

/-! ### The entry of a device, adopted again -/

/-- Defaults that carry a serial only as it is stamped. -/
structure Stamped (defaults : Entries) : Prop where
  keys : (defaults.map Prod.fst).Nodup
  identity : dictGet defaults "identity" = (stampedIdentity defaults).map .str

section

variable {defaults state : Entries}

/-- **What an adopted entry holds**: the serial of the defaults, and the settings over them. -/
theorem dictGet_adoptedEntry (defaults : Entries) (hstate : (state.map Prod.fst).Nodup)
    (key : String) :
    dictGet (adoptedEntry defaults state) key =
      if key = "offgrid_socket" then none
      else if key = "identity" then (stampedIdentity defaults).map .str
      else (dictGet state key).or (dictGet defaults key) := by
  have hkept : ((dictPop state "identity").map Prod.fst).Nodup := by
    rw [keys_dictPop]
    exact hstate.filter _
  rw [adoptedEntry, dictGet_dictPop]
  refine if_congr Iff.rfl rfl ?_
  have hupdate := dictGet_dictUpdate defaults (dictPop state "identity") hkept key
  rw [dictGet_dictPop] at hupdate
  cases hident : stampedIdentity defaults with
  | none =>
    dsimp only
    rw [dictGet_dictPop, hupdate]
    split_ifs <;> rfl
  | some ident =>
    dsimp only
    rw [dictGet_dictSet, hupdate]
    split_ifs <;> rfl

section

variable (hd : Stamped defaults) (hstate : (state.map Prod.fst).Nodup)
include hd hstate

theorem keys_adoptedEntry :
    (adoptedEntry defaults state).map Prod.fst =
      (defaults.map Prod.fst ++ (state.map Prod.fst).filter fun key =>
        key ≠ "identity" ∧ key ∉ defaults.map Prod.fst).filter (· ≠ "offgrid_socket") := by
  have hkept : ((dictPop state "identity").map Prod.fst).Nodup := by
    rw [keys_dictPop]
    exact hstate.filter _
  have hupdate : (dictUpdate defaults (dictPop state "identity")).map Prod.fst =
      defaults.map Prod.fst ++ (state.map Prod.fst).filter fun key =>
        key ≠ "identity" ∧ key ∉ defaults.map Prod.fst := by
    rw [keys_dictUpdate _ _ hkept, keys_dictPop, List.filter_filter]
    refine congrArg (defaults.map Prod.fst ++ ·) (List.filter_congr fun key _ => ?_)
    simp [Bool.and_comm]
  rw [adoptedEntry, keys_dictPop]
  refine congrArg (List.filter _) ?_
  have hidentity := hd.identity
  cases hident : stampedIdentity defaults with
  | none =>
    rw [hident] at hidentity
    dsimp only
    rw [keys_dictPop, hupdate]
    refine List.filter_eq_self.mpr fun key hkey => decide_eq_true ?_
    rintro rfl
    rcases List.mem_append.mp hkey with hdefault | hadded
    · rw [← dictGet_isSome_iff, hidentity] at hdefault
      cases hdefault
    · exact (of_decide_eq_true (List.mem_filter.mp hadded).2).1 rfl
  | some ident =>
    rw [hident] at hidentity
    dsimp only
    rw [keys_dictSet_of_mem, hupdate]
    rw [dictGet_dictUpdate _ _ hkept, hidentity]
    simp

theorem nodup_adoptedEntry :
    ((adoptedEntry defaults state).map Prod.fst).Nodup := by
  rw [keys_adoptedEntry hd hstate]
  refine List.Nodup.filter _ (List.nodup_append.mpr ⟨hd.keys, hstate.filter _, ?_⟩)
  rintro key hkey _ hadded rfl
  exact (of_decide_eq_true (List.mem_filter.mp hadded).2).2 hkey

theorem adoptedEntry_idem :
    adoptedEntry defaults (adoptedEntry defaults state) = adoptedEntry defaults state := by
  have hagain := nodup_adoptedEntry hd hstate
  refine entries_ext ?_ (nodup_adoptedEntry hd hagain) fun key => ?_
  · -- What only the state had is the only thing that the adopted entry adds to the defaults.
    have hadded : ((adoptedEntry defaults state).map Prod.fst).filter (fun key =>
        key ≠ "identity" ∧ key ∉ defaults.map Prod.fst) =
          ((state.map Prod.fst).filter fun key =>
            key ≠ "identity" ∧ key ∉ defaults.map Prod.fst).filter (· ≠ "offgrid_socket") := by
      have hdefaults : ((defaults.map Prod.fst).filter (· ≠ "offgrid_socket")).filter (fun key =>
          key ≠ "identity" ∧ key ∉ defaults.map Prod.fst) = [] :=
        List.filter_eq_nil_iff.mpr fun key hkey hboth =>
          (of_decide_eq_true hboth).2 (List.mem_of_mem_filter hkey)
      rw [keys_adoptedEntry hd hstate, List.filter_append, List.filter_append, hdefaults,
        List.nil_append]
      exact List.filter_eq_self.mpr fun key hkey =>
        (List.mem_filter.mp (List.mem_of_mem_filter hkey)).2
    rw [keys_adoptedEntry hd hagain, hadded, keys_adoptedEntry hd hstate, List.filter_append,
      List.filter_append, List.filter_filter]
    simp
  · rw [dictGet_adoptedEntry _ hagain, dictGet_adoptedEntry _ hstate]
    by_cases hoff : key = "offgrid_socket"
    · rw [if_pos hoff, if_pos hoff]
    · rw [if_neg hoff, if_neg hoff]
      by_cases hident : key = "identity"
      · rw [if_pos hident, if_pos hident]
      · rw [if_neg hident, if_neg hident]
        cases dictGet state key <;> cases dictGet defaults key <;> rfl

end

theorem adoptedEntry_nil (hd : Stamped defaults) :
    adoptedEntry defaults [] = dictPop defaults "offgrid_socket" := by
  have hidentity := hd.identity
  show dictPop _ "offgrid_socket" = _
  refine congrArg (dictPop · "offgrid_socket") ?_
  cases hident : stampedIdentity defaults with
  | none =>
    rw [hident] at hidentity
    refine List.filter_eq_self.mpr fun entry hmem => decide_eq_true fun hkey => ?_
    have hentry : entry ∈ defaults := hmem
    have hsome := dictGet_isSome_iff.mpr (List.mem_map_of_mem (f := Prod.fst) hentry)
    rw [hkey, hidentity] at hsome
    cases hsome
  | some ident =>
    rw [hident] at hidentity
    exact dictSet_self hd.keys hidentity

end

/-! ### A reconciled state -/

/-- A state that has just been reconciled: one entry a device, under its name, that adopting does
not change and that carries the device's serial. -/
structure Settled (defaults : List (String × Entries)) (result : Entries) : Prop where
  keys : result.map Prod.fst = defaults.map Prod.fst
  names : (defaults.map Prod.fst).Nodup
  entries : ∀ device ∈ defaults, ∃ state, dictGet result device.1 = some (.dict state) ∧
    adoptedEntry device.2 state = state ∧ stampedIdentity state = stampedIdentity device.2

/-- No two devices have the same serial. -/
def DistinctIdentities (defaults : List (String × Entries)) : Prop :=
  (defaults.filterMap fun device => stampedIdentity device.2).Nodup

section

variable {defaults devices : List (String × Entries)} {result : Entries} {r : Reconciling}
  {device : String × Entries}

theorem DistinctIdentities.eq_of_stamped (h : DistinctIdentities defaults)
    {device other : String × Entries} (hdevice : device ∈ defaults) (hother : other ∈ defaults)
    {serial : String} (hserial : stampedIdentity device.2 = some serial)
    (hsame : stampedIdentity other.2 = some serial) : device = other := by
  by_contra hne
  have hpairs := List.pairwise_filterMap.mp h
  have hsymm : Std.Symm fun a b : String × Entries => ∀ s, stampedIdentity a.2 = some s →
      ∀ s', stampedIdentity b.2 = some s' → s ≠ s' :=
    ⟨fun _ _ hab s hs s' hs' heq => hab s' hs' s hs heq.symm⟩
  exact hpairs.forall hdevice hother hne serial hserial serial hsame rfl

/-- **In a reconciled state a device owns the entry under its name.** -/
theorem Settled.runtimeDeviceFor_eq (h : Settled defaults result)
    (hidentities : DistinctIdentities defaults) (hdevice : device ∈ defaults) :
    runtimeDeviceFor result device.1 (getValue device.2 "identity") = some device.1 := by
  obtain ⟨state, hstate, -, hserial⟩ := h.entries device hdevice
  have hnamed : namedRuntimeDevice result device.1 (stampedIdentity device.2) = some device.1 := by
    unfold namedRuntimeDevice
    rw [hstate]
    exact if_pos (.inr hserial)
  have hnodup : (result.map Prod.fst).Nodup := h.keys ▸ h.names
  unfold runtimeDeviceFor
  dsimp only
  split
  · rename_i entry hentry
    obtain ⟨serial, hident, hhead⟩ := Option.bind_eq_some_iff.mp hentry
    obtain ⟨hmem, hcarries⟩ := List.mem_filter.mp (List.mem_of_head? hhead)
    have hname : entry.1 ∈ defaults.map Prod.fst := h.keys ▸ List.mem_map_of_mem hmem
    obtain ⟨other, hother, hsame⟩ := List.mem_map.mp hname
    obtain ⟨found, hfound, -, hother'⟩ := h.entries other hother
    rw [hsame, dictGet_of_mem_entries hnodup hmem] at hfound
    rw [Option.some.inj hfound] at hcarries
    have hcarried : stampedIdentity other.2 = some serial := by
      rw [← hother']
      exact of_decide_eq_true hcarries
    rw [hidentities.eq_of_stamped hdevice hother hident hcarried, hsame]
  · exact hnamed

theorem Settled.foldl_reconcileDevice (h : Settled defaults result)
    (hidentities : DistinctIdentities defaults) (hdevices : devices ⊆ defaults)
    (hnames : (devices.map Prod.fst).Nodup)
    (hfree : ∀ device ∈ devices, device.1 ∉ r.consumed ∧ dictGet r.merged device.1 = none) :
    devices.foldl (reconcileDevice result) r =
      { merged := r.merged ++ devices.map fun device => (device.1, getValue result device.1)
        consumed := (devices.map Prod.fst).reverse ++ r.consumed
        changes := r.changes } := by
  induction devices generalizing r with
  | nil => simp
  | cons device devices ih =>
    rw [List.map_cons, List.nodup_cons] at hnames
    obtain ⟨hconsumed, hnew⟩ := hfree device List.mem_cons_self
    have hdevice := hdevices List.mem_cons_self
    obtain ⟨state, hstate, hadopted, hserial⟩ := h.entries device hdevice
    have hchanges : r.changes.adopt device.1 device.1 (stampedIdentity device.2)
        (stampedIdentity state) = r.changes := by
      unfold Changes.adopt
      rw [if_neg (not_not.mpr rfl), hserial]
      cases stampedIdentity device.2 <;> simp
    have hstep : reconcileDevice result r device =
        { merged := r.merged ++ [(device.1, .dict state)]
          consumed := device.1 :: r.consumed
          changes := r.changes } := by
      unfold reconcileDevice
      dsimp only
      rw [h.runtimeDeviceFor_eq hidentities hdevice]
      dsimp only
      rw [if_neg hconsumed, hstate]
      dsimp only
      rw [hadopted, hchanges, dictSet_of_notMem hnew]
    have hvalue : getValue result device.1 = .dict state := by rw [getValue, hstate]; rfl
    rw [List.foldl_cons, hstep, ih (fun other hother => hdevices (List.mem_cons_of_mem _ hother))
      hnames.2, List.map_cons, List.map_cons, hvalue, List.reverse_cons, List.append_assoc,
      List.append_assoc]
    · rfl
    · intro other hother
      have hne : device.1 ≠ other.1 := fun heq =>
        hnames.1 (heq ▸ List.mem_map_of_mem hother)
      obtain ⟨hotherFree, hotherNew⟩ := hfree other (List.mem_cons_of_mem _ hother)
      refine ⟨fun hmem => ?_, ?_⟩
      · rcases List.mem_cons.mp hmem with heq | hold
        · exact hne heq.symm
        · exact hotherFree hold
      · show dictGet (r.merged ++ _) other.1 = none
        rw [dictGet_append, hotherNew, dictGet_cons, if_neg hne]
        rfl

theorem foldl_reconcileOrphan_taken {loaded : Entries} (h : ∀ entry ∈ loaded, entry.1 ∈ r.consumed) :
    loaded.foldl (reconcileOrphan true) r = r := by
  induction loaded with
  | nil => rfl
  | cons entry loaded ih =>
    rw [List.foldl_cons, reconcileOrphan, if_pos (h entry List.mem_cons_self)]
    exact ih fun other hother => h other (List.mem_cons_of_mem _ hother)

theorem Settled.reconcile_eq (h : Settled defaults result)
    (hidentities : DistinctIdentities defaults) (hsome : defaults ≠ []) :
    reconcileRuntimeDevices result defaults true = (result, {}) := by
  have hnodup : (result.map Prod.fst).Nodup := h.keys ▸ h.names
  have hfold := h.foldl_reconcileDevice (r := {}) hidentities (List.Subset.refl _) h.names
    fun device _ => ⟨List.not_mem_nil, rfl⟩
  have hall : defaults.map (fun device => (device.1, getValue result device.1)) = result := by
    have hvalues := map_getValue hnodup
    rwa [h.keys, List.map_map] at hvalues
  have hempty : ¬defaults.isEmpty = true := by simpa using hsome
  unfold reconcileRuntimeDevices
  rw [if_neg hempty, hfold]
  dsimp only
  rw [foldl_reconcileOrphan_taken, List.nil_append, hall]
  intro entry hentry
  have hname : entry.1 ∈ defaults.map Prod.fst := h.keys ▸ List.mem_map_of_mem hentry
  exact List.mem_append_left _ (List.mem_reverse.mpr hname)

end

/-! ### After a first reconciliation -/

section

variable {loaded : Entries} {defaults : List (String × Entries)} {r : Reconciling}

theorem merged_reconcileOrphan_pruning (loaded : Entries) (r : Reconciling) :
    (loaded.foldl (reconcileOrphan true) r).merged = r.merged := by
  induction loaded generalizing r with
  | nil => rfl
  | cons entry loaded ih =>
    rw [List.foldl_cons, ih, reconcileOrphan, if_pos rfl]
    split <;> rfl

theorem reconcileRuntimeDevices_pruning (hloaded : (loaded.map Prod.fst).Nodup)
    (hnames : (defaults.map Prod.fst).Nodup) (hsome : defaults ≠ []) :
    (reconcileRuntimeDevices loaded defaults true).1 =
      (takeOver loaded [] defaults).map (resultEntry loaded) := by
  have hempty : ¬defaults.isEmpty = true := by simpa using hsome
  have hfold := foldl_reconcileDevice (r := {}) hloaded hnames fun _ _ => rfl
  unfold reconcileRuntimeDevices
  rw [if_neg hempty]
  dsimp only
  rw [merged_reconcileOrphan_pruning, hfold.1]
  rfl

theorem nodup_objectAt (hloaded : Proper (.dict loaded)) (name : String) :
    ((objectAt loaded name).map Prod.fst).Nodup := by
  unfold objectAt getValue
  cases hget : dictGet loaded name with
  | none => exact List.nodup_nil
  | some value =>
    have hproper := hloaded.of_dictGet hget
    cases value with
    | dict state => exact (proper_dict.mp hproper).1
    | none | bool b | int z | float x | str s | list items => exact List.nodup_nil

theorem settled_reconcile (hloaded : Proper (.dict loaded)) (hnames : (defaults.map Prod.fst).Nodup)
    (hstamped : ∀ device ∈ defaults, Stamped device.2) (hsome : defaults ≠ []) :
    Settled defaults (reconcileRuntimeDevices loaded defaults true).1 := by
  rw [reconcileRuntimeDevices_pruning (proper_dict.mp hloaded).1 hnames hsome]
  have hkeys := map_fst_resultEntry loaded defaults
  refine ⟨hkeys, hnames, fun device hdevice => ?_⟩
  have hd := hstamped device hdevice
  obtain ⟨owner, howner, rfl⟩ : ∃ owner ∈ takeOver loaded [] defaults, owner.1 = device := by
    rw [← map_fst_takeOver loaded [] defaults] at hdevice
    exact List.mem_map.mp hdevice
  have hentry := dictGet_of_mem_entries (hkeys ▸ hnames)
    (List.mem_map_of_mem (f := resultEntry loaded) howner)
  -- A device without an entry to take over is as if it took an empty one over.
  obtain ⟨state, hstate, hresult⟩ : ∃ state : Entries, (state.map Prod.fst).Nodup ∧
      resultEntry loaded owner = (owner.1.1, .dict (adoptedEntry owner.1.2 state)) := by
    unfold resultEntry
    cases owner.2 with
    | none => exact ⟨[], List.nodup_nil, by rw [adoptedEntry_nil hd]⟩
    | some matched => exact ⟨objectAt loaded matched, nodup_objectAt hloaded matched, rfl⟩
  rw [hresult] at hentry
  refine ⟨_, hentry, adoptedEntry_idem hd hstate, ?_⟩
  unfold stampedIdentity getValue
  rw [dictGet_adoptedEntry _ hstate, if_neg (by decide), if_pos rfl, hd.identity]

theorem sanitizedDevice_idem (state : PyValue) :
    sanitizedDevice (sanitizedDevice state) = sanitizedDevice state := by
  cases state with
  | dict entries =>
    show PyValue.dict (dictPop (dictPop entries _) _) = PyValue.dict (dictPop entries _)
    rw [dictPop, dictPop, List.filter_filter]
    simp
  | _ => rfl

/-- **Reconciling twice is reconciling once**, whatever was loaded. -/
theorem reconcile_stamped_twice (hloaded : Proper (.dict loaded))
    (hnames : (defaults.map Prod.fst).Nodup) (hidentities : DistinctIdentities defaults)
    (hstamped : ∀ device ∈ defaults, Stamped device.2) :
    reconcileRuntimeDevices (reconcileRuntimeDevices loaded defaults true).1 defaults true =
      ((reconcileRuntimeDevices loaded defaults true).1, {}) := by
  by_cases hsome : defaults = []
  · subst hsome
    show (List.map _ (List.map _ loaded), _) = (List.map _ loaded, _)
    rw [List.map_map]
    refine congrArg (·, ({} : Changes)) (List.map_congr_left fun entry _ => ?_)
    exact congrArg (Prod.mk entry.1) (sanitizedDevice_idem entry.2)
  · exact (settled_reconcile hloaded hnames hstamped hsome).reconcile_eq hidentities hsome

end

/-! ### The configured devices' own defaults -/

namespace ConfiguredDevice

variable (dev : ConfiguredDevice)

theorem cleanIdentity_identity {ident : String} (h : dev.identity = some ident) :
    cleanIdentity (.str ident) = some ident := by
  have hread : (if pyStrip dev.sn = "" then none else some (pyStrip dev.sn)) = some ident := h
  split_ifs at hread with hblank
  obtain rfl := Option.some.inj hread
  rw [cleanIdentity, pyStrip_pyStrip, if_neg hblank]

theorem stampedIdentity_runtimeDefaults :
    stampedIdentity dev.runtimeDefaults = dev.identity := by
  unfold stampedIdentity runtimeDefaults getValue
  cases h : dev.identity with
  | none => rfl
  | some ident => exact dev.cleanIdentity_identity h

theorem stamped_runtimeDefaults : Stamped dev.runtimeDefaults where
  keys := by
    unfold runtimeDefaults
    cases dev.identity with
    | none => exact (by decide : ["enabled", "max_power", "offgrid_socket_mode",
        "pv_priority_factor", "ac_charge_enabled"].Nodup)
    | some ident => exact (by decide : ["enabled", "max_power", "offgrid_socket_mode",
        "pv_priority_factor", "ac_charge_enabled", "identity"].Nodup)
  identity := by
    rw [stampedIdentity_runtimeDefaults]
    unfold runtimeDefaults
    cases dev.identity <;> rfl

end ConfiguredDevice

section

variable {devices : List ConfiguredDevice}

theorem buildRuntimeDevices_eq (hnames : (devices.map ConfiguredDevice.name).Nodup) :
    buildRuntimeDevices devices = devices.map fun dev => (dev.name, dev.runtimeDefaults) := by
  have hfold : ∀ (devices : List ConfiguredDevice) (built : List (String × Entries)),
      (built.map Prod.fst ++ devices.map ConfiguredDevice.name).Nodup →
      devices.foldl (fun defaults dev => dictSet defaults dev.name dev.runtimeDefaults) built =
        built ++ devices.map fun dev => (dev.name, dev.runtimeDefaults) := by
    intro devices
    induction devices with
    | nil => simp
    | cons dev devices ih =>
      intro built hdistinct
      have hnew : ¬built.any (·.1 = dev.name) = true := by
        intro hany
        obtain ⟨entry, hentry, hname⟩ := List.any_eq_true.mp hany
        refine (List.nodup_append.mp hdistinct).2.2 _ (List.mem_map_of_mem hentry) dev.name ?_
          (of_decide_eq_true hname)
        exact List.mem_cons_self
      have hset : dictSet built dev.name dev.runtimeDefaults =
          built ++ [(dev.name, dev.runtimeDefaults)] := if_neg hnew
      rw [List.foldl_cons, hset, ih, List.append_assoc]
      · rfl
      · rw [List.map_append, List.append_assoc]
        exact hdistinct
  exact hfold devices [] hnames

/-- **A second reconciliation changes nothing.**  Whatever was loaded, and for any devices with
names and serials of their own. -/
theorem reconcile_twice (hnames : (devices.map ConfiguredDevice.name).Nodup)
    (hidentities : (devices.filterMap ConfiguredDevice.identity).Nodup) {loaded : Entries}
    (hloaded : Proper (.dict loaded)) :
    reconcileRuntimeDevices
        (reconcileRuntimeDevices loaded (buildRuntimeDevices devices) true).1
        (buildRuntimeDevices devices) true =
      ((reconcileRuntimeDevices loaded (buildRuntimeDevices devices) true).1, {}) := by
  rw [buildRuntimeDevices_eq hnames]
  refine reconcile_stamped_twice hloaded ?_ ?_ ?_
  · rw [List.map_map]
    exact hnames
  · unfold DistinctIdentities
    rw [List.filterMap_map]
    have hserials : ((fun device : String × Entries => stampedIdentity device.2) ∘
        fun dev : ConfiguredDevice => (dev.name, dev.runtimeDefaults)) =
          ConfiguredDevice.identity := by
      funext dev
      rw [Function.comp_apply, dev.stampedIdentity_runtimeDefaults]
    rw [hserials]
    exact hidentities
  · intro device hdevice
    obtain ⟨other, -, rfl⟩ := List.mem_map.mp hdevice
    exact other.stamped_runtimeDefaults

end

/-- A device that was renamed, and one that is new. -/
def renamedDevices : List ConfiguredDevice :=
  [⟨"Garage", "S1", 800, none, 1, true⟩, ⟨"Roof", "S2", 1200, some 1, 2, false⟩]

theorem reconcile_twice_renamed :
    reconcileRuntimeDevices
        (reconcileRuntimeDevices reusedLoaded (buildRuntimeDevices renamedDevices) true).1
        (buildRuntimeDevices renamedDevices) true =
      ((reconcileRuntimeDevices reusedLoaded (buildRuntimeDevices renamedDevices) true).1, {}) :=
  reconcile_twice (by decide) (by decide) (by simp [reusedLoaded, Proper, ProperEntries])

end SolarFlowEms.Runtime
