import SolarFlowEms.Discovery.Proposals

/-!
# Whether a proposed write route was observed

The partition of the snapshots and its conflicts are theirs, whatever the order.  The write route of
a proposal is not one of theirs in every case: each half comes from the first snapshot of the group
that has it, and what blocks an ambiguous group are two complete routes.  A group in which no
snapshot carries both first halves is proposed under an address that no device was seen on.
-/

namespace SolarFlowEms.Discovery

open Python Grouping Mqtt

section Observed

variable (texts : NameTexts) (source brokerRef : Option String) (seedEvidence : SeedEvidence)

/-- The first value that Python takes for true. -/
def firstOf (field : ZendureMqttSnapshot → Option String) (snaps : List ZendureMqttSnapshot) :
    Option String :=
  snaps.findSome? fun snap => ifTruthy (field snap)

def snapsOf (group : SnapshotGroup) : List ZendureMqttSnapshot := group.members.map Prod.fst

def seededView (group : SnapshotGroup) : DeviceView :=
  seedViewEvidence seedEvidence (viewOf texts (snapsOf group))

/-- A group nothing blocks but a missing half: no conflict, a model that may be written over the
broker, and no grid meter. -/
def Controllable (group : SnapshotGroup) : Prop :=
  let view := seededView texts seedEvidence group
  group.mark = none ∧ (capabilityOf texts source view).supported = true ∧
    ¬ (roleHint view.capabilities view.metricKeys = .gridMeter ∧
      (d0TotalPowerTopic source view).isSome = true)

/-- What is seen of a group whatever the order: its snapshots and its conflict. -/
def summary (group : SnapshotGroup) : Multiset ZendureMqttSnapshot × Option Conflict :=
  (↑(snapsOf group), group.mark)

def Carried (group : SnapshotGroup) (deviceId productKey : String) : Prop :=
  ∃ snap ∈ snapsOf group, snap.deviceId = some deviceId ∧ snap.productKey = some productKey

/-- The partition is one of the snapshots, by serial, whatever their order; and a proposal with
output control names a write route that one snapshot of its group carried. -/
structure RoutesObserved (snapshots : List ZendureMqttSnapshot) : Prop where
  once : ((orderedGroups texts snapshots).flatMap Group.members).Perm snapshots.zipIdx
  oneSerial : ∀ group ∈ orderedGroups texts snapshots, ∀ snap ∈ snapsOf group,
    ∀ snap' ∈ snapsOf group, ∀ serial serial',
      (snapshotIdentityKeys texts snap).serial = some serial →
        (snapshotIdentityKeys texts snap').serial = some serial' → serial = serial'
  anyOrder : ∀ snapshots', snapshots.Perm snapshots' →
    ((orderedGroups texts snapshots).map summary).Perm
      ((orderedGroups texts snapshots').map summary)
  carried : ∀ group ∈ orderedGroups texts snapshots, ∀ label,
    let proposal := proposalOf texts source brokerRef seedEvidence label group
    proposal.outputControlSupported = true → ∃ deviceId productKey,
      proposal.deviceId = some deviceId ∧ proposal.productKey = some productKey ∧
        proposal.configFragment.mqtt.deviceId = some deviceId ∧
        proposal.configFragment.mqtt.productKey = some productKey ∧
        Carried group deviceId productKey

/-- In every group that nothing else blocks, the first device id and the first product key stand in
one snapshot. -/
def HalvesTogether (snapshots : List ZendureMqttSnapshot) : Prop :=
  ∀ group ∈ orderedGroups texts snapshots, Controllable texts source seedEvidence group →
    ∀ deviceId productKey, firstOf (·.deviceId) (snapsOf group) = some deviceId →
      firstOf (·.productKey) (snapsOf group) = some productKey →
        Carried group deviceId productKey

variable {texts source brokerRef seedEvidence} {snapshots : List ZendureMqttSnapshot}

/-! ### The fields of a view -/

theorem ifTruthy_pyOr (a b : Option String) : ifTruthy (pyOr a b) = (ifTruthy a).or (ifTruthy b) := by
  cases a with
  | none => simp [pyOr, truthy, ifTruthy]
  | some text => by_cases htext : text = "" <;>
    simp [pyOr, truthy, ifTruthy, Option.filter, htext]

theorem ifTruthy_eq_some {a : Option String} {text : String} :
    ifTruthy a = some text ↔ a = some text ∧ truthy a = true := by
  simp only [ifTruthy, truthy, Option.filter_eq_some_iff]
  exact and_congr_right fun h => by simp [h]

theorem exists_of_truthy {a : Option String} (h : truthy a = true) :
    ∃ text, a = some text ∧ ifTruthy a = some text := by
  cases a with
  | none => contradiction
  | some text => exact ⟨text, rfl, ifTruthy_eq_some.mpr ⟨rfl, h⟩⟩

theorem addModelEvidence_fields (view : DeviceView) (source value : String) :
    (view.addModelEvidence source value).deviceId = view.deviceId ∧
      (view.addModelEvidence source value).productKey = view.productKey ∧
      (view.addModelEvidence source value).preciseRoutes = view.preciseRoutes := by
  rw [DeviceView.addModelEvidence]
  split <;> exact ⟨rfl, rfl, rfl⟩

theorem addProduct_fields (view : DeviceView) (product : Option String) :
    (view.addProduct product).deviceId = view.deviceId ∧
      (view.addProduct product).productKey = view.productKey ∧
      (view.addProduct product).preciseRoutes = view.preciseRoutes := by
  rw [DeviceView.addProduct]
  split
  · exact addModelEvidence_fields _ _ _
  · exact ⟨rfl, rfl, rfl⟩

theorem seedViewEvidence_fields (view : DeviceView) :
    (seedViewEvidence seedEvidence view).deviceId = view.deviceId ∧
      (seedViewEvidence seedEvidence view).productKey = view.productKey ∧
      (seedViewEvidence seedEvidence view).preciseRoutes = view.preciseRoutes := by
  rw [seedViewEvidence]
  generalize (List.find? _ _).getD [] = entries
  induction entries generalizing view with
  | nil => exact ⟨rfl, rfl, rfl⟩
  | cons entry entries ih =>
    rw [List.foldl_cons]
    obtain ⟨hdevice, hkey, hroutes⟩ := ih
      (if entry.1 ∈ seedableEvidenceSources then view.addModelEvidence entry.1 entry.2 else view)
    rw [hdevice, hkey, hroutes]
    split
    · exact addModelEvidence_fields _ _ _
    · exact ⟨rfl, rfl, rfl⟩

theorem merge_deviceId (view : DeviceView) (snap : ZendureMqttSnapshot) :
    (view.merge texts snap).deviceId = pyOr view.deviceId snap.deviceId :=
  (addProduct_fields _ _).1

theorem merge_productKey (view : DeviceView) (snap : ZendureMqttSnapshot) :
    (view.merge texts snap).productKey = pyOr view.productKey snap.productKey :=
  (addProduct_fields _ _).2.1

theorem ifTruthy_foldl_merge {field : DeviceView → Option String}
    {half : ZendureMqttSnapshot → Option String}
    (hmerge : ∀ view snap, field (DeviceView.merge texts view snap) = pyOr (field view) (half snap))
    (snaps : List ZendureMqttSnapshot) (view : DeviceView) :
    ifTruthy (field (snaps.foldl (DeviceView.merge texts) view)) =
      (ifTruthy (field view)).or (firstOf half snaps) := by
  induction snaps generalizing view with
  | nil => simp [firstOf]
  | cons snap snaps ih =>
    rw [List.foldl_cons, ih, hmerge, ifTruthy_pyOr, Option.or_assoc]
    refine congrArg _ ?_
    rw [firstOf, firstOf, List.findSome?_cons]
    cases ifTruthy (half snap) <;> rfl

/-- **Each half of the route is the first one seen.** -/
theorem ifTruthy_viewOf (snaps : List ZendureMqttSnapshot) :
    ifTruthy (viewOf texts snaps).deviceId = firstOf (·.deviceId) snaps ∧
      ifTruthy (viewOf texts snaps).productKey = firstOf (·.productKey) snaps :=
  ⟨(ifTruthy_foldl_merge merge_deviceId snaps {}).trans (by simp [ifTruthy]),
    (ifTruthy_foldl_merge merge_productKey snaps {}).trans (by simp [ifTruthy])⟩

/-! ### The routes of a view -/

theorem mem_joined {α : Type*} [DecidableEq α] {s t : List α} {a : α} :
    a ∈ joined s t ↔ a ∈ s ∨ a ∈ t := by
  simp only [joined, List.mem_append, List.mem_dedup, List.mem_filter, decide_eq_true_eq]
  tauto

theorem nodup_joined {α : Type*} [DecidableEq α] {s : List α} (hs : s.Nodup) (t : List α) :
    (joined s t).Nodup := by
  refine List.nodup_append.mpr ⟨hs, List.nodup_dedup _, ?_⟩
  intro a ha b hb hab
  have hmem := List.mem_filter.mp (List.mem_dedup.mp hb)
  exact of_decide_eq_true hmem.2 (hab ▸ ha)

theorem mem_routesOf {route : String × String} {snaps : List ZendureMqttSnapshot} :
    route ∈ routesOf texts snaps ↔
      ∃ snap ∈ snaps, (snapshotIdentityKeys texts snap).productKey = some route.1 ∧
        (snapshotIdentityKeys texts snap).deviceId = some route.2 := by
  simp only [routesOf, List.mem_dedup, List.mem_filterMap]
  refine exists_congr fun snap => and_congr_right fun _ => ?_
  cases snapshotIdentityKeys texts snap with
  | mk serial dev productKey =>
    obtain ⟨pk, d⟩ := route
    cases dev <;> cases productKey <;> simp

theorem clean_of_not_truthy {foldCase : Bool} {value : Option String} (h : truthy value = false) :
    clean texts foldCase value = none := by
  cases value with
  | none => rfl
  | some text =>
    have htext : text = "" := by simpa [truthy] using h
    subst htext
    have hmasked : isMaskedIdentityValue texts "" = true := by
      have hstrip : pyStrip "" = "" := by decide
      simp [isMaskedIdentityValue, hstrip]
    simp [clean, hmasked]

theorem snapshotIdentityKeys_route (snap : ZendureMqttSnapshot) :
    (snapshotIdentityKeys texts snap).deviceId = normalizeMqttRouteSegment texts snap.deviceId ∧
      (snapshotIdentityKeys texts snap).productKey =
        normalizeMqttRouteSegment texts snap.productKey := by
  constructor
  · rw [snapshotIdentityKeys]
    split
    · rfl
    · next h => exact (clean_of_not_truthy (Bool.eq_false_iff.mpr h)).symm
  · rw [snapshotIdentityKeys]
    dsimp only
    split
    · rfl
    · next h => exact (clean_of_not_truthy (Bool.eq_false_iff.mpr h)).symm

theorem merge_preciseRoutes (view : DeviceView) (snap : ZendureMqttSnapshot) :
    (view.merge texts snap).preciseRoutes = joined view.preciseRoutes (routesOf texts [snap]) := by
  obtain ⟨hdevice, hkey⟩ := @snapshotIdentityKeys_route texts snap
  simp only [DeviceView.merge, (addProduct_fields _ _).2.2, ← hdevice, ← hkey, routesOf]
  cases hkeys : snapshotIdentityKeys texts snap with
  | mk serial dev productKey => cases dev <;> cases productKey <;> simp [joined, hkeys]

theorem preciseRoutes_viewOf (snaps : List ZendureMqttSnapshot) :
    (viewOf texts snaps).preciseRoutes.length = (routesOf texts snaps).length := by
  have hrun : ∀ view : DeviceView, view.preciseRoutes.Nodup →
      (snaps.foldl (DeviceView.merge texts) view).preciseRoutes.Nodup ∧
        ∀ route, route ∈ (snaps.foldl (DeviceView.merge texts) view).preciseRoutes ↔
          route ∈ view.preciseRoutes ∨ route ∈ routesOf texts snaps := by
    induction snaps with
    | nil => simp [routesOf]
    | cons snap snaps ih =>
      intro view hnd
      obtain ⟨hnodup, hmem⟩ := ih (view.merge texts snap)
        (by rw [merge_preciseRoutes]; exact nodup_joined hnd _)
      refine ⟨hnodup, fun route => ?_⟩
      rw [List.foldl_cons, hmem, merge_preciseRoutes, mem_joined, or_assoc]
      refine or_congr_right ?_
      simp [mem_routesOf]
  obtain ⟨hnodup, hmem⟩ := hrun {} List.nodup_nil
  refine ((List.perm_ext_iff_of_nodup hnodup (List.nodup_dedup _)).mpr fun route => ?_).length_eq
  rw [hmem]
  simp [routesOf]

/-! ### When a proposal has output control -/

theorem unambiguous_of_mark {group : SnapshotGroup} (hg : group ∈ orderedGroups texts snapshots)
    (hmark : group.mark = none) :
    ¬ 1 < (seededView texts seedEvidence group).preciseRoutes.length := by
  obtain ⟨group', hg', hkey, hmark', hperm⟩ := mem_orderedGroups hg
  rw [hmark', mark_grouped hg', conflictOf] at hmark
  rw [seededView, (seedViewEvidence_fields _).2.2, preciseRoutes_viewOf]
  have hroutes : (routesOf texts (snapsOf group)).length =
      (routesOf texts (group'.members.map Prod.fst)).length :=
    ((hperm.map Prod.fst).filterMap _).dedup.length_eq
  rw [hroutes]
  split at hmark
  · contradiction
  · split at hmark
    · contradiction
    · assumption

theorem seededView_fields (group : SnapshotGroup) :
    ifTruthy (seededView texts seedEvidence group).deviceId = firstOf (·.deviceId) (snapsOf group) ∧
      ifTruthy (seededView texts seedEvidence group).productKey =
        firstOf (·.productKey) (snapsOf group) := by
  rw [seededView, (seedViewEvidence_fields _).1, (seedViewEvidence_fields _).2.1]
  exact ifTruthy_viewOf _

theorem outputControlSupported_iff (label : String) (group : SnapshotGroup) :
    (proposalOf texts source brokerRef seedEvidence label group).outputControlSupported = true ↔
      Controllable texts source seedEvidence group ∧
        truthy (seededView texts seedEvidence group).productKey = true ∧
        truthy (seededView texts seedEvidence group).deviceId = true := by
  have h : (proposalOf texts source brokerRef seedEvidence label group).outputControlSupported =
      ((capabilityOf texts source (seededView texts seedEvidence group)).supported &&
        (truthy (seededView texts seedEvidence group).productKey &&
          truthy (seededView texts seedEvidence group).deviceId) &&
        (if roleHint (seededView texts seedEvidence group).capabilities
            (seededView texts seedEvidence group).metricKeys = .gridMeter then
          d0TotalPowerTopic source (seededView texts seedEvidence group) else none).isNone &&
        group.mark.isNone) := rfl
  rw [h, Controllable]
  by_cases hgrid : roleHint (seededView texts seedEvidence group).capabilities
    (seededView texts seedEvidence group).metricKeys = .gridMeter
  · simp only [hgrid, if_true, Bool.and_eq_true, Option.isNone_iff_eq_none, true_and,
      Bool.not_eq_true, Option.isSome_eq_false_iff]
    tauto
  · simp only [hgrid, if_false, Bool.and_eq_true, Option.isNone_none, Option.isNone_iff_eq_none,
      false_and, not_false_eq_true, and_true]
    tauto

/-! ### Routes that were observed -/

/-- **The order of the snapshots changes neither the partition nor the conflicts.** -/
theorem orderedGroups_summary_perm {snapshots' : List ZendureMqttSnapshot}
    (hperm : snapshots.Perm snapshots') :
    ((orderedGroups texts snapshots).map summary).Perm
      ((orderedGroups texts snapshots').map summary) := by
  have hsorted : ∀ snaps, ((orderedGroups texts snaps).map summary).Perm
      ((grouped texts snaps).map summary) := by
    intro snaps
    rw [orderedGroups, List.map_map]
    refine ((List.perm_insertionSort _ _).map _).trans (List.Perm.of_eq ?_)
    refine List.map_congr_left fun group _ => ?_
    exact Prod.ext (Multiset.coe_eq_coe.mpr ((List.perm_insertionSort _ _).map _)) rfl
  let spec := fun snaps anchor => ((↑(snaps.filter fun snap =>
    decide (anchorOf texts snaps snap = anchor)) : Multiset ZendureMqttSnapshot),
      conflictOf texts snaps anchor (snaps.filter fun snap =>
        decide (anchorOf texts snaps snap = anchor)))
  have hspec : ∀ snaps, (grouped texts snaps).map summary =
      ((grouped texts snaps).map Group.key).map (spec snaps) := by
    intro snaps
    rw [List.map_map]
    refine List.map_congr_left fun group hg => ?_
    have hmembers : (snapsOf group).Perm
        (snaps.filter fun snap => decide (anchorOf texts snaps snap = group.key)) := by
      refine ((members_perm hg).map Prod.fst).trans (List.Perm.of_eq ?_)
      conv_rhs => rw [← List.zipIdx_map_fst 0 snaps, List.filter_map]
      rw [List.zipIdx_map_fst]
      rfl
    refine Prod.ext (Multiset.coe_eq_coe.mpr hmembers) ?_
    exact (mark_grouped hg).trans (conflictOf_perm (List.Perm.refl _) _ hmembers)
  have hkeys : ((grouped texts snapshots).map Group.key).Perm
      ((grouped texts snapshots').map Group.key) := by
    refine (List.perm_ext_iff_of_nodup ?_ ?_).mpr fun anchor => ?_
    · exact (@tally_grouped texts snapshots).choose_spec.1.nodup
    · exact (@tally_grouped texts snapshots').choose_spec.1.nodup
    · rw [mem_keys_grouped, mem_keys_grouped, anchorOf_perm hperm]
      exact exists_congr fun snap => and_congr_left fun _ => hperm.mem_iff
  have hsame : spec snapshots = spec snapshots' := by
    funext anchor
    have hfilter := hperm.filter fun snap => decide (anchorOf texts snapshots' snap = anchor)
    refine Prod.ext (Multiset.coe_eq_coe.mpr ?_) ?_
    · rw [anchorOf_perm hperm]
      exact hfilter
    · refine conflictOf_perm hperm anchor ?_
      rw [anchorOf_perm hperm]
      exact hfilter
  refine (hsorted snapshots).trans (List.Perm.trans ?_ (hsorted snapshots').symm)
  rw [hspec, hspec, hsame]
  exact hkeys.map _

theorem proposalOf_route {group : SnapshotGroup} (hg : group ∈ orderedGroups texts snapshots)
    (hmark : group.mark = none) (label : String) :
    let proposal := proposalOf texts source brokerRef seedEvidence label group
    proposal.deviceId = (seededView texts seedEvidence group).deviceId ∧
      proposal.productKey = (seededView texts seedEvidence group).productKey ∧
      proposal.configFragment.mqtt.deviceId = firstOf (·.deviceId) (snapsOf group) ∧
      proposal.configFragment.mqtt.productKey = firstOf (·.productKey) (snapsOf group) := by
  have hunambiguous := @unambiguous_of_mark texts seedEvidence snapshots group hg hmark
  obtain ⟨hdevice, hkey⟩ := @seededView_fields texts seedEvidence group
  have hpinned : (if decide (1 < (seededView texts seedEvidence group).preciseRoutes.length) then none
      else (seededView texts seedEvidence group).productKey) =
        (seededView texts seedEvidence group).productKey := if_neg (by simpa using hunambiguous)
  have hwritten : (if decide (1 < (seededView texts seedEvidence group).preciseRoutes.length) then none
      else ifTruthy (seededView texts seedEvidence group).productKey) =
        ifTruthy (seededView texts seedEvidence group).productKey := if_neg (by simpa using hunambiguous)
  exact ⟨rfl, hpinned, hdevice, hwritten.trans hkey⟩

theorem route_carried (h : HalvesTogether texts source seedEvidence snapshots)
    {group : SnapshotGroup} (hg : group ∈ orderedGroups texts snapshots) (label : String)
    (hsupported : (proposalOf texts source brokerRef seedEvidence label
      group).outputControlSupported = true) :
    let proposal := proposalOf texts source brokerRef seedEvidence label group
    ∃ deviceId productKey, proposal.deviceId = some deviceId ∧
      proposal.productKey = some productKey ∧
        proposal.configFragment.mqtt.deviceId = some deviceId ∧
        proposal.configFragment.mqtt.productKey = some productKey ∧
        Carried group deviceId productKey := by
  obtain ⟨hcontrollable, hkey, hdevice⟩ := (outputControlSupported_iff label group).mp hsupported
  obtain ⟨hviewDevice, hviewKey⟩ := @seededView_fields texts seedEvidence group
  obtain ⟨d, hd, hd'⟩ := exists_of_truthy hdevice
  obtain ⟨pk, hpk, hpk'⟩ := exists_of_truthy hkey
  obtain ⟨hrouteDevice, hrouteKey, hwrittenDevice, hwrittenKey⟩ :=
    @proposalOf_route texts source brokerRef seedEvidence snapshots group hg hcontrollable.1 label
  have hfirstDevice := hviewDevice.symm.trans hd'
  have hfirstKey := hviewKey.symm.trans hpk'
  exact ⟨d, pk, hrouteDevice.trans hd, hrouteKey.trans hpk, hwrittenDevice.trans hfirstDevice,
    hwrittenKey.trans hfirstKey, h group hg hcontrollable d pk hfirstDevice hfirstKey⟩

/-- **A proposal with output control names a route one snapshot carried if and only if the first
device id and the first product key of every group that nothing else blocks stand together.** -/
theorem routes_observed_iff : RoutesObserved texts source brokerRef seedEvidence snapshots ↔
    HalvesTogether texts source seedEvidence snapshots := by
  constructor
  · intro h group hg hcontrollable deviceId productKey hdevice hkey
    obtain ⟨hviewDevice, hviewKey⟩ := @seededView_fields texts seedEvidence group
    have hsupported : (proposalOf texts source brokerRef seedEvidence "" group).outputControlSupported
        = true := (outputControlSupported_iff "" group).mpr ⟨hcontrollable,
          (ifTruthy_eq_some.mp (hviewKey.trans hkey)).2,
          (ifTruthy_eq_some.mp (hviewDevice.trans hdevice)).2⟩
    obtain ⟨d, pk, -, -, hd, hpk, hcarried⟩ := h.carried group hg "" hsupported
    obtain ⟨-, -, hrouteDevice, hrouteKey⟩ :=
      @proposalOf_route texts source brokerRef seedEvidence snapshots group hg hcontrollable.1 ""
    cases hdevice.symm.trans (hrouteDevice.symm.trans hd)
    cases hkey.symm.trans (hrouteKey.symm.trans hpk)
    exact hcarried
  · intro h
    refine ⟨orderedGroups_perm, ?_, fun _ hperm => orderedGroups_summary_perm hperm, ?_⟩
    · intro group hg snap hsnap snap' hsnap' serial serial' hs hs'
      obtain ⟨o, ho, rfl⟩ := List.mem_map.mp hsnap
      obtain ⟨o', ho', rfl⟩ := List.mem_map.mp hsnap'
      exact serial_unique hg ho ho' hs hs'
    · exact fun group hg label hsupported => route_carried h hg label hsupported

end Observed

/-! ### A route no device was seen on -/

/-- A device on the scalar topics of the cloud, where its serial stands for its id, and on its report
topic, under its own id and product key. -/
def scalarThenReport : List ZendureMqttSnapshot :=
  [ { deviceId := some "S1", serialNumber := some "S1", productKey := none, product := none
      topicFamilies := [.zendureCloudScalar], metrics := ["outputLimit"]
      capabilities := ["output_control"], seenTopics := [] },
    { deviceId := some "D2", serialNumber := some "S1", productKey := some "P"
      product := some "solarflow_800", topicFamilies := [.legacyZendureJsonAlt]
      metrics := ["outputLimit"], capabilities := ["output_control"], seenTopics := [] } ]

/-- **The proposal of the two is written to an address neither was seen on.** -/
theorem routes_not_observed : ¬ RoutesObserved asciiTexts (some "zendure_cloud_mqtt") (some "cloud")
    (fun _ => []) scalarThenReport := by
  intro h
  have hmixed : ∃ group ∈ orderedGroups asciiTexts scalarThenReport,
      (proposalOf asciiTexts (some "zendure_cloud_mqtt") (some "cloud") (fun _ => []) ""
        group).outputControlSupported = true ∧
      ∀ snap ∈ snapsOf group, ¬ (snap.deviceId = (proposalOf asciiTexts (some "zendure_cloud_mqtt")
        (some "cloud") (fun _ => []) "" group).deviceId ∧
          snap.productKey = (proposalOf asciiTexts (some "zendure_cloud_mqtt") (some "cloud")
            (fun _ => []) "" group).productKey) := by
    decide
  obtain ⟨group, hg, hsupported, hnone⟩ := hmixed
  obtain ⟨d, pk, hd, hpk, -, -, snap, hsnap, hdevice, hkey⟩ := h.carried group hg "" hsupported
  exact hnone snap hsnap ⟨hdevice.trans hd.symm, hkey.trans hpk.symm⟩

end SolarFlowEms.Discovery
