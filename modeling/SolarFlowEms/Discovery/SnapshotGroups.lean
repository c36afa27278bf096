import Mathlib.Data.List.Dedup
import Mathlib.Data.Multiset.MapFold
import SolarFlowEms.Discovery.HardwareProfiles
import SolarFlowEms.Library.Grouping

/-!
# Which snapshots are one device

Snapshots of one broker are grouped by trusted identity: a physical serial anchors its group and
draws in the snapshots without a serial that name a device id of its own; snapshots without a serial
are one device by device id, unless two product keys tell two routes apart; what has neither is
grouped by what it does have.  Five passes do this.  What they come to is one key for each snapshot,
`anchorOf`, so the partition and the conflicts are those of the snapshots, not of their order.
-/

namespace SolarFlowEms.Discovery

open Python Grouping

/-! ### Snapshots and their identity -/

/-- What mapping reads of one telemetry snapshot; of its metrics, the keys. -/
structure ZendureMqttSnapshot where
  deviceId : Option String
  serialNumber : Option String
  productKey : Option String
  product : Option String
  topicFamilies : List TopicFamily
  metrics : List String
  capabilities : List String
  seenTopics : List String
deriving DecidableEq

def truthy (value : Option String) : Bool := value.any (· ≠ "")

def maskMarkers : List Char := ['•', '…']

def redactedWords : List String := ["<redacted>", "[redacted]", "redacted"]

def placeholderPrefixes : List String := ["your_", "your-"]

section Identity

variable (texts : NameTexts)

def isMaskedIdentityValue (value : String) : Bool :=
  let cleaned := pyStrip value
  let folded := texts.casefold cleaned
  cleaned = "" || maskMarkers.any (· ∈ cleaned.toList) || folded ∈ redactedWords ||
    placeholderPrefixes.any (·.toList.isPrefixOf folded.toList) ||
      !cleaned.toList.any texts.isalnum

def clean (foldCase : Bool) (value : Option String) : Option String :=
  value.bind fun text =>
    if isMaskedIdentityValue texts text then none
    else some (if foldCase then texts.casefold (pyStrip text) else pyStrip text)

def normalizePhysicalSerial (value : Option String) : Option String := clean texts true value

def normalizeMqttRouteSegment (value : Option String) : Option String := clean texts false value

structure IdentityKeys where
  serial : Option String
  deviceId : Option String
  productKey : Option String
deriving DecidableEq

def snapshotIdentityKeys (snap : ZendureMqttSnapshot) : IdentityKeys where
  serial := normalizePhysicalSerial texts snap.serialNumber
  deviceId := if truthy snap.deviceId then normalizeMqttRouteSegment texts snap.deviceId else none
  productKey :=
    if truthy snap.productKey then normalizeMqttRouteSegment texts snap.productKey else none

end Identity

/-- `_primary_family`: the known family of the lowest rank. -/
def primaryFamily (topicFamilies : List TopicFamily) : TopicFamily :=
  ([.zensdkHaScalar, .legacyZendureJson, .legacyZendureJsonAlt, .zendureCloudScalar].find?
    (· ∈ topicFamilies)).getD .unknown

inductive LogicalKey where
  | sn (serialNumber : String)
  | dev (deviceId : String)
  | pk (productKey : String)
  | topic (family : TopicFamily)
deriving DecidableEq

def logicalKey (snap : ZendureMqttSnapshot) : LogicalKey :=
  if truthy snap.serialNumber then .sn (orEmpty snap.serialNumber)
  else if truthy snap.deviceId then .dev (orEmpty snap.deviceId)
  else if truthy snap.productKey then .pk (orEmpty snap.productKey)
  else .topic (primaryFamily snap.topicFamilies)

inductive Conflict where
  | serial
  | product
deriving DecidableEq

/-- What a group is found again by: the source's index dictionaries of the passes. -/
inductive Anchor where
  | serial (serial : String)
  | device (deviceId : String)
  | route (deviceId : String) (productKey : Option String)
  | fallback (key : LogicalKey)
deriving DecidableEq

/-- A snapshot and its place in the list. -/
abbrev Observation := ZendureMqttSnapshot × ℕ

abbrev SnapshotGroup := Group Anchor Observation Conflict

/-! ### The passes -/

section Passes

variable (texts : NameTexts) (snapshots : List ZendureMqttSnapshot)

/-- `device_to_serials[device_id]` -/
def serialsOn (deviceId : String) : List String :=
  (snapshots.filterMap fun snap =>
    let keys := snapshotIdentityKeys texts snap
    if keys.deviceId = some deviceId then keys.serial else none).dedup

def contested (deviceId : String) : Bool := 1 < (serialsOn texts snapshots deviceId).length

def candidates (deviceId : String) : List String :=
  if contested texts snapshots deviceId then [] else serialsOn texts snapshots deviceId

def onlyOne {α : Type*} : List α → Option α
  | [a] => some a
  | _ => none

/-- Pass 1, for one snapshot: a serial anchors it. -/
def anchorBySerial (o : Observation) : Option (Placement Anchor Observation Conflict) :=
  (snapshotIdentityKeys texts o.1).serial.map fun serial => (.serial serial, none, o)

/-- Pass 2: a device id claimed by two serials is a serial conflict of both. -/
def markContested (groups : List SnapshotGroup) : List SnapshotGroup :=
  groups.map fun group =>
    { group with
      mark :=
        match group.key with
        | .serial serial =>
            if snapshots.any fun snap => (snapshotIdentityKeys texts snap).deviceId.any fun dev =>
                contested texts snapshots dev && decide (serial ∈ serialsOn texts snapshots dev)
            then some .serial else group.mark
        | _ => group.mark }

/-- Pass 3, for one snapshot without a serial: the serial that alone owns its device id. -/
def attachToSerial (o : Observation) : Option (Placement Anchor Observation Conflict) :=
  match snapshotIdentityKeys texts o.1 with
  | ⟨none, some deviceId, _⟩ =>
    (onlyOne (candidates texts snapshots deviceId)).map fun serial => (.serial serial, none, o)
  | _ => none

/-- Pass 3, for one snapshot without a serial that no serial owns: deferred under its device id. -/
def deferToDevice (o : Observation) :
    Option (Placement String (Observation × Option String) Conflict) :=
  match snapshotIdentityKeys texts o.1 with
  | ⟨none, some deviceId, productKey⟩ =>
    match onlyOne (candidates texts snapshots deviceId) with
    | some _ => none
    | none => some (deviceId, none, (o, productKey))
  | _ => none

/-- `known_pks` -/
def knownProductKeys (entries : List (Observation × Option String)) : List String :=
  (entries.filterMap Prod.snd).dedup

/-- The anchor and the mark of a group that takes one of the deferred entries of a device id. -/
def deferredAnchor (entries : List (Observation × Option String)) (deviceId : String)
    (entry : Observation × Option String) : Placement Anchor Observation Conflict :=
  if (knownProductKeys entries).length ≤ 1 then
    (.device deviceId, if contested texts snapshots deviceId then some .serial else none, entry.1)
  else (.route deviceId entry.2, some .product, entry.1)

/-- The deferred snapshots of each device id in groups of their own. -/
def placeDeferred (deferred : List (Group String (Observation × Option String) Conflict)) :
    List (Placement Anchor Observation Conflict) :=
  deferred.flatMap fun device =>
    device.members.map (deferredAnchor texts snapshots device.members device.key)

/-- Pass 4, for one snapshot: neither a serial nor a device id. -/
def fallBack (o : Observation) : Option (Placement Anchor Observation Conflict) :=
  match snapshotIdentityKeys texts o.1 with
  | ⟨none, none, _⟩ => some (.fallback (logicalKey o.1), none, o)
  | _ => none

/-- The precise routes of a group. -/
def routesOf (members : List ZendureMqttSnapshot) : List (String × String) :=
  (members.filterMap fun snap =>
    match snapshotIdentityKeys texts snap with
    | ⟨_, some deviceId, some productKey⟩ => some (productKey, deviceId)
    | _ => none).dedup

/-- Pass 5: two precise routes are a product conflict where there is no other. -/
def blockRoutes (groups : List SnapshotGroup) : List SnapshotGroup :=
  groups.map fun group =>
    { group with
      mark :=
        match group.mark with
        | some conflict => some conflict
        | none =>
            if 1 < (routesOf texts (group.members.map Prod.fst)).length then some .product
            else none }

def serialGroups : List SnapshotGroup :=
  markContested texts snapshots (placeAll (snapshots.zipIdx.filterMap (anchorBySerial texts)) [])

/-- `deferred` -/
def deferredEntries : List (Group String (Observation × Option String) Conflict) :=
  placeAll (snapshots.zipIdx.filterMap (deferToDevice texts snapshots)) []

/-- Pass 3. -/
def deviceGroups : List SnapshotGroup :=
  placeAll (placeDeferred texts snapshots (deferredEntries texts snapshots))
    (placeAll (snapshots.zipIdx.filterMap (attachToSerial texts snapshots))
      (serialGroups texts snapshots))

def grouped : List SnapshotGroup :=
  blockRoutes texts
    (placeAll (snapshots.zipIdx.filterMap (fallBack texts)) (deviceGroups texts snapshots))

def firstOrder (group : SnapshotGroup) : ℕ := (group.members.map Prod.snd).min?.getD 0

/-- The groups in the order in which they were first seen, each with its snapshots in order. -/
def orderedGroups : List SnapshotGroup :=
  ((grouped texts snapshots).insertionSort fun g h => firstOrder g ≤ firstOrder h).map fun group =>
    { group with members := group.members.insertionSort fun o o' => o.2 ≤ o'.2 }

/-! ### The one key of a snapshot -/

/-- The product keys that the snapshots of a device id without a serial carry. -/
def knownOn (deviceId : String) : List String :=
  (snapshots.filterMap fun snap =>
    match snapshotIdentityKeys texts snap with
    | ⟨none, some dev, productKey⟩ => if dev = deviceId then productKey else none
    | _ => none).dedup

/-- The anchor of the group that takes the snapshot. -/
def anchorOf (snap : ZendureMqttSnapshot) : Anchor :=
  match snapshotIdentityKeys texts snap with
  | ⟨some serial, _, _⟩ => .serial serial
  | ⟨none, some deviceId, productKey⟩ =>
    match onlyOne (candidates texts snapshots deviceId) with
    | some serial => .serial serial
    | none =>
        if (knownOn texts snapshots deviceId).length ≤ 1 then .device deviceId
        else .route deviceId productKey
  | ⟨none, none, _⟩ => .fallback (logicalKey snap)

/-- What a new group of the anchor is marked with. -/
def openMark : Anchor → Option Conflict
  | .device deviceId => if contested texts snapshots deviceId then some .serial else none
  | .route _ _ => some .product
  | _ => none

/-- The mark of an anchor's group before the routes are compared. -/
def baseMark : Anchor → Option Conflict
  | .serial serial =>
      if snapshots.any fun snap => (snapshotIdentityKeys texts snap).deviceId.any fun dev =>
          contested texts snapshots dev && decide (serial ∈ serialsOn texts snapshots dev)
      then some .serial else none
  | anchor => openMark texts snapshots anchor

/-- The conflict of a group with these snapshots. -/
def conflictOf (anchor : Anchor) (members : List ZendureMqttSnapshot) : Option Conflict :=
  match baseMark texts snapshots anchor with
  | some conflict => some conflict
  | none => if 1 < (routesOf texts members).length then some .product else none

/-- The placement of a snapshot, whichever pass makes it. -/
def placementOf (o : Observation) : Placement Anchor Observation Conflict :=
  (anchorOf texts snapshots o.1, openMark texts snapshots (anchorOf texts snapshots o.1), o)

def withoutSerial (o : Observation) : Option (Placement Anchor Observation Conflict) :=
  if (snapshotIdentityKeys texts o.1).serial = none then some (placementOf texts snapshots o)
  else none

/-- The placements of those that no serial group takes either. -/
def ownedByNone (o : Observation) : Option (Placement Anchor Observation Conflict) :=
  match snapshotIdentityKeys texts o.1 with
  | ⟨none, some deviceId, _⟩ =>
      if onlyOne (candidates texts snapshots deviceId) = none then
        some (placementOf texts snapshots o)
      else none
  | ⟨none, none, _⟩ => some (placementOf texts snapshots o)
  | _ => none

def entriesOf (deviceId : String) : List (Observation × Option String) :=
  under deviceId (snapshots.zipIdx.filterMap (deferToDevice texts snapshots))

variable {texts snapshots}

theorem filterMap_zipIdx {β : Type*} (f : ZendureMqttSnapshot → Option β) :
    snapshots.zipIdx.filterMap (fun o => f o.1) = snapshots.filterMap f := by
  conv_rhs => rw [← List.zipIdx_map_fst 0 snapshots, List.filterMap_map]
  rfl

variable {deviceId serial : String} {g : SnapshotGroup} {o : Observation}
  {p : Placement Anchor Observation Conflict}

theorem knownProductKeys_deferred (hnone : onlyOne (candidates texts snapshots deviceId) = none) :
    knownProductKeys (under deviceId
      (snapshots.zipIdx.filterMap (deferToDevice texts snapshots))) =
      knownOn texts snapshots deviceId := by
  rw [knownProductKeys, knownOn, ← filterMap_zipIdx, under, List.filterMap_map,
    List.filterMap_filter, List.filterMap_filterMap]
  refine congrArg List.dedup (List.filterMap_congr fun o _ => ?_)
  rw [deferToDevice]
  cases hkeys : snapshotIdentityKeys texts o.1 with
  | mk serial dev productKey =>
    cases serial with
    | some serial => rfl
    | none =>
      cases dev with
      | none => rfl
      | some dev =>
        by_cases hdev : dev = deviceId
        · subst hdev
          simp [hnone]
        · cases honly : onlyOne (candidates texts snapshots dev) <;> simp [honly, hdev]

theorem anchorBySerial_or (o : Observation) :
    (anchorBySerial texts o = some (placementOf texts snapshots o) ∧
        withoutSerial texts snapshots o = none) ∨
      (anchorBySerial texts o = none ∧
        withoutSerial texts snapshots o = some (placementOf texts snapshots o)) := by
  cases hkeys : snapshotIdentityKeys texts o.1 with
  | mk serial dev productKey =>
    cases serial with
    | some serial =>
      left
      simp [anchorBySerial, withoutSerial, placementOf, anchorOf, openMark, hkeys]
    | none =>
      right
      simp [anchorBySerial, withoutSerial, hkeys]

theorem attachToSerial_or (o : Observation) :
    (attachToSerial texts snapshots o = withoutSerial texts snapshots o ∧
        ownedByNone texts snapshots o = none) ∨
      (attachToSerial texts snapshots o = none ∧
        ownedByNone texts snapshots o = withoutSerial texts snapshots o) := by
  cases hkeys : snapshotIdentityKeys texts o.1 with
  | mk serial dev productKey =>
    cases serial with
    | some serial =>
      left
      simp [attachToSerial, withoutSerial, ownedByNone, hkeys]
    | none =>
      cases dev with
      | none =>
        right
        simp [attachToSerial, withoutSerial, ownedByNone, hkeys]
      | some dev =>
        cases honly : onlyOne (candidates texts snapshots dev) with
        | some serial =>
          left
          simp [attachToSerial, withoutSerial, ownedByNone, placementOf, anchorOf, openMark, hkeys,
            honly]
        | none =>
          right
          simp [attachToSerial, withoutSerial, ownedByNone, hkeys, honly]

theorem deferToDevice_or (o : Observation) :
    (((deferToDevice texts snapshots o).map fun p =>
        deferredAnchor texts snapshots (entriesOf texts snapshots p.1) p.1 p.2.2) =
        ownedByNone texts snapshots o ∧ fallBack texts o = none) ∨
      (((deferToDevice texts snapshots o).map fun p =>
        deferredAnchor texts snapshots (entriesOf texts snapshots p.1) p.1 p.2.2) = none ∧
        fallBack texts o = ownedByNone texts snapshots o) := by
  cases hkeys : snapshotIdentityKeys texts o.1 with
  | mk serial dev productKey =>
    cases serial with
    | some serial =>
      left
      simp [deferToDevice, ownedByNone, fallBack, hkeys]
    | none =>
      cases dev with
      | none =>
        right
        simp [deferToDevice, ownedByNone, fallBack, placementOf, anchorOf, openMark, hkeys]
      | some dev =>
        left
        cases honly : onlyOne (candidates texts snapshots dev) with
        | some serial => simp [deferToDevice, ownedByNone, fallBack, hkeys, honly]
        | none =>
          have hknown := knownProductKeys_deferred honly
          by_cases hfew : (knownOn texts snapshots dev).length ≤ 1
          · simp [deferToDevice, ownedByNone, fallBack, deferredAnchor, entriesOf, hknown,
              placementOf, anchorOf, openMark, hkeys, honly, hfew]
          · simp [deferToDevice, ownedByNone, fallBack, deferredAnchor, entriesOf, hknown,
              placementOf, anchorOf, openMark, hkeys, honly, hfew]

theorem placeDeferred_perm :
    (placeDeferred texts snapshots (deferredEntries texts snapshots)).Perm
      (snapshots.zipIdx.filterMap fun o => (deferToDevice texts snapshots o).map fun p =>
        deferredAnchor texts snapshots (entriesOf texts snapshots p.1) p.1 p.2.2) := by
  have htally := Tally.nil.placeAll (snapshots.zipIdx.filterMap (deferToDevice texts snapshots))
  rw [List.nil_append] at htally
  have heq : placeDeferred texts snapshots (deferredEntries texts snapshots) =
      (deferredEntries texts snapshots).flatMap fun device => device.members.map
        (deferredAnchor texts snapshots (entriesOf texts snapshots device.key) device.key) := by
    refine List.flatMap_congr fun device hmem => ?_
    rw [htally.members device hmem, entriesOf]
  rw [heq, ← List.map_filterMap]
  simpa [deferredEntries] using flatMap_placeAll
    (fun dev => deferredAnchor texts snapshots (entriesOf texts snapshots dev) dev)
    (snapshots.zipIdx.filterMap (deferToDevice texts snapshots)) []

/-- **What the passes place is one placement for each snapshot, under its own anchor.** -/
theorem placements_perm :
    (snapshots.zipIdx.filterMap (anchorBySerial texts) ++
      (snapshots.zipIdx.filterMap (attachToSerial texts snapshots) ++
        (placeDeferred texts snapshots (deferredEntries texts snapshots) ++
          snapshots.zipIdx.filterMap (fallBack texts)))).Perm
      (snapshots.zipIdx.map (placementOf texts snapshots)) := by
  have hthird := (placeDeferred_perm.append_right _).trans
    (filterMap_append_perm snapshots.zipIdx fun o _ => @deferToDevice_or texts snapshots o)
  have hsecond := (hthird.append_left _).trans
    (filterMap_append_perm snapshots.zipIdx fun o _ => @attachToSerial_or texts snapshots o)
  have hfirst := (hsecond.append_left _).trans
    (filterMap_append_perm snapshots.zipIdx (h := fun o => some (placementOf texts snapshots o))
      fun o _ => anchorBySerial_or o)
  simpa [List.filterMap_eq_map] using hfirst

/-! ### What the groups hold -/

theorem tally_serialGroups :
    Tally (snapshots.zipIdx.filterMap (anchorBySerial texts)) (serialGroups texts snapshots) :=
  (Tally.nil.placeAll _).mapMark _

theorem tally_deviceGroups :
    Tally (snapshots.zipIdx.filterMap (anchorBySerial texts) ++
        snapshots.zipIdx.filterMap (attachToSerial texts snapshots) ++
        placeDeferred texts snapshots (deferredEntries texts snapshots))
      (deviceGroups texts snapshots) :=
  (tally_serialGroups.placeAll _).placeAll _

theorem tally_grouped :
    ∃ ps, Tally ps (grouped texts snapshots) ∧
      ps.Perm (snapshots.zipIdx.map (placementOf texts snapshots)) := by
  refine ⟨_, (tally_deviceGroups.placeAll _).mapMark _, ?_⟩
  have hperm := @placements_perm texts snapshots
  simpa [List.append_assoc] using hperm

theorem under_placementOf (anchor : Anchor) :
    under anchor (snapshots.zipIdx.map (placementOf texts snapshots)) =
      snapshots.zipIdx.filter fun o => decide (anchorOf texts snapshots o.1 = anchor) := by
  rw [under, List.filter_map, List.map_map]
  have hid : ((fun p : Placement Anchor Observation Conflict => p.2.2) ∘
      placementOf texts snapshots) = id := rfl
  rw [hid, List.map_id]
  rfl

theorem members_perm (hg : g ∈ grouped texts snapshots) :
    g.members.Perm
      (snapshots.zipIdx.filter fun o => decide (anchorOf texts snapshots o.1 = g.key)) := by
  obtain ⟨ps, htally, hperm⟩ := @tally_grouped texts snapshots
  rw [htally.members g hg, ← under_placementOf]
  exact under_perm g.key hperm

theorem mem_keys_grouped {anchor : Anchor} :
    anchor ∈ (grouped texts snapshots).map Group.key ↔
      ∃ snap ∈ snapshots, anchorOf texts snapshots snap = anchor := by
  obtain ⟨ps, htally, hperm⟩ := @tally_grouped texts snapshots
  constructor
  · intro h
    obtain ⟨g, hg, rfl⟩ := List.mem_map.mp h
    obtain ⟨o, ho⟩ := List.exists_mem_of_ne_nil _ (htally.filled g hg)
    have hmem := List.mem_filter.mp ((members_perm hg).mem_iff.mp ho)
    exact ⟨o.1, List.fst_mem_of_mem_zipIdx hmem.1, of_decide_eq_true hmem.2⟩
  · intro h
    obtain ⟨snap, hsnap, rfl⟩ := h
    rw [← List.zipIdx_map_fst 0 snapshots] at hsnap
    obtain ⟨o, ho, rfl⟩ := List.mem_map.mp hsnap
    exact htally.covers (placementOf texts snapshots o)
      (hperm.mem_iff.mpr (List.mem_map.mpr ⟨o, ho, rfl⟩))

/-! ### What the groups are marked with -/

theorem openMark_fallBack
    (h : fallBack texts o = some p) : p.2.1 = baseMark texts snapshots p.1 := by
  rw [fallBack] at h
  split at h
  · cases h
    rfl
  · contradiction

theorem openMark_placeDeferred
    {deferred : List (Group String (Observation × Option String) Conflict)}
    (h : p ∈ placeDeferred texts snapshots deferred) :
    p.2.1 = baseMark texts snapshots p.1 := by
  obtain ⟨device, _, h⟩ := List.mem_flatMap.mp h
  obtain ⟨entry, _, rfl⟩ := List.mem_map.mp h
  rw [deferredAnchor]
  split <;> rfl

theorem mem_of_onlyOne {α : Type*} {l : List α} {a : α} (h : onlyOne l = some a) : a ∈ l := by
  cases l with
  | nil => contradiction
  | cons b l =>
    cases l with
    | nil =>
      cases h
      exact List.mem_singleton_self _
    | cons => contradiction

theorem mem_serialsOn :
    serial ∈ serialsOn texts snapshots deviceId ↔
      ∃ snap ∈ snapshots, (snapshotIdentityKeys texts snap).deviceId = some deviceId ∧
        (snapshotIdentityKeys texts snap).serial = some serial := by
  simp [serialsOn]

theorem attachToSerial_mem (h : attachToSerial texts snapshots o = some p) :
    ∃ o' ∈ snapshots.zipIdx, anchorBySerial texts o' = some (p.1, none, o') := by
  rw [attachToSerial] at h
  split at h
  · next deviceId _ _ =>
    obtain ⟨serial, honly, rfl⟩ := Option.map_eq_some_iff.mp h
    have hmem := mem_of_onlyOne honly
    rw [candidates] at hmem
    split at hmem
    · contradiction
    · obtain ⟨snap, hsnap, -, hserial⟩ := mem_serialsOn.mp hmem
      rw [← List.zipIdx_map_fst 0 snapshots] at hsnap
      obtain ⟨o', ho', rfl⟩ := List.mem_map.mp hsnap
      exact ⟨o', ho', by rw [anchorBySerial, hserial]; rfl⟩
  · contradiction

theorem marked_serialGroups :
    Marked (baseMark texts snapshots) (serialGroups texts snapshots) := by
  have htally := Tally.nil.placeAll (snapshots.zipIdx.filterMap (anchorBySerial texts))
  have hplaced : ∀ p ∈ snapshots.zipIdx.filterMap (anchorBySerial texts),
      ∃ serial, p.1 = .serial serial ∧ p.2.1 = none := by
    intro p hp
    obtain ⟨o, _, ho⟩ := List.mem_filterMap.mp hp
    obtain ⟨serial, _, rfl⟩ := Option.map_eq_some_iff.mp ho
    exact ⟨serial, rfl, rfl⟩
  have hnone : Marked (fun _ => none)
      (placeAll (snapshots.zipIdx.filterMap (anchorBySerial texts)) []) := by
    refine Marked.placeAll (fun g hg => by cases hg) Tally.nil fun p hp => .inl ?_
    obtain ⟨_, _, hmark⟩ := hplaced p hp
    exact hmark
  intro g hg
  obtain ⟨g', hg', rfl⟩ := List.mem_map.mp hg
  obtain ⟨o, ho⟩ := List.exists_mem_of_ne_nil _ (htally.filled g' hg')
  rw [htally.members g' hg'] at ho
  obtain ⟨m, hm⟩ := mem_under.mp ho
  obtain ⟨serial, hkey, -⟩ := hplaced _ hm
  obtain ⟨key, members, mark⟩ := g'
  have hmark : mark = none := hnone _ hg'
  subst hmark hkey
  rfl

theorem marked_deviceGroups :
    Marked (baseMark texts snapshots) (deviceGroups texts snapshots) := by
  refine Marked.placeAll (Marked.placeAll marked_serialGroups tally_serialGroups ?_)
    (tally_serialGroups.placeAll _) fun p hp => .inl (openMark_placeDeferred hp)
  intro p hp
  obtain ⟨o, _, ho⟩ := List.mem_filterMap.mp hp
  obtain ⟨o', ho', hplaced⟩ := attachToSerial_mem ho
  exact .inr (tally_serialGroups.covers (p.1, none, o')
    (List.mem_filterMap.mpr ⟨o', ho', hplaced⟩))

theorem mark_grouped (hg : g ∈ grouped texts snapshots) :
    g.mark = conflictOf texts snapshots g.key (g.members.map Prod.fst) := by
  have hmarked : Marked (baseMark texts snapshots)
      (placeAll (snapshots.zipIdx.filterMap (fallBack texts)) (deviceGroups texts snapshots)) := by
    refine Marked.placeAll marked_deviceGroups tally_deviceGroups fun p hp => .inl ?_
    obtain ⟨o, _, ho⟩ := List.mem_filterMap.mp hp
    exact openMark_fallBack ho
  obtain ⟨g', hg', rfl⟩ := List.mem_map.mp hg
  rw [conflictOf]
  simp only [hmarked g' hg']

theorem mem_orderedGroups (hg : g ∈ orderedGroups texts snapshots) :
    ∃ g' ∈ grouped texts snapshots, g.key = g'.key ∧ g.mark = g'.mark ∧
      g.members.Perm g'.members := by
  obtain ⟨g', hg', rfl⟩ := List.mem_map.mp hg
  exact ⟨g', (List.perm_insertionSort _ _).mem_iff.mp hg', rfl, rfl, List.perm_insertionSort _ _⟩

theorem orderedGroups_members (hg : g ∈ orderedGroups texts snapshots) :
    g.members.Perm
      (snapshots.zipIdx.filter fun o => decide (anchorOf texts snapshots o.1 = g.key)) := by
  obtain ⟨g', hg', hkey, -, hperm⟩ := mem_orderedGroups hg
  rw [hkey]
  exact hperm.trans (members_perm hg')

/-- **Every snapshot stands in exactly one group.** -/
theorem orderedGroups_perm :
    ((orderedGroups texts snapshots).flatMap Group.members).Perm snapshots.zipIdx := by
  have hsorted : ((orderedGroups texts snapshots).flatMap Group.members).Perm
      ((grouped texts snapshots).flatMap Group.members) := by
    rw [orderedGroups, List.flatMap_map]
    exact ((List.perm_insertionSort _ _).flatMap_right _).trans
      (List.Perm.flatMap_left _ fun g _ => List.perm_insertionSort _ _)
  obtain ⟨ps, htally, hperm⟩ := @tally_grouped texts snapshots
  refine hsorted.trans (htally.flatMap_perm.trans ((hperm.map _).trans ?_))
  rw [List.map_map]
  exact List.Perm.of_eq (List.map_id _)

/-- **No group holds two physical serials.** -/
theorem serial_unique (hg : g ∈ orderedGroups texts snapshots)
    {o' : Observation} (ho : o ∈ g.members) (ho' : o' ∈ g.members) {serial' : String}
    (hs : (snapshotIdentityKeys texts o.1).serial = some serial)
    (hs' : (snapshotIdentityKeys texts o'.1).serial = some serial') : serial = serial' := by
  have hanchor : ∀ {o : Observation} {serial : String}, o ∈ g.members →
      (snapshotIdentityKeys texts o.1).serial = some serial → g.key = .serial serial := by
    intro o serial ho hs
    have hmem := List.mem_filter.mp ((orderedGroups_members hg).mem_iff.mp ho)
    rw [← of_decide_eq_true hmem.2, anchorOf]
    split <;> simp_all
  have h := (hanchor ho hs).symm.trans (hanchor ho' hs')
  cases h
  rfl

/-! ### The order of the snapshots -/

section Order

variable {snapshots' : List ZendureMqttSnapshot} (hperm : snapshots.Perm snapshots')
include hperm

theorem serialsOn_perm (deviceId : String) :
    (serialsOn texts snapshots deviceId).Perm (serialsOn texts snapshots' deviceId) :=
  (hperm.filterMap _).dedup

theorem contested_perm (deviceId : String) :
    contested texts snapshots deviceId = contested texts snapshots' deviceId := by
  rw [contested, contested, (serialsOn_perm hperm deviceId).length_eq]

theorem onlyOne_candidates_perm (deviceId : String) :
    onlyOne (candidates texts snapshots deviceId) =
      onlyOne (candidates texts snapshots' deviceId) := by
  have h : (candidates texts snapshots deviceId).Perm (candidates texts snapshots' deviceId) := by
    rw [candidates, candidates, contested_perm hperm]
    split
    · exact List.Perm.refl _
    · exact serialsOn_perm hperm deviceId
  revert h
  generalize candidates texts snapshots deviceId = l
  generalize candidates texts snapshots' deviceId = l'
  intro h
  have hlen := h.length_eq
  match l, l' with
  | [], [] => rfl
  | [a], [b] => rw [List.singleton_perm_singleton.mp h]
  | _ :: _ :: _, _ :: _ :: _ => rfl
  | [], _ :: _ => simp at hlen
  | _ :: _, [] => simp at hlen
  | [_], _ :: _ :: _ => simp at hlen
  | _ :: _ :: _, [_] => simp at hlen

theorem anchorOf_perm : anchorOf texts snapshots = anchorOf texts snapshots' := by
  funext snap
  have hknown : ∀ deviceId, (knownOn texts snapshots deviceId).length =
      (knownOn texts snapshots' deviceId).length :=
    fun deviceId => (hperm.filterMap _).dedup.length_eq
  simp only [anchorOf, onlyOne_candidates_perm hperm, hknown]

theorem baseMark_perm : baseMark texts snapshots = baseMark texts snapshots' := by
  funext anchor
  cases anchor with
  | serial serial =>
    have hany : (snapshots.any fun snap => (snapshotIdentityKeys texts snap).deviceId.any fun dev =>
        contested texts snapshots dev && decide (serial ∈ serialsOn texts snapshots dev)) =
        snapshots'.any fun snap => (snapshotIdentityKeys texts snap).deviceId.any fun dev =>
          contested texts snapshots' dev && decide (serial ∈ serialsOn texts snapshots' dev) := by
      simp only [contested_perm hperm, (serialsOn_perm hperm _).mem_iff]
      exact hperm.any_eq
    simp only [baseMark, hany]
  | device deviceId => simp only [baseMark, openMark, contested_perm hperm]
  | route => rfl
  | fallback => rfl

theorem conflictOf_perm (anchor : Anchor) {members members' : List ZendureMqttSnapshot}
    (h : members.Perm members') : conflictOf texts snapshots anchor members =
      conflictOf texts snapshots' anchor members' := by
  have hroutes : (routesOf texts members).length = (routesOf texts members').length :=
    (h.filterMap _).dedup.length_eq
  rw [conflictOf, conflictOf, baseMark_perm hperm, hroutes]

end Order

end Passes

end SolarFlowEms.Discovery
