import SolarFlowEms.Mqtt.Snapshots

/-!
# Telemetry of anything anyone publishes

No topic and no payload makes a message raise, and no run of messages leaves a snapshot whose derived
fields do.  A message is merged into the snapshot of the device that its topic names and into no
other, and the key of a catalog device is never that of a Zendure device.  A number that is handed on
under a key is one that a message carried under it, or under a key that it is another name of, or a
setting in percent that was carried as tenths.
-/

namespace SolarFlowEms.Mqtt.Telemetry

open Python Documents Tables
open SolarFlowEms.Discovery (TopicFamily)
open SolarFlowEms.Runtime (dictUpdate floatOverflow)

section

variable {texts : PayloadTexts}

/-! ### Reading numbers -/

/-- The number that a text is, where a float can hold it. -/
inductive ReadAs (texts : PayloadTexts) (text : String) : PyValue → Prop
  | int {z : ℤ} : pyStrip text ≠ "" → texts.int (pyStrip text) = some z →
      z.natAbs < floatOverflow → ReadAs texts text (.int z)
  | float {x : ℚ} : pyStrip text ≠ "" → texts.int (pyStrip text) = none →
      texts.float (pyStrip text) = some (.finite x) → ReadAs texts text (.float (.finite x))

/-- A value that, if a number, is one that a float can hold. -/
def Ranged (v : PyValue) : Prop :=
  (∀ z, v = .int z → z.natAbs < floatOverflow) ∧ ∀ x, v = .float x → ∃ q, x = .finite q

variable {v n value : PyValue} {text key topic device : String} {raw : RawJson}
  {entries values base : Entries} {entry : ExternalTopicFamily} {payload : ByteArray}
  {segments : List String} {after : Devices} {field : String × PyValue}

theorem ranged_of_not_number (h : v.number? = none) : Ranged v := by
  constructor
  · rintro z rfl
    cases h
  · rintro x rfl
    cases h

theorem ranged_int {z : ℤ} (h : z.natAbs < floatOverflow) : Ranged (.int z) := by
  constructor
  · intro z' hz
    cases hz
    exact h
  · intro x hx
    cases hx

theorem ranged_finite (q : ℚ) : Ranged (.float (.finite q)) := by
  constructor
  · intro z hz
    cases hz
  · intro x hx
    cases hx
    exact ⟨q, rfl⟩

theorem ReadAs.ranged (h : ReadAs texts text v) : Ranged v := by
  cases h with
  | int _ _ hz => exact ranged_int hz
  | float _ _ _ => exact ranged_finite _

theorem withinFloatRange_eq (number : ℤ) :
    withinFloatRange texts number = .ok (decide (number.natAbs < floatOverflow)) := by
  unfold withinFloatRange floatOf
  generalize floatOverflow = limit
  by_cases h : number.natAbs < limit
  · rw [if_pos h, decide_eq_true h]
  · rw [if_neg h, decide_eq_false h]

theorem coerceText_ok (text : String) :
    ∃ v, coerceText texts text = .ok v ∧ (v = .str text ∨ ReadAs texts text v) := by
  rw [coerceText]
  split
  · exact ⟨_, rfl, .inl rfl⟩
  next hne =>
    split
    next z hz =>
      rw [withinFloatRange_eq]
      by_cases h : z.natAbs < floatOverflow
      · exact ⟨.int z, by simp [h, pure, Except.pure, bind, Except.bind], .inr (.int hne hz h)⟩
      · exact ⟨.str text, by simp [h, pure, Except.pure, bind, Except.bind], .inl rfl⟩
    next hint =>
      split
      next x hx => exact ⟨_, rfl, .inr (.float hne hint hx)⟩
      next => exact ⟨_, rfl, .inl rfl⟩

/-- A value that a snapshot may hold: no number that a float cannot hold, and no text that would be
read as a number. -/
def Settled (texts : PayloadTexts) (v : PyValue) : Prop :=
  Ranged v ∧ ∀ text, v = .str text → coerceText texts text = .ok v

theorem settled_of_ranged (hranged : Ranged v) (h : v.str? = none) :
    Settled texts v := by
  refine ⟨hranged, ?_⟩
  rintro text rfl
  cases h

theorem ReadAs.str?_eq_none (h : ReadAs texts text v) :
    v.str? = none := by
  cases h with
  | int _ _ _ | float _ _ _ => rfl

theorem ReadAs.settled (h : ReadAs texts text v) : Settled texts v :=
  settled_of_ranged h.ranged h.str?_eq_none

theorem settled_coerceText (h : coerceText texts text = .ok (.str text)) :
    Settled texts (.str text) := by
  refine ⟨ranged_of_not_number rfl, ?_⟩
  rintro text' heq
  cases heq
  exact h

theorem coercePayload_ok (payload : ByteArray) :
    ∃ v, coercePayload texts payload = .ok v ∧ Settled texts v ∧ (v.number? = none ∨
      ∃ text, String.fromUTF8? payload = some text ∧ ReadAs texts text v) := by
  rw [coercePayload]
  split
  next => exact ⟨_, rfl, settled_of_ranged (ranged_of_not_number rfl) rfl, .inl rfl⟩
  next text htext =>
    obtain ⟨v, hv, rfl | hread⟩ := @coerceText_ok texts text
    · exact ⟨_, hv, settled_coerceText hv, .inl rfl⟩
    · exact ⟨v, hv, hread.settled, .inr ⟨text, htext, hread⟩⟩

theorem coerceScalar_ok (value : PyValue) :
    ∃ v, coerceScalar texts value = .ok v ∧ (Ranged value → Settled texts v) ∧
      (v = value ∨ ∃ text, value = .str text ∧ ReadAs texts text v) := by
  cases value with
  | str text =>
    obtain ⟨v, hv, rfl | hread⟩ := @coerceText_ok texts text
    · exact ⟨_, hv, fun _ => settled_coerceText hv, .inl rfl⟩
    · exact ⟨v, hv, fun _ => hread.settled, .inr ⟨text, rfl, hread⟩⟩
  | _ => exact ⟨_, rfl, fun hranged => settled_of_ranged hranged rfl, .inl rfl⟩

/-! ### Reading reports -/

theorem floatRangeInt_ok (text : String) :
    (∃ v, floatRangeInt texts text = .ok v ∧ Ranged v) ∨
      floatRangeInt texts text = .error .valueError := by
  rw [floatRangeInt]
  split
  next => exact .inr rfl
  next z _ =>
    left
    rw [withinFloatRange_eq]
    by_cases h : z.natAbs < floatOverflow
    · exact ⟨.int z, by simp [h, pure, Except.pure, bind, Except.bind], ranged_int h⟩
    · exact ⟨.none, by simp [h, pure, Except.pure, bind, Except.bind], ranged_of_not_number rfl⟩

theorem finiteFloat_ok (text : String) :
    (∃ v, finiteFloat texts text = .ok v ∧ Ranged v) ∨
      finiteFloat texts text = .error .valueError := by
  rw [finiteFloat]
  split
  next => exact .inr rfl
  next x _ => exact .inl ⟨_, rfl, ranged_finite x⟩
  next => exact .inl ⟨_, rfl, ranged_of_not_number rfl⟩

mutual

/-- The hooks raise nothing but a `ValueError`, and read no number that a float cannot hold. -/
theorem hooked_ok : ∀ raw : RawJson,
    (∃ v, hooked texts raw = .ok v ∧ Ranged v) ∨ hooked texts raw = .error .valueError
  | .null => .inl ⟨_, rfl, ranged_of_not_number rfl⟩
  | .bool _ => .inl ⟨_, rfl, ranged_of_not_number rfl⟩
  | .intText text => floatRangeInt_ok text
  | .floatText text => finiteFloat_ok text
  | .constant _ => .inl ⟨_, rfl, ranged_of_not_number rfl⟩
  | .str _ => .inl ⟨_, rfl, ranged_of_not_number rfl⟩
  | .list items => by
    rw [hooked]
    rcases hookedItems_ok items with ⟨values, hvalues⟩ | herror
    · rw [hvalues]
      exact .inl ⟨_, rfl, ranged_of_not_number rfl⟩
    · rw [herror]
      exact .inr rfl
  | .dict entries => by
    rw [hooked]
    rcases hookedEntries_ok entries with ⟨values, hvalues, _⟩ | herror
    · rw [hvalues]
      exact .inl ⟨_, rfl, ranged_of_not_number rfl⟩
    · rw [herror]
      exact .inr rfl

theorem hookedItems_ok : ∀ items : List RawJson,
    (∃ values, hookedItems texts items = .ok values) ∨ hookedItems texts items = .error .valueError
  | [] => .inl ⟨_, rfl⟩
  | item :: rest => by
    rw [hookedItems]
    rcases hooked_ok item with ⟨v, hv, _⟩ | herror
    · rw [hv]
      rcases hookedItems_ok rest with ⟨values, hvalues⟩ | herror
      · rw [hvalues]
        exact .inl ⟨_, rfl⟩
      · rw [herror]
        exact .inr rfl
    · rw [herror]
      exact .inr rfl

theorem hookedEntries_ok : ∀ entries : List (String × RawJson),
    (∃ values, hookedEntries texts entries = .ok values ∧
        ∀ entry ∈ values, ∃ raw, hooked texts raw = .ok entry.2) ∨
      hookedEntries texts entries = .error .valueError
  | [] => .inl ⟨_, rfl, by simp⟩
  | (key, item) :: rest => by
    rw [hookedEntries]
    rcases hooked_ok item with ⟨v, hv, _⟩ | herror
    · rw [hv]
      rcases hookedEntries_ok rest with ⟨values, hvalues, hall⟩ | herror
      · rw [hvalues]
        refine .inl ⟨_, rfl, ?_⟩
        intro entry hentry
        rcases List.mem_cons.mp hentry with rfl | hmem
        · exact ⟨item, hv⟩
        · exact hall entry hmem
      · rw [herror]
        exact .inr rfl
    · rw [herror]
      exact .inr rfl

end

theorem ranged_of_hooked (h : hooked texts raw = .ok v) : Ranged v := by
  rcases @hooked_ok texts raw with ⟨v', hv', hranged⟩ | herror
  · obtain rfl := Except.ok.inj (h.symm.trans hv')
    exact hranged
  · rw [herror] at h
    cases h

theorem members_of_hooked (h : hooked texts raw = .ok (.dict entries)) :
    ∀ entry ∈ entries, ∃ raw, hooked texts raw = .ok entry.2 := by
  cases raw with
  | dict raws =>
    rw [hooked] at h
    rcases @hookedEntries_ok texts raws with ⟨values, hvalues, hall⟩ | herror
    · rw [hvalues] at h
      cases h
      exact hall
    · rw [herror] at h
      cases h
  | intText text =>
    rw [hooked, floatRangeInt] at h
    split at h
    · cases h
    next z _ =>
      rw [withinFloatRange_eq] at h
      by_cases hz : z.natAbs < floatOverflow
      · simp [hz, pure, Except.pure, bind, Except.bind] at h
      · simp [hz, pure, Except.pure, bind, Except.bind] at h
  | floatText text =>
    rw [hooked, finiteFloat] at h
    split at h <;> cases h
  | list items =>
    rw [hooked] at h
    rcases @hookedItems_ok texts items with ⟨values, hvalues⟩ | herror
    · rw [hvalues] at h
      cases h
    · rw [herror] at h
      cases h
  | _ => cases h

theorem loadJson_ok (text : String) :
    ∃ v raw, loadJson texts text = .ok v ∧ hooked texts raw = .ok v := by
  rw [loadJson]
  cases hload : texts.loads text with
  | error e =>
    rcases texts.loads_error text e hload with rfl | rfl
    · exact ⟨.none, .null, rfl, rfl⟩
    · exact ⟨.none, .null, rfl, rfl⟩
  | ok raw =>
    show ∃ v raw', caughtAsNone (hooked texts raw) = .ok v ∧ hooked texts raw' = .ok v
    rcases @hooked_ok texts raw with ⟨v, hv, _⟩ | herror
    · exact ⟨v, raw, by rw [hv]; rfl, hv⟩
    · exact ⟨.none, .null, by rw [herror]; rfl, rfl⟩

theorem coerceJson_ok (payload : ByteArray) :
    ∃ v raw, coerceJson texts payload = .ok v ∧ hooked texts raw = .ok v := by
  rw [coerceJson]
  split
  · exact ⟨.none, .null, rfl, rfl⟩
  · split
    next => exact ⟨.none, .null, rfl, rfl⟩
    next text _ =>
      split
      · exact ⟨.none, .null, rfl, rfl⟩
      · exact loadJson_ok text

theorem coerceProperties_ok (properties : Entries) :
    ∃ values, coerceProperties texts properties = .ok values ∧
      ∀ entry ∈ values, ∃ value, (entry.1, value) ∈ properties ∧
        (Ranged value → Settled texts entry.2) ∧
        (entry.2 = value ∨ ∃ text, value = .str text ∧ ReadAs texts text entry.2) := by
  induction properties with
  | nil => exact ⟨[], rfl, by simp⟩
  | cons property rest ih =>
    obtain ⟨key, value⟩ := property
    obtain ⟨v, hv, hread⟩ := @coerceScalar_ok texts value
    obtain ⟨values, hvalues, hall⟩ := ih
    refine ⟨(key, v) :: values, by rw [coerceProperties, hv, hvalues]; rfl, ?_⟩
    intro entry hentry
    rcases List.mem_cons.mp hentry with rfl | hmem
    · exact ⟨value, List.mem_cons_self, hread⟩
    · obtain ⟨value', hmem', hread'⟩ := hall entry hmem
      exact ⟨value', List.mem_cons_of_mem _ hmem', hread'⟩

/-! ### Readings of the catalog -/

theorem asReading_settled (h : asReading v = some n) : Settled texts n := by
  cases v with
  | int z =>
    rw [asReading] at h
    split at h
    next hz =>
      obtain rfl := Option.some.inj h
      exact settled_of_ranged (ranged_int (lt_of_le_of_lt hz (by decide +kernel))) rfl
    next => cases h
  | float x =>
    cases x with
    | finite q =>
      rw [asReading] at h
      split at h
      · obtain rfl := Option.some.inj h
        exact settled_of_ranged (ranged_finite q) rfl
      · cases h
    | _ => cases h
  | _ => cases h

theorem plainNumber_settled (h : plainNumber texts v = some n) :
    Settled texts n := by
  cases v with
  | str text =>
    obtain ⟨number, -, hn⟩ := Option.bind_eq_some_iff.mp h
    exact asReading_settled hn
  | int z => exact asReading_settled (v := .int z) h
  | float x => exact asReading_settled (v := .float x) h
  | bool b | none | list items | dict entries => cases h

theorem settled_negated (h : Settled texts n) : Settled texts (negated n) := by
  cases n with
  | int z =>
    have hz := h.1.1 z rfl
    exact settled_of_ranged (ranged_int (by rwa [Int.natAbs_neg])) rfl
  | float x =>
    obtain ⟨q, rfl⟩ := h.1.2 x rfl
    exact settled_of_ranged (ranged_finite (-q)) rfl
  | _ => exact h

theorem read_eq (hentry : entry ∈ externalTopicFamilies)
    {spec : String × CatalogKey} (hspec : spec ∈ entry.keys)
    (h : spec.2.read n = some values) :
    ∀ value ∈ values, value.2 = n ∨ value.2 = negated n ∨ value.2 = .int 0 := by
  have hkinds : (∃ metric, spec.2 = nonNegative metric) ∨ (∃ metric, spec.2 = percent metric) ∨
      ∃ positive negative, spec.2 = signed positive negative := by
    rcases List.mem_cons.mp hentry with rfl | hentry
    · simp only [emsSolarflow, List.mem_cons, List.not_mem_nil, or_false] at hspec
      rcases hspec with rfl | rfl | rfl | rfl
      · exact .inl ⟨_, rfl⟩
      · exact .inl ⟨_, rfl⟩
      · exact .inr (.inr ⟨_, _, rfl⟩)
      · exact .inr (.inl ⟨_, rfl⟩)
    · obtain rfl := List.mem_singleton.mp hentry
      obtain rfl := List.mem_singleton.mp hspec
      exact .inl ⟨_, rfl⟩
  intro value hvalue
  rcases hkinds with ⟨metric, heq⟩ | ⟨metric, heq⟩ | ⟨positive, negative, heq⟩
  · rw [heq, nonNegative] at h
    simp only [Option.ite_none_right_eq_some, Option.some.injEq] at h
    obtain ⟨-, rfl⟩ := h
    obtain rfl := List.mem_singleton.mp hvalue
    exact .inl rfl
  · rw [heq, percent] at h
    simp only [Option.ite_none_right_eq_some, Option.some.injEq] at h
    obtain ⟨-, rfl⟩ := h
    obtain rfl := List.mem_singleton.mp hvalue
    exact .inl rfl
  · rw [heq, signed] at h
    obtain rfl := Option.some.inj h
    simp only [List.mem_cons, List.not_mem_nil, or_false] at hvalue
    rcases hvalue with rfl | rfl
    · simp only
      split
      · exact .inl rfl
      · exact .inr (.inr rfl)
    · simp only
      split
      · exact .inr (.inl rfl)
      · exact .inr (.inr rfl)

theorem mem_dictUpdate {entry : String × PyValue}
    (h : entry ∈ dictUpdate base values) : entry ∈ base ∨ entry ∈ values := by
  induction values generalizing base with
  | nil => exact .inl h
  | cons first rest ih =>
    have hrest : entry ∈ dictUpdate (dictSet base first.1 first.2) rest := h
    rcases ih hrest with hset | hmem
    · rw [dictSet] at hset
      split at hset
      · obtain ⟨old, hold, heq⟩ := List.mem_map.mp hset
        split at heq
        · exact .inr (List.mem_cons.mpr (.inl heq.symm))
        · exact .inl (heq ▸ hold)
      · rcases List.mem_append.mp hset with hold | hnew
        · exact .inl hold
        · exact .inr (List.mem_cons.mpr (.inl (List.mem_singleton.mp hnew)))
    · exact .inr (List.mem_cons_of_mem _ hmem)

theorem mem_dictUpdates {updates : List Entries} {entry : String × PyValue}
    (h : entry ∈ updates.foldl dictUpdate base) :
    entry ∈ base ∨ ∃ values ∈ updates, entry ∈ values := by
  induction updates generalizing base with
  | nil => exact .inl h
  | cons values rest ih =>
    rcases ih h with hbase | ⟨values', hmem, hentry⟩
    · rcases mem_dictUpdate hbase with hold | hnew
      · exact .inl hold
      · exact .inr ⟨values, List.mem_cons_self, hnew⟩
    · exact .inr ⟨values', List.mem_cons_of_mem _ hmem, hentry⟩

/-- The number that a payload on a key of a catalog device has for one of its names: the number that
the payload is, or a member of the object on the key of the bundle. -/
def CatalogNumber (texts : PayloadTexts) (entry : ExternalTopicFamily) (key : String)
    (payload : ByteArray) (name : String) (n : PyValue) : Prop :=
  if key = entry.bundleKey then
    ∃ data, coerceJson texts payload = .ok (.dict data) ∧
      plainNumber texts (getValue data name) = some n
  else key = name ∧ plainPayload texts payload = some n

/-- What a payload on a key of a catalog device gives a metric. -/
def CatalogReading (texts : PayloadTexts) (entry : ExternalTopicFamily) (key : String)
    (payload : ByteArray) (value : String × PyValue) : Prop :=
  ∃ spec ∈ entry.keys, ∃ n values, CatalogNumber texts entry key payload spec.1 n ∧
    spec.2.read n = some values ∧ value ∈ values

theorem CatalogNumber.settled {name : String} (h : CatalogNumber texts entry key payload name n) :
    Settled texts n := by
  rw [CatalogNumber] at h
  split at h
  · obtain ⟨data, -, hn⟩ := h
    exact plainNumber_settled hn
  · obtain ⟨-, hn⟩ := h
    obtain ⟨text, -, hn⟩ := Option.bind_eq_some_iff.mp hn
    exact plainNumber_settled hn

theorem CatalogReading.settled (hentry : entry ∈ externalTopicFamilies) {value : String × PyValue}
    (h : CatalogReading texts entry key payload value) : Settled texts value.2 := by
  obtain ⟨spec, hspec, n, values, hnumber, hread, hvalue⟩ := h
  rcases read_eq hentry hspec hread value hvalue with heq | heq | heq
  · rw [heq]
    exact hnumber.settled
  · rw [heq]
    exact settled_negated hnumber.settled
  · rw [heq]
    exact settled_of_ranged (ranged_int (by decide +kernel)) rfl

theorem readings_ok (entry : ExternalTopicFamily) (key : String) (payload : ByteArray) :
    ∃ readings, entry.readings texts key payload = .ok readings ∧
      ∀ values, readings = some values →
        ∀ value ∈ values, CatalogReading texts entry key payload value := by
  rw [ExternalTopicFamily.readings]
  split
  next hbundle =>
    obtain ⟨v, raw, hv, -⟩ := @coerceJson_ok texts payload
    rw [hv]
    cases v with
    | dict data =>
      refine ⟨_, rfl, ?_⟩
      intro values hvalues value hvalue
      rw [ExternalTopicFamily.bundleReadings] at hvalues
      simp only [Option.ite_none_left_eq_some, Option.some.injEq] at hvalues
      obtain ⟨-, rfl⟩ := hvalues
      rcases mem_dictUpdates hvalue with hnil | ⟨values, hmem, hin⟩
      · cases hnil
      · obtain ⟨spec, hspec, hreading⟩ := List.mem_filterMap.mp hmem
        obtain ⟨n, hn, hread⟩ := Option.bind_eq_some_iff.mp hreading
        refine ⟨spec, hspec, n, values, ?_, hread, hin⟩
        rw [CatalogNumber, if_pos hbundle]
        exact ⟨data, hv, hn⟩
    | _ => exact ⟨none, rfl, fun values hvalues => by cases hvalues⟩
  next hbundle =>
    split
    next => exact ⟨none, rfl, fun values hvalues => by cases hvalues⟩
    next spec hspec =>
      refine ⟨_, rfl, ?_⟩
      intro values hvalues value hvalue
      obtain ⟨n, hn, hread⟩ := Option.bind_eq_some_iff.mp hvalues
      refine ⟨(key, spec), mem_of_lookup hspec, n, values, ?_, hread, hvalue⟩
      rw [CatalogNumber, if_neg hbundle]
      exact ⟨rfl, hn⟩

/-! ### The device that a topic names -/

def NamesDevice (segments : List String) (found : TopicMatch) : Prop :=
  found.deviceId ∈ segments ∧ found.deviceId ≠ ""

theorem matchZendureScalar_names {found : TopicMatch}
    (h : matchZendureScalar segments = some found) :
    NamesDevice segments found ∧ found.family = .zensdkHaScalar := by
  rw [matchZendureScalar.eq_def] at h
  split at h
  next component device metric rest =>
    simp only [Option.ite_none_right_eq_some, Option.some.injEq] at h
    obtain ⟨⟨hdevice, -⟩, rfl⟩ := h
    exact ⟨⟨by simp, hdevice⟩, rfl⟩
  next => cases h

theorem matchReport_names {head : String} {family : TopicFamily}
    {found : TopicMatch} (h : matchReport head family segments = some found) :
    NamesDevice segments found ∧ found.family = family := by
  rw [matchReport.eq_def] at h
  split at h
  next first productKey device =>
    simp only [Option.ite_none_right_eq_some, Option.some.injEq] at h
    obtain ⟨⟨-, -, hdevice⟩, rfl⟩ := h
    exact ⟨⟨by simp, hdevice⟩, rfl⟩
  next => cases h

theorem matchCloudScalar_names {found : TopicMatch} (h : matchCloudScalar segments = some found) :
    NamesDevice segments found ∧ found.family = .zendureCloudScalar := by
  rw [matchCloudScalar.eq_def] at h
  split at h
  next appKey component device metric rest =>
    simp only [Option.ite_none_right_eq_some, Option.some.injEq] at h
    obtain ⟨⟨-, -, -, hdevice, -⟩, rfl⟩ := h
    exact ⟨⟨by simp, hdevice⟩, rfl⟩
  next => cases h

theorem matchExternalTopic_names {found : TopicMatch}
    (h : matchExternalTopic texts segments = some found) :
    NamesDevice segments found ∧
      ∃ entry ∈ externalTopicFamilies, found.family = .external entry.family := by
  rw [matchExternalTopic.eq_def] at h
  split at h
  next pathPrefix device key =>
    obtain ⟨entry, hentry, hfound⟩ := Option.bind_eq_some_iff.mp h
    simp only [Option.ite_none_right_eq_some, Option.some.injEq, Bool.and_eq_true] at hfound
    obtain ⟨⟨hvalid, -⟩, rfl⟩ := hfound
    refine ⟨⟨by simp, ?_⟩, entry, List.mem_of_find?_eq_some hentry, rfl⟩
    rintro (rfl : device = "")
    simp [validDeviceId, isDeviceName] at hvalid
  next => cases h

theorem classifyTopic_names (topic : String) :
    (classifyTopic texts topic).family = .unknown ∨
      NamesDevice (topicSegments topic) (classifyTopic texts topic) := by
  rw [classifyTopic]
  split
  · exact .inl rfl
  · simp only
    cases hscalar : matchZendureScalar (topicSegments topic) with
    | some found => exact .inr (matchZendureScalar_names hscalar).1
    | none =>
      cases hreport : matchReport "iot" .legacyZendureJson (topicSegments topic) with
      | some found => exact .inr (matchReport_names hreport).1
      | none =>
        cases halt : matchReport "" .legacyZendureJsonAlt (topicSegments topic) with
        | some found => exact .inr (matchReport_names halt).1
        | none =>
          cases hcloud : matchCloudScalar (topicSegments topic) with
          | some found => exact .inr (matchCloudScalar_names hcloud).1
          | none =>
            cases hexternal : matchExternalTopic texts (topicSegments topic) with
            | some found => exact .inr (matchExternalTopic_names hexternal).1
            | none => exact .inl rfl

theorem notMem_of_mem_splitOn {a : Char} {text part : List Char} (h : part ∈ text.splitOn a) :
    a ∉ part := by
  induction text generalizing part with
  | nil =>
    obtain rfl := List.mem_singleton.mp h
    exact List.not_mem_nil
  | cons c rest ih =>
    rw [List.splitOn_cons_eq_if_modifyHead] at h
    split at h
    next =>
      rcases List.mem_cons.mp h with rfl | hmem
      · exact List.not_mem_nil
      · exact ih hmem
    next hc =>
      obtain ⟨first, parts, hparts⟩ := List.exists_cons_of_ne_nil (List.splitOn_ne_nil a rest)
      rw [hparts, List.modifyHead_cons] at h
      rcases List.mem_cons.mp h with rfl | hmem
      · have hfirst := ih (hparts ▸ List.mem_cons_self)
        intro ha
        rcases List.mem_cons.mp ha with heq | hin
        · exact hc (by simp [heq])
        · exact hfirst hin
      · exact ih (hparts ▸ List.mem_cons_of_mem _ hmem)

theorem slash_notMem_segment {segment : String} (h : segment ∈ topicSegments topic) :
    '/' ∉ segment.toList := by
  obtain ⟨part, hpart, rfl⟩ := List.mem_map.mp h
  rw [String.toList_ofList]
  exact notMem_of_mem_splitOn hpart

theorem slash_mem_snapshotKey (entry : ExternalTopicFamily) (deviceId : String) :
    '/' ∈ (entry.snapshotKey deviceId).toList := by
  simp [ExternalTopicFamily.snapshotKey, String.toList_append]

/-- The key of the snapshot that a topic is for. -/
def namedDevice (texts : PayloadTexts) (topic : String) : Option String :=
  let found := classifyTopic texts topic
  if found.family = .unknown then none
  else
    match externalEntry found.family with
    | some entry => some (entry.snapshotKey found.deviceId)
    | none => some found.deviceId

def isCatalogTopic (texts : PayloadTexts) (topic : String) : Bool :=
  (externalEntry (classifyTopic texts topic).family).isSome

/-- A topic names a device by one of its segments, under its kind for a topic of the catalog. -/
theorem segment_of_namedDevice (h : namedDevice texts topic = some device) :
    ∃ segment ∈ topicSegments topic, device =
      match externalEntry (classifyTopic texts topic).family with
      | some entry => entry.snapshotKey segment
      | none => segment := by
  rw [namedDevice, Option.ite_none_left_eq_some] at h
  obtain ⟨hknown, h⟩ := h
  have hnames := (@classifyTopic_names texts topic).resolve_left hknown
  refine ⟨_, hnames.1, ?_⟩
  cases hexternal : externalEntry (classifyTopic texts topic).family with
  | some entry | none =>
    rw [hexternal] at h
    exact (Option.some.inj h).symm

theorem namedDevice_ne {topic' : String} (hcatalog : isCatalogTopic texts topic = true)
    (hother : isCatalogTopic texts topic' = false)
    (h : namedDevice texts topic = some device) : namedDevice texts topic' ≠ some device := by
  obtain ⟨entry, hentry⟩ := Option.isSome_iff_exists.mp hcatalog
  have hnone : externalEntry (classifyTopic texts topic').family = none := by
    simpa [isCatalogTopic] using hother
  simp only [namedDevice, hentry, Option.ite_none_left_eq_some, Option.some.injEq] at h
  obtain ⟨-, rfl⟩ := h
  intro h'
  simp only [namedDevice, hnone, Option.ite_none_left_eq_some, Option.some.injEq] at h'
  obtain ⟨hknown, heq⟩ := h'
  rcases @classifyTopic_names texts topic' with hunknown | hnames
  · exact hknown hunknown
  · refine slash_notMem_segment hnames.1 ?_
    rw [heq]
    exact slash_mem_snapshotKey entry _

/-! ### What a message carries -/

/-- A number that a payload carries under a key: the text of a scalar topic, a property of a report,
as a number or as the text of one, or a reading of the catalog. -/
inductive CarriedBy (texts : PayloadTexts) (found : TopicMatch) (payload : ByteArray) :
    String × PyValue → Prop
  | scalar {text : String} {v : PyValue} : isScalar found.family = true →
      String.fromUTF8? payload = some text → ReadAs texts text v →
      CarriedBy texts found payload (found.metric, v)
  | property {data properties : Entries} {key : String} {v : PyValue} :
      found.family.isJson = true → coerceJson texts payload = .ok (.dict data) →
      getValue data "properties" = .dict properties → (key, v) ∈ properties →
      v.number?.isSome = true → CarriedBy texts found payload (key, v)
  | quoted {data properties : Entries} {key text : String} {v : PyValue} :
      found.family.isJson = true → coerceJson texts payload = .ok (.dict data) →
      getValue data "properties" = .dict properties → (key, .str text) ∈ properties →
      ReadAs texts text v → CarriedBy texts found payload (key, v)
  | reading {entry : ExternalTopicFamily} {value : String × PyValue} :
      externalEntry found.family = some entry →
      CatalogReading texts entry found.metric payload value → CarriedBy texts found payload value

/-- A number that a message carries for a device under a key. -/
def Carries (texts : PayloadTexts) (message : Message) (device : String) (value : String × PyValue) :
    Prop :=
  namedDevice texts message.topic = some device ∧
    CarriedBy texts (classifyTopic texts message.topic) message.payload value

/-- Metrics that a snapshot may hold, with no number that was not carried. -/
def IsFrom (texts : PayloadTexts) (P : String × PyValue → Prop) (metrics : Entries) : Prop :=
  ∀ value ∈ metrics, Settled texts value.2 ∧ (value.2.number?.isSome = true → P value)

theorem IsFrom.dictUpdate {P : String × PyValue → Prop}
    (hbase : IsFrom texts P base) (hvalues : IsFrom texts P values) : IsFrom texts P (dictUpdate base values) := by
  intro value hvalue
  rcases mem_dictUpdate hvalue with hold | hnew
  · exact hbase value hold
  · exact hvalues value hnew

theorem IsFrom.mono {P Q : String × PyValue → Prop} {metrics : Entries} (h : IsFrom texts P metrics)
    (hPQ : ∀ value, P value → Q value) : IsFrom texts Q metrics :=
  fun value hvalue => ⟨(h value hvalue).1, fun hnumber => hPQ value ((h value hvalue).2 hnumber)⟩

theorem mem_of_getValue {members : Entries}
    (h : getValue entries key = .dict members) : (key, .dict members) ∈ entries := by
  rw [getValue] at h
  cases hget : dictGet entries key with
  | none =>
    rw [hget] at h
    cases h
  | some value =>
    rw [hget] at h
    obtain rfl : value = .dict members := h
    exact mem_of_dictGet hget

variable {message : Message} {found : TopicMatch} {snap : Snapshot}

theorem mergeReport_ok {P : String × PyValue → Prop} (hjson : found.family.isJson = true)
    (hP : ∀ value, CarriedBy texts found message.payload value → P value)
    (hsnap : IsFrom texts P snap.metrics) :
    ∃ after, mergeReport texts snap message = .ok after ∧ after.deviceId = snap.deviceId ∧
      IsFrom texts P after.metrics := by
  obtain ⟨v, raw, hv, hraw⟩ := @coerceJson_ok texts message.payload
  have hreport : ∃ report, parseReportPayload texts message.payload = .ok report ∧
      (report.properties = [] ∨ ∃ data, v = .dict data ∧
        getValue data "properties" = .dict report.properties) := by
    rw [parseReportPayload, hv]
    cases v with
    | dict data =>
      refine ⟨_, rfl, ?_⟩
      cases hdict : (getValue data "properties").dict? with
      | none => exact .inl (by simp [reportOf, hdict])
      | some properties =>
        refine .inr ⟨data, rfl, ?_⟩
        rw [PyValue.dict?_eq_some hdict]
        simp [reportOf, hdict]
    | _ => exact ⟨_, rfl, .inl rfl⟩
  obtain ⟨report, hparsed, hproperties⟩ := hreport
  obtain ⟨values, hvalues, hall⟩ := @coerceProperties_ok texts report.properties
  refine ⟨snap.reported report values message.monotonic, ?_, rfl, ?_⟩
  · rw [mergeReport, hparsed]
    show (coerceProperties texts report.properties).bind _ = _
    rw [hvalues]
    rfl
  · refine hsnap.dictUpdate fun value hvalue => ?_
    obtain ⟨original, hmem, hsettled, hread⟩ := hall value hvalue
    rcases hproperties with hnil | ⟨data, rfl, hdata⟩
    · rw [hnil] at hmem
      cases hmem
    · rcases hread with heq | ⟨text, rfl, hread⟩
      · have hmem' : (value.1, value.2) ∈ report.properties := heq ▸ hmem
        obtain ⟨raw', hraw'⟩ := members_of_hooked hraw ("properties", .dict report.properties)
          (mem_of_getValue hdata)
        obtain ⟨raw'', hraw''⟩ := members_of_hooked hraw' value hmem'
        exact ⟨hsettled (heq ▸ ranged_of_hooked hraw''),
          fun hnumber => hP value (.property hjson hv hdata hmem' hnumber)⟩
      · exact ⟨hread.settled, fun _ => hP value (.quoted hjson hv hdata hmem hread)⟩

theorem mergeZendure_ok {P : String × PyValue → Prop}
    (hP : ∀ value, CarriedBy texts found message.payload value → P value)
    (hsnap : IsFrom texts P snap.metrics) :
    ∃ after, mergeZendure texts snap message found = .ok after ∧ after.deviceId = snap.deviceId ∧
      IsFrom texts P after.metrics := by
  rw [mergeZendure]
  split
  next hscalar =>
    have hfamily : isScalar found.family = true := by
      simp only [Bool.and_eq_true] at hscalar
      exact hscalar.1
    obtain ⟨v, hv, hsettled, hread⟩ := @coercePayload_ok texts message.payload
    refine ⟨snap.observed [(found.metric, v)] message.monotonic, by rw [hv]; rfl, rfl, ?_⟩
    refine hsnap.dictUpdate fun value hvalue => ?_
    obtain rfl := List.mem_singleton.mp hvalue
    rcases hread with hnone | ⟨text, htext, hread⟩
    · exact ⟨hsettled, fun hnumber => by rw [hnone] at hnumber; cases hnumber⟩
    · exact ⟨hsettled, fun _ => hP _ (.scalar hfamily htext hread)⟩
  next =>
    split
    next hjson => exact mergeReport_ok hjson hP hsnap
    next => exact ⟨snap, rfl, rfl, hsnap⟩

/-! ### A run of messages -/

/-- A snapshot under its key, with metrics that the messages carried for it. -/
def SnapshotOf (texts : PayloadTexts) (messages : List Message) (key : String) (snap : Snapshot) :
    Prop :=
  snap.deviceId = key ∧
    IsFrom texts (fun value => ∃ message ∈ messages, Carries texts message key value) snap.metrics

/-- All snapshots are of the messages. -/
def Sound (texts : PayloadTexts) (messages : List Message) (devices : Devices) : Prop :=
  ∀ key snap, devices.lookup key = some snap → SnapshotOf texts messages key snap

variable {devices : Devices} {messages : List Message}

theorem SnapshotOf.snoc (h : SnapshotOf texts messages key snap) (message : Message) :
    SnapshotOf texts (messages ++ [message]) key snap :=
  ⟨h.1, h.2.mono fun _ ⟨m, hm, hcarries⟩ => ⟨m, List.mem_append_left _ hm, hcarries⟩⟩

theorem Sound.snapshotAt (h : Sound texts messages devices) (key : String) :
    SnapshotOf texts messages key (snapshotAt devices key) := by
  rw [Telemetry.snapshotAt]
  cases hlookup : devices.lookup key with
  | none => exact ⟨rfl, fun value hvalue => by cases hvalue⟩
  | some snap => exact h key snap hlookup

/-- What a message does to the snapshots: nothing, or it puts a new one in the place of that of the
device that its topic names; of a catalog device, only if it carries a reading. -/
def Merged (texts : PayloadTexts) (messages : List Message) (message : Message)
    (devices after : Devices) : Prop :=
  after = devices ∨ ∃ key snap, namedDevice texts message.topic = some key ∧
    after = devices.upsert key snap ∧ SnapshotOf texts (messages ++ [message]) key snap ∧
    (isCatalogTopic texts message.topic = true → ∃ value, Carries texts message key value)

/-- **A message never raises**, and does no more to the snapshots than it may. -/
theorem observe_ok (hsound : Sound texts messages devices) (message : Message) :
    ∃ after, observe texts devices message = .ok after ∧
      Merged texts messages message devices after := by
  by_cases hknown : (classifyTopic texts message.topic).family = .unknown
  · exact ⟨devices, by rw [observe]; exact if_pos (.inl hknown), .inl rfl⟩
  · have hnames := (@classifyTopic_names texts message.topic).resolve_left hknown
    simp only [observe, hknown, hnames.2, or_self, if_false]
    cases hexternal : externalEntry (classifyTopic texts message.topic).family with
    | some entry =>
      have hnamed : namedDevice texts message.topic =
          some (entry.snapshotKey (classifyTopic texts message.topic).deviceId) := by
        simp only [namedDevice, hexternal, if_neg hknown]
      have hentry : entry ∈ externalTopicFamilies := by
        rw [externalEntry.eq_def] at hexternal
        split at hexternal
        · exact List.mem_of_find?_eq_some hexternal
        · cases hexternal
      obtain ⟨readings, hreadings, hall⟩ :=
        @readings_ok texts entry (classifyTopic texts message.topic).metric message.payload
      simp only [hreadings]
      refine ⟨_, rfl, ?_⟩
      cases readings with
      | none => exact .inl rfl
      | some values =>
        simp only [observeExternal]
        split
        · exact .inl rfl
        next hne =>
          have hcarries : ∀ value ∈ values, Carries texts message
              (entry.snapshotKey (classifyTopic texts message.topic).deviceId) value :=
            fun value hvalue => ⟨hnamed, .reading hexternal (hall values rfl value hvalue)⟩
          refine .inr ⟨_, _, hnamed, rfl, ⟨?_, ?_⟩, fun _ => ?_⟩
          · exact (hsound.snapshotAt _).1
          · refine ((hsound.snapshotAt _).snoc message).2.dictUpdate fun value hvalue => ?_
            exact ⟨(hall values rfl value hvalue).settled hentry,
              fun _ => ⟨message, by simp, hcarries value hvalue⟩⟩
          · obtain ⟨value, rest, rfl⟩ := List.exists_cons_of_ne_nil hne
            exact ⟨value, hcarries value List.mem_cons_self⟩
    | none =>
      have hnamed : namedDevice texts message.topic =
          some (classifyTopic texts message.topic).deviceId := by
        simp only [namedDevice, hexternal, if_neg hknown]
      have hbefore := (hsound.snapshotAt (classifyTopic texts message.topic).deviceId).snoc message
      have hseen : IsFrom texts (fun value => ∃ m ∈ messages ++ [message], Carries texts m
            (classifyTopic texts message.topic).deviceId value)
          ((snapshotAt devices (classifyTopic texts message.topic).deviceId).seen message
            (classifyTopic texts message.topic)).metrics := hbefore.2
      obtain ⟨snap, hsnap, hid, hfrom⟩ :=
        mergeZendure_ok (fun value hvalue => ⟨message, by simp, hnamed, hvalue⟩) hseen
      simp only [hsnap]
      refine ⟨_, rfl, .inr ⟨_, snap, hnamed, rfl, ⟨hid.trans hbefore.1, hfrom⟩, fun hcatalog => ?_⟩⟩
      rw [isCatalogTopic, hexternal] at hcatalog
      cases hcatalog

theorem Merged.sound (h : Merged texts messages message devices after)
    (hsound : Sound texts messages devices) : Sound texts (messages ++ [message]) after := by
  intro key snap hlookup
  rcases h with rfl | ⟨named, merged, -, rfl, hmerged, -⟩
  · exact (hsound key snap hlookup).snoc message
  · rw [Table.lookup_upsert] at hlookup
    split at hlookup
    next heq =>
      obtain rfl := Option.some.inj hlookup
      rw [heq]
      exact hmerged
    next => exact (hsound key snap hlookup).snoc message

theorem Merged.lookup_eq (h : Merged texts messages message devices after)
    (hdevice : namedDevice texts message.topic ≠ some device) :
    after.lookup device = devices.lookup device := by
  rcases h with rfl | ⟨named, merged, hnamed, rfl, -, -⟩
  · rfl
  · have hne : device ≠ named := by
      rintro rfl
      exact hdevice hnamed
    rw [Table.lookup_upsert, if_neg hne]

theorem observeAll_ok (hsound : Sound texts messages devices) (more : List Message) :
    ∃ after, observeAll texts devices more = .ok after ∧ Sound texts (messages ++ more) after := by
  induction more generalizing devices messages with
  | nil => exact ⟨devices, rfl, by rwa [List.append_nil]⟩
  | cons message rest ih =>
    obtain ⟨after, hafter, hmerged⟩ := observe_ok hsound message
    obtain ⟨final, hfinal, hsound'⟩ := ih (hmerged.sound hsound)
    refine ⟨final, ?_, ?_⟩
    · rw [observeAll, hafter]
      exact hfinal
    · rwa [List.append_assoc, List.singleton_append] at hsound'

theorem sound_empty : Sound texts [] Table.empty := by
  intro key snap hlookup
  cases hlookup

/-! ### Derived fields -/

theorem toNumber_ok (h : Settled texts value) :
    ∃ n, toNumber texts value = .ok n ∧
      ∀ number, n = some number → number = value ∧ value.number?.isSome = true := by
  have hread : coerceScalar texts value = .ok value := by
    cases value with
    | str text => exact h.2 text rfl
    | _ => rfl
  refine ⟨if value.number?.isSome then some value else none, by rw [toNumber, hread]; rfl, ?_⟩
  intro number hnumber
  simp only [Option.ite_none_right_eq_some, Option.some.injEq] at hnumber
  exact ⟨hnumber.2.symm, hnumber.1⟩

theorem settled_getValue {P : String × PyValue → Prop} {metrics : Entries}
    (h : IsFrom texts P metrics) (key : String) : Settled texts (getValue metrics key) := by
  rw [getValue]
  cases hget : dictGet metrics key with
  | none => exact settled_of_ranged (ranged_of_not_number rfl) rfl
  | some value => exact (h _ (mem_of_dictGet hget)).1

theorem mem_of_getValue_number {metrics : Entries}
    (h : (getValue metrics key).number?.isSome = true) : (key, getValue metrics key) ∈ metrics := by
  rw [getValue] at h ⊢
  cases hget : dictGet metrics key with
  | none =>
    rw [hget] at h
    cases h
  | some value => exact mem_of_dictGet hget

theorem percentValue_ok {number : PyValue} (h : Ranged number) :
    ∃ v, percentValue texts number = .ok v := by
  rw [percentValue]
  cases number with
  | int z =>
    have hz := h.1 z rfl
    simp only [PyValue.number?]
    split
    · refine ⟨.float (.finite (texts.nearest (z / 10))), ?_⟩
      rw [tenth]
      exact if_pos (lt_of_lt_of_le hz (Nat.le_mul_of_pos_left _ (by decide)))
    · exact ⟨_, rfl⟩
  | float x =>
    obtain ⟨q, rfl⟩ := h.2 x rfl
    simp only [PyValue.number?]
    split
    · exact ⟨_, rfl⟩
    · exact ⟨_, rfl⟩
  | _ => exact ⟨_, rfl⟩

variable {P : String × PyValue → Prop} {metrics : Entries}

theorem percentField_ok (h : IsFrom texts P metrics) (source target : String) :
    ∃ fields, percentField texts metrics source target = .ok fields ∧ ∀ field ∈ fields,
      field.1 = target ∧ ∃ n, P (source, n) ∧ percentValue texts n = .ok field.2 := by
  obtain ⟨n, hn, hnumber⟩ := toNumber_ok (settled_getValue h source)
  rw [percentField, hn]
  cases n with
  | none => exact ⟨[], rfl, by simp⟩
  | some number =>
    obtain ⟨rfl, hsome⟩ := hnumber number rfl
    obtain ⟨v, hv⟩ := @percentValue_ok texts _ (settled_getValue h source).1
    have hmem := mem_of_getValue_number hsome
    refine ⟨[(target, v)], by simp only [bind, Except.bind, hv]; rfl, ?_⟩
    intro field hfield
    obtain rfl := List.mem_singleton.mp hfield
    exact ⟨rfl, _, (h _ hmem).2 hsome, hv⟩

theorem isOn_ok (h : Settled texts value) : ∃ b, isOn texts value = .ok b := by
  obtain ⟨n, hn, -⟩ := toNumber_ok h
  simp only [isOn, hn, bind, Except.bind]
  cases n with
  | some number => exact ⟨_, rfl⟩
  | none => cases value <;> exact ⟨_, rfl⟩

theorem fanField_ok (h : IsFrom texts P metrics) :
    ∃ fields, fanField texts metrics = .ok fields ∧ ∀ field ∈ fields, isObservable field.2 = false := by
  rw [fanField]
  cases hget : dictGet metrics "fanSwitch" with
  | none => exact ⟨[], rfl, by simp⟩
  | some value =>
    obtain ⟨b, hb⟩ := isOn_ok (h _ (mem_of_dictGet hget)).1
    refine ⟨[("fan_enabled", .bool b)], by simp only [bind, Except.bind, hb]; rfl, ?_⟩
    intro field hfield
    obtain rfl := List.mem_singleton.mp hfield
    rfl

theorem mem_aliasFields (h : field ∈ aliasFields metrics) :
    ∃ source, (source, field.1) ∈ aliases ∧ (source, field.2) ∈ metrics := by
  obtain ⟨names, hnames, hfield⟩ := List.mem_filterMap.mp h
  obtain ⟨value, hget, rfl⟩ := Option.map_eq_some_iff.mp hfield
  exact ⟨names.1, hnames, mem_of_dictGet hget⟩

theorem isObservable_channelFields (h : field ∈ channelFields metrics) :
    isObservable field.2 = false := by
  rw [channelFields] at h
  split at h
  · cases h
  · obtain rfl := List.mem_singleton.mp h
    rfl

theorem number_of_isObservable (h : isObservable v = true) :
    v.number?.isSome = true := by
  cases v with
  | int z | float x => rfl
  | _ => cases h

/-- The settings in percent, under the key of the report and the one that is handed on. -/
def percentSettings : List (String × String) :=
  [("socSet", "soc_set_percent"), ("minSoc", "min_soc_percent")]

/-- Where a number that is handed on is from, by what the messages carried: it was carried under its
key, or under one that this is another name of, or it is a setting in percent. -/
inductive HandedOn (texts : PayloadTexts) (P : String × PyValue → Prop) : String × PyValue → Prop
  | carried {value : String × PyValue} : P value → HandedOn texts P value
  | renamed {source key : String} {v : PyValue} : (source, key) ∈ aliases → P (source, v) →
      HandedOn texts P (key, v)
  | percent {source key : String} {n v : PyValue} : (source, key) ∈ percentSettings →
      P (source, n) → percentValue texts n = .ok v → HandedOn texts P (key, v)

theorem normalizedFields_ok (h : IsFrom texts P metrics) :
    ∃ fields, normalizedFields texts metrics = .ok fields ∧
      ∀ field ∈ fields, isObservable field.2 = true → HandedOn texts P field := by
  obtain ⟨fan, hfan, hfan'⟩ := fanField_ok h
  obtain ⟨soc, hsoc, hsoc'⟩ := percentField_ok h "socSet" "soc_set_percent"
  obtain ⟨least, hleast, hleast'⟩ := percentField_ok h "minSoc" "min_soc_percent"
  refine ⟨_, by simp only [normalizedFields, bind, Except.bind, hfan, hsoc, hleast]; rfl, ?_⟩
  intro field hfield hobservable
  rcases mem_dictUpdate hfield with hnil | hmem
  · cases hnil
  · simp only [List.mem_append] at hmem
    rcases hmem with (((hmem | hmem) | hmem) | hmem) | hmem
    · rw [hfan' field hmem] at hobservable
      cases hobservable
    · obtain ⟨source, halias, hin⟩ := mem_aliasFields hmem
      exact .renamed halias ((h _ hin).2 (number_of_isObservable hobservable))
    · rw [isObservable_channelFields hmem] at hobservable
      cases hobservable
    · obtain ⟨hkey, n, hn, hv⟩ := hsoc' field hmem
      obtain ⟨key, v⟩ := field
      obtain rfl : key = "soc_set_percent" := hkey
      exact .percent (by decide) hn hv
    · obtain ⟨hkey, n, hn, hv⟩ := hleast' field hmem
      obtain ⟨key, v⟩ := field
      obtain rfl : key = "min_soc_percent" := hkey
      exact .percent (by decide) hn hv

theorem inferCapabilities_ok (h : IsFrom texts P metrics) (packs : List Entries) :
    ∃ capabilities, inferCapabilities texts metrics packs = .ok capabilities := by
  have hlarge : ∃ large, hasLargeChargeLimit texts metrics = .ok large := by
    obtain ⟨n, hn, -⟩ := toNumber_ok (settled_getValue h "chargeMaxLimit")
    rw [hasLargeChargeLimit, hn]
    cases n with
    | none => exact ⟨false, rfl⟩
    | some number => exact ⟨_, rfl⟩
  obtain ⟨large, hlarge⟩ := hlarge
  exact ⟨_, by simp only [inferCapabilities, bind, Except.bind, hlarge]; rfl⟩

/-- **A snapshot is shown without an exception**, and hands on numbers that were carried only. -/
theorem normalized_ok (h : IsFrom texts P snap.metrics) :
    ∃ shown, snap.normalized texts = .ok shown ∧ shown.deviceId = snap.deviceId ∧
      ∀ value ∈ observableMetrics shown.metrics, HandedOn texts P value := by
  obtain ⟨fields, hfields, hfrom⟩ := normalizedFields_ok h
  obtain ⟨capabilities, hcapabilities⟩ := inferCapabilities_ok h snap.batteryPacks
  refine ⟨{ snap with metrics := dictUpdate snap.metrics fields, capabilities }, ?_, rfl, ?_⟩
  · simp only [Snapshot.normalized, bind, Except.bind, hfields, hcapabilities]
    rfl
  · intro value hvalue
    obtain ⟨hmem, hobservable⟩ := List.mem_filter.mp hvalue
    rcases mem_dictUpdate hmem with hold | hnew
    · exact .carried ((h value hold).2 (number_of_isObservable hobservable))
    · exact hfrom value hnew hobservable

/-- Of a snapshot that is shown for a device, what is handed on was carried for it. -/
def ShownFor (texts : PayloadTexts) (messages : List Message) (device : String) (shown : Snapshot) :
    Prop :=
  ∀ value ∈ observableMetrics shown.metrics,
    HandedOn texts (fun value => ∃ message ∈ messages, Carries texts message device value) value

theorem shown_ok : ∀ {rows : List (String × Snapshot)},
    (∀ row ∈ rows, ∃ shown, row.2.normalized texts = .ok shown ∧ shown.deviceId = row.1 ∧
      ShownFor texts messages row.1 shown) →
    ∃ shown, rows.mapM (fun row => row.2.normalized texts) = .ok shown ∧
      shown.map Snapshot.deviceId = rows.map Prod.fst ∧
      ∀ snap ∈ shown, ShownFor texts messages snap.deviceId snap
  | [], _ => ⟨[], rfl, rfl, by simp⟩
  | row :: rows, h => by
    obtain ⟨first, hfirst, hid, hQ⟩ := h row List.mem_cons_self
    obtain ⟨shown, hshown, hids, hall⟩ :=
      shown_ok fun row' hrow => h row' (List.mem_cons_of_mem row hrow)
    refine ⟨first :: shown, ?_, ?_, ?_⟩
    · simp only [List.mapM_cons, hfirst, hshown, bind, Except.bind]
      rfl
    · rw [List.map_cons, List.map_cons, hid, hids]
    · intro snap hsnap
      rcases List.mem_cons.mp hsnap with rfl | hmem
      · rwa [hid]
      · exact hall snap hmem

theorem small_of_isObservable (h : isObservable v = true) :
    ∃ q, numberValue v = some q ∧ |q| < exactFloatLimit := by
  cases v with
  | int z =>
    refine ⟨z, rfl, ?_⟩
    have hz : z.natAbs < exactFloatLimit := of_decide_eq_true h
    have hcast : |(z : ℚ)| = (z.natAbs : ℚ) := by rw [← Int.cast_abs, Int.abs_eq_natAbs, Int.cast_natCast]
    rw [hcast]
    exact_mod_cast hz
  | float x =>
    cases x with
    | finite q => exact ⟨q, rfl, of_decide_eq_true h⟩
    | _ => cases h
  | _ => cases h

end

/-- **Telemetry is read whatever is published, and every device by itself.**  No run of messages
raises, and neither does showing its snapshots, one for each device.  What is handed on of them are
numbers below 2^53 that a message carried for the device, under their key or one that this is
another name of, or settings in percent that were.  A further message changes the snapshot of the
device that its topic names by one of its segments only, which is of another kind for a topic of the
catalog than for any other, and a message of a catalog device that carries no reading changes
nothing. -/
theorem ingestion_safe (texts : PayloadTexts) (messages : List Message) :
    ∃ devices, observeAll texts .empty messages = .ok devices ∧
      (∃ shown, snapshots texts devices = .ok shown ∧
        shown.map Snapshot.deviceId = devices.rows.map Prod.fst ∧
        ∀ snap ∈ shown, ∀ value ∈ observableMetrics snap.metrics,
          (∃ q, numberValue value.2 = some q ∧ |q| < exactFloatLimit) ∧
            HandedOn texts
              (fun value => ∃ message ∈ messages, Carries texts message snap.deviceId value) value) ∧
      ∀ message, ∃ after, observe texts devices message = .ok after ∧
        (∀ device, namedDevice texts message.topic ≠ some device →
          after.lookup device = devices.lookup device) ∧
        (∀ device, namedDevice texts message.topic = some device →
          ∃ segment ∈ topicSegments message.topic, device =
            match externalEntry (classifyTopic texts message.topic).family with
            | some entry => entry.snapshotKey segment
            | none => segment) ∧
        (isCatalogTopic texts message.topic = true →
          (∀ device value, ¬ Carries texts message device value) → after = devices) ∧
        ∀ other, isCatalogTopic texts message.topic = true → isCatalogTopic texts other = false →
          ∀ device, namedDevice texts message.topic = some device →
            namedDevice texts other ≠ some device := by
  obtain ⟨devices, hdevices, hsound⟩ := observeAll_ok (@sound_empty texts) messages
  rw [List.nil_append] at hsound
  refine ⟨devices, hdevices, ?_, ?_⟩
  · have hrows : ∀ row ∈ devices.rows, ∃ shown, row.2.normalized texts = .ok shown ∧
        shown.deviceId = row.1 ∧ ShownFor texts messages row.1 shown := by
      intro row hrow
      have hsnap := hsound row.1 row.2 (Table.mem_rows_iff.mp hrow)
      obtain ⟨shown, hshown, hid, hfrom⟩ := normalized_ok hsnap.2
      exact ⟨shown, hshown, hid.trans hsnap.1, hfrom⟩
    obtain ⟨shown, hshown, hids, hall⟩ := shown_ok hrows
    refine ⟨shown, hshown, hids, fun snap hsnap value hvalue => ?_⟩
    exact ⟨small_of_isObservable (List.mem_filter.mp hvalue).2, hall snap hsnap value hvalue⟩
  · intro message
    obtain ⟨after, hafter, hmerged⟩ := observe_ok hsound message
    refine ⟨after, hafter, fun device => hmerged.lookup_eq,
      fun device => segment_of_namedDevice, ?_, ?_⟩
    · intro hcatalog hnone
      rcases hmerged with rfl | ⟨key, snap, -, -, -, hcarries⟩
      · rfl
      · obtain ⟨value, hvalue⟩ := hcarries hcatalog
        exact absurd hvalue (hnone key value)
    · intro other hcatalog hother device hnamed
      exact namedDevice_ne hcatalog hother hnamed

/-! ### A speed under another name -/

/-- Conversions that know the float 2 and no JSON. -/
def twoTexts : PayloadTexts where
  toNameTexts := Discovery.asciiTexts
  int := fun _ => none
  float text := if text = "2.0" then some (.finite 2) else none
  nearest x := x
  loads := fun _ => .error .valueError
  loads_error := by
    intro text e h
    cases h
    exact .inl rfl

def fanMessage : Message where
  topic := "Zendure/sensor/d1/fanSpeed"
  payload := "2.0".toUTF8
  epoch := 0
  monotonic := 0

/-- **The speed that is handed on was carried under another key**, and is no setting in percent. -/
theorem fan_speed_renamed :
    ¬ ∀ devices shown, observeAll twoTexts .empty [fanMessage] = .ok devices →
      snapshots twoTexts devices = .ok shown →
      ∀ snap ∈ shown, ∀ value ∈ observableMetrics snap.metrics,
        Carries twoTexts fanMessage snap.deviceId value ∨
          ∃ source n, (source, value.1) ∈ percentSettings ∧
            Carries twoTexts fanMessage snap.deviceId (source, n) ∧
            percentValue twoTexts n = .ok value.2 := by
  intro hall
  have hspeed := hall _ _ rfl rfl _ List.mem_cons_self ("fan_speed", .float (.finite 2))
    (List.mem_filter.mpr ⟨List.mem_cons_of_mem _ List.mem_cons_self, by decide⟩)
  rcases hspeed with ⟨-, hcarried⟩ | ⟨source, n, hsetting, -, -⟩
  · have hfound : classifyTopic twoTexts fanMessage.topic =
        { family := .zensdkHaScalar, deviceId := "d1", serialNumber := some "d1",
          metric := "fanSpeed" } := rfl
    rw [hfound] at hcarried
    generalize hvalue : (("fan_speed", PyValue.float (.finite 2)) : String × PyValue) = value at hcarried
    cases hcarried with
    | scalar _ _ _ =>
      have hkey : "fan_speed" = "fanSpeed" := congrArg Prod.fst hvalue
      exact absurd hkey (by decide)
    | property hjson _ _ _ _ | quoted hjson _ _ _ _ => exact absurd hjson (by decide)
    | reading hentry _ => cases hentry
  · simp [percentSettings] at hsetting

end SolarFlowEms.Mqtt.Telemetry
