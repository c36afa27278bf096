import SolarFlowEms.Config.EditsAsRead

/-!
# Which edits of the grid meter take effect

A setting that was set is read as its new value, one that was cleared has none, and every other is
read as before.  The exact exceptions: a broker named where the flat spelling is kept, a port beside
the block that is cleared, and a setting beside the block of a meter whose type changes.
-/

namespace SolarFlowEms.Config

open Python Documents

section

variable (texts : MeterTexts) (policy : MutationPolicy) (grid : Entries)
  (changes : List ConfigChange)

/-- The value of a setting before the edits under `mqtt`: as it was read, with the port at the top of
the block as it is edited there. -/
def previousSetting (key : String) : Option PyValue :=
  (spelledBefore texts policy grid changes key).read key

/-- **The edit of a setting is read back**: its new value if it was set, no value if it was cleared,
and the previous one otherwise. -/
def TakesEffect (credential : Option CredentialIntent) (key : String) : Prop :=
  let read := dictGet (gridMeterMqttSettings
    (applyGridMeterChanges texts policy grid changes credential).grid) key
  match resolvedSetting texts changes key with
  | .set value => ∃ stored, read = some stored ∧
      (stored = value ∨ isUnchanged (some stored) value = true)
  | .clear =>
    if policy.allowRemove then read = none else read = previousSetting texts policy grid changes key
  | _ => read = previousSetting texts policy grid changes key

/-- The settings are edited beside the block: the workflow keeps old spellings, there is no block,
and some setting stands beside where it would be. -/
def EditsFlat : Prop :=
  changedType texts grid changes = meterType texts grid ∧
    policy.preserveLegacyRepresentations = true ∧ hasNested grid = false ∧
    ∃ key ∈ gridMeterKnownMqttKeys, flatBefore texts policy grid changes key ≠ none

/-- A setting is read from beside the block, and the meter changes its type. -/
def Drops (key : String) : Prop :=
  changedType texts grid changes ≠ meterType texts grid ∧ (spellings grid key).nested = none ∧
    key ∈ mqttGridMeterKeys ∧ flatBefore texts policy grid changes key ≠ none

/-- The edits that are not read back. -/
def Misses (key : String) : Prop :=
  match resolvedSetting texts changes key with
  | .set _ => key = "broker_ref" ∧ EditsFlat texts policy grid changes
  | .clear =>
    if policy.allowRemove then
      key = "port" ∧ changedType texts grid changes = meterType texts grid ∧
        flatBefore texts policy grid changes "port" ≠ none
    else Drops texts policy grid changes key
  | _ => Drops texts policy grid changes key

variable {texts policy grid changes} {key : String} {variant : Variant}
  {credential : Option CredentialIntent}

theorem dictGet_typedMeter_mqtt :
    dictGet (typedMeter texts grid changes).grid "mqtt" = dictGet grid "mqtt" := by
  have hrun (list : List ConfigChange) (m : Mutation) :
      dictGet (list.foldl (applyGridMeterType texts) m).grid "mqtt" = dictGet m.grid "mqtt" := by
    induction list generalizing m with
    | nil => rfl
    | cons change rest ih =>
      rw [List.foldl_cons, ih, applyGridMeterType]
      split
      · simp only
        split
        · rfl
        · rw [grid_apply, dictGet_dictSet, if_neg (by decide)]
      · rfl
  exact hrun _ _

theorem dictGet_editedMeter_mqtt :
    dictGet (editedMeter texts policy grid changes).grid "mqtt" = dictGet grid "mqtt" := by
  have hstep (m : Mutation) (change : ConfigChange) :
      dictGet (applyOne texts policy m change).grid "mqtt" = dictGet m.grid "mqtt" := by
    rw [applyOne]
    split
    · rfl
    · rename_i field hfield
      have hpath := Ne.symm (ne_mqtt_of_field hfield)
      split
      · rw [grid_refuse]
      · rfl
      · split
        · rw [grid_apply, SolarFlowEms.Runtime.dictGet_dictPop, if_neg hpath]
        · rfl
      · split
        · rfl
        · rw [grid_apply, dictGet_dictSet, if_neg hpath]
  have hrun (list : List ConfigChange) (m : Mutation) :
      dictGet (list.foldl (applyOne texts policy) m).grid "mqtt" = dictGet m.grid "mqtt" := by
    induction list generalizing m with
    | nil => rfl
    | cons change rest ih => rw [List.foldl_cons, ih, hstep]
  exact (hrun _ _).trans dictGet_typedMeter_mqtt

theorem hasNested_editedMeter :
    hasNested (editedMeter texts policy grid changes).grid = hasNested grid := by
  rw [hasNested, hasNested, getValue, getValue, dictGet_editedMeter_mqtt]

theorem nested_editedMeter : (spellings (editedMeter texts policy grid changes).grid key).nested =
    (spellings grid key).nested := by
  show dictGet (nestedSettings _) key = dictGet (nestedSettings grid) key
  rw [nestedSettings, nestedSettings, getValue, getValue, dictGet_editedMeter_mqtt]

theorem known_ne_mqtt (h : key ∈ gridMeterKnownMqttKeys) : key ≠ "mqtt" := by
  have hall : ∀ key ∈ gridMeterKnownMqttKeys, key ≠ "mqtt" := by decide
  exact hall key h

section

variable (htype : changedType texts grid changes ∈ mqttGridMeterTypes)
include htype

/-- **Where the settings are edited**, from the block as it is given. -/
theorem keepsFlat_cleanedMeter
    (hvariant : gridMeterVariant (changedType texts grid changes) = some variant) :
    keepsFlat policy (cleanedMeter texts policy grid changes).grid = true ↔
      EditsFlat texts policy grid changes := by
  have hflat {key : String} (hkey : key ∈ gridMeterKnownMqttKeys) :
      dictGet (cleanedMeter texts policy grid changes).grid key =
        (spelledCleaned texts policy grid changes variant key).flat := by
    rw [← besideBlock_of_ne (known_ne_mqtt hkey)]
    exact congrArg Spellings.flat (spellings_cleanedMeter htype hvariant
      (left_of_setting (List.mem_append_left _ hkey)))
  have hany : ((gridMeterKnownMqttKeys.any fun key =>
      (dictGet (cleanedMeter texts policy grid changes).grid key).isSome) = true) ↔
      ∃ key ∈ gridMeterKnownMqttKeys,
        (spelledCleaned texts policy grid changes variant key).flat ≠ none := by
    rw [List.any_eq_true]
    constructor
    · rintro ⟨key, hkey, hsome⟩
      exact ⟨key, hkey, by rwa [hflat hkey, Option.isSome_iff_ne_none] at hsome⟩
    · rintro ⟨key, hkey, hsome⟩
      exact ⟨key, hkey, by rwa [hflat hkey, Option.isSome_iff_ne_none]⟩
  rw [keepsFlat, Bool.and_eq_true_iff, Bool.and_eq_true_iff, hany, EditsFlat]
  by_cases hsame : changedType texts grid changes = meterType texts grid
  · have hcleaned : cleanedMeter texts policy grid changes =
        editedMeter texts policy grid changes :=
      afterTypeChange_of_same (meterType_editedMeter.trans hsame)
    rw [hcleaned, hasNested_editedMeter]
    simp only [spelledCleaned, spelledBefore, hsame, true_and, Bool.not_eq_true']
    tauto
  · constructor
    · rintro ⟨⟨-, known, hknown, hsome⟩, -⟩
      rw [spelledCleaned, if_neg hsame, Spellings.cleaned] at hsome
      exact absurd (if_pos (.inr hknown)) hsome
    · rintro ⟨hsame', -⟩
      exact absurd hsame' hsame

/-! ### The settings of the result -/

theorem applyGridMeterChanges_eq :
    applyGridMeterChanges texts policy grid changes credential =
      applyGridMeterMqtt texts policy changes credential
        (cleanedMeter texts policy grid changes) := by
  have hmqtt : meterType texts (cleanedMeter texts policy grid changes).grid ∈
      mqttGridMeterTypes := by
    rw [meterType_cleanedMeter htype]
    exact htype
  exact if_pos hmqtt

/-- **The spellings of the result**, from the block as it is given. -/
theorem spellings_applyGridMeterChanges
    (hvariant : gridMeterVariant (changedType texts grid changes) = some variant)
    (hleft : LeftAtTop changes key ∨ key = "port")
    (hpassword : key = "password" → keepsCredential credential = true) :
    spellings (applyGridMeterChanges texts policy grid changes credential).grid key =
      if key ∈ editableGridMeterMqttKeys (changedType texts grid changes) then
        (spelledCleaned texts policy grid changes variant key).edited texts policy changes
          ((spelledCleaned texts policy grid changes variant key).read key)
          (keepsFlat policy (cleanedMeter texts policy grid changes).grid) key
      else spelledCleaned texts policy grid changes variant key := by
  rw [applyGridMeterChanges_eq htype, spellings_applyGridMeterMqtt hpassword,
    meterType_cleanedMeter htype, dictGet_gridMeterMqttSettings,
    spellings_cleanedMeter htype hvariant hleft]

theorem nested_applyGridMeterChanges
    (hvariant : gridMeterVariant (changedType texts grid changes) = some variant)
    (hkey : key ∉ editableGridMeterMqttKeys (changedType texts grid changes))
    (hpassword : key = "password" → keepsCredential credential = true) :
    (spellings (applyGridMeterChanges texts policy grid changes credential).grid key).nested =
      if changedType texts grid changes = meterType texts grid then (spellings grid key).nested
      else if key ∈ gridMeterKnownMqttKeys ∧ key ∉ variant.mqttFields then none
      else (spellings grid key).nested := by
  have hedited := @meterType_editedMeter texts policy grid changes
  rw [applyGridMeterChanges_eq htype, spellings_applyGridMeterMqtt hpassword,
    meterType_cleanedMeter htype, if_neg hkey, cleanedMeter]
  split
  · rename_i hsame
    rw [afterTypeChange_of_same (hedited.trans hsame), nested_editedMeter]
  · rename_i hchanged
    rw [← hedited] at htype hvariant hchanged
    rw [spellings_afterTypeChange htype hvariant hchanged, Spellings.cleaned, nested_editedMeter]

end

theorem mem_mqttFields (hvariant : gridMeterVariant (changedType texts grid changes) = some variant)
    (hkey : key ∈ editableGridMeterMqttKeys (changedType texts grid changes))
    (hknown : key ∈ gridMeterKnownMqttKeys) : key ∈ variant.mqttFields := by
  have hextra : ∀ key ∈ gridMeterKnownMqttKeys, key ∉ gridMeterMqttExtraKeys := by decide
  have hmem := (List.mem_filter.mp hkey).2
  rw [hvariant] at hmem
  simpa [hextra key hknown] using hmem

theorem editor_keys : ∀ key ∈ knownEditorKeys, (key ∈ mqttGridMeterKeys ↔ key ≠ "broker_ref") ∧
    (key ∈ gridMeterKnownMqttKeys ↔ key ≠ "broker_ref") ∧
    (key ∈ gridMeterKnownTopKeys ↔ key = "port") := by
  decide

section

variable (hvariant : gridMeterVariant (changedType texts grid changes) = some variant)
  (hkey : key ∈ editableGridMeterMqttKeys (changedType texts grid changes))
include hvariant hkey

theorem read_spelledCleaned :
    (spelledCleaned texts policy grid changes variant key).read key =
        (if changedType texts grid changes = meterType texts grid then
          previousSetting texts policy grid changes key else (spellings grid key).nested) ∧
      (spelledCleaned texts policy grid changes variant key).nested =
        (spellings grid key).nested := by
  obtain ⟨hread, hknown, -⟩ := editor_keys key (mem_editable hkey)
  rw [spelledCleaned]
  by_cases hsame : changedType texts grid changes = meterType texts grid
  · rw [if_pos hsame, if_pos hsame]
    exact ⟨rfl, rfl⟩
  · have hnested : ¬ (key ∈ gridMeterKnownMqttKeys ∧ key ∉ variant.mqttFields) := fun h =>
      h.2 (mem_mqttFields hvariant hkey h.1)
    rw [if_neg hsame, if_neg hsame, Spellings.cleaned, if_neg hnested, Spellings.read]
    refine ⟨?_, rfl⟩
    simp only [spelledBefore]
    by_cases hbroker : key = "broker_ref"
    · rw [if_neg (by rw [hread]; exact fun h => h hbroker), Option.or_none]
    · rw [if_pos (hread.mpr hbroker), if_pos (.inr (hknown.mpr hbroker)), Option.or_none]

theorem read_spelledCleaned_iff :
    (spelledCleaned texts policy grid changes variant key).read key =
      previousSetting texts policy grid changes key ↔ ¬ Drops texts policy grid changes key := by
  rw [(read_spelledCleaned hvariant hkey).1, Drops]
  by_cases hsame : changedType texts grid changes = meterType texts grid
  · rw [if_pos hsame]
    exact ⟨fun _ h => h.1 hsame, fun _ => rfl⟩
  · rw [if_neg hsame, previousSetting, Spellings.read, spelledBefore]
    cases hnested : (spellings grid key).nested with
    | some value => simp
    | none =>
      by_cases hread : key ∈ mqttGridMeterKeys
      · simp [hsame, hread, eq_comm]
      · simp [hread]

end

theorem nested_of_editsFlat (h : EditsFlat texts policy grid changes) :
    (spellings grid key).nested = none := by
  rw [spellings, nestedSettings_of_flat h.2.2.1]
  rfl

theorem takesEffect_iff (htype : changedType texts grid changes ∈ mqttGridMeterTypes)
    (hkey : key ∈ editableGridMeterMqttKeys (changedType texts grid changes)) :
    TakesEffect texts policy grid changes credential key ↔
      ¬ Misses texts policy grid changes key := by
  obtain ⟨variant, hvariant⟩ := variant_of_mqtt htype
  have heditor := mem_editable hkey
  obtain ⟨hread, hknown, htop⟩ := editor_keys key heditor
  have hspelled := @spellings_applyGridMeterChanges texts policy grid changes key variant credential
    htype hvariant (left_of_setting (List.mem_append_right _ heditor))
    (fun h => absurd (h ▸ hkey) editable_ne_password)
  rw [if_pos hkey] at hspelled
  obtain ⟨hcurrent, hnested⟩ := @read_spelledCleaned texts policy grid changes key variant
    hvariant hkey
  rw [TakesEffect, Misses]
  simp only [dictGet_gridMeterMqttSettings, hspelled, Spellings.edited]
  cases resolvedSetting texts changes key with
  | keep | invalid => exact read_spelledCleaned_iff hvariant hkey
  | clear =>
    simp only
    by_cases hremove : policy.allowRemove = true
    · simp only [if_pos hremove]
      rw [Spellings.read, Option.none_or]
      by_cases hport : key = "port"
      · have hin : "port" ∈ mqttGridMeterKeys := by decide
        rw [if_pos (htop.mpr hport), hport, if_pos hin, spelledCleaned]
        by_cases hsame : changedType texts grid changes = meterType texts grid
        · rw [if_pos hsame]
          simp [hsame, spelledBefore]
        · have hgone : "port" ∈ gridMeterKnownMqttKeys := by decide
          rw [if_neg hsame, Spellings.cleaned]
          simp [hsame, hgone]
      · rw [if_neg (fun h => hport (htop.mp h)), ite_self]
        exact ⟨fun _ h => hport h.1, fun _ => rfl⟩
    · simp only [if_neg hremove]
      exact read_spelledCleaned_iff hvariant hkey
  | set value =>
    simp only
    have hflat := @keepsFlat_cleanedMeter texts policy grid changes variant htype hvariant
    by_cases hunchanged : isUnchanged
        ((spelledCleaned texts policy grid changes variant key).read key) value = true
    · rw [if_pos hunchanged]
      obtain ⟨stored, hstored, hsame⟩ : ∃ stored,
          (spelledCleaned texts policy grid changes variant key).read key = some stored ∧
            isUnchanged (some stored) value = true := by
        cases hfound : (spelledCleaned texts policy grid changes variant key).read key with
        | none =>
          rw [hfound] at hunchanged
          cases hunchanged
        | some stored =>
          rw [hfound] at hunchanged
          exact ⟨stored, rfl, hunchanged⟩
      refine ⟨fun _ hmisses => ?_, fun _ => ⟨stored, hstored, .inr hsame⟩⟩
      have hnone := @nested_of_editsFlat texts policy grid changes key hmisses.2
      rw [Spellings.read, hnested, hnone, if_neg (fun h => hread.mp h hmisses.1)] at hstored
      cases hstored
    · rw [if_neg hunchanged]
      by_cases hkeep : keepsFlat policy (cleanedMeter texts policy grid changes).grid = true
      · have hnone := @nested_of_editsFlat texts policy grid changes key (hflat.mp hkeep)
        rw [if_pos hkeep, Spellings.read, hnested, hnone, Option.none_or]
        by_cases hbroker : key = "broker_ref"
        · rw [if_neg (fun h => hread.mp h hbroker)]
          simp [hbroker, hflat.mp hkeep]
        · rw [if_pos (hread.mpr hbroker)]
          simp [hbroker]
      · rw [if_neg hkeep, Spellings.read]
        refine ⟨fun _ hmisses => hkeep (hflat.mpr hmisses.2), fun _ => ⟨value, rfl, .inl rfl⟩⟩

/-! ### What is not edited -/

variable (texts grid changes) in
/-- The cleanup after a change of type takes the key from beside the block. -/
def CleansFlat (key : String) : Prop :=
  changedType texts grid changes ≠ meterType texts grid ∧
    (key ∈ httpKeys ∨ key ∈ gridMeterKnownMqttKeys) ∧ (spellings grid key).flat ≠ none

variable (texts grid changes) in
/-- The cleanup after a change of type takes the key from the block. -/
def CleansNested (variant : Variant) (key : String) : Prop :=
  changedType texts grid changes ≠ meterType texts grid ∧
    (key ∈ gridMeterKnownMqttKeys ∧ key ∉ variant.mqttFields) ∧ (spellings grid key).nested ≠ none

theorem cleaned_iff {stored : Option PyValue} (gone : Prop) [Decidable gone] :
    (if changedType texts grid changes = meterType texts grid then stored
      else if gone then none else stored) = stored ↔
      ¬ (changedType texts grid changes ≠ meterType texts grid ∧ gone ∧ stored ≠ none) := by
  by_cases hsame : changedType texts grid changes = meterType texts grid
  · rw [if_pos hsame]
    exact ⟨fun _ h => h.1 hsame, fun _ => rfl⟩
  · rw [if_neg hsame]
    by_cases hgone : gone
    · simp [hsame, hgone, eq_comm]
    · rw [if_neg hgone]
      exact ⟨fun _ h => hgone h.2.1, fun _ => rfl⟩

theorem flat_spelledCleaned (hport : key ≠ "port") :
    (spelledCleaned texts policy grid changes variant key).flat =
      if changedType texts grid changes = meterType texts grid then (spellings grid key).flat
      else if key ∈ httpKeys ∨ key ∈ gridMeterKnownMqttKeys then none
      else (spellings grid key).flat := by
  have hbefore : spelledBefore texts policy grid changes key = spellings grid key := by
    rw [spelledBefore, flatBefore, if_neg hport]
    rfl
  rw [spelledCleaned, hbefore]
  split
  · rfl
  · rfl

/-- **A key beside the block that no edit writes is left as it is**, unless the type changes and
some kind of meter has it. -/
theorem flat_unedited_iff (htype : changedType texts grid changes ∈ mqttGridMeterTypes)
    (hleft : LeftAtTop changes key)
    (hkey : key ∉ editableGridMeterMqttKeys (changedType texts grid changes))
    (hpassword : key = "password" → keepsCredential credential = true) :
    (spellings (applyGridMeterChanges texts policy grid changes credential).grid key).flat =
      (spellings grid key).flat ↔ ¬ CleansFlat texts grid changes key := by
  have heditable : ∀ gridType ∈ mqttGridMeterTypes, "port" ∈ editableGridMeterMqttKeys gridType := by
    decide
  have hport : key ≠ "port" := by
    rintro rfl
    exact hkey (heditable _ htype)
  obtain ⟨variant, hvariant⟩ := variant_of_mqtt htype
  rw [spellings_applyGridMeterChanges htype hvariant (.inl hleft) hpassword, if_neg hkey,
    flat_spelledCleaned hport]
  exact cleaned_iff _

/-- **A key in the block that is not edited is left as it is**, unless the type changes and it is a
setting that the new kind of meter does not have. -/
theorem nested_unedited_iff (htype : changedType texts grid changes ∈ mqttGridMeterTypes)
    (hvariant : gridMeterVariant (changedType texts grid changes) = some variant)
    (hkey : key ∉ editableGridMeterMqttKeys (changedType texts grid changes))
    (hpassword : key = "password" → keepsCredential credential = true) :
    (spellings (applyGridMeterChanges texts policy grid changes credential).grid key).nested =
      (spellings grid key).nested ↔ ¬ CleansNested texts grid changes variant key := by
  rw [nested_applyGridMeterChanges htype hvariant hkey hpassword]
  exact cleaned_iff _

/-- **What became of an edited grid meter**: its settings take effect but for the exceptions, and
what no edit writes stays but for the keys of another kind of meter, where the type changed. -/
theorem gridMeterEdits_take_effect_iff (texts : MeterTexts) (policy : MutationPolicy)
    (grid : Entries) (changes : List ConfigChange) (credential : Option CredentialIntent)
    (htype : changedType texts grid changes ∈ mqttGridMeterTypes) :
    (∀ key ∈ editableGridMeterMqttKeys (changedType texts grid changes),
      TakesEffect texts policy grid changes credential key ↔
        ¬ Misses texts policy grid changes key) ∧
    ∃ variant, gridMeterVariant (changedType texts grid changes) = some variant ∧
      ∀ key ∉ editableGridMeterMqttKeys (changedType texts grid changes),
        (key = "password" → keepsCredential credential = true) →
        (LeftAtTop changes key →
          ((spellings (applyGridMeterChanges texts policy grid changes credential).grid key).flat =
            (spellings grid key).flat ↔ ¬ CleansFlat texts grid changes key)) ∧
        ((spellings (applyGridMeterChanges texts policy grid changes credential).grid key).nested =
          (spellings grid key).nested ↔ ¬ CleansNested texts grid changes variant key) := by
  obtain ⟨variant, hvariant⟩ := variant_of_mqtt htype
  refine ⟨fun key hkey => takesEffect_iff htype hkey, variant, hvariant, ?_⟩
  intro key hkey hpassword
  exact ⟨fun hleft => flat_unedited_iff htype hleft hkey hpassword,
    nested_unedited_iff htype hvariant hkey hpassword⟩

end

/-! ### Edits that are not read back -/

/-- Texts that convert nothing. -/
def noTexts : MeterTexts where
  str value := value.str?.getD ""
  repr _ := ""
  int _ := none
  str_str := getD_str?_str
  float _ := none
  ipAddress _ := none
  urlHostname _ := none
  floatOfInt z := some z

def maintenancePolicy : MutationPolicy := ⟨true, true, true⟩

def flatMeter : Entries :=
  [("type", .str "mqtt"), ("host", .str "192.0.2.20"), ("port", .int 1883),
    ("topic", .str "meter/power")]

def settingOf (change : ConfigChange) (key : String) : Option PyValue :=
  dictGet (gridMeterMqttSettings
    (applyGridMeterChanges noTexts maintenancePolicy flatMeter [change] none).grid) key

/-- The theorem at this meter, where the topic is edited. -/
theorem gridMeterEdits_take_effect_iff_topic :
    changedType noTexts flatMeter [⟨"mqtt.topic", .str "new/topic", .set⟩] ∈ mqttGridMeterTypes ∧
      ∀ key ∈ editableGridMeterMqttKeys
          (changedType noTexts flatMeter [⟨"mqtt.topic", .str "new/topic", .set⟩]),
        TakesEffect noTexts maintenancePolicy flatMeter
          [⟨"mqtt.topic", .str "new/topic", .set⟩] none key ↔
        ¬ Misses noTexts maintenancePolicy flatMeter
          [⟨"mqtt.topic", .str "new/topic", .set⟩] key := by
  have htype : changedType noTexts flatMeter [⟨"mqtt.topic", .str "new/topic", .set⟩] ∈
      mqttGridMeterTypes := by decide +kernel
  exact ⟨htype, (gridMeterEdits_take_effect_iff noTexts maintenancePolicy flatMeter
    [⟨"mqtt.topic", .str "new/topic", .set⟩] none htype).1⟩

/-- **A broker that is set is not read, though it is reported as applied, and a port that is cleared
is still read.** -/
theorem flat_edits_not_read :
    (settingOf ⟨"mqtt.broker_ref", .str "home", .set⟩ "broker_ref").isNone = true ∧
      (applyGridMeterChanges noTexts maintenancePolicy flatMeter
        [⟨"mqtt.broker_ref", .str "home", .set⟩] none).applied =
          [⟨"grid_meter.mqtt.broker_ref", .set⟩] ∧
      ((settingOf ⟨"mqtt.port", .none, .clear⟩ "port").bind PyValue.int?) = some 1883 := by
  decide +kernel

end SolarFlowEms.Config
