import SolarFlowEms.Config.GridMeterEdits

/-!
# Edits of the grid meter as they are read

A setting of a meter has two spellings, in the block and beside it, and the reader takes the one in
the block.  An edit changes one of them.  It is read back, but for a broker that is named beside the
block, for a port beside it that is cleared, and for what a change of type removes.
-/

namespace SolarFlowEms.Config

open Python Documents
open SolarFlowEms.Runtime (dictPop dictGet_dictPop)

/-! ### The two spellings of a setting -/

def nestedSettings (grid : Entries) : Entries := ((getValue grid "mqtt").dict?).getD []

def besideBlock (grid : Entries) (key : String) : Option PyValue :=
  if key = "mqtt" then none else dictGet grid key

theorem besideBlock_of_ne {key : String} (hkey : key ≠ "mqtt") (grid : Entries) :
    besideBlock grid key = dictGet grid key := if_neg hkey

/-- A setting as it stands in the block and beside it. -/
structure Spellings where
  nested : Option PyValue
  flat : Option PyValue

def spellings (grid : Entries) (key : String) : Spellings where
  nested := dictGet (nestedSettings grid) key
  flat := besideBlock grid key

def Spellings.read (spelled : Spellings) (key : String) : Option PyValue :=
  spelled.nested.or (if key ∈ mqttGridMeterKeys then spelled.flat else none)

theorem dictGet_foldl_settings (grid : Entries) (keys : List String) (settings : Entries)
    (key : String) :
    dictGet (keys.foldl (fun settings key =>
      match dictGet settings key, dictGet grid key with
      | none, some value => dictSet settings key value
      | _, _ => settings) settings) key =
      (dictGet settings key).or (if key ∈ keys then dictGet grid key else none) := by
  induction keys generalizing settings with
  | nil => simp
  | cons first rest ih =>
    rw [List.foldl_cons, ih]
    have hstep : dictGet (match dictGet settings first, dictGet grid first with
        | none, some value => dictSet settings first value
        | _, _ => settings) key =
        (dictGet settings key).or (if key = first then dictGet grid key else none) := by
      by_cases hkey : key = first
      · subst hkey
        cases hold : dictGet settings key with
        | some value => simp [hold]
        | none =>
          cases hflat : dictGet grid key with
          | none => simp [hold]
          | some value => simp [dictGet_dictSet]
      · rw [if_neg hkey, Option.or_none]
        split
        · rw [dictGet_dictSet, if_neg hkey]
        · rfl
    rw [hstep, Option.or_assoc]
    congr 1
    by_cases hkey : key = first
    · simp only [hkey, if_true, List.mem_cons_self]
      cases dictGet grid first with
      | none => simp
      | some value => rfl
    · simp [hkey]

/-- **The reader takes the spelling in the block, and else the one beside it.** -/
theorem dictGet_gridMeterMqttSettings (grid : Entries) (key : String) :
    dictGet (gridMeterMqttSettings grid) key = (spellings grid key).read key := by
  have hread : (spellings grid key).read key = (dictGet (nestedSettings grid) key).or
      (if key ∈ mqttGridMeterKeys then dictGet grid key else none) := by
    rw [Spellings.read]
    by_cases hmqtt : key = "mqtt"
    · have hnot : "mqtt" ∉ mqttGridMeterKeys := by decide
      rw [hmqtt, if_neg hnot, if_neg hnot]
      rfl
    · rw [spellings, besideBlock_of_ne hmqtt]
  rw [hread]
  exact dictGet_foldl_settings grid mqttGridMeterKeys (nestedSettings grid) key

/-! ### Writing and clearing a setting -/

section Spelled

variable {grid : Entries} {key other : String}

theorem hasNested_of_dict {nested : Entries} (h : getValue grid "mqtt" = .dict nested) :
    hasNested grid = true := by
  rw [hasNested, h]
  rfl

theorem hasNested_of_not_dict (h : ∀ nested, getValue grid "mqtt" = .dict nested → False) :
    hasNested grid = false := by
  rw [hasNested]
  cases hvalue : getValue grid "mqtt" with
  | dict nested => exact (h nested hvalue).elim
  | none | bool _ | int _ | float _ | str _ | list _ => rfl

theorem nestedSettings_of_dict {nested : Entries} (h : getValue grid "mqtt" = .dict nested) :
    nestedSettings grid = nested := by
  rw [nestedSettings, h]
  rfl

theorem nestedSettings_of_flat (h : hasNested grid = false) : nestedSettings grid = [] := by
  rw [nestedSettings]
  rw [hasNested] at h
  cases hmqtt : (getValue grid "mqtt").dict? with
  | none => rfl
  | some nested =>
    rw [hmqtt] at h
    cases h

theorem nestedSettings_dictSet (value : PyValue) (hkey : key ≠ "mqtt") :
    nestedSettings (dictSet grid key value) = nestedSettings grid := by
  rw [nestedSettings, getValue, dictGet_dictSet, if_neg (Ne.symm hkey)]
  rfl

theorem nestedSettings_dictSet_mqtt (nested : Entries) :
    nestedSettings (dictSet grid "mqtt" (.dict nested)) = nested := by
  rw [nestedSettings, getValue, dictGet_dictSet, if_pos rfl]
  rfl

theorem nestedSettings_dictPop (hkey : key ≠ "mqtt") :
    nestedSettings (dictPop grid key) = nestedSettings grid := by
  rw [nestedSettings, getValue, dictGet_dictPop, if_neg (Ne.symm hkey)]
  rfl

theorem besideBlock_dictSet (value : PyValue) (hkey : key ≠ "mqtt") :
    besideBlock (dictSet grid key value) other =
      if other = key then some value else besideBlock grid other := by
  rw [besideBlock, besideBlock, dictGet_dictSet]
  by_cases hsame : other = key
  · rw [if_pos hsame, if_pos hsame, hsame, if_neg hkey]
  · rw [if_neg hsame, if_neg hsame]

theorem besideBlock_dictPop (key other : String) :
    besideBlock (dictPop grid key) other =
      if other = key then none else besideBlock grid other := by
  rw [besideBlock, besideBlock, dictGet_dictPop]
  split
  · rw [ite_self]
  · rfl

theorem spellings_dictSet (value : PyValue) (hkey : key ≠ "mqtt") :
    spellings (dictSet grid key value) other =
      ⟨(spellings grid other).nested,
        if other = key then some value else (spellings grid other).flat⟩ := by
  rw [spellings, nestedSettings_dictSet value hkey, besideBlock_dictSet value hkey]
  rfl

theorem spellings_dictPop (hkey : key ≠ "mqtt") :
    spellings (dictPop grid key) other =
      ⟨(spellings grid other).nested,
        if other = key then none else (spellings grid other).flat⟩ := by
  rw [spellings, nestedSettings_dictPop hkey, besideBlock_dictPop]
  rfl

theorem spellings_dictSet_mqtt (nested : Entries) :
    spellings (dictSet grid "mqtt" (.dict nested)) other =
      ⟨dictGet nested other, (spellings grid other).flat⟩ := by
  rw [spellings, nestedSettings_dictSet_mqtt, besideBlock, dictGet_dictSet]
  congr 1
  by_cases hother : other = "mqtt"
  · rw [if_pos hother, spellings, besideBlock, if_pos hother]
  · rw [if_neg hother, if_neg hother, spellings, besideBlock, if_neg hother]

theorem hasNested_writeSetting (value : PyValue) (hkey : key ≠ "mqtt")
    (h : hasNested grid = false) : hasNested (writeSetting true grid key value) = false := by
  rw [writeSetting.eq_def]
  split
  · rename_i nested hmqtt
    rw [hasNested_of_dict hmqtt] at h
    cases h
  · rw [if_pos rfl, hasNested, getValue, dictGet_dictSet, if_neg (Ne.symm hkey)]
    exact h

/-- **A write changes one spelling of its key**: the flat one where that is kept, and the one in the
block otherwise. -/
theorem spellings_writeSetting {keepFlat : Bool} (value : PyValue) (hkey : key ≠ "mqtt")
    (hflat : keepFlat = true → hasNested grid = false) :
    spellings (writeSetting keepFlat grid key value) other =
      if other = key then
        if keepFlat then ⟨(spellings grid key).nested, some value⟩
        else ⟨some value, (spellings grid key).flat⟩
      else spellings grid other := by
  rw [writeSetting.eq_def]
  split
  · rename_i nested hmqtt
    have hkeep : keepFlat = false := by
      cases keepFlat with
      | false => rfl
      | true =>
        have hnone := hflat rfl
        rw [hasNested_of_dict hmqtt] at hnone
        cases hnone
    rw [spellings_dictSet_mqtt _, dictGet_dictSet, hkeep]
    split
    · rename_i hsame
      rw [hsame, if_neg Bool.false_ne_true]
    · rw [spellings, nestedSettings_of_dict hmqtt]
  · rename_i hmqtt
    cases keepFlat with
    | true =>
      rw [if_pos rfl, spellings_dictSet value hkey, if_pos rfl]
      split
      · rename_i hsame
        rw [hsame]
      · rfl
    | false =>
      have hnone := hasNested_of_not_dict hmqtt
      rw [if_neg Bool.false_ne_true, spellings_dictSet_mqtt _, dictGet_cons,
        if_neg Bool.false_ne_true]
      by_cases hsame : other = key
      · rw [if_pos hsame.symm, if_pos hsame, hsame]
      · rw [if_neg (Ne.symm hsame), if_neg hsame, spellings, nestedSettings_of_flat hnone]

theorem spellings_changeNested {change : Entries → Entries} (hnil : change [] = [])
    : spellings (changeNested change grid) other =
      ⟨dictGet (change (nestedSettings grid)) other, (spellings grid other).flat⟩ := by
  rw [changeNested.eq_def]
  split
  · rename_i nested hmqtt
    rw [spellings_dictSet_mqtt _, nestedSettings_of_dict hmqtt]
  · rename_i hmqtt
    have hnone := nestedSettings_of_flat (hasNested_of_not_dict hmqtt)
    rw [spellings, hnone, hnil]

theorem spellings_popNested :
    spellings (popNested grid key) other =
      if other = key then ⟨none, (spellings grid key).flat⟩ else spellings grid other := by
  rw [popNested, spellings_changeNested rfl, dictGet_dictPop]
  split
  · rename_i hsame
    rw [hsame]
  · rfl

theorem hasNested_popNested (h : hasNested grid = false) : popNested grid key = grid := by
  rw [popNested, changeNested.eq_def]
  split
  · rename_i nested hmqtt
    rw [hasNested_of_dict hmqtt] at h
    cases h
  · rfl

theorem spellings_clearSetting (hkey : key ≠ "mqtt") :
    spellings (clearSetting grid key) other =
      if other = key then
        ⟨none, if key ∈ gridMeterKnownTopKeys then (spellings grid key).flat else none⟩
      else spellings grid other := by
  rw [clearSetting]
  split
  · exact spellings_popNested
  · have hpop := @spellings_popNested grid key other
    rw [spellings_dictPop hkey]
    split
    · rename_i hsame
      rw [hpop, if_pos hsame]
    · rename_i hne
      rw [if_neg hne] at hpop
      rw [← hpop]

end Spelled

/-! ### One setting, and all of them -/

section Settings

variable (texts : MeterTexts) (policy : MutationPolicy) (changes : List ConfigChange)

/-- What an edit makes of the spellings of its key. -/
def Spellings.edited (current : Option PyValue) (keepFlat : Bool) (key : String)
    (spelled : Spellings) : Spellings :=
  match resolvedSetting texts changes key with
  | .set value =>
    if isUnchanged current value then spelled
    else if keepFlat then ⟨spelled.nested, some value⟩ else ⟨some value, spelled.flat⟩
  | .clear =>
    if policy.allowRemove then
      ⟨none, if key ∈ gridMeterKnownTopKeys then spelled.flat else none⟩
    else spelled
  | _ => spelled

variable {texts policy changes} {current : Entries} {keepFlat : Bool} {m : Mutation}
  {key other : String}

@[simp] theorem grid_refuse (stored : Option PyValue) (field : Option CatalogField) (raw : PyValue)
    (path : String) : (m.refuse texts stored field raw path).grid = m.grid := by
  rw [Mutation.refuse]
  split
  · rfl
  · rfl

@[simp] theorem grid_apply (grid : Entries) (path : String) (operation : Operation) :
    (m.apply grid path operation).grid = grid := rfl

theorem spellings_of_not_clearsSetting (h : clearsSetting m.grid key = false) :
    spellings m.grid key =
      ⟨none, if key ∈ gridMeterKnownTopKeys then (spellings m.grid key).flat else none⟩ := by
  obtain ⟨hnested, hflat⟩ := Bool.or_eq_false_iff.mp h
  have hnone : dictGet (nestedSettings m.grid) key = none := by
    rw [nestedSettings]
    rw [isNested] at hnested
    cases hmqtt : (getValue m.grid "mqtt").dict? with
    | none => rfl
    | some nested =>
      rw [hmqtt] at hnested
      simpa using hnested
  rw [spellings, hnone]
  by_cases hknown : key ∈ gridMeterKnownTopKeys
  · rw [if_pos hknown]
  · have hnone : besideBlock m.grid key = none := by
      rw [besideBlock]
      split
      · rfl
      · simpa [hknown] using hflat
    rw [if_neg hknown, hnone]

/-- **The edit of one key**: it makes of the key's spellings what it says, and keeps the others. -/
theorem spellings_applySetting (hkey : key ≠ "mqtt")
    (hflat : keepFlat = true → hasNested m.grid = false) :
    spellings (applySetting texts policy changes current keepFlat m key).grid other =
      if other = key then
        (spellings m.grid key).edited texts policy changes (dictGet current key) keepFlat key
      else spellings m.grid other := by
  rw [applySetting, Spellings.edited]
  cases resolvedSetting texts changes key with
  | keep =>
    simp only
    split
    · rename_i hsame
      rw [hsame]
    · rfl
  | invalid =>
    simp only [grid_refuse]
    split
    · rename_i hsame
      rw [hsame]
    · rfl
  | clear =>
    simp only
    by_cases hremove : policy.allowRemove = true
    · rw [if_pos hremove, hremove, Bool.true_and]
      by_cases hclears : clearsSetting m.grid key = true
      · rw [if_pos hclears, grid_apply]
        exact spellings_clearSetting hkey
      · rw [if_neg hclears]
        split
        · rename_i hsame
          rw [hsame]
          exact spellings_of_not_clearsSetting (Bool.eq_false_iff.mpr hclears)
        · rfl
    · rw [if_neg hremove, if_neg (by simp [hremove])]
      split
      · rename_i hsame
        rw [hsame]
      · rfl
  | set value =>
    simp only
    by_cases hsame : isUnchanged (dictGet current key) value = true
    · rw [if_pos hsame, if_pos hsame]
      split
      · rename_i hkeys
        rw [hkeys]
      · rfl
    · rw [if_neg hsame, if_neg hsame, grid_apply]
      exact spellings_writeSetting value hkey hflat

theorem hasNested_applySetting (hkey : key ≠ "mqtt")
    (hflat : keepFlat = true → hasNested m.grid = false) (hkeep : keepFlat = true) :
    hasNested (applySetting texts policy changes current keepFlat m key).grid = false := by
  have hnone := hflat hkeep
  rw [applySetting]
  cases resolvedSetting texts changes key with
  | keep => exact hnone
  | invalid =>
    simp only [grid_refuse]
    exact hnone
  | clear =>
    simp only
    split
    · rw [grid_apply, clearSetting, hasNested_popNested hnone]
      split
      · exact hnone
      · rw [hasNested, getValue, dictGet_dictPop, if_neg (Ne.symm hkey)]
        exact hnone
    · exact hnone
  | set value =>
    simp only
    split
    · exact hnone
    · rw [grid_apply, hkeep]
      exact hasNested_writeSetting value hkey hnone

variable {keys : List String} {credential : Option CredentialIntent} {gridType : String}

/-- **The edits of several keys** make of each of them what its own edit says. -/
theorem spellings_foldl_applySetting (hnodup : keys.Nodup)
    (hmqtt : "mqtt" ∉ keys) (hflat : keepFlat = true → hasNested m.grid = false)
    :
    spellings (keys.foldl (applySetting texts policy changes current keepFlat) m).grid other =
      if other ∈ keys then
        (spellings m.grid other).edited texts policy changes (dictGet current other) keepFlat other
      else spellings m.grid other := by
  induction keys generalizing m with
  | nil => rfl
  | cons key rest ih =>
    obtain ⟨hfresh, hrest⟩ := List.nodup_cons.mp hnodup
    have hkey : key ≠ "mqtt" := fun h => hmqtt (h ▸ List.mem_cons_self)
    rw [List.foldl_cons, ih hrest (fun h => hmqtt (List.mem_cons_of_mem _ h))
      (hasNested_applySetting hkey hflat), spellings_applySetting hkey hflat]
    by_cases hsame : other = key
    · rw [hsame, if_neg hfresh, if_pos rfl, if_pos List.mem_cons_self]
    · rw [if_neg hsame]
      simp [hsame]

/-! ### The credential -/

def keepsCredential (credential : Option CredentialIntent) : Bool :=
  credential.all (·.operation = .keep)

theorem spellings_applyGridMeterCredential (hflat : keepFlat = true → hasNested m.grid = false)
    (hpassword : other = "password" → keepsCredential credential = true) :
    spellings (applyGridMeterCredential credential keepFlat m).grid other =
      spellings m.grid other := by
  cases credential with
  | none => rfl
  | some credential =>
    have hne (h : credential.operation ≠ .keep) : other ≠ "password" := by
      intro hsame
      have hkeep := hpassword hsame
      simp [keepsCredential, h] at hkeep
    rw [applyGridMeterCredential]
    cases hoperation : credential.operation with
    | keep => rfl
    | clear =>
      have hne := hne (by rw [hoperation]; decide)
      simp only
      split
      · rw [grid_apply, spellings_dictPop (by decide), if_neg hne]
        have hpop := @spellings_popNested m.grid "password" other
        rw [if_neg hne] at hpop
        rw [← hpop]
      · rfl
    | set =>
      have hne := hne (by rw [hoperation]; decide)
      simp only
      split
      · split
        · rfl
        · rw [grid_apply, spellings_writeSetting _ (by decide) hflat, if_neg hne]
      · rfl

theorem mem_editable (h : key ∈ editableGridMeterMqttKeys gridType) :
    key ∈ knownEditorKeys := (List.mem_filter.mp h).1

theorem editable_ne_mqtt :
    "mqtt" ∉ editableGridMeterMqttKeys gridType := fun h =>
  absurd (mem_editable h) (by decide)

theorem editable_ne_password :
    "password" ∉ editableGridMeterMqttKeys gridType := fun h =>
  absurd (mem_editable h) (by decide)

theorem hasNested_of_keepsFlat {grid : Entries} (h : keepsFlat policy grid = true) :
    hasNested grid = false := by
  rw [keepsFlat, Bool.and_eq_true_iff] at h
  simpa using h.2

theorem hasNested_foldl_applySetting (hmqtt : "mqtt" ∉ keys)
    (hflat : keepFlat = true → hasNested m.grid = false) (hkeep : keepFlat = true) :
    hasNested (keys.foldl (applySetting texts policy changes current keepFlat) m).grid = false := by
  induction keys generalizing m with
  | nil => exact hflat hkeep
  | cons key rest ih =>
    rw [List.foldl_cons]
    exact ih (fun h => hmqtt (List.mem_cons_of_mem _ h))
      (hasNested_applySetting (fun h => hmqtt (h ▸ List.mem_cons_self)) hflat)

/-- **The settings under `mqtt`**: each editable one is what its edit makes of it, and the others
stay. -/
theorem spellings_applyGridMeterMqtt
    (hpassword : other = "password" → keepsCredential credential = true) :
    spellings (applyGridMeterMqtt texts policy changes credential m).grid other =
      if other ∈ editableGridMeterMqttKeys (meterType texts m.grid) then
        (spellings m.grid other).edited texts policy changes
          (dictGet (gridMeterMqttSettings m.grid) other) (keepsFlat policy m.grid) other
      else spellings m.grid other := by
  rw [applyGridMeterMqtt, spellings_applyGridMeterCredential
    (hasNested_foldl_applySetting editable_ne_mqtt hasNested_of_keepsFlat) hpassword]
  exact spellings_foldl_applySetting
    (List.Nodup.filter _ (by decide)) editable_ne_mqtt hasNested_of_keepsFlat

end Settings

/-! ### The edits at the top of the block -/

section Top

variable {texts : MeterTexts} {policy : MutationPolicy} {m : Mutation} {change : ConfigChange}
  {key : String}

theorem spellings_applyGridMeterType (hkey : key ≠ "type") :
    spellings (applyGridMeterType texts m change).grid key = spellings m.grid key := by
  rw [applyGridMeterType]
  split
  · simp only
    split
    · rfl
    · rw [grid_apply, spellings_dictSet _ (by decide), if_neg hkey]
  · rfl

theorem spellings_typed (changes : List ConfigChange) (hkey : key ≠ "type") :
    spellings (changes.foldl (applyGridMeterType texts) m).grid key = spellings m.grid key := by
  induction changes generalizing m with
  | nil => rfl
  | cons change rest ih =>
    rw [List.foldl_cons, ih, spellings_applyGridMeterType hkey]

/-- What an edit at the top of the block makes of a value there. -/
def editedTop (texts : MeterTexts) (policy : MutationPolicy) (field : CatalogField)
    (stored : Option PyValue) (change : ConfigChange) : Option PyValue :=
  match resolveChange texts (some field) change with
  | .clear => if policy.allowRemove then none else stored
  | .set value => if stored.isNone && !policy.allowCreate then stored else some value
  | _ => stored

theorem ne_mqtt_of_field {field : CatalogField} (h : gridMeterField change.path = some field) :
    change.path ≠ "mqtt" := by
  intro hpath
  have hnone : gridMeterField "mqtt" = none := rfl
  rw [hpath, hnone] at h
  cases h

/-- **An edit at the top changes what is stored under its own key**, where the catalog has it. -/
theorem spellings_applyOne (key : String) :
    spellings (applyOne texts policy m change).grid key =
      match gridMeterField change.path with
      | none => spellings m.grid key
      | some field =>
        if key = change.path then
          ⟨(spellings m.grid key).nested,
            editedTop texts policy field (spellings m.grid key).flat change⟩
        else spellings m.grid key := by
  rw [applyOne]
  cases hfield : gridMeterField change.path with
  | none => rfl
  | some field =>
    have hpath := ne_mqtt_of_field hfield
    simp only [editedTop]
    cases resolveChange texts (some field) change with
    | invalid =>
      simp only [grid_refuse]
      split
      · rfl
      · rfl
    | keep =>
      simp only
      split
      · rfl
      · rfl
    | clear =>
      simp only
      by_cases hremove : policy.allowRemove = true
      · by_cases hstored : (dictGet m.grid change.path).isSome = true
        · rw [if_pos (by rw [hremove, hstored]; rfl), grid_apply, spellings_dictPop hpath,
            if_pos hremove]
          split
          · rfl
          · rfl
        · rw [if_neg (by simp [hstored]), if_pos hremove]
          split
          · rename_i hsame
            have hnone : besideBlock m.grid key = none := by
              rw [hsame, besideBlock_of_ne hpath]
              simpa using hstored
            rw [spellings, hnone]
          · rfl
      · rw [if_neg (by simp [hremove]), if_neg hremove]
        split
        · rfl
        · rfl
    | set value =>
      have hflat : (spellings m.grid change.path).flat = dictGet m.grid change.path :=
        besideBlock_of_ne hpath m.grid
      simp only
      by_cases hcreate : ((dictGet m.grid change.path).isNone && !policy.allowCreate) = true
      · rw [if_pos hcreate]
        split
        · rename_i hsame
          rw [hsame, hflat, if_pos hcreate, ← hflat]
        · rfl
      · rw [if_neg hcreate, grid_apply, spellings_dictSet _ hpath]
        split
        · rename_i hsame
          rw [hsame, hflat, if_neg hcreate]
        · rfl

theorem spellings_edited {changes : List ConfigChange}
    (hkey : ∀ change ∈ changes, change.path = key → gridMeterField key = none) :
    spellings (changes.foldl (applyOne texts policy) m).grid key = spellings m.grid key := by
  induction changes generalizing m with
  | nil => rfl
  | cons change rest ih =>
    rw [List.foldl_cons, ih fun change hchange => hkey change (List.mem_cons_of_mem _ hchange),
      spellings_applyOne]
    split
    · rfl
    · rename_i field hfield
      rw [if_neg]
      intro hsame
      have hnone := hkey change List.mem_cons_self hsame.symm
      rw [hsame, hfield] at hnone
      cases hnone

def editedPort (texts : MeterTexts) (policy : MutationPolicy) (changes : List ConfigChange)
    (port : Option PyValue) : Option PyValue :=
  (changes.filter (·.path = "port")).foldl (editedTop texts policy ⟨.number, none, none⟩) port

theorem spellings_edited_port (changes : List ConfigChange) :
    spellings (changes.foldl (applyOne texts policy) m).grid "port" =
      ⟨(spellings m.grid "port").nested,
        editedPort texts policy changes (dictGet m.grid "port")⟩ := by
  induction changes generalizing m with
  | nil => rfl
  | cons change rest ih =>
    have hstep := @spellings_applyOne texts policy m change "port"
    rw [List.foldl_cons, ih, editedPort, editedPort]
    by_cases hport : change.path = "port"
    · rw [hport] at hstep
      have hfield : gridMeterField "port" = some ⟨.number, none, none⟩ := rfl
      rw [hfield] at hstep
      simp only [if_true] at hstep
      have hflat : dictGet (applyOne texts policy m change).grid "port" =
          editedTop texts policy ⟨.number, none, none⟩ (dictGet m.grid "port") change :=
        congrArg Spellings.flat hstep
      rw [hstep, hflat, List.filter_cons_of_pos (by simp [hport]), List.foldl_cons]
    · have hsame : spellings (applyOne texts policy m change).grid "port" =
          spellings m.grid "port" := by
        rw [hstep]
        split
        · rfl
        · rw [if_neg (Ne.symm hport)]
      have hflat : dictGet (applyOne texts policy m change).grid "port" = dictGet m.grid "port" :=
        congrArg Spellings.flat hsame
      rw [hsame, hflat, List.filter_cons_of_neg (by simp [hport])]

end Top

/-! ### A change of type -/

section Cleanup

variable {grid : Entries} {key : String}

variable {keys : List String} {gridType : String} {variant : Variant}

theorem spellings_dictPopAll (hmqtt : "mqtt" ∉ keys) :
    spellings (dictPopAll keys grid) key =
      ⟨(spellings grid key).nested, if key ∈ keys then none else (spellings grid key).flat⟩ := by
  induction keys generalizing grid with
  | nil => rfl
  | cons first rest ih =>
    have hfirst : first ≠ "mqtt" := fun h => hmqtt (h ▸ List.mem_cons_self)
    rw [dictPopAll, List.foldl_cons, ← dictPopAll, ih (fun h => hmqtt (List.mem_cons_of_mem _ h)),
      spellings_dictPop hfirst]
    by_cases hsame : key = first
    · simp [hsame]
    · simp [hsame, spellings]

theorem dictGet_dictPopAll (keys : List String) (entries : Entries) (key : String) :
    dictGet (dictPopAll keys entries) key = if key ∈ keys then none else dictGet entries key := by
  induction keys generalizing entries with
  | nil => rfl
  | cons first rest ih =>
    rw [dictPopAll, List.foldl_cons, ← dictPopAll, ih, dictGet_dictPop]
    by_cases hsame : key = first
    · simp [hsame]
    · simp [hsame]

theorem nestedSettings_dictPopAll (hmqtt : "mqtt" ∉ keys) :
    nestedSettings (dictPopAll keys grid) = nestedSettings grid := by
  rw [nestedSettings, getValue, dictGet_dictPopAll, if_neg hmqtt]
  rfl

theorem dictPopAll_nil (keys : List String) : dictPopAll keys [] = [] := by
  induction keys with
  | nil => rfl
  | cons key rest ih => exact ih

/-- What a meter that is read over MQTT may have at the top of its block, and under `mqtt`. -/
theorem keys_of_mqtt (htype : gridType ∈ mqttGridMeterTypes)
    (hvariant : gridMeterVariant gridType = some variant) :
    variant.keys = ["type", "mqtt"] ∧ variant.mqttFields ≠ [] := by
  have hall : ∀ gridType ∈ mqttGridMeterTypes, ∀ variant ∈ gridMeterVariant gridType,
      variant.keys = ["type", "mqtt"] ∧ variant.mqttFields ≠ [] := by decide
  exact hall gridType htype variant hvariant

theorem variant_of_mqtt (htype : gridType ∈ mqttGridMeterTypes) :
    ∃ variant, gridMeterVariant gridType = some variant := by
  have hall : ∀ gridType ∈ mqttGridMeterTypes, (gridMeterVariant gridType).isSome = true := by
    decide
  exact Option.isSome_iff_exists.mp (hall gridType htype)

def httpKeys : List String := gridMeterKnownTopKeys.filter (· ∉ ["type", "mqtt"])

/-- The cleanup of a meter that is read over MQTT: the keys of other meters go, at the top and under
`mqtt`. -/
theorem spellings_stripIncompatible (htype : gridType ∈ mqttGridMeterTypes)
    (hvariant : gridMeterVariant gridType = some variant) :
    spellings (stripIncompatibleGridMeterFields grid gridType) key =
      ⟨if key ∈ gridMeterKnownMqttKeys ∧ key ∉ variant.mqttFields then none
        else (spellings grid key).nested,
        if key ∈ httpKeys then none else (spellings grid key).flat⟩ := by
  obtain ⟨hkeys, hfields⟩ := keys_of_mqtt htype hvariant
  have hmqtt : "mqtt" ∉ gridMeterKnownTopKeys.filter (· ∉ ["type", "mqtt"]) := by decide
  rw [stripIncompatibleGridMeterFields, hvariant]
  simp only [hkeys, if_neg hfields]
  rw [spellings_changeNested (dictPopAll_nil _), spellings_dictPopAll hmqtt,
    nestedSettings_dictPopAll hmqtt, dictGet_dictPopAll]
  simp only [httpKeys, List.mem_filter, decide_eq_true_iff, spellings]

variable {texts : MeterTexts} {originalType : String} {changes : List ConfigChange} {m : Mutation}

theorem meterType_dictPop (hkey : key ≠ "type") :
    meterType texts (dictPop grid key) = meterType texts grid := by
  rw [meterType, getValue, dictGet_dictPop, if_neg (Ne.symm hkey)]
  rfl

/-- What is left of a setting where the type of the meter changes: what another kind has goes, and
nothing is left beside the block. -/
def Spellings.cleaned (variant : Variant) (key : String) (spelled : Spellings) : Spellings where
  nested :=
    if key ∈ gridMeterKnownMqttKeys ∧ key ∉ variant.mqttFields then none else spelled.nested
  flat := if key ∈ httpKeys ∨ key ∈ gridMeterKnownMqttKeys then none else spelled.flat

theorem spellings_afterTypeChange (htype : meterType texts m.grid ∈ mqttGridMeterTypes)
    (hvariant : gridMeterVariant (meterType texts m.grid) = some variant)
    (hchanged : meterType texts m.grid ≠ originalType) :
    spellings (afterTypeChange texts originalType changes m).grid key =
      (spellings m.grid key).cleaned variant key := by
  have hstale : "mqtt" ∉ gridMeterKnownMqttKeys.filter (· ∉ gridMeterKnownTopKeys) := by
    decide
  have hcleaned (ported : Entries) (hported : meterType texts ported = meterType texts m.grid) :
      spellings (stripStaleGridMeterKeys texts ported) key =
        (spellings ported key).cleaned variant key := by
    have hknown : ∀ key ∈ gridMeterKnownMqttKeys,
        key ∈ gridMeterKnownTopKeys → key ∈ httpKeys := by decide
    rw [stripStaleGridMeterKeys, hported, spellings_dictPopAll hstale,
      spellings_stripIncompatible htype hvariant, Spellings.cleaned]
    congr 1
    by_cases hmqtt : key ∈ gridMeterKnownMqttKeys
    · by_cases htop : key ∈ gridMeterKnownTopKeys
      · simp [hmqtt, htop, hknown key hmqtt htop]
      · simp [hmqtt, htop]
    · simp [hmqtt]
  rw [afterTypeChange, if_neg hchanged]
  simp only
  split
  · rw [hcleaned _ (meterType_dictPop (by decide)), spellings_dictPop (by decide)]
    simp only [Spellings.cleaned]
    congr 1
    by_cases hport : key = "port"
    · have hhttp : "port" ∈ httpKeys := by decide
      simp [hport, hhttp]
    · rw [if_neg hport]
  · exact hcleaned _ rfl

theorem afterTypeChange_of_same (hsame : meterType texts m.grid = originalType) :
    afterTypeChange texts originalType changes m = m := by
  rw [afterTypeChange, if_pos hsame]

end Cleanup

/-! ### The block before its settings are edited -/

section Before

variable (texts : MeterTexts) (policy : MutationPolicy) (grid : Entries)
  (changes : List ConfigChange)

def typedMeter : Mutation := (typeChanges changes).foldl (applyGridMeterType texts) ⟨grid, [], []⟩

def changedType : String := meterType texts (typedMeter texts grid changes).grid

/-- What stands beside the block once the port at the top is edited. -/
def flatBefore (key : String) : Option PyValue :=
  if key = "port" then editedPort texts policy (topChanges changes) (dictGet grid "port")
  else besideBlock grid key

/-- A setting before the edits under `mqtt`. -/
def spelledBefore (key : String) : Spellings where
  nested := (spellings grid key).nested
  flat := flatBefore texts policy grid changes key

def editedMeter : Mutation :=
  (topChanges changes).foldl (applyOne texts policy) (typedMeter texts grid changes)

def cleanedMeter : Mutation :=
  afterTypeChange texts (meterType texts grid) changes (editedMeter texts policy grid changes)

variable {texts policy grid changes} {key : String}

theorem path_ne_type {change : ConfigChange} (h : change ∈ topChanges changes) :
    change.path ≠ "type" := by
  have hhead := (of_decide_eq_true (List.mem_filter.mp h).2).2.1
  intro hpath
  rw [hpath] at hhead
  exact hhead (by decide)

theorem meterType_of_flat {grid grid' : Entries}
    (h : spellings grid' "type" = spellings grid "type") :
    meterType texts grid' = meterType texts grid := by
  have hflat : dictGet grid' "type" = dictGet grid "type" := congrArg Spellings.flat h
  rw [meterType, meterType, getValue, getValue, hflat]

theorem meterType_editedMeter :
    meterType texts (editedMeter texts policy grid changes).grid = changedType texts grid changes :=
  meterType_of_flat (spellings_edited fun _ hchange hpath => absurd hpath (path_ne_type hchange))

/-- No edit at the top of the block writes the key: none names it, or it has no field to write. -/
def LeftAtTop (changes : List ConfigChange) (key : String) : Prop :=
  (key = "type" → typeChanges changes = []) ∧
    ∀ change ∈ topChanges changes, change.path = key → gridMeterField key = none

theorem leftAtTop_of_field (hfield : gridMeterField key = none) : LeftAtTop changes key := by
  refine ⟨fun htype => ?_, fun _ _ _ => hfield⟩
  rw [htype] at hfield
  cases hfield

theorem spellings_editedMeter (hleft : LeftAtTop changes key) (hport : key ≠ "port") :
    spellings (editedMeter texts policy grid changes).grid key =
      spelledBefore texts policy grid changes key := by
  have htyped : spellings (typedMeter texts grid changes).grid key = spellings grid key := by
    by_cases htype : key = "type"
    · rw [typedMeter, hleft.1 htype]
      rfl
    · exact spellings_typed _ htype
  rw [editedMeter, spellings_edited hleft.2, htyped, spelledBefore, flatBefore, if_neg hport]
  rfl

theorem spellings_editedMeter_port :
    spellings (editedMeter texts policy grid changes).grid "port" =
      spelledBefore texts policy grid changes "port" := by
  have htyped : spellings (typedMeter texts grid changes).grid "port" = spellings grid "port" :=
    spellings_typed _ (by decide)
  have hflat : dictGet (typedMeter texts grid changes).grid "port" = dictGet grid "port" :=
    congrArg Spellings.flat htyped
  rw [editedMeter, spellings_edited_port, htyped, hflat, spelledBefore, flatBefore, if_pos rfl]

theorem spellings_before (hleft : LeftAtTop changes key ∨ key = "port") :
    spellings (editedMeter texts policy grid changes).grid key =
      spelledBefore texts policy grid changes key := by
  by_cases hport : key = "port"
  · rw [hport]
    exact spellings_editedMeter_port
  · exact spellings_editedMeter (hleft.resolve_right hport) hport

theorem left_of_setting (h : key ∈ gridMeterKnownMqttKeys ++ knownEditorKeys) :
    LeftAtTop changes key ∨ key = "port" := by
  have hall : ∀ key ∈ gridMeterKnownMqttKeys ++ knownEditorKeys,
      gridMeterField key = none ∨ key = "port" := by decide
  exact (hall key h).imp_left leftAtTop_of_field

/-- What of a setting the edits under `mqtt` find: a change of type has cleaned it. -/
def spelledCleaned (texts : MeterTexts) (policy : MutationPolicy) (grid : Entries)
    (changes : List ConfigChange) (variant : Variant) (key : String) : Spellings :=
  if changedType texts grid changes = meterType texts grid then
    spelledBefore texts policy grid changes key
  else (spelledBefore texts policy grid changes key).cleaned variant key

theorem spellings_cleanedMeter {variant : Variant}
    (htype : changedType texts grid changes ∈ mqttGridMeterTypes)
    (hvariant : gridMeterVariant (changedType texts grid changes) = some variant)
    (hleft : LeftAtTop changes key ∨ key = "port") :
    spellings (cleanedMeter texts policy grid changes).grid key =
      spelledCleaned texts policy grid changes variant key := by
  have hedited := @meterType_editedMeter texts policy grid changes
  rw [cleanedMeter, spelledCleaned]
  split
  · rename_i hsame
    rw [afterTypeChange_of_same (hedited.trans hsame), spellings_before hleft]
  · rename_i hchanged
    rw [← hedited] at htype hvariant hchanged
    rw [spellings_afterTypeChange htype hvariant hchanged, spellings_before hleft]

theorem meterType_cleanedMeter (htype : changedType texts grid changes ∈ mqttGridMeterTypes) :
    meterType texts (cleanedMeter texts policy grid changes).grid =
      changedType texts grid changes := by
  have hedited := @meterType_editedMeter texts policy grid changes
  obtain ⟨variant, hvariant⟩ := variant_of_mqtt htype
  rw [← hedited] at htype hvariant ⊢
  by_cases hsame : meterType texts (editedMeter texts policy grid changes).grid =
      meterType texts grid
  · rw [cleanedMeter, afterTypeChange_of_same hsame]
  · apply meterType_of_flat
    have hhttp : "type" ∉ httpKeys ∧ "type" ∉ gridMeterKnownMqttKeys := by decide
    rw [cleanedMeter, spellings_afterTypeChange htype hvariant hsame,
      Spellings.cleaned]
    simp [hhttp]

end Before

end SolarFlowEms.Config
