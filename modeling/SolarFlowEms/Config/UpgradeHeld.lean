import SolarFlowEms.Config.ShippedBrokers

/-!
# Safe mode before and after the upgrade

A configuration that still holds the template's values in a field that the setup needs is held in
safe mode.  The upgrade fills such fields with the template's values only, and gives the devices
nothing that these fields are read from.  So a configuration that was held is held after the
upgrade, and one that was not is not, unless its meter is left behind or names neither an address
nor a url.

* `meterAfter_agree` - what the upgrade changes of a meter
* `gridMeterPlaceholderPaths_upgraded` - the values of the template in a meter
* `held_upgraded` - safe mode before and after
-/

namespace SolarFlowEms.Config

open Python Documents Fallible

section

variable {texts : LoaderTexts} {comments : String → PyValue}

/-! ### Devices -/

/-- What the placeholders of a device are read from. -/
def devicePlaceholderKeys : List String := ["type", "ip", "sn"]

theorem devicePlaceholderPaths_congr {device device' : Entries}
    (h : AgreeOn (· ∈ devicePlaceholderKeys) device device') (index : ℕ) :
    devicePlaceholderPaths texts index device = devicePlaceholderPaths texts index device' := by
  have htype : dictGet device "type" = dictGet device' "type" := h _ (by decide)
  have hip : getValue device "ip" = getValue device' "ip" := h.getValue_eq (by decide)
  have hsn : getValue device "sn" = getValue device' "sn" := h.getValue_eq (by decide)
  have hmqtt : isMqttTelemetryDeviceConfig texts device = isMqttTelemetryDeviceConfig texts device' := by
    rw [isMqttTelemetryDeviceConfig, isMqttTelemetryDeviceConfig, entryType, entryType, htype]
  have hreadOnly : isReadOnlyDeviceConfig texts.toConfigTexts (.dict device) =
      isReadOnlyDeviceConfig texts.toConfigTexts (.dict device') := by
    rw [isReadOnlyDeviceConfig, isReadOnlyDeviceConfig, deviceConfigType, deviceConfigType, getValue,
      getValue, htype]
  rw [devicePlaceholderPaths, devicePlaceholderPaths, hmqtt, hreadOnly, hip, hsn]

/-- A device of the configuration over the template's. -/
def enrichEntries (texts : LoaderTexts) (deviceDefaults device : Entries) : Entries :=
  if takesDefaults texts.toConfigTexts (.dict device) then mergeDict deviceDefaults device
  else device

theorem dict?_enrichDevice (deviceDefaults : Entries) (item : PyValue) :
    (enrichDevice texts.toConfigTexts deviceDefaults item).dict? =
      item.dict?.map (enrichEntries texts deviceDefaults) := by
  cases item with
  | dict device =>
    rw [enrichDevice, PyValue.dict?, Option.map_some, enrichEntries]
    split_ifs
    · rw [mergeUnder_dict]
      rfl
    · rfl
  | _ => rfl

/-- The template fills none of these keys. -/
theorem enrichEntries_agree (device : Entries) :
    AgreeOn (· ∈ devicePlaceholderKeys) (enrichEntries texts (shippedDeviceDefaults comments) device)
      device := by
  intro key hkey
  rw [enrichEntries]
  split_ifs
  · refine dictGet_mergeDict_of_none ?_ device
    simp only [devicePlaceholderKeys, List.mem_cons, List.not_mem_nil, or_false] at hkey
    rcases hkey with rfl | rfl | rfl <;> rfl
  · rfl

def devicesPlaceholderPaths (texts : LoaderTexts) (devices : List Entries) : List String :=
  devices.zipIdx.flatMap fun device => devicePlaceholderPaths texts device.2 device.1

/-- So the devices have the placeholders that they had. -/
theorem devicesPlaceholderPaths_enrich (devices : List Entries) :
    devicesPlaceholderPaths texts
        (devices.map (enrichEntries texts (shippedDeviceDefaults comments))) =
      devicesPlaceholderPaths texts devices := by
  rw [devicesPlaceholderPaths, devicesPlaceholderPaths, List.zipIdx_map, List.flatMap_map]
  congr 1
  funext device
  exact devicePlaceholderPaths_congr (enrichEntries_agree device.1) device.2

variable {config upgraded own meter settings : Entries}

/-- The devices stay, as they were or each filled up. -/
theorem configuredDevices_upgraded (h : UpgradedFrom texts comments config upgraded) :
    configuredDevices (applyRuntimeConfigDefaults texts upgraded) =
        configuredDevices (applyRuntimeConfigDefaults texts config) ∨
      configuredDevices (applyRuntimeConfigDefaults texts upgraded) =
        (configuredDevices (applyRuntimeConfigDefaults texts config)).map
          (enrichEntries texts (shippedDeviceDefaults comments)) := by
  rw [configuredDevices, configuredDevices, loaded_devices, loaded_devices]
  by_cases hlist : ∃ items, configuredItems config = .list items
  · obtain ⟨items, hitems⟩ := hlist
    right
    rw [h.listed items hitems, hitems]
    show (items.map _).filterMap PyValue.dict? = (items.filterMap PyValue.dict?).map _
    rw [List.filterMap_map, List.map_filterMap]
    refine List.filterMap_congr fun item _ => ?_
    exact dict?_enrichDevice _ item
  · left
    rw [h.unlisted fun items hitems => hlist ⟨items, hitems⟩]

/-! ### The meter -/

/-- A meter under the defaults. -/
def meterBefore (own : Entries) : Entries := mergeDict defaultGridMeter own

/-- The same meter under the template and then the defaults. -/
def meterAfter (comments : String → PyValue) (own : Entries) : Entries :=
  mergeDict defaultGridMeter (mergeDict (shippedGridMeter comments) own)

theorem dictGet_type_before (own : Entries) :
    dictGet (meterBefore own) "type" = some ((dictGet own "type").getD (.str "shelly")) := by
  have hdefault : dictGet defaultGridMeter "type" = some (.str "shelly") := rfl
  rw [meterBefore, dictGet_mergeDict_of_some hdefault, overDefault]
  cases dictGet own "type" <;> rfl

/-- **The upgrade changes nothing of a meter besides its comments and an address that it lacks.** -/
theorem meterAfter_agree (own : Entries) :
    AgreeOn (fun key => isCommentKey key = false ∧ (key = "ip" → (dictGet own "ip").isSome = true))
      (meterAfter comments own) (meterBefore own) := by
  rintro key ⟨hcomment, hip⟩
  have hcommentKey : key ≠ "_comment" := by
    rintro rfl
    exact absurd hcomment (by decide)
  rw [meterAfter, meterBefore]
  by_cases htype : key = "type"
  · subst htype
    have hshipped : dictGet (shippedGridMeter comments) "type" = some (.str "shelly") := rfl
    have hdefault : dictGet defaultGridMeter "type" = some (.str "shelly") := rfl
    rw [dictGet_mergeDict_of_some hdefault, dictGet_mergeDict_of_some hdefault, overDefault,
      overDefault, dictGet_mergeDict_of_some hshipped, overDefault]
    cases dictGet own "type" <;> rfl
  · by_cases haddress : key = "ip"
    · subst haddress
      obtain ⟨ip, hown⟩ := Option.isSome_iff_exists.mp (hip rfl)
      have hshipped : dictGet (shippedGridMeter comments) "ip" = some (.str templateMeterAddress) :=
        rfl
      have hdefault : dictGet defaultGridMeter "ip" = some (.str "") := rfl
      rw [dictGet_mergeDict_of_some hdefault, dictGet_mergeDict_of_some hdefault, overDefault,
        overDefault, dictGet_mergeDict_of_some hshipped, overDefault, hown]
      rfl
    · have hshipped : dictGet (shippedGridMeter comments) key = none := by
        rw [shippedGridMeter, dictGet_cons, if_neg (Ne.symm hcommentKey), dictGet_cons,
          if_neg (Ne.symm htype), dictGet_cons, if_neg (Ne.symm haddress)]
        rfl
      have hdefault : dictGet defaultGridMeter key = none := by
        rw [defaultGridMeter, dictGet_cons, if_neg (Ne.symm htype), dictGet_cons,
          if_neg (Ne.symm haddress)]
        rfl
      rw [dictGet_mergeDict_of_none hdefault, dictGet_mergeDict_of_none hdefault,
        dictGet_mergeDict_of_none hshipped]

theorem getValue_after {key : String} (hcomment : isCommentKey key = false) (hip : key ≠ "ip") :
    getValue (meterAfter comments own) key = getValue (meterBefore own) key :=
  (meterAfter_agree own).getValue_eq ⟨hcomment, fun h => absurd h hip⟩

theorem ip_of_named {ip : PyValue} (h : dictGet own "ip" = some ip) :
    getValue (meterAfter comments own) "ip" = getValue (meterBefore own) "ip" :=
  (meterAfter_agree own).getValue_eq ⟨by decide, fun _ => Option.isSome_of_mem h⟩

/-- An address that was left out is the template's after the upgrade. -/
theorem ip_of_missing (h : dictGet own "ip" = none) :
    getValue (meterBefore own) "ip" = .str "" ∧
      getValue (meterAfter comments own) "ip" = .str templateMeterAddress := by
  have hshipped : dictGet (shippedGridMeter comments) "ip" = some (.str templateMeterAddress) := rfl
  have hdefault : dictGet defaultGridMeter "ip" = some (.str "") := rfl
  constructor
  · rw [meterBefore, getValue_shipped own hdefault rfl, h]
    rfl
  · rw [meterAfter, getValue_shipped _ hdefault rfl, dictGet_mergeDict_of_some hshipped, overDefault, h]
    rfl

theorem gridMeterMqttSettings_congr {meter' : Entries}
    (h : AgreeOn (fun key => key = "mqtt" ∨ key ∈ mqttGridMeterKeys) meter meter') :
    gridMeterMqttSettings meter = gridMeterMqttSettings meter' := by
  rw [gridMeterMqttSettings, gridMeterMqttSettings, h.getValue_eq (.inl rfl)]
  refine List.foldl_ext _ _ _ fun settings key hkey => ?_
  rw [h key (.inr hkey)]

theorem mqtt_keys_plain {key : String} (h : key = "mqtt" ∨ key ∈ mqttGridMeterKeys) :
    isCommentKey key = false ∧ key ≠ "ip" ∧ key ≠ "type" := by
  have hplain : ∀ key ∈ "mqtt" :: mqttGridMeterKeys,
      isCommentKey key = false ∧ key ≠ "ip" ∧ key ≠ "type" := by decide
  exact hplain key (List.mem_cons.mpr h)

/-- The settings for mqtt are read from keys that stay. -/
theorem gridMeterMqttSettings_upgraded (own : Entries) :
    gridMeterMqttSettings (meterAfter comments own) = gridMeterMqttSettings (meterBefore own) := by
  refine gridMeterMqttSettings_congr fun key hkey => ?_
  obtain ⟨hcomment, hip, -⟩ := mqtt_keys_plain hkey
  exact meterAfter_agree own key ⟨hcomment, fun h => absurd h hip⟩

theorem gridMeterMqttSettings_before (own : Entries) :
    gridMeterMqttSettings (meterBefore own) = gridMeterMqttSettings own := by
  refine gridMeterMqttSettings_congr fun key hkey => dictGet_mergeDict_of_none ?_ own
  obtain ⟨-, hip, htype⟩ := mqtt_keys_plain hkey
  rw [defaultGridMeter, dictGet_cons, if_neg (Ne.symm htype), dictGet_cons, if_neg (Ne.symm hip)]
  rfl

/-- The address of the template reads as a placeholder. -/
def ReadsTemplateAddress (texts : LoaderTexts) : Prop :=
  texts.ipAddress templateMeterAddress = some (.v4 (((198 * 256 + 51) * 256 + 100) * 256 + 50))

theorem missing_templateMeterAddress (h : ReadsTemplateAddress texts) (address : Bool) :
    missingOrPlaceholder texts (.str templateMeterAddress) address = true := by
  have hstrip : pyStrip templateMeterAddress = templateMeterAddress := by rfl
  have hlower : templateMeterAddress.toLower = templateMeterAddress := by decide +kernel
  have htemplate : isTemplateAddress texts templateMeterAddress = true := by
    rw [isTemplateAddress, h]
    rfl
  have hplaceholder :
      isTemplatePlaceholderValue texts (.str templateMeterAddress) address = true := by
    rw [isTemplatePlaceholderValue, texts.str_str, hstrip, hlower, htemplate, Bool.or_true,
      if_pos rfl]
    rfl
  rw [missingOrPlaceholder, hplaceholder, Bool.or_true]

/-- An empty text counts as a placeholder. -/
theorem missing_empty (address : Bool) :
    missingOrPlaceholder texts (.str "") address = true := by
  have hempty : pyStrip "" = "" := by rfl
  rw [missingOrPlaceholder, texts.str_str, hempty, decide_eq_true rfl, Bool.or_true, Bool.true_or]

/-- The url of a Tasmota meter that names no address is one, or there is none.  Another empty value,
a zero, say, is no url to the reader and yet not missing, until the template's address comes in. -/
def UrlRead (texts : LoaderTexts) (own : Entries) : Prop :=
  wordOr texts (getValue (meterBefore own) "type") "shelly" = "tasmota_http" →
    dictGet own "ip" = none → ∀ url, dictGet own "url" = some url →
      truthy url = true ∨ url = .none ∨ url = .str ""

/-- A url that reads as nothing is one that is missing. -/
theorem missing_of_textOr_eq {url : PyValue} (hurl : truthy url = true ∨ url = .none ∨ url = .str "")
    (hempty : pyStrip (textOr texts url) = "") (address : Bool) :
    missingOrPlaceholder texts url address = true := by
  rcases hurl with htruthy | rfl | rfl
  · rw [textOr, if_pos htruthy] at hempty
    rw [missingOrPlaceholder, hempty, decide_eq_true rfl, Bool.or_true, Bool.true_or]
  · rfl
  · exact missing_empty address

/-- **A Tasmota meter that holds the template's values still does**, and one that holds none takes
none up where its url is read. -/
theorem tasmotaPlaceholderPaths_upgraded (haddress : ReadsTemplateAddress texts) :
    (tasmotaPlaceholderPaths texts (meterAfter comments own) = [] →
      tasmotaPlaceholderPaths texts (meterBefore own) = []) ∧
    ((dictGet own "ip" = none → ∀ url, dictGet own "url" = some url →
        truthy url = true ∨ url = .none ∨ url = .str "") →
      tasmotaPlaceholderPaths texts (meterBefore own) = [] →
        tasmotaPlaceholderPaths texts (meterAfter comments own) = []) := by
  have hurlEq : getValue (meterAfter comments own) "url" = getValue (meterBefore own) "url" :=
    getValue_after (by decide) (by decide)
  have hpower : getValue (meterAfter comments own) "power_path" =
      getValue (meterBefore own) "power_path" := getValue_after (by decide) (by decide)
  cases hip : dictGet own "ip" with
  | some ip =>
    have hsame : tasmotaPlaceholderPaths texts (meterAfter comments own) =
        tasmotaPlaceholderPaths texts (meterBefore own) := by
      rw [tasmotaPlaceholderPaths, tasmotaPlaceholderPaths, hurlEq, ip_of_named hip, hpower]
      cases hby : decide (pyStrip (textOr texts (getValue (meterBefore own) "url")) = "") &&
          truthy (getValue (meterBefore own) "ip") with
      | true => simp only [if_true, ip_of_named hip]
      | false => simp only [Bool.false_eq_true, if_false, hurlEq]
    rw [hsame]
    exact ⟨id, fun _ => id⟩
  | none =>
    have hips : getValue (meterBefore own) "ip" = .str "" ∧
        getValue (meterAfter comments own) "ip" = .str templateMeterAddress := ip_of_missing hip
    by_cases hempty : pyStrip (textOr texts (getValue (meterBefore own) "url")) = ""
    · have hafter : tasmotaPlaceholderPaths texts (meterAfter comments own) ≠ [] := by
        have htruthy : truthy (.str templateMeterAddress) = true := rfl
        rw [tasmotaPlaceholderPaths, hurlEq, hips.2, htruthy, decide_eq_true hempty]
        simp [hips.2, missing_templateMeterAddress haddress]
      refine ⟨fun h => absurd h hafter, fun hurl hbefore => ?_⟩
      have hmeter : dictGet (meterBefore own) "url" = dictGet own "url" :=
        dictGet_mergeDict_of_none rfl own
      have hread : truthy (getValue (meterBefore own) "url") = true ∨
          getValue (meterBefore own) "url" = .none ∨ getValue (meterBefore own) "url" = .str "" := by
        rw [getValue, hmeter]
        cases hget : dictGet own "url" with
        | none => exact .inr (.inl rfl)
        | some url => exact hurl rfl url hget
      rw [tasmotaPlaceholderPaths, hips.1] at hbefore
      simp [truthy, missing_of_textOr_eq hread hempty] at hbefore
    · have hsame : tasmotaPlaceholderPaths texts (meterAfter comments own) =
          tasmotaPlaceholderPaths texts (meterBefore own) := by
        rw [tasmotaPlaceholderPaths, tasmotaPlaceholderPaths, hurlEq, hpower, decide_eq_false hempty]
        simp only [Bool.false_and, Bool.false_eq_true, if_false, hurlEq]
      rw [hsame]
      exact ⟨id, fun _ => id⟩

/-- **A meter that holds a template's value still does after the upgrade**, where a broker that it
refers to can be read, and one that holds none takes none up where its url is read. -/
theorem gridMeterPlaceholderPaths_upgraded {before after : Entries}
    (haddress : ReadsTemplateAddress texts)
    (hbrokers : getValue after "zendure_mqtt" =
      mergeUnder (.dict (shippedZendureMqtt comments)) (getValue before "zendure_mqtt"))
    (hread : wordOr texts (getValue (meterBefore own) "type") "shelly" ∈ mqttGridMeterTypes →
      ∀ ref, brokerRef? (gridMeterMqttSettings (meterBefore own)) = some ref →
        ∃ connection, zendureMqttBrokerConnection texts after ref = .ok (some connection)) :
    (gridMeterPlaceholderPaths texts after (meterAfter comments own) = [] →
      gridMeterPlaceholderPaths texts before (meterBefore own) = []) ∧
    (UrlRead texts own → gridMeterPlaceholderPaths texts before (meterBefore own) = [] →
      gridMeterPlaceholderPaths texts after (meterAfter comments own) = []) := by
  rw [gridMeterPlaceholderPaths, gridMeterPlaceholderPaths,
    @getValue_after comments own "type" (by decide) (by decide), gridMeterMqttSettings_upgraded]
  dsimp only
  by_cases hmqtt : wordOr texts (getValue (meterBefore own) "type") "shelly" ∈ mqttGridMeterTypes
  · rw [if_pos hmqtt, if_pos hmqtt]
    have hpaths : brokerPlaceholderPaths texts after (gridMeterMqttSettings (meterBefore own)) =
        brokerPlaceholderPaths texts before (gridMeterMqttSettings (meterBefore own)) := by
      rw [brokerPlaceholderPaths, brokerPlaceholderPaths]
      cases href : brokerRef? (gridMeterMqttSettings (meterBefore own)) with
      | none => rfl
      | some ref =>
        obtain ⟨connection', hconnection'⟩ := hread hmqtt ref href
        obtain ⟨connection, hconnection, hport, -⟩ :=
          zendureMqttBrokerConnection_shipped hbrokers hconnection'
        dsimp only
        rw [hconnection', hconnection, hport]
    rw [hpaths]
    exact ⟨id, fun _ => id⟩
  · rw [if_neg hmqtt, if_neg hmqtt]
    by_cases htasmota : wordOr texts (getValue (meterBefore own) "type") "shelly" = "tasmota_http"
    · rw [if_pos htasmota, if_pos htasmota]
      obtain ⟨hkept, hread⟩ := @tasmotaPlaceholderPaths_upgraded texts comments own haddress
      exact ⟨hkept, fun hurl => hread (hurl htasmota)⟩
    · rw [if_neg htasmota, if_neg htasmota]
      cases hip : dictGet own "ip" with
      | some ip =>
        rw [ip_of_named hip]
        exact ⟨id, fun _ => id⟩
      | none =>
        have hips : getValue (meterBefore own) "ip" = .str "" ∧
            getValue (meterAfter comments own) "ip" = .str templateMeterAddress := ip_of_missing hip
        rw [hips.1, hips.2, missing_empty, missing_templateMeterAddress haddress]
        exact ⟨id, fun _ => id⟩

/-! ### The configuration -/

/-- Some field that the setup needs still has a value of the template. -/
def Held (texts : LoaderTexts) (config : Entries) : Prop :=
  templatePlaceholderPaths texts (applyRuntimeConfigDefaults texts config) ≠ []

theorem loaded_meter_before (h : configuredMeter texts config = .dict own) :
    getValue (applyRuntimeConfigDefaults texts config) "grid_meter" = .dict (meterBefore own) := by
  rw [loaded_meter, h, mergeUnder_dict]
  rfl

section

variable (hupgraded : UpgradedFrom texts comments config upgraded)
include hupgraded

/-- A meter that is carried over is loaded under the template. -/
theorem loaded_meter_after
    (hcarried : MeterCarriedOver texts config) (h : configuredMeter texts config = .dict own) :
    getValue (applyRuntimeConfigDefaults texts upgraded) "grid_meter" =
      .dict (meterAfter comments own) := by
  rw [loaded_meter, hupgraded.meter hcarried, h, mergeUnder_dict, mergeUnder_dict]
  rfl

/-- The meter that comes in where the configuration's own is left behind. -/
theorem loaded_meter_of_lost (hlost : ¬ MeterCarriedOver texts config) :
    getValue (applyRuntimeConfigDefaults texts upgraded) "grid_meter" =
      .dict (meterAfter comments []) := by
  rw [loaded_meter, hupgraded.lost hlost, mergeUnder_dict]
  rfl

theorem loaded_meter_of_not_dict
    (hcarried : MeterCarriedOver texts config) (h : ∀ own, configuredMeter texts config ≠ .dict own) :
    getValue (applyRuntimeConfigDefaults texts config) "grid_meter" = configuredMeter texts config ∧
      getValue (applyRuntimeConfigDefaults texts upgraded) "grid_meter" =
        configuredMeter texts config := by
  rw [loaded_meter, loaded_meter, hupgraded.meter hcarried, mergeUnder_of_not_dict h, mergeUnder_of_not_dict h,
    mergeUnder_of_not_dict h]
  exact ⟨rfl, rfl⟩

theorem loaded_brokers_after :
    getValue (applyRuntimeConfigDefaults texts upgraded) "zendure_mqtt" =
      mergeUnder (.dict (shippedZendureMqtt comments))
        (getValue (applyRuntimeConfigDefaults texts config) "zendure_mqtt") := by
  rw [loaded_brokers, loaded_brokers, hupgraded.brokers]

end

theorem meterTypeOf_of_wordOr
    (h : wordOr texts (getValue meter "type") "shelly" ∈ mqttGridMeterTypes) :
    meterTypeOf texts meter = wordOr texts (getValue meter "type") "shelly" := by
  have hshelly : (pyStrip "shelly").toLower ∉ mqttGridMeterTypes := by decide +kernel
  rw [wordOr] at h ⊢
  split_ifs at h ⊢ with htruthy
  · rw [meterTypeOf]
    cases hget : dictGet meter "type" with
    | none =>
      rw [getValue, hget] at htruthy
      cases htruthy
    | some type =>
      rw [getValue, hget]
      rfl
  · exact absurd h hshelly

/-- A meter over mqtt that loads has its broker. -/
theorem broker_of_gridMeterConfig (hmeter : getValue config "grid_meter" = .dict meter)
    (h : gridMeterConfig texts config = .ok settings)
    (hmqtt : meterTypeOf texts meter ∈ mqttGridMeterTypes) :
    ∃ resolved, resolveGridMeterMqttSettings texts config = .ok resolved ∧
      ∀ ref, brokerRef? (gridMeterMqttSettings meter) = some ref →
        ∃ connection, zendureMqttBrokerConnection texts config ref = .ok (some connection) := by
  rw [gridMeterConfig, hmeter] at h
  obtain ⟨withMqtt, hwith, -⟩ := bind_eq_ok.mp h
  rw [withMqttSettings, if_pos hmqtt] at hwith
  obtain ⟨resolved, hresolved, -⟩ := bind_eq_ok.mp hwith
  refine ⟨resolved, hresolved, fun ref href => ?_⟩
  refine resolveGridMeterMqttSettings_eq_ok texts hresolved ?_
  rw [hmeter]
  exact href

/-- The template's values in the meter of a configuration that is loaded. -/
def meterPaths (texts : LoaderTexts) (config : Entries) : List String :=
  match getValue (applyRuntimeConfigDefaults texts config) "grid_meter" with
  | .dict gridMeter =>
    if (configuredDevices (applyRuntimeConfigDefaults texts config)).isEmpty then []
    else gridMeterPlaceholderPaths texts (applyRuntimeConfigDefaults texts config) gridMeter
  | _ => []

/-- No device has a placeholder, and the meter has none. -/
theorem not_held_iff (config : Entries) :
    ¬ Held texts config ↔
      devicesPlaceholderPaths texts (configuredDevices (applyRuntimeConfigDefaults texts config)) =
        [] ∧ meterPaths texts config = [] := by
  rw [Held, not_not]
  exact List.append_eq_nil_iff

section

variable (hupgraded : UpgradedFrom texts comments config upgraded)
  (haddress : ReadsTemplateAddress texts)
  (hloads : gridMeterConfig texts (applyRuntimeConfigDefaults texts upgraded) = .ok settings)
include hupgraded haddress hloads

/-- **Whether the meter has placeholders**, before and after the upgrade. -/
theorem meterPaths_upgraded
    (hdevices : (configuredDevices (applyRuntimeConfigDefaults texts upgraded)).isEmpty =
      (configuredDevices (applyRuntimeConfigDefaults texts config)).isEmpty) :
    (meterPaths texts upgraded = [] → meterPaths texts config = []) ∧
    (MeterCarriedOver texts config →
      (∀ own, configuredMeter texts config = .dict own → UrlRead texts own) →
        meterPaths texts config = [] → meterPaths texts upgraded = []) := by
  rw [meterPaths, meterPaths, hdevices]
  by_cases hcarried : MeterCarriedOver texts config
  · by_cases hdict : ∃ own, configuredMeter texts config = .dict own
    · obtain ⟨own, hown⟩ := hdict
      have hafter := loaded_meter_after hupgraded hcarried hown
      rw [loaded_meter_before hown, hafter]
      dsimp only
      split_ifs
      · exact ⟨id, fun _ _ => id⟩
      · have hread : wordOr texts (getValue (meterBefore own) "type") "shelly" ∈
            mqttGridMeterTypes →
            ∀ ref, brokerRef? (gridMeterMqttSettings (meterBefore own)) = some ref →
              ∃ connection, zendureMqttBrokerConnection texts
                (applyRuntimeConfigDefaults texts upgraded) ref = .ok (some connection) := by
          intro hmqtt ref href
          rw [← @getValue_after comments own "type" (by decide) (by decide)] at hmqtt
          rw [← @gridMeterMqttSettings_upgraded comments own] at href
          have htype : meterTypeOf texts (meterAfter comments own) ∈ mqttGridMeterTypes :=
            (meterTypeOf_of_wordOr hmqtt).symm ▸ hmqtt
          obtain ⟨-, -, hbroker⟩ := broker_of_gridMeterConfig hafter hloads htype
          exact hbroker ref href
        obtain ⟨hkept, hnone⟩ := gridMeterPlaceholderPaths_upgraded haddress
          (loaded_brokers_after hupgraded) hread
        exact ⟨hkept, fun _ hurl => hnone (hurl own hown)⟩
    · have hnot := loaded_meter_of_not_dict hupgraded hcarried fun own hown => hdict ⟨own, hown⟩
      rw [hnot.1, hnot.2]
      cases hvalue : configuredMeter texts config with
      | dict own => exact absurd ⟨own, hvalue⟩ hdict
      | _ => exact ⟨id, fun _ _ => id⟩
  · refine ⟨?_, fun h => absurd h hcarried⟩
    rw [loaded_meter_of_lost hupgraded hcarried]
    dsimp only
    split_ifs
    · intro _
      split <;> rfl
    · -- the template's own address came in
      have hip : getValue (meterAfter comments []) "ip" = .str templateMeterAddress :=
        (ip_of_missing rfl).2
      have hshelly : (pyStrip "shelly").toLower = "shelly" := by decide +kernel
      have hword : wordOr texts (getValue (meterAfter comments []) "type") "shelly" = "shelly" := by
        have htype : getValue (meterAfter comments []) "type" = .str "shelly" := rfl
        rw [wordOr, htype, texts.str_str, ite_self, hshelly]
      rw [gridMeterPlaceholderPaths, hword, if_neg (by decide), if_neg (by decide), hip,
        missing_templateMeterAddress haddress]
      exact fun h => absurd h (List.cons_ne_nil _ _)

/-- **A configuration that was held is held after the upgrade**, and one that was not is not, where
its meter is carried over and its url read. -/
theorem held_upgraded :
    (Held texts config → Held texts upgraded) ∧
    (MeterCarriedOver texts config →
      (∀ own, configuredMeter texts config = .dict own → UrlRead texts own) →
        Held texts upgraded → Held texts config) := by
  have hdevices : devicesPlaceholderPaths texts
      (configuredDevices (applyRuntimeConfigDefaults texts upgraded)) =
        devicesPlaceholderPaths texts
          (configuredDevices (applyRuntimeConfigDefaults texts config)) ∧
      (configuredDevices (applyRuntimeConfigDefaults texts upgraded)).isEmpty =
        (configuredDevices (applyRuntimeConfigDefaults texts config)).isEmpty := by
    rcases configuredDevices_upgraded hupgraded with hsame | henriched
    · rw [hsame]
      exact ⟨rfl, rfl⟩
    · rw [henriched, devicesPlaceholderPaths_enrich, List.isEmpty_map]
      exact ⟨rfl, rfl⟩
  obtain ⟨hkept, hnone⟩ := meterPaths_upgraded hupgraded haddress hloads hdevices.2
  constructor
  · intro h
    by_contra hfree
    rw [not_held_iff, hdevices.1] at hfree
    exact (not_held_iff config).mpr ⟨hfree.1, hkept hfree.2⟩ h
  · intro hcarried hurl h
    by_contra hfree
    rw [not_held_iff] at hfree
    exact (not_held_iff upgraded).mpr ⟨hdevices.1.trans hfree.1, hnone hcarried hurl hfree.2⟩ h

end

end

end SolarFlowEms.Config
