import SolarFlowEms.Config.UpgradeKeeps
import SolarFlowEms.Config.WriteGates

/-!
# The shipped template, and what an upgrade with it makes of the sections that are loaded

A key that the configuration lacks has the loader's default before the upgrade and the template's
value after it.  So a section that a load reads is, before, the configuration's own over the
loader's defaults, and after, the configuration's own over the template's, over the loader's.  The
meter may come from an old block, which the migrations of the configuration carry over.
-/

namespace SolarFlowEms.Config

open Python Documents Fallible

/-! ### The shipped template

Its comments, and the sections on which neither a gate nor the meter depends, are left open. -/

section

variable (comments : String → PyValue) (others : Entries)

def shippedSystem : Entries :=
  [("_comment", comments "system"), ("enabled", .bool true), ("dry_run", .bool false),
    ("simulation_mode", .bool false), ("allow_hardware_writes", .bool true),
    ("allow_mqtt_local_control_writes", .bool true),
    ("allow_mqtt_zendure_control_writes", .bool true),
    ("allow_state_reconciliation_writes", .bool true), ("reconcile_smart_mode", .bool true),
    ("log_level", .str "info"), ("max_total_power", .int 800), ("max_device_power", .int 800),
    ("deadband", .int 2), ("runtime_state_path", .str "data/runtime-state.json"),
    ("min_output_limit", .int 35), ("loop_interval", .int 5),
    ("output_control", .dict (("_comment_output_control", comments "output_control") ::
      outputControlDefaults)),
    ("redistribute_clamped_power", .bool true), ("pv_kwp_weighting", .bool true),
    ("pv_charge_balance_enabled", .bool true), ("pv_charge_balance_deadband_percent", .int 1),
    ("pv_charge_balance_full_bias_percent", .int 15),
    ("pv_charge_balance_strength", .float (.finite 0.7)), ("battery_kwh_weighting", .bool true),
    ("soc_reconcile_interval", .int 10)]

def templateMeterAddress : String := "198.51.100.50"

def shippedGridMeter : Entries :=
  [("_comment", comments "grid_meter"), ("type", .str "shelly"), ("ip", .str templateMeterAddress)]

def shippedZendureMqtt : Entries :=
  [("_comment", comments "zendure_mqtt"), ("host", .str ""), ("port", .int 1883),
    ("tls", .bool false), ("tls_insecure", .bool false), ("username", .str ""),
    ("password", .str ""), ("app_key", .str ""), ("connect_timeout_seconds", .float (.finite 10)),
    ("keepalive_seconds", .int 30)]

def shippedDeviceDefaults : Entries :=
  [("_comment_smart_mode", comments "smart_mode"), ("smart_mode", .int 1), ("max_power", .int 800),
    ("pv_kwp", .float (.finite 1)), ("pv_priority_factor", .float (.finite 1)),
    ("battery_kwh", .float (.finite 1)), ("_comment_ac_directions", comments "ac_directions"),
    ("ac_discharge_enabled", .bool true), ("ac_charge_enabled", .bool true),
    ("max_charge_power_w", .int 0), ("_comment_soc", comments "soc"), ("min_soc", .int 15),
    ("max_soc", .int 100), ("winter_policy", .str "auto")]

def shippedDevice (name ip : String) : PyValue :=
  .dict (("name", .str name) :: ("ip", .str ip) :: ("sn", .str "YOUR_SN") ::
    shippedDeviceDefaults comments)

def shippedTemplate : Entries :=
  [("_comment", comments "config"), ("_comment_docs", comments "docs"),
    (schemaVersionKey, .int latestConfigSchemaVersion),
    ("config_upgrade", .dict (("_comment", comments "config_upgrade") :: configUpgradeDefaults)),
    ("system", .dict (shippedSystem comments)), ("grid_meter", .dict (shippedGridMeter comments)),
    ("_comment_devices", comments "devices"),
    ("devices", .list [shippedDevice comments "INV_1" "198.51.100.100",
      shippedDevice comments "INV_2" "198.51.100.101"]),
    ("zendure_mqtt", .dict (shippedZendureMqtt comments))] ++ others

/-- What the upgrade takes from the shipped template. -/
structure TemplateData.Shipped (data : TemplateData) : Prop where
  system : dictGet data.view "system" = some (.dict (shippedSystem comments))
  gridMeter : dictGet data.view "grid_meter" = some (.dict (shippedGridMeter comments))
  zendureMqtt : dictGet data.view "zendure_mqtt" = some (.dict (shippedZendureMqtt comments))
  devices : dictGet data.view "devices" = some (.list [])
  shelly : dictGet data.view "shelly" = none
  device : data.deviceDefaults = shippedDeviceDefaults comments

theorem shipped_templateData {data : TemplateData}
    (h : loadTemplateUpgradeData (shippedTemplate comments others) = .ok data) :
    data.Shipped comments := by
  obtain ⟨sample, hsample, h⟩ := bind_eq_ok.mp h
  obtain rfl : sample = shippedDevice comments "INV_1" "198.51.100.100" :=
    (Except.ok.inj hsample).symm
  obtain rfl := Except.ok.inj h
  have hview (key : String) (hkey : key ≠ "shelly") (hversion : key ≠ schemaVersionKey)
      (hdevices : key ≠ "devices") :
      dictGet ((dictSet (dictSet (shippedTemplate comments others) schemaVersionKey
        (.int latestConfigSchemaVersion)) "devices" (.list [])).filter fun entry =>
          entry.1 ≠ "shelly") key = dictGet (shippedTemplate comments others) key := by
    refine (dictGet_filter (fun name => decide (name ≠ "shelly")) _ _).trans ?_
    rw [if_pos (decide_eq_true hkey), dictGet_dictSet, if_neg hdevices, dictGet_dictSet,
      if_neg hversion]
  refine ⟨?_, ?_, ?_, ?_, ?_, ?_⟩
  · exact (hview _ (by decide) (by decide) (by decide)).trans rfl
  · exact (hview _ (by decide) (by decide) (by decide)).trans rfl
  · exact (hview _ (by decide) (by decide) (by decide)).trans rfl
  · refine (dictGet_filter (fun name => decide (name ≠ "shelly")) _ _).trans ?_
    rw [if_pos (by decide), dictGet_dictSet, if_pos rfl]
  · exact (dictGet_filter (fun name => decide (name ≠ "shelly")) _ _).trans (if_neg (by decide))
  · rfl

end

/-! ### The configured meter -/

section

variable (texts : LoaderTexts)

def legacyMeter (ip : String) : PyValue := .dict [("type", .str "shelly"), ("ip", .str ip)]

/-- The meter of a configuration, which the old block may stand for. -/
def meterOf (config : Entries) : Option PyValue :=
  (dictGet config "grid_meter").or ((legacyShellyIp texts config).map legacyMeter)

/-- No meter is configured by the old block, or the configuration is old enough that the block is
migrated. -/
def MeterCarriedOver (config : Entries) : Prop :=
  legacyShellyIp texts config = none ∨ readConfigSchemaVersion texts.toConfigTexts config = .ok 1

variable {texts}

theorem migrateConfig1To2_eq (config : Entries) :
    (migrateConfig1To2 texts.toConfigTexts config).1 =
      (legacyShellyIp texts config).elim config fun ip =>
        dictSet config "grid_meter" (legacyMeter ip) := by
  rw [migrateConfig1To2, legacyShellyIp]
  cases dictGet config "grid_meter" with
  | some meter => rfl
  | none =>
    cases getValue config "shelly" with
    | dict legacyShelly =>
      dsimp only
      split_ifs <;> rfl
    | none | bool b | int z | float x | str s | list items => rfl

variable {config migrated : Entries} {version : ℤ} {count : ℕ} {steps : List SchemaStep}
  {key : String}

theorem dictGet_of_legacyShellyIp {ip : String}
    (h : legacyShellyIp texts config = some ip) : dictGet config "grid_meter" = none := by
  rw [legacyShellyIp] at h
  cases hmeter : dictGet config "grid_meter" with
  | none => rfl
  | some meter =>
    rw [hmeter] at h
    cases h

theorem dictGet_migrateConfig1To2 (config : Entries) (key : String) :
    dictGet (migrateConfig1To2 texts.toConfigTexts config).1 key =
      if key = "grid_meter" then meterOf texts config else dictGet config key := by
  rw [migrateConfig1To2_eq, meterOf]
  cases hlegacy : legacyShellyIp texts config with
  | none =>
    split_ifs with hkey
    · rw [hkey]
      exact Option.or_none.symm
    · rfl
  | some ip =>
    rw [Option.elim_some, dictGet_dictSet, dictGet_of_legacyShellyIp hlegacy]
    rfl

theorem configMigrations_eq {description : String} {migration : Entries → Entries × List Change}
    (h : configMigrations texts.toConfigTexts version = some (description, migration))
    (config : Entries) :
    (migration config).1 = (migrateConfig1To2 texts.toConfigTexts config).1 ∨
      (migration config).1 = config := by
  rw [configMigrations] at h
  split_ifs at h
  · obtain ⟨-, rfl⟩ := Prod.mk.inj (Option.some.inj h)
    exact .inl rfl
  · obtain ⟨-, rfl⟩ := Prod.mk.inj (Option.some.inj h)
    exact .inr rfl

theorem migrateFrom_succ
    (h : migrateFrom texts.toConfigTexts (count + 1) version config = .ok (migrated, steps)) :
    ∃ next rest, migrateFrom texts.toConfigTexts count (version + 1) next = .ok (migrated, rest) ∧
      (next = (migrateConfig1To2 texts.toConfigTexts config).1 ∨ next = config) := by
  rw [migrateFrom] at h
  cases hmigration : configMigrations texts.toConfigTexts version with
  | none =>
    rw [hmigration] at h
    cases h
  | some entry =>
    obtain ⟨description, migration⟩ := entry
    rw [hmigration] at h
    obtain ⟨⟨final, rest⟩, hrest, h⟩ := bind_eq_ok.mp h
    obtain ⟨rfl, -⟩ := Prod.mk.inj (Except.ok.inj h)
    exact ⟨_, rest, hrest, configMigrations_eq hmigration config⟩

theorem dictGet_migrateFrom_of_ne
    (h : migrateFrom texts.toConfigTexts count version config = .ok (migrated, steps))
    (hkey : key ≠ "grid_meter") : dictGet migrated key = dictGet config key := by
  induction count generalizing version config steps with
  | zero =>
    cases h
    rfl
  | succ count ih =>
    obtain ⟨next, rest, hrest, rfl | rfl⟩ := migrateFrom_succ h
    · rw [ih hrest, dictGet_migrateConfig1To2, if_neg hkey]
    · exact ih hrest

theorem migrateFrom_of_none (hlegacy : legacyShellyIp texts config = none)
    (h : migrateFrom texts.toConfigTexts count version config = .ok (migrated, steps)) :
    migrated = config := by
  induction count generalizing version config steps with
  | zero =>
    cases h
    rfl
  | succ count ih =>
    obtain ⟨next, rest, hrest, rfl | rfl⟩ := migrateFrom_succ h
    · have hsame : (migrateConfig1To2 texts.toConfigTexts config).1 = config := by
        rw [migrateConfig1To2_eq, hlegacy]
        rfl
      rw [hsame] at hrest
      exact ih hlegacy hrest
    · exact ih hlegacy hrest

/-- Only the first migration changes a section. -/
theorem migrateFrom_of_ne_one (hversion : version ≠ 1)
    (h : migrateFrom texts.toConfigTexts (latestConfigSchemaVersion - version).toNat version config =
      .ok (migrated, steps)) : migrated = config := by
  cases hcount : (latestConfigSchemaVersion - version).toNat with
  | zero =>
    rw [hcount] at h
    cases h
    rfl
  | succ count =>
    rw [hcount, migrateFrom, configMigrations, if_neg hversion] at h
    split_ifs at h with hsecond
    have hlast : (latestConfigSchemaVersion - 2).toNat = 1 := rfl
    obtain rfl : count = 0 := Nat.succ.inj (hcount.symm.trans (hsecond ▸ hlast))
    obtain ⟨rfl, -⟩ := Prod.mk.inj (Except.ok.inj h)
    rfl

/-- **The migrations carry the meter over** from the first version on, and touch no other section;
at a later version the meter that the old block stands for is left behind. -/
theorem dictGet_runConfigSchemaMigrations
    (h : runConfigSchemaMigrations texts.toConfigTexts config = .ok (migrated, steps)) :
    (∀ key, key ≠ schemaVersionKey → key ≠ "grid_meter" →
      dictGet migrated key = dictGet config key) ∧
    (MeterCarriedOver texts config → dictGet migrated "grid_meter" = meterOf texts config) ∧
    (¬ MeterCarriedOver texts config → dictGet migrated "grid_meter" = none) := by
  obtain ⟨current, hcurrent, h⟩ := bind_eq_ok.mp h
  split at h
  · cases h
  obtain ⟨⟨final, rest⟩, hfinal, h⟩ := bind_eq_ok.mp h
  obtain ⟨rfl, -⟩ := Prod.mk.inj (Except.ok.inj h)
  have hmeter : dictGet (dictSet final schemaVersionKey (.int latestConfigSchemaVersion))
      "grid_meter" = dictGet final "grid_meter" := (dictGet_dictSet _ _ _ _).trans (if_neg (by decide))
  rw [hmeter]
  refine ⟨fun key hkey hgrid => ?_, ?_, fun hlost => ?_⟩
  · rw [dictGet_dictSet, if_neg hkey]
    exact dictGet_migrateFrom_of_ne hfinal hgrid
  · rintro (hlegacy | hfirst)
    · rw [migrateFrom_of_none hlegacy hfinal, meterOf, hlegacy]
      exact Option.or_none.symm
    · rw [hfirst] at hcurrent
      obtain rfl : current = 1 := (Except.ok.inj hcurrent).symm
      obtain ⟨rfl, -⟩ := Prod.mk.inj (Except.ok.inj hfinal)
      exact (dictGet_migrateConfig1To2 config "grid_meter").trans (if_pos rfl)
  · obtain ⟨hlegacy, hlater⟩ := not_or.mp hlost
    obtain ⟨ip, hip⟩ := Option.ne_none_iff_exists'.mp hlegacy
    rw [hcurrent] at hlater
    rw [migrateFrom_of_ne_one (fun hone => hlater (congrArg _ hone)) hfinal]
    exact dictGet_of_legacyShellyIp hip

/-! ### The sections that are loaded, before and after -/

variable (texts)

def configuredSystem (config : Entries) : PyValue := (dictGet config "system").getD (.dict [])

def configuredMeter (config : Entries) : PyValue := (meterOf texts config).getD (.dict [])

def configuredBrokers (config : Entries) : PyValue :=
  (dictGet config "zendure_mqtt").getD (.dict [])

def configuredItems (config : Entries) : PyValue := (dictGet config "devices").getD (.list [])

def defaultGridMeter : Entries := [("type", .str "shelly"), ("ip", .str "")]

theorem getValue_applyRuntimeConfigDefaults {default : PyValue}
    (hdefault : dictGet defaultRuntimeConfig key = some default) (hkey : key ≠ "grid_meter")
    (config : Entries) :
    getValue (applyRuntimeConfigDefaults texts config) key = overDefault config key default := by
  have hmerged : getValue (mergeDict defaultRuntimeConfig config) key =
      overDefault config key default :=
    getValue_of_dictGet (dictGet_mergeDict_of_some hdefault config)
  rw [applyRuntimeConfigDefaults]
  cases legacyShellyIp texts config with
  | none => exact hmerged
  | some ip =>
    rw [← hmerged, getValue, getValue]
    dsimp only
    rw [dictGet_dictSet, if_neg hkey]

theorem loaded_system (config : Entries) :
    getValue (applyRuntimeConfigDefaults texts config) "system" =
      mergeUnder (.dict defaultRuntimeSystem) (configuredSystem config) :=
  (getValue_applyRuntimeConfigDefaults texts rfl (by decide) config).trans
    (overDefault_dict config "system" defaultRuntimeSystem)

theorem mergeUnder_empty (value : PyValue) : mergeUnder (.dict []) value = value := by
  cases value with
  | dict entries =>
    rw [mergeUnder_dict, mergeDict, mergeEntries, List.nil_append]
    exact congrArg _ (List.filter_eq_self.mpr fun entry _ => rfl)
  | none | bool b | int z | float x | str s | list items => rfl

theorem loaded_brokers (config : Entries) :
    getValue (applyRuntimeConfigDefaults texts config) "zendure_mqtt" = configuredBrokers config :=
  ((getValue_applyRuntimeConfigDefaults texts rfl (by decide) config).trans
    (overDefault_dict config "zendure_mqtt" [])).trans (mergeUnder_empty _)

theorem loaded_devices (config : Entries) :
    getValue (applyRuntimeConfigDefaults texts config) "devices" = configuredItems config := by
  refine (getValue_applyRuntimeConfigDefaults texts rfl (by decide) config).trans ?_
  rw [overDefault, configuredItems]
  cases dictGet config "devices" <;> rfl

theorem loaded_shelly (config : Entries) :
    getValue (applyRuntimeConfigDefaults texts config) "shelly" =
      overDefault config "shelly" (.dict [("ip", .str "")]) :=
  getValue_applyRuntimeConfigDefaults texts rfl (by decide) config

theorem loaded_meter (config : Entries) :
    getValue (applyRuntimeConfigDefaults texts config) "grid_meter" =
      mergeUnder (.dict defaultGridMeter) (configuredMeter texts config) := by
  have hdefault : dictGet defaultRuntimeConfig "grid_meter" = some (.dict defaultGridMeter) := rfl
  have hmerged : dictGet (mergeDict defaultRuntimeConfig config) "grid_meter" =
      some (mergeUnder (.dict defaultGridMeter) ((dictGet config "grid_meter").getD (.dict []))) := by
    rw [dictGet_mergeDict_of_some hdefault, overDefault_dict]
  rw [applyRuntimeConfigDefaults, configuredMeter, meterOf]
  cases hlegacy : legacyShellyIp texts config with
  | none =>
    rw [Option.map_none, Option.or_none]
    exact getValue_of_dictGet hmerged
  | some ip =>
    rw [dictGet_of_legacyShellyIp hlegacy]
    refine getValue_of_dictGet ((dictGet_dictSet _ _ _ _).trans ?_)
    rfl

/-- What the upgrade makes of the sections that a load reads. -/
structure UpgradedFrom (comments : String → PyValue) (config upgraded : Entries) : Prop where
  system : configuredSystem upgraded =
    mergeUnder (.dict (shippedSystem comments)) (configuredSystem config)
  meter : MeterCarriedOver texts config → configuredMeter texts upgraded =
    mergeUnder (.dict (shippedGridMeter comments)) (configuredMeter texts config)
  /-- A meter that is left behind makes room for the template's. -/
  lost : ¬ MeterCarriedOver texts config →
    configuredMeter texts upgraded = .dict (mergeDict (shippedGridMeter comments) [])
  brokers : configuredBrokers upgraded =
    mergeUnder (.dict (shippedZendureMqtt comments)) (configuredBrokers config)
  listed : ∀ items, configuredItems config = .list items → configuredItems upgraded =
    .list (items.map (enrichDevice texts.toConfigTexts (shippedDeviceDefaults comments)))
  unlisted : (∀ items, configuredItems config ≠ .list items) →
    configuredItems upgraded = configuredItems config
  shelly : dictGet upgraded "shelly" = dictGet config "shelly"

variable {texts}

theorem upgradedFrom_of_plan {comments : String → PyValue} {others : Entries} {plan : UpgradePlan}
    (hplan : buildConfigUpgradePlan texts.toConfigTexts (shippedTemplate comments others) config =
      .ok plan) :
    UpgradedFrom texts comments config plan.upgradedConfig := by
  obtain ⟨data, migrated, steps, hdata, hmigrated, hupgraded, -⟩ := buildConfigUpgradePlan_eq_ok hplan
  have hshipped := shipped_templateData comments others hdata
  obtain ⟨hkept, hmeter, hlost⟩ := dictGet_runConfigSchemaMigrations hmigrated
  have hview {key : String} (hkey : key ≠ schemaVersionKey) :
      dictGet plan.upgradedConfig key =
        dictGet (mergeTemplateUpgradeView texts.toConfigTexts data migrated) key := by
    rw [hupgraded, dictGet_dictSet, if_neg hkey]
  have hmerged {key : String} (hkey : key ≠ schemaVersionKey) (hdevices : key ≠ "devices") :
      dictGet plan.upgradedConfig key = dictGet (mergeDict data.view migrated) key :=
    (hview hkey).trans (dictGet_mergeTemplateUpgradeView_of_ne hdevices)
  have hsection {key : String} {defaults : Entries} (hkey : key ≠ schemaVersionKey)
      (hdevices : key ≠ "devices") (hdefaults : dictGet data.view key = some (.dict defaults)) :
      dictGet plan.upgradedConfig key =
        some (mergeUnder (.dict defaults) ((dictGet migrated key).getD (.dict []))) := by
    rw [hmerged hkey hdevices, dictGet_mergeDict_of_some hdefaults, overDefault_dict]
  have hlisted : dictGet migrated "devices" = dictGet config "devices" :=
    hkept _ (by decide) (by decide)
  have hgrid : dictGet plan.upgradedConfig "grid_meter" = some (mergeUnder
      (.dict (shippedGridMeter comments)) ((dictGet migrated "grid_meter").getD (.dict []))) :=
    hsection (by decide) (by decide) hshipped.gridMeter
  refine ⟨?_, fun hcarried => ?_, fun hleft => ?_, ?_, ?_, ?_, ?_⟩
  · rw [configuredSystem, hsection (by decide) (by decide) hshipped.system,
      hkept _ (by decide) (by decide)]
    rfl
  · rw [configuredMeter, meterOf, hgrid, hmeter hcarried]
    rfl
  · rw [configuredMeter, meterOf, hgrid, hlost hleft]
    rfl
  · rw [configuredBrokers, hsection (by decide) (by decide) hshipped.zendureMqtt,
      hkept _ (by decide) (by decide)]
    rfl
  · intro items hitems
    rw [configuredItems, hview (by decide)]
    rw [configuredItems, ← hlisted] at hitems
    cases hget : dictGet migrated "devices" with
    | none =>
      rw [hget] at hitems
      obtain rfl : [] = items := PyValue.list.inj hitems
      rw [dictGet_devices_of_not_list hshipped.devices fun devices hdevices => ?_, hget]
      · rfl
      · rw [hget] at hdevices
        cases hdevices
    | some value =>
      rw [hget] at hitems
      obtain rfl : value = .list items := hitems
      rw [dictGet_devices_of_list hget, hshipped.device]
      rfl
  · intro hitems
    have hnot (devices : List PyValue) : dictGet migrated "devices" ≠ some (.list devices) := by
      intro hdevices
      refine hitems devices ?_
      rw [configuredItems, ← hlisted, hdevices]
      rfl
    rw [configuredItems, hview (by decide), dictGet_devices_of_not_list hshipped.devices hnot,
      hlisted]
    rfl
  · rw [hmerged (by decide) (by decide), dictGet_mergeDict_of_none hshipped.shelly,
      hkept _ (by decide) (by decide)]

end

end SolarFlowEms.Config
