import SolarFlowEms.Config.UpgradeHeld

/-!
# What the startup upgrade lets the process do

The loader and the template agree on the simulation flag and on the release's gates.  They do not
on the dry run and on the reconciliation gate, where the loader is the cautious one, nor on the
address of a meter, where the template has a sample.  So the upgrade keeps what the process may do
for a configuration that says itself what it wants there, or that is held in safe mode.  A meter
that is left behind with the old block brings the template's address in, and with it safe mode.

* `flag_kept` - the flags that an upgrade keeps
* `gridMeter_upgraded` - the effective meter before and after
* `startup_upgrade_keeps_authority` - all that the upgrade keeps
* `startup_upgrade_arms` - what it changes where the configuration says less
-/

namespace SolarFlowEms.Config

open Python Documents Fallible

section

variable {texts : LoaderTexts}

/-! ### The flags -/

variable {config system own upgraded system' meter meter' : Entries} {arguments : Arguments}
  {settings : Settings} {key : String} {b : Bool} {comments : String → PyValue} {P : String → Prop}

theorem asLoaded_of_held (h : Held texts config) :
    getValue (asLoaded texts config) "system" = .dict (forceSafeMode
      (((getValue (applyRuntimeConfigDefaults texts config) "system").dict?).getD [])) := by
  have hplaceholders : ¬ (templatePlaceholderPaths texts
      (applyRuntimeConfigDefaults texts config)).isEmpty = true := by
    rwa [List.isEmpty_iff]
  rw [asLoaded, applyTemplatePlaceholderSafety, if_neg hplaceholders, getValue, dictGet_dictSet,
    if_pos rfl]
  rfl

theorem asLoaded_of_not_held (h : ¬ Held texts config) :
    asLoaded texts config = applyRuntimeConfigDefaults texts config := by
  rw [Held, not_not] at h
  rw [asLoaded, applyTemplatePlaceholderSafety, h]
  rfl

theorem system_of_readFrom (h : settings.ReadFrom texts arguments (asLoaded texts config) system) :
    ∃ own, configuredSystem config = .dict own ∧
      (Held texts config → system = forceSafeMode (mergeDict defaultRuntimeSystem own)) ∧
      (¬ Held texts config → system = mergeDict defaultRuntimeSystem own) := by
  have hsystem := h.systemSection
  by_cases hheld : Held texts config
  · rw [asLoaded_of_held hheld, loaded_system] at hsystem
    have hforced := PyValue.dict.inj hsystem
    cases hown : configuredSystem config with
    | dict own =>
      rw [hown, mergeUnder_dict] at hforced
      exact ⟨own, rfl, fun _ => hforced.symm, fun hnot => absurd hheld hnot⟩
    | _ =>
      -- safe mode puts an object in the place of the section, which has no power limit
      exfalso
      rw [hown] at hforced
      have hpower := h.maxTotalPower
      rw [← hforced, dictGet_forceSafeMode] at hpower
      cases hpower
  · rw [asLoaded_of_not_held hheld, loaded_system] at hsystem
    cases hown : configuredSystem config with
    | dict own =>
      rw [hown, mergeUnder_dict] at hsystem
      refine ⟨own, rfl, fun hheld' => absurd hheld' hheld, fun _ => ?_⟩
      exact (PyValue.dict.inj hsystem).symm
    | _ =>
      rw [hown] at hsystem
      cases hsystem

theorem dictGet_flag {defaults : Entries} (h : dictGet defaults key = some (.bool b)) :
    dictGet (mergeDict defaults own) key = some ((dictGet own key).getD (.bool b)) := by
  rw [dictGet_mergeDict_of_some h, overDefault]
  cases dictGet own key <;> rfl

/-- **A flag is kept that the configuration names, on which the loader and the template agree, or
that safe mode forces.** -/
theorem flag_kept {settings' : Settings} (hupgraded : UpgradedFrom texts comments config upgraded)
    (hheld : Held texts config → Held texts upgraded)
    (hkept : Held texts config ∨ ¬ Held texts upgraded ∨ safeModeFlags.lookup key = none)
    (h : settings.ReadFrom texts arguments (asLoaded texts config) system)
    (h' : settings'.ReadFrom texts arguments (asLoaded texts upgraded) system')
    {b' : Bool} (hb : dictGet defaultRuntimeSystem key = some (.bool b))
    (hb' : dictGet (shippedSystem comments) key = some (.bool b'))
    (hkey : b = b' ∨ (∃ own, configuredSystem config = .dict own ∧ (dictGet own key).isSome = true) ∨
      (Held texts config ∧ (safeModeFlags.lookup key).isSome = true)) :
    dictGet system key = dictGet system' key := by
  obtain ⟨own, hown, hforced, hfree⟩ := system_of_readFrom h
  obtain ⟨own', hown', hforced', hfree'⟩ := system_of_readFrom h'
  rw [hupgraded.system, hown, mergeUnder_dict] at hown'
  obtain rfl := PyValue.dict.inj hown'
  have hbefore : dictGet (mergeDict defaultRuntimeSystem own) key =
      some ((dictGet own key).getD (.bool b)) := dictGet_flag hb
  have hafter : dictGet (mergeDict defaultRuntimeSystem (mergeDict (shippedSystem comments) own))
      key = some ((dictGet own key).getD (.bool b')) := by
    rw [dictGet_flag hb, dictGet_flag hb']
    rfl
  have hsame (hnot : b = b' ∨ (dictGet own key).isSome = true) :
      dictGet (mergeDict defaultRuntimeSystem own) key =
        dictGet (mergeDict defaultRuntimeSystem (mergeDict (shippedSystem comments) own)) key := by
    rw [hbefore, hafter]
    rcases hnot with rfl | hnamed
    · rfl
    · obtain ⟨value, hvalue⟩ := Option.isSome_iff_exists.mp hnamed
      rw [hvalue]
      rfl
  have hnamed : b = b' ∨ (dictGet own key).isSome = true ∨
      (Held texts config ∧ (safeModeFlags.lookup key).isSome = true) := by
    rcases hkey with heq | ⟨found, hfound, hnamed⟩ | hforce
    · exact .inl heq
    · rw [hown] at hfound
      rw [← PyValue.dict.inj hfound] at hnamed
      exact .inr (.inl hnamed)
    · exact .inr (.inr hforce)
  by_cases hheldNow : Held texts config
  · rw [hforced hheldNow, hforced' (hheld hheldNow), dictGet_forceSafeMode, dictGet_forceSafeMode]
    cases hlookup : safeModeFlags.lookup key with
    | some forced => rfl
    | none =>
      refine congrArg _ (hsame ?_)
      rcases hnamed with heq | hown | ⟨-, hforce⟩
      · exact .inl heq
      · exact .inr hown
      · rw [hlookup] at hforce
        cases hforce
  · have hplain : dictGet system' key =
        dictGet (mergeDict defaultRuntimeSystem (mergeDict (shippedSystem comments) own)) key := by
      by_cases hnow : Held texts upgraded
      · have hunforced : safeModeFlags.lookup key = none :=
          (hkept.resolve_left hheldNow).resolve_left fun h => h hnow
        rw [hforced' hnow, dictGet_forceSafeMode, hunforced]
        rfl
      · rw [hfree' hnow]
    rw [hfree hheldNow, hplain]
    refine hsame ?_
    rcases hnamed with heq | hown | ⟨hnow, -⟩
    · exact .inl heq
    · exact .inr hown
    · exact absurd hnow hheldNow

/-! ### The meter -/

theorem dictGet_stringify (meter : Entries) (key key' : String) :
    dictGet (stringify texts meter key) key' =
      if key' = key then (dictGet meter key).map fun value =>
        if value.isNone then value else .str (texts.str value)
      else dictGet meter key' := by
  rw [stringify]
  cases hget : dictGet meter key with
  | none =>
    split_ifs with hkey
    · rw [hkey, hget]
      rfl
    · rfl
  | some value =>
    cases hnone : value.isNone with
    | true =>
      dsimp only
      rw [hnone, if_pos rfl]
      split_ifs with hkey
      · rw [hkey, hget, Option.map_some, hnone]
        rfl
      · rfl
    | false =>
      dsimp only
      rw [hnone, if_neg Bool.false_ne_true, dictGet_dictSet, Option.map_some, hnone]
      rfl

theorem foldl_stringify_agree (keys : List String) (h : AgreeOn P meter meter') :
    AgreeOn P (keys.foldl (stringify texts) meter) (keys.foldl (stringify texts) meter') := by
  induction keys generalizing meter meter' with
  | nil => exact h
  | cons key keys ih =>
    refine ih fun key' hkey' => ?_
    rw [dictGet_stringify, dictGet_stringify]
    split_ifs with heq
    · rw [← heq, h key' hkey']
    · exact h key' hkey'

theorem normalizeChannels_agree {result result' : Entries}
    (h : AgreeOn P meter meter') (hchannels : P "channels")
    (hresult : normalizeChannels texts meter = .ok result)
    (hresult' : normalizeChannels texts meter' = .ok result') : AgreeOn P result result' := by
  rw [normalizeChannels, h "channels" hchannels] at hresult
  rw [normalizeChannels] at hresult'
  cases hget : dictGet meter' "channels" with
  | none =>
    rw [hget] at hresult hresult'
    obtain rfl := Except.ok.inj hresult
    obtain rfl := Except.ok.inj hresult'
    exact h
  | some channels =>
    rw [hget] at hresult hresult'
    cases channels with
    | none =>
      obtain rfl := Except.ok.inj hresult
      obtain rfl := Except.ok.inj hresult'
      exact h
    | list items =>
      obtain ⟨normalized, hnormalized, hresult⟩ := bind_eq_ok.mp hresult
      obtain ⟨normalized', hnormalized', hresult'⟩ := bind_eq_ok.mp hresult'
      rw [hnormalized] at hnormalized'
      obtain rfl := Except.ok.inj hnormalized'
      obtain rfl := Except.ok.inj hresult
      obtain rfl := Except.ok.inj hresult'
      exact h.dictSet _ _
    | bool b | int z | float x | str s | dict entries => cases hresult

/-- A configuration that says itself where its meter is reached: at an address that it names, or
over a broker.  The default broker names its port, or is not encrypted. -/
structure MeterNamed (texts : LoaderTexts) (config : Entries) : Prop where
  address : ∀ own, configuredMeter texts config = .dict own →
    (dictGet own "ip").isSome = true ∨ meterTypeOf texts own ∈ mqttGridMeterTypes
  port : ∀ own, configuredMeter texts config = .dict own →
    brokerRef? (gridMeterMqttSettings own) = some defaultBrokerRef →
      (∃ brokers, configuredBrokers config = .dict brokers ∧
        (dictGet brokers "port").isSome = true) ∨
      ∀ connection, zendureMqttBrokerConnection texts (applyRuntimeConfigDefaults texts config)
        defaultBrokerRef = .ok (some connection) → connection.tls = false

theorem resolveGridMeterMqttSettings_upgraded {resolved' : Entries}
    (hupgraded : UpgradedFrom texts comments config upgraded)
    (hcarried : MeterCarriedOver texts config) (hown : configuredMeter texts config = .dict own)
    (hnamed : MeterNamed texts config)
    (h : resolveGridMeterMqttSettings texts (applyRuntimeConfigDefaults texts upgraded) =
      .ok resolved') :
    resolveGridMeterMqttSettings texts (applyRuntimeConfigDefaults texts config) = .ok resolved' := by
  have hbefore : gridMeterMqttSettings (((getValue (applyRuntimeConfigDefaults texts config)
      "grid_meter").dict?).getD []) = gridMeterMqttSettings own := by
    rw [loaded_meter_before hown]
    exact gridMeterMqttSettings_before own
  have hafter : gridMeterMqttSettings (((getValue (applyRuntimeConfigDefaults texts upgraded)
      "grid_meter").dict?).getD []) = gridMeterMqttSettings own := by
    rw [loaded_meter_after hupgraded hcarried hown]
    exact (gridMeterMqttSettings_upgraded own).trans (gridMeterMqttSettings_before own)
  rw [resolveGridMeterMqttSettings, hafter] at h
  rw [resolveGridMeterMqttSettings, hbefore]
  cases href : brokerRef? (gridMeterMqttSettings own) with
  | none =>
    rw [href] at h
    exact h
  | some ref =>
    rw [href, resolveBrokerRef] at h
    rw [resolveBrokerRef]
    split_ifs at h ⊢ with hconflicting
    obtain ⟨found, hfound, h⟩ := bind_eq_ok.mp h
    cases found with
    | none => cases h
    | some connection' =>
      obtain ⟨connection, hconnection, -, hkept⟩ :=
        zendureMqttBrokerConnection_shipped (loaded_brokers_after hupgraded) hfound
      have hsame : connection' = connection := by
        refine hkept fun brokers hbrokers hdefault => ?_
        rw [loaded_brokers] at hbrokers
        subst hdefault
        rcases hnamed.port own hown href with ⟨brokers', hbrokers', hport⟩ | hplain
        · rw [hbrokers] at hbrokers'
          obtain rfl := PyValue.dict.inj hbrokers'
          exact .inl hport
        · exact .inr (hplain connection hconnection)
      rw [hconnection]
      rw [hsame] at h
      exact h

/-- **The effective meter is the same**, its comments aside. -/
theorem gridMeter_upgraded
    (hupgraded : UpgradedFrom texts comments config upgraded)
    (hcarried : MeterCarriedOver texts config) (hnamed : MeterNamed texts config)
    (h : gridMeterConfig texts (applyRuntimeConfigDefaults texts config) = .ok meter)
    (h' : gridMeterConfig texts (applyRuntimeConfigDefaults texts upgraded) = .ok meter') :
    AgreeOn (isCommentKey · = false) meter' meter := by
  by_cases hdict : ∃ own, configuredMeter texts config = .dict own
  · obtain ⟨own, hown⟩ := hdict
    have hagree : AgreeOn _ (meterAfter comments own) (meterBefore own) := meterAfter_agree own
    have htype : meterTypeOf texts (meterAfter comments own) = meterTypeOf texts (meterBefore own) := by
      rw [meterTypeOf, meterTypeOf, hagree "type" ⟨by decide, fun h => absurd h (by decide)⟩]
    have hownType : meterTypeOf texts (meterBefore own) = meterTypeOf texts own := by
      rw [meterTypeOf, meterTypeOf, dictGet_type_before]
      rfl
    rw [gridMeterConfig, loaded_meter_before hown] at h
    rw [gridMeterConfig, loaded_meter_after hupgraded hcarried hown] at h'
    dsimp only at h h'
    rw [htype] at h'
    obtain ⟨read, hread, h⟩ := bind_eq_ok.mp h
    obtain ⟨read', hread', h'⟩ := bind_eq_ok.mp h'
    have hfold : AgreeOn _ (gridMeterTextKeys.foldl (stringify texts) _)
        (gridMeterTextKeys.foldl (stringify texts) _) :=
      foldl_stringify_agree gridMeterTextKeys
        (hagree.dictSet "type" (.str (meterTypeOf texts (meterBefore own))))
    rw [withMqttSettings] at hread hread'
    have hplain : AgreeOn (isCommentKey · = false) read' read := by
      by_cases hmqtt : meterTypeOf texts (meterBefore own) ∈ mqttGridMeterTypes
      · rw [if_pos hmqtt] at hread hread'
        obtain ⟨resolved, hresolved, hwith⟩ := bind_eq_ok.mp hread
        obtain ⟨mqtt, hmqttSettings, hfinal⟩ := bind_eq_ok.mp hwith
        obtain ⟨resolved', hresolved', hwith'⟩ := bind_eq_ok.mp hread'
        obtain ⟨mqtt', hmqttSettings', hfinal'⟩ := bind_eq_ok.mp hwith'
        rw [resolveGridMeterMqttSettings_upgraded hupgraded hcarried hown hnamed hresolved'] at hresolved
        obtain rfl := Except.ok.inj hresolved
        rw [hmqttSettings] at hmqttSettings'
        obtain rfl := Except.ok.inj hmqttSettings'
        obtain rfl := Except.ok.inj hfinal
        obtain rfl := Except.ok.inj hfinal'
        -- what the template adds to the address is dropped with the address
        refine ((hfold.dictSet "mqtt" (.dict mqtt)).filter fun key => key ∉ gridMeterStaleKeys).mono ?_
        intro key hcomment
        by_cases hip : key = "ip"
        · right
          rw [hip]
          decide
        · exact .inl ⟨hcomment, fun h => absurd h hip⟩
      · rw [if_neg hmqtt] at hread hread'
        obtain rfl := Except.ok.inj hread
        obtain rfl := Except.ok.inj hread'
        refine hfold.mono fun key hcomment => ⟨hcomment, fun _ => ?_⟩
        rw [hownType] at hmqtt
        exact (hnamed.address own hown).resolve_right hmqtt
    exact normalizeChannels_agree hplain (by decide) h' h
  · have hnot := loaded_meter_of_not_dict hupgraded hcarried fun own hown => hdict ⟨own, hown⟩
    have hshelly : getValue (applyRuntimeConfigDefaults texts upgraded) "shelly" =
        getValue (applyRuntimeConfigDefaults texts config) "shelly" := by
      rw [loaded_shelly, loaded_shelly, overDefault, overDefault, hupgraded.shelly]
    rw [gridMeterConfig, hnot.1] at h
    rw [gridMeterConfig, hnot.2, hshelly] at h'
    cases hvalue : configuredMeter texts config with
    | dict own => exact absurd ⟨own, hvalue⟩ hdict
    | _ =>
      rw [hvalue] at h h'
      rw [Except.ok.inj (h.symm.trans h')]
      exact fun _ _ => rfl

/-! ### The upgrade -/

def NamedInSystem (config : Entries) (key : String) : Prop :=
  ∃ own, configuredSystem config = .dict own ∧ (dictGet own key).isSome = true

/-- A meter that the upgrade does not lose: one that the old block configures is of a configuration
that is old enough to be migrated, and a Tasmota meter without an address has a url or none. -/
structure MeterKept (texts : LoaderTexts) (config : Entries) : Prop where
  carriedOver : MeterCarriedOver texts config
  url : ∀ own, configuredMeter texts config = .dict own → UrlRead texts own

theorem runtimeControlFlag_congr {flag : ControlFlag}
    (h : dictGet system flag.key = dictGet system' flag.key) :
    runtimeControlFlag texts (.dict system) flag = runtimeControlFlag texts (.dict system') flag := by
  have hfound : ((PyValue.dict system).dict?.bind fun entries => dictGet entries flag.key) =
      (PyValue.dict system').dict?.bind fun entries => dictGet entries flag.key := h
  rw [runtimeControlFlag, runtimeControlFlag, hfound]

/-- **The startup upgrade keeps what the process may do.**  With the shipped template it changes the
simulation flag never, and a release gate only where the meter is lost to a configuration that was
not held in safe mode.  A configuration that is held, or that names its dry run and keeps its meter,
keeps the dry run and the decision of every gate; likewise for the reconciliation gate.  One that
says where its meter is reached keeps the effective meter, its comments aside. -/
theorem startup_upgrade_keeps_authority (texts : LoaderTexts) (comments : String → PyValue)
    (others : Entries) (arguments : Arguments) (surroundings : UpgradeSurroundings)
    (config upgraded : Entries) (settings settings' : Settings)
    (htemplate : surroundings.template = some (shippedTemplate comments others))
    (hupgrade : performStartupConfigUpgrade texts surroundings config = .ok (.rewritten upgraded))
    (hbefore : settingsOf texts arguments (asLoaded texts config) = .ok settings)
    (hafter : settingsOf texts arguments (asLoaded texts upgraded) = .ok settings')
    (haddress : ReadsTemplateAddress texts) :
    settings'.simulationMode = settings.simulationMode ∧
    (Held texts config ∨ MeterKept texts config →
      settings'.allowHardwareWrites = settings.allowHardwareWrites ∧
      settings'.allowMqttLocalControlWrites = settings.allowMqttLocalControlWrites ∧
      settings'.allowMqttZendureControlWrites = settings.allowMqttZendureControlWrites) ∧
    (Held texts config ∨ MeterKept texts config ∧ NamedInSystem config "dry_run" →
      settings'.dryRun = settings.dryRun ∧
        ∀ controlGate, settings'.resolveWriteGate arguments controlGate =
          settings.resolveWriteGate arguments controlGate) ∧
    (Held texts config ∨
        MeterKept texts config ∧ NamedInSystem config "allow_state_reconciliation_writes" →
      settings'.allowStateReconciliationWrites = settings.allowStateReconciliationWrites) ∧
    (MeterCarriedOver texts config → MeterNamed texts config → ∀ key, isCommentKey key = false →
      dictGet settings'.gridMeter key = dictGet settings.gridMeter key) := by
  obtain ⟨plan, hplan, rfl⟩ := performStartupConfigUpgrade_rewritten texts htemplate hupgrade
  have hupgraded := upgradedFrom_of_plan hplan
  obtain ⟨system, hread⟩ := settingsOf_eq_ok texts hbefore
  obtain ⟨system', hread'⟩ := settingsOf_eq_ok texts hafter
  have hmeter := hread.gridMeter
  have hmeter' := hread'.gridMeter
  rw [gridMeterConfig_asLoaded] at hmeter hmeter'
  obtain ⟨hheld, hfree⟩ := held_upgraded hupgraded haddress hmeter'
  have hflag {flag : ControlFlag} {b b' : Bool}
      (hkept : Held texts config ∨ MeterKept texts config)
      (hb : dictGet defaultRuntimeSystem flag.key = some (.bool b))
      (hb' : dictGet (shippedSystem comments) flag.key = some (.bool b'))
      (hkey : b = b' ∨ NamedInSystem config flag.key ∨
        (Held texts config ∧ (safeModeFlags.lookup flag.key).isSome = true)) :
      runtimeControlFlag texts (.dict system') flag =
        runtimeControlFlag texts (.dict system) flag := by
    refine runtimeControlFlag_congr (flag_kept hupgraded hheld ?_ hread hread' hb hb' hkey).symm
    by_cases hnow : Held texts config
    · exact .inl hnow
    · have hmeterKept := hkept.resolve_left hnow
      exact .inr (.inl fun h => hnow (hfree hmeterKept.carriedOver hmeterKept.url h))
  -- safe mode does not force the simulation flag
  have hmode : dictGet system "simulation_mode" = dictGet system' "simulation_mode" :=
    flag_kept hupgraded hheld (.inr (.inr rfl)) hread hread' rfl rfl (.inl rfl)
  have hsimulation : settings'.simulationMode = settings.simulationMode := by
    rw [hread.simulationMode, hread'.simulationMode, runtimeControlFlag_congr hmode.symm]
  have hgates (hkept : Held texts config ∨ MeterKept texts config)
      {controlGate transport : String} {gate : ControlFlag}
      (hgate : controlGateTransport controlGate = some (transport, gate)) :
      settings'.gateValue gate = settings.gateValue gate := by
    rw [hread.gateValue texts hgate, hread'.gateValue texts hgate]
    rw [controlGateTransport] at hgate
    split_ifs at hgate
    all_goals
      obtain ⟨-, rfl⟩ := Prod.mk.inj (Option.some.inj hgate)
      exact hflag hkept rfl rfl (.inl rfl)
  have hvalid : controlFlagsInvalidForceDryRun.all (controlFlagIsValid (.dict system')) =
      controlFlagsInvalidForceDryRun.all (controlFlagIsValid (.dict system)) := by
    simp only [controlFlagsInvalidForceDryRun, List.all_cons, List.all_nil, controlFlagIsValid,
      ControlFlag.key, hmode]
  refine ⟨hsimulation, fun hkept => ⟨@hgates hkept "api" "http" .allowHardwareWrites rfl,
    @hgates hkept "mqtt_local" "mqtt_local" .allowMqttLocalControlWrites rfl,
    @hgates hkept "mqtt_zendure" "mqtt_zendure" .allowMqttZendureControlWrites rfl⟩, ?_, ?_, ?_⟩
  · intro hnamed
    have hkept := hnamed.imp_right And.left
    have hsame : runtimeControlFlag texts (.dict system') .dryRun =
        runtimeControlFlag texts (.dict system) .dryRun :=
      hflag hkept rfl rfl (.inr (hnamed.symm.imp And.right fun hnow => ⟨hnow, rfl⟩))
    have hdryRun : settings'.dryRun = settings.dryRun := by
      rw [hread.dryRun, hread'.dryRun, hsame, hvalid]
    refine ⟨hdryRun, fun controlGate => ?_⟩
    rw [Settings.resolveWriteGate, Settings.resolveWriteGate, hdryRun, hsimulation]
    exact evaluateWriteGate_congr (fun transport gate hgate => hgates hkept hgate) _ _ _
  · intro hnamed
    have hsame : runtimeControlFlag texts (.dict system') .allowStateReconciliationWrites =
        runtimeControlFlag texts (.dict system) .allowStateReconciliationWrites :=
      hflag (hnamed.imp_right And.left) rfl rfl
        (.inr (hnamed.symm.imp And.right fun hnow => ⟨hnow, rfl⟩))
    rw [hread.reconciliationWrites, hread'.reconciliationWrites, hsame]
  · intro hcarried hnamed
    exact gridMeter_upgraded hupgraded hcarried hnamed hmeter hmeter'

end

/-! ### Two upgrades -/

/-- A start that applies the upgrade: the texts are those of the values below, and the template's
comments are left out. -/
def applyingTexts : LoaderTexts where
  str v := v.str?.getD ""
  repr v := v.str?.getD ""
  int _ := none
  str_str := getD_str?_str
  float _ := none
  ipAddress text :=
    if text = "192.168.1.20" then some (.v4 3232235796)
    else if text = "192.168.1.30" then some (.v4 3232235806)
    else if text = templateMeterAddress then some (.v4 3325256754) else none
  urlHostname text := some (String.ofList (text.toList.drop 2)).toLower

def applyingSurroundings : UpgradeSurroundings where
  template := some (shippedTemplate (fun _ => .none) [])
  backedUp := true
  written := true

/-- A configuration with a device, and what else it says. -/
def configuredWith (system : Entries) (meter : String × PyValue) (others : Entries) : Entries :=
  [("config_schema_version", .int 3), ("config_upgrade", .dict [("on_startup", .str "apply")]),
    ("system", .dict system), meter,
    ("devices", .list [.dict [("ip", .str "192.168.1.20"), ("sn", .str "HOA1")]])] ++ others

def shellyMeter (key : String) : String × PyValue :=
  (key, .dict [("type", .str "shelly"), ("ip", .str "192.168.1.30")])

/-- The settings of a start on the configuration, and of the next one after its upgrade. -/
def Upgrades (config : Entries) (settings settings' : Settings) : Prop :=
  ∃ upgraded,
    performStartupConfigUpgrade applyingTexts applyingSurroundings config =
      .ok (.rewritten upgraded) ∧
    settingsOf applyingTexts .plain (asLoaded applyingTexts config) = .ok settings ∧
    settingsOf applyingTexts .plain (asLoaded applyingTexts upgraded) = .ok settings'

def startsOf (config : Entries) : Option (Settings × Settings) :=
  match performStartupConfigUpgrade applyingTexts applyingSurroundings config,
    settingsOf applyingTexts .plain (asLoaded applyingTexts config) with
  | .ok (.rewritten upgraded), .ok settings =>
    (settingsOf applyingTexts .plain (asLoaded applyingTexts upgraded)).toOption.map
      (Prod.mk settings)
  | _, _ => none

theorem upgrades_of_startsOf {config : Entries} {P : Settings → Settings → Prop}
    [∀ settings settings', Decidable (P settings settings')]
    (h : (startsOf config).any (fun starts => decide (P starts.1 starts.2)) = true) :
    ∃ settings settings', Upgrades config settings settings' ∧ P settings settings' := by
  obtain ⟨⟨settings, settings'⟩, hstarts, hseen⟩ := (Option.any_eq_true _ _).mp h
  refine ⟨settings, settings', ?_, of_decide_eq_true hseen⟩
  rw [startsOf] at hstarts
  split at hstarts
  · rename_i upgraded found hupgrade hbefore
    obtain ⟨found', hafter, hpair⟩ := Option.map_eq_some_iff.mp hstarts
    obtain ⟨rfl, rfl⟩ := Prod.mk.inj hpair
    refine ⟨upgraded, hupgrade, hbefore, ?_⟩
    cases hresult : settingsOf applyingTexts .plain (asLoaded applyingTexts upgraded) with
    | error failure => rw [hresult] at hafter; cases hafter
    | ok last => rw [hresult] at hafter; rw [Option.some.inj hafter]
  · cases hstarts

/-- A configuration that names its dry run keeps it, and its meter. -/
theorem startup_upgrade_keeps_authority_named :
    ∃ settings settings',
      Upgrades (configuredWith [("dry_run", .bool true)] (shellyMeter "grid_meter") [])
        settings settings' ∧
      settings'.dryRun = settings.dryRun ∧
      dictGet settings'.gridMeter "ip" = dictGet settings.gridMeter "ip" := by
  obtain ⟨settings, settings', hupgrades, -⟩ := @upgrades_of_startsOf
    (configuredWith [("dry_run", .bool true)] (shellyMeter "grid_meter") [])
    (fun _ _ => True) _ (by decide +kernel)
  obtain ⟨upgraded, hupgrade, hbefore, hafter⟩ := hupgrades
  have hkept := startup_upgrade_keeps_authority applyingTexts (fun _ => .none) [] .plain
    applyingSurroundings _ upgraded settings settings' rfl hupgrade hbefore hafter rfl
  have hmeter (own : Entries) (hown : configuredMeter applyingTexts (configuredWith
      [("dry_run", .bool true)] (shellyMeter "grid_meter") []) = .dict own) :
      own = [("type", .str "shelly"), ("ip", .str "192.168.1.30")] :=
    (PyValue.dict.inj hown).symm
  have hcarried : MeterCarriedOver applyingTexts (configuredWith [("dry_run", .bool true)]
      (shellyMeter "grid_meter") []) := .inl rfl
  refine ⟨settings, settings', ⟨upgraded, hupgrade, hbefore, hafter⟩, ?_, ?_⟩
  · refine (hkept.2.2.1 (.inr ⟨⟨hcarried, fun own hown hkind => ?_⟩, _, rfl, rfl⟩)).1
    rw [hmeter own hown] at hkind
    exact absurd hkind (by decide +kernel)
  · refine hkept.2.2.2.2 hcarried ⟨fun own hown => .inl ?_, fun own hown href => ?_⟩ "ip" (by decide)
    · rw [hmeter own hown]
      rfl
    · rw [hmeter own hown] at href
      cases href

def meterPort (meter : Entries) : Option ℤ :=
  match getValue (((getValue meter "mqtt").dict?).getD []) "port" with
  | .int port => some port
  | _ => none

/-- **A configuration that does not name its dry run is armed by the upgrade**: it ran dry, and the
template lets it write, and reconcile.  A meter of the old block alone is lost, and the gates are
closed; one without an address gets the template's, and so does the port of an encrypted broker. -/
theorem startup_upgrade_arms :
    (∃ settings settings',
      Upgrades (configuredWith [] (shellyMeter "grid_meter") []) settings settings' ∧
      settings.dryRun = true ∧ settings'.dryRun = false ∧
      (settings.resolveWriteGate .plain "api").allowed = false ∧
      (settings'.resolveWriteGate .plain "api").allowed = true ∧
      settings.allowStateReconciliationWrites = false ∧
      settings'.allowStateReconciliationWrites = true) ∧
    (∃ settings settings',
      Upgrades (configuredWith [("dry_run", .bool false)] (shellyMeter "shelly") [])
        settings settings' ∧
      settings.allowHardwareWrites = true ∧ settings'.allowHardwareWrites = false) ∧
    (∃ settings settings',
      Upgrades (configuredWith [] ("grid_meter", .dict [("type", .str "shelly")]) [])
        settings settings' ∧
      (getValue settings.gridMeter "ip").str? = some "" ∧
      (getValue settings'.gridMeter "ip").str? = some templateMeterAddress) ∧
    ∃ settings settings',
      Upgrades (configuredWith [] ("grid_meter", .dict [("type", .str "mqtt"),
          ("mqtt", .dict [("broker_ref", .str "default"), ("topic", .str "meter/power")])])
        [("zendure_mqtt", .dict [("host", .str "192.168.1.40"), ("tls", .bool true)])])
        settings settings' ∧
      meterPort settings.gridMeter = some 8883 ∧ meterPort settings'.gridMeter = some 1883 :=
  ⟨upgrades_of_startsOf (by decide +kernel), upgrades_of_startsOf (by decide +kernel),
    upgrades_of_startsOf (by decide +kernel), upgrades_of_startsOf (by decide +kernel)⟩

end SolarFlowEms.Config
