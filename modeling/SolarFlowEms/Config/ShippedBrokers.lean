import SolarFlowEms.Config.ShippedTemplate

/-!
# The brokers and the meter under the shipped template

The template names the settings of a default broker: no host, no encryption, the plain port.  The
loader has the same for a broker that lacks them, besides the port of an encrypted broker, which
it would take from the encryption.  The template names an address of the meter, and the loader
none; both are held in safe mode.
-/

namespace SolarFlowEms.Config

open Python Documents Fallible

section

variable {texts : LoaderTexts} {comments : String → PyValue}

/-! ### The default broker -/

variable {defaults own config config' : Entries} {key : String} {flag' : Option Bool}
  {tlsMode : PyValue} {mode : TlsMode} {connection' : BrokerConnection}

theorem getValue_shipped {default : PyValue} (own : Entries)
    (h : dictGet defaults key = some default) (hatom : IsAtom default = true) :
    getValue (mergeDict defaults own) key = (dictGet own key).getD default := by
  rw [getValue_of_dictGet (dictGet_mergeDict_of_some h own), overDefault]
  cases dictGet own key with
  | none => rfl
  | some value => exact mergeUnder_of_atom hatom value

theorem getValue_unshipped (own : Entries)
    (h : dictGet defaults key = none) : getValue (mergeDict defaults own) key = getValue own key := by
  rw [getValue, getValue, dictGet_mergeDict_of_none h]

theorem textOr_shipped (own : Entries) (h : dictGet defaults key = some (.str "")) :
    textOr texts (getValue (mergeDict defaults own) key) = textOr texts (getValue own key) := by
  rw [getValue_shipped own h rfl, getValue]
  cases dictGet own key <;> rfl

theorem hasHost_shipped (own : Entries) :
    hasHost (mergeDict (shippedZendureMqtt comments) own) = hasHost own := by
  have hshipped : dictGet (shippedZendureMqtt comments) "host" = some (.str "") := rfl
  rw [hasHost, hasHost, getValue_shipped own hshipped rfl, getValue]
  cases dictGet own "host" with
  | none => decide
  | some host => rfl

theorem flag?_shipped (h : flag? texts ((dictGet own key).getD (.bool false)) key = .ok flag') :
    ∃ flag, flag? texts (getValue own key) key = .ok flag ∧
      (flag' = flag ∨ flag = none ∧ flag' = some false) := by
  rw [getValue]
  cases hget : dictGet own key with
  | none =>
    rw [hget] at h
    exact ⟨none, rfl, .inr ⟨rfl, (Except.ok.inj h).symm⟩⟩
  | some value =>
    rw [hget] at h
    exact ⟨flag', h, .inl rfl⟩

theorem agreesWithMode_shipped {name : String} {flag : Option Bool}
    {ofMode : Bool} (h : agreesWithMode texts name tlsMode flag' ofMode = .ok ())
    (hflag : flag' = flag ∨ flag = none ∧ flag' = some false) :
    agreesWithMode texts name tlsMode flag ofMode = .ok () := by
  rcases hflag with rfl | ⟨rfl, -⟩
  · exact h
  · rfl

theorem reconcileTls_shipped {tls tls' insecure insecure' : Option Bool}
    (htls : tls' = tls ∨ tls = none ∧ tls' = some false)
    (hinsecure : insecure' = insecure ∨ insecure = none ∧ insecure' = some false)
    (h : reconcileTls texts tlsMode tls' insecure' = .ok mode) :
    reconcileTls texts tlsMode tls insecure = .ok mode := by
  by_cases hmode : (!tlsMode.isNone && pyStrip (texts.str tlsMode) ≠ "") = true
  · obtain ⟨hnorm, hagrees, hagrees'⟩ := reconcileTls_of_mode texts hmode h
    rw [reconcileTls, if_pos hmode, hnorm]
    show (do
      agreesWithMode texts "tls" tlsMode tls mode.tls
      agreesWithMode texts "tls_insecure" tlsMode insecure mode.insecure
      return mode) = _
    rw [agreesWithMode_shipped hagrees htls, agreesWithMode_shipped hagrees' hinsecure]
    rfl
  · have htlsD : tls'.getD false = tls.getD false := by
      rcases htls with rfl | ⟨rfl, rfl⟩ <;> rfl
    have hinsecureD : insecure'.getD false = insecure.getD false := by
      rcases hinsecure with rfl | ⟨rfl, rfl⟩ <;> rfl
    rw [reconcileTls, if_neg hmode, htlsD, hinsecureD] at h
    rw [reconcileTls, if_neg hmode]
    exact h

theorem resolveMqttTlsMetadata_shipped (h : resolveMqttTlsMetadata texts
      (getValue (mergeDict (shippedZendureMqtt comments) own) "tls_mode")
      (getValue (mergeDict (shippedZendureMqtt comments) own) "tls")
      (getValue (mergeDict (shippedZendureMqtt comments) own) "tls_insecure") = .ok mode) :
    resolveMqttTlsMetadata texts (getValue own "tls_mode") (getValue own "tls")
      (getValue own "tls_insecure") = .ok mode := by
  have htls : dictGet (shippedZendureMqtt comments) "tls" = some (.bool false) := rfl
  have hinsecure : dictGet (shippedZendureMqtt comments) "tls_insecure" = some (.bool false) := rfl
  have hmode : dictGet (shippedZendureMqtt comments) "tls_mode" = none := rfl
  rw [getValue_unshipped own hmode, getValue_shipped own htls rfl,
    getValue_shipped own hinsecure rfl] at h
  obtain ⟨tls', htls', h⟩ := bind_eq_ok.mp h
  obtain ⟨insecure', hinsecure', h⟩ := bind_eq_ok.mp h
  obtain ⟨tls, htls, hsame⟩ := flag?_shipped htls'
  obtain ⟨insecure, hinsecure, hsame'⟩ := flag?_shipped hinsecure'
  rw [resolveMqttTlsMetadata, htls, hinsecure]
  exact reconcileTls_shipped hsame hsame' h

/-- **The default broker under the template is the one that it was**, at a port that may be
another: the plain port, where an encrypted broker names none. -/
theorem brokerConnection_shipped
    (h : brokerConnection texts ⟨defaultBrokerRef, mergeDict (shippedZendureMqtt comments) own,
      .legacyDefault⟩ = .ok connection') :
    ∃ connection, brokerConnection texts ⟨defaultBrokerRef, own, .legacyDefault⟩ = .ok connection ∧
      connection' = { connection with port := connection'.port } ∧
      ((dictGet own "port").isSome = true ∨ connection.tls = false → connection' = connection) := by
  obtain ⟨mode, hmode, h⟩ := bind_eq_ok.mp h
  obtain ⟨port', hport', h⟩ := bind_eq_ok.mp h
  obtain rfl := Except.ok.inj h
  have hresolved := resolveMqttTlsMetadata_shipped hmode
  have hshipped : dictGet (shippedZendureMqtt comments) "port" = some (.int 1883) := rfl
  dsimp only at hport'
  rw [getValue_shipped own hshipped rfl] at hport'
  have hport : ∃ port, parseMqttPort texts (getValue own "port") (some (defaultMqttPort mode.tls)) =
      .ok port ∧ ((dictGet own "port").isSome = true ∨ mode.tls = false → port' = port) := by
    rw [getValue]
    cases hget : dictGet own "port" with
    | none =>
      rw [hget] at hport'
      refine ⟨_, rfl, fun hplain => ?_⟩
      rw [hplain.resolve_left Bool.false_ne_true]
      exact (Except.ok.inj hport').symm
    | some value =>
      rw [hget] at hport'
      exact ⟨port', hport', fun _ => rfl⟩
  obtain ⟨port, hparsed, hsame⟩ := hport
  have hhost : textOr texts (getValue (mergeDict (shippedZendureMqtt comments) own) "host") =
      textOr texts (getValue own "host") := textOr_shipped own rfl
  have husername : textOr texts (getValue (mergeDict (shippedZendureMqtt comments) own) "username") =
      textOr texts (getValue own "username") := textOr_shipped own rfl
  have hpassword : textOr texts (getValue (mergeDict (shippedZendureMqtt comments) own) "password") =
      textOr texts (getValue own "password") := textOr_shipped own rfl
  have hcredentials : getValue (mergeDict (shippedZendureMqtt comments) own) "credentials_ref" =
      getValue own "credentials_ref" := getValue_unshipped own rfl
  have hsource : getValue (mergeDict (shippedZendureMqtt comments) own) "source" =
      getValue own "source" := getValue_unshipped own rfl
  have henabled : effectiveBrokerEnabled texts ⟨defaultBrokerRef,
      mergeDict (shippedZendureMqtt comments) own, .legacyDefault⟩ =
        effectiveBrokerEnabled texts ⟨defaultBrokerRef, own, .legacyDefault⟩ := hasHost_shipped own
  refine ⟨_, bind_eq_ok.mpr ⟨mode, hresolved, bind_eq_ok.mpr ⟨port, hparsed, rfl⟩⟩, ?_, ?_⟩
  · simp only [hhost, husername, hpassword, hcredentials, hsource, henabled]
  · intro hplain
    simp only [hhost, husername, hpassword, hcredentials, hsource, henabled, hsame hplain]

theorem zendureMqttBrokerConnection_congr
    (h : getValue config' "zendure_mqtt" = getValue config "zendure_mqtt") (ref : String) :
    zendureMqttBrokerConnection texts config' ref = zendureMqttBrokerConnection texts config ref := by
  rw [zendureMqttBrokerConnection, zendureMqttBrokerConnection, getEffectiveMqttBrokerProfile,
    getEffectiveMqttBrokerProfile, iterEffectiveMqttBrokerProfiles, iterEffectiveMqttBrokerProfiles, h]

theorem iterEffectiveMqttBrokerProfiles_of_dict (h : getValue config "zendure_mqtt" = .dict own) :
    iterEffectiveMqttBrokerProfiles config =
      (if legacyDefaultBrokerPresent own then [⟨defaultBrokerRef, own, .legacyDefault⟩] else []) ++
        (namedBrokers own).filterMap namedProfile := by
  rw [iterEffectiveMqttBrokerProfiles, h]

/-- **A broker under the template is the one that it was**, whatever it is called, where its port
stays. -/
theorem zendureMqttBrokerConnection_shipped {ref : String}
    (hbrokers : getValue config' "zendure_mqtt" =
      mergeUnder (.dict (shippedZendureMqtt comments)) (getValue config "zendure_mqtt"))
    (h : zendureMqttBrokerConnection texts config' ref = .ok (some connection')) :
    ∃ connection, zendureMqttBrokerConnection texts config ref = .ok (some connection) ∧
      connection' = { connection with port := connection'.port } ∧
      ((∀ own, getValue config "zendure_mqtt" = .dict own → ref = defaultBrokerRef →
          (dictGet own "port").isSome = true ∨ connection.tls = false) →
        connection' = connection) := by
  have hsame (heq : zendureMqttBrokerConnection texts config' ref =
      zendureMqttBrokerConnection texts config ref) :
      ∃ connection, zendureMqttBrokerConnection texts config ref = .ok (some connection) ∧
        connection' = { connection with port := connection'.port } ∧
        ((∀ own, getValue config "zendure_mqtt" = .dict own → ref = defaultBrokerRef →
            (dictGet own "port").isSome = true ∨ connection.tls = false) →
          connection' = connection) := by
    rw [heq] at h
    exact ⟨connection', h, rfl, fun _ => rfl⟩
  by_cases hdict : ∃ own, getValue config "zendure_mqtt" = .dict own
  · obtain ⟨own, hown⟩ := hdict
    rw [hown, mergeUnder_dict] at hbrokers
    have hnamed : namedBrokers (mergeDict (shippedZendureMqtt comments) own) = namedBrokers own := by
      rw [namedBrokers, namedBrokers, getValue_unshipped own rfl]
    have hpresent : legacyDefaultBrokerPresent (mergeDict (shippedZendureMqtt comments) own) =
        legacyDefaultBrokerPresent own := by
      rw [legacyDefaultBrokerPresent, legacyDefaultBrokerPresent, hasHost_shipped, hnamed]
    have hprofiles' := iterEffectiveMqttBrokerProfiles_of_dict hbrokers
    have hprofiles := iterEffectiveMqttBrokerProfiles_of_dict hown
    rw [hpresent, hnamed] at hprofiles'
    cases hlegacy : legacyDefaultBrokerPresent own with
    | false =>
      refine hsame ?_
      rw [zendureMqttBrokerConnection, zendureMqttBrokerConnection, getEffectiveMqttBrokerProfile,
        getEffectiveMqttBrokerProfile, hprofiles, hprofiles', hlegacy]
      rfl
    | true =>
      rw [hlegacy, if_pos rfl, List.singleton_append] at hprofiles hprofiles'
      by_cases href : ref = defaultBrokerRef
      · subst href
        have hfound : getEffectiveMqttBrokerProfile config defaultBrokerRef =
            some ⟨defaultBrokerRef, own, .legacyDefault⟩ := by
          rw [getEffectiveMqttBrokerProfile, hprofiles]
          exact List.find?_cons_of_pos (decide_eq_true rfl)
        have hfound' : getEffectiveMqttBrokerProfile config' defaultBrokerRef =
            some ⟨defaultBrokerRef, mergeDict (shippedZendureMqtt comments) own, .legacyDefault⟩ := by
          rw [getEffectiveMqttBrokerProfile, hprofiles']
          exact List.find?_cons_of_pos (decide_eq_true rfl)
        rw [zendureMqttBrokerConnection, hfound'] at h
        obtain ⟨found, hfound'', hsome⟩ := map_eq_ok.mp h
        obtain rfl := Option.some.inj hsome
        obtain ⟨connection, hconnection, hport, hkept⟩ := brokerConnection_shipped hfound''
        refine ⟨connection, ?_, hport, fun hplain => hkept (hplain own hown rfl)⟩
        rw [zendureMqttBrokerConnection, hfound]
        exact map_eq_ok.mpr ⟨connection, hconnection, rfl⟩
      · refine hsame ?_
        have hskip (profile : Entries) (rest : List EffectiveMqttBrokerProfile) :
            (⟨defaultBrokerRef, profile, .legacyDefault⟩ :: rest).find?
              (fun profile => profile.brokerRef = ref) =
                rest.find? fun profile => profile.brokerRef = ref :=
          List.find?_cons_of_neg (by simpa using Ne.symm href)
        rw [zendureMqttBrokerConnection, zendureMqttBrokerConnection,
          getEffectiveMqttBrokerProfile, getEffectiveMqttBrokerProfile, hprofiles, hprofiles',
          hskip, hskip]
  · refine hsame (zendureMqttBrokerConnection_congr ?_ ref)
    rw [hbrokers]
    exact mergeUnder_of_not_dict (fun own hown => hdict ⟨own, hown⟩) _

end

end SolarFlowEms.Config
