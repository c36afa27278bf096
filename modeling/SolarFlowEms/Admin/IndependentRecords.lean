import SolarFlowEms.Admin.RecordFiles
import SolarFlowEms.Library.Run

/-!
# When the records of the credential store are independent

Over a set of addresses of which no two share a file, the store is a map of independent records:
an operation on one address leaves the records of the others, and a load returns what the last
save stored there, as long as nothing else was done to that record since.  Where a runtime
reference is `discovery-` followed by a reference of the discovery pool, both are one record.
-/

namespace SolarFlowEms.Admin

open Python Documents Config Fallible Run

/-! ### What the codec has to do -/

/-- A value as the store puts it into its records. -/
def isPlain : PyValue → Bool
  | .bool _ => true
  | .int _ => true
  | .str _ => true
  | _ => false

/-- Fernet decrypts under the key what it encrypted under it, a token is not empty, and JSON reads
back an object with distinct keys and plain values. -/
structure Codec.Lawful {Key Nonce Bytes : Type} (codec : Codec Key Nonce Bytes) : Prop where
  decrypt_encrypt : ∀ key nonce value blob, codec.encrypt key nonce value = some blob →
    codec.decrypt key blob = some value
  token_ne : ∀ key nonce value blob, codec.encrypt key nonce value = some blob → blob ≠ ""
  loads_dumps : ∀ record : Entries, (record.map Prod.fst).Nodup →
    (∀ entry ∈ record, isPlain entry.2 = true) → codec.loads (codec.dumps record) = some record

variable {Key Nonce Bytes : Type} (codec : Codec Key Nonce Bytes)

/-! ### What a save stores -/

def savedField (value : PyValue) : Option String :=
  if truthy value then some (codec.str value) else none

def savedSecret (ref : String) (username password label : PyValue) : MqttBrokerSecret :=
  ⟨ref, savedField codec username, savedField codec password,
    (savedField codec username).isSome || (savedField codec password).isSome, label⟩

def savedLabel (label : PyValue) : PyValue :=
  if truthy label then .str (codec.str label) else .none

/-- What a save stores, with where: the secret as a load returns it. -/
def Operation.stores : Operation Key Nonce Bytes → Option (Namespace × MqttBrokerSecret)
  | .saveBroker _ ref username password =>
    some (.runtime, savedSecret codec ref username password .none)
  | .saveCloudRuntime _ ref username password _ _ =>
    some (.runtime, savedSecret codec ref username password .none)
  | .saveDiscovery _ ref username password label =>
    some (.discovery, savedSecret codec ref username password (savedLabel codec label))
  | _ => none

section

variable {codec} {s s' : Secrets Key Bytes} {record : Entries} {field : String}
  {fields : List (String × PyValue)} {secrets : Entries} {moment : Moment Key Nonce}

/-- A field of a record reads as a text, or is missing. -/
def FieldHolds (codec : Codec Key Nonce Bytes) (key : Option Key) (record : Entries)
    (field : String) : Option String → Prop
  | none => getValue record field = .none ∧ getValue record (encryptedKey field) = .none
  | some value => ∃ k blob, key = some k ∧ codec.decrypt k blob = some value ∧ blob ≠ "" ∧
      getValue record field = .str blob ∧ getValue record (encryptedKey field) = .bool true

variable {key ref : String} {value : Option String} {entries head : Entries}
  {op : Operation Key Nonce Bytes} {R : Set Address}

theorem FieldHolds.decryptField {key : Option Key} (h : FieldHolds codec key record field value) :
    Admin.decryptField codec key record field = value := by
  cases value with
  | none =>
    rw [Admin.decryptField, h.1]
    rfl
  | some value =>
    obtain ⟨k, blob, rfl, hdecrypt, hne, hblob, hencrypted⟩ := h
    rw [Admin.decryptField, hblob, hencrypted]
    have htruthy : truthy (.str blob) = true := decide_eq_true hne
    rw [if_pos htruthy]
    exact hdecrypt

theorem FieldHolds.encrypted {key : Option Key} (h : FieldHolds codec key record field value) :
    truthy (getValue record (encryptedKey field)) = value.isSome := by
  cases value with
  | none =>
    rw [h.2]
    rfl
  | some value =>
    obtain ⟨k, blob, -, -, -, -, hencrypted⟩ := h
    rw [hencrypted]
    rfl

theorem FieldHolds.mono {key key' : Option Key} {value : Option String}
    (h : FieldHolds codec key record field value) (hkey : ∀ k, key = some k → key' = some k) :
    FieldHolds codec key' record field value := by
  cases value with
  | none => exact h
  | some value =>
    obtain ⟨k, blob, hk, hrest⟩ := h
    exact ⟨k, blob, hkey k hk, hrest⟩

theorem FieldHolds.congr {key : Option Key} {record' : Entries}
    (h : FieldHolds codec key record field value)
    (hsame : ∀ k, k = field ∨ k = encryptedKey field → getValue record' k = getValue record k) :
    FieldHolds codec key record' field value := by
  have hfield := hsame field (.inl rfl)
  have hencrypted := hsame (encryptedKey field) (.inr rfl)
  cases value with
  | none => exact ⟨hfield.trans h.1, hencrypted.trans h.2⟩
  | some value =>
    obtain ⟨k, blob, hk, hdecrypt, hne, hblob, htrue⟩ := h
    exact ⟨k, blob, hk, hdecrypt, hne, hfield.trans hblob, hencrypted.trans htrue⟩

theorem loadOrCreateKey_key {key : Key} (h : (loadOrCreateKey moment s).1 = some key) :
    (loadOrCreateKey moment s).2.key = some key := by
  rw [loadOrCreateKey] at h ⊢
  split_ifs at h ⊢
  cases hkey : s.key with
  | none =>
    rw [hkey] at h
    exact h
  | some found =>
    rw [hkey] at h
    exact hkey.trans h

theorem encrypt_eq_ok {value blob : String}
    (h : (encrypt codec moment field value s).1 = .ok blob) :
    ∃ key, (encrypt codec moment field value s).2.key = some key ∧
      codec.encrypt key (moment.nonce field) value = some blob := by
  have hstate := encrypt_state codec moment field value s
  rw [encrypt] at h
  cases hbind : (loadOrCreateKey moment s).1.bind fun key =>
      codec.encrypt key (moment.nonce field) value with
  | none =>
    rw [hbind] at h
    cases h
  | some found =>
    rw [hbind] at h
    obtain rfl := Except.ok.inj h
    obtain ⟨key, hkey, hencrypt⟩ := Option.bind_eq_some_iff.mp hbind
    refine ⟨key, ?_, hencrypt⟩
    rw [hstate]
    exact loadOrCreateKey_key hkey

theorem getValue_append_of_notMem {entries' : Entries}
    (h : key ∉ entries.map Prod.fst) : getValue (entries ++ entries') key = getValue entries' key := by
  have hnone : dictGet entries key = none := by
    cases hget : dictGet entries key with
    | none => rfl
    | some value => exact absurd (dictGet_isSome_iff.mp (by rw [hget]; rfl)) h
  rw [getValue, dictGet_append, hnone, Option.none_or]
  rfl

theorem getValue_of_notMem (h : key ∉ entries.map Prod.fst) :
    getValue entries key = .none := by
  have happend : getValue (entries ++ []) key = getValue [] key := getValue_append_of_notMem h
  rw [List.append_nil] at happend
  rw [happend]
  rfl

def fieldKeys (fields : List (String × PyValue)) : List String :=
  fields.flatMap fun field => [field.1, encryptedKey field.1]

theorem keys_encryptFields (h : (encryptFields codec moment fields s).1 = .ok secrets) :
    (secrets.map Prod.fst).Sublist (fieldKeys fields) ∧
      ∀ entry ∈ secrets, isPlain entry.2 = true := by
  induction fields generalizing s secrets with
  | nil =>
    cases h
    exact ⟨List.Sublist.refl _, fun entry hentry => by cases hentry⟩
  | cons head fields ih =>
    obtain ⟨name, value⟩ := head
    by_cases hvalue : truthy value = true
    · rcases encryptFields_cons_of_truthy hvalue moment fields s with ⟨e, heq⟩ | ⟨blob, -, heq⟩
      · rw [heq] at h
        cases h
      · rw [heq] at h
        obtain ⟨rest, hrest, rfl⟩ := map_eq_ok.mp h
        obtain ⟨hkeys, hplain⟩ := ih hrest
        refine ⟨(hkeys.cons_cons _).cons_cons _, ?_⟩
        intro entry hentry
        rcases List.mem_cons.mp hentry with rfl | hentry
        · rfl
        · rcases List.mem_cons.mp hentry with rfl | hentry
          · rfl
          · exact hplain entry hentry
    · rw [encryptFields, if_neg hvalue] at h
      obtain ⟨hkeys, hplain⟩ := ih h
      exact ⟨(hkeys.cons _).cons _, hplain⟩

theorem getValue_cons_self (key : String) (value : PyValue) (entries : Entries) :
    getValue ((key, value) :: entries) key = value := by
  rw [getValue, dictGet_cons, if_pos rfl]
  rfl

theorem getValue_cons_of_ne {key' : String} (h : key ≠ key') (value : PyValue)
    (entries : Entries) : getValue ((key, value) :: entries) key' = getValue entries key' := by
  rw [getValue, dictGet_cons, if_neg h]
  rfl

theorem mem_fieldKeys {name : String} {value : PyValue}
    (h : (name, value) ∈ fields) (hkey : key = name ∨ key = encryptedKey name) :
    key ∈ fieldKeys fields := by
  refine List.mem_flatMap.mpr ⟨_, h, ?_⟩
  rcases hkey with rfl | rfl
  · exact List.mem_cons_self
  · exact List.mem_cons_of_mem _ List.mem_cons_self

theorem fieldHolds_encryptFields (hcodec : codec.Lawful) (hnodup : (fieldKeys fields).Nodup)
    (h : (encryptFields codec moment fields s).1 = .ok secrets) {value : PyValue}
    (hmem : (field, value) ∈ fields) :
    FieldHolds codec (encryptFields codec moment fields s).2.key secrets field
      (savedField codec value) := by
  induction fields generalizing s secrets with
  | nil => cases hmem
  | cons head fields ih =>
    obtain ⟨name, stored⟩ := head
    have hsplit : fieldKeys ((name, stored) :: fields) =
        name :: encryptedKey name :: fieldKeys fields := rfl
    rw [hsplit, List.nodup_cons, List.nodup_cons, List.mem_cons, not_or] at hnodup
    obtain ⟨⟨hname, hnotName⟩, hnotEncrypted, hrestNodup⟩ := hnodup
    by_cases hstored : truthy stored = true
    · rcases encryptFields_cons_of_truthy hstored moment fields s with
        ⟨e, heq⟩ | ⟨blob, hblob, heq⟩
      · rw [heq] at h
        cases h
      · rw [heq] at h
        obtain ⟨rest, hrest, rfl⟩ := map_eq_ok.mp h
        rw [heq]
        rcases List.mem_cons.mp hmem with hhead | htail
        · obtain ⟨rfl, rfl⟩ := Prod.mk.inj hhead
          rw [savedField, if_pos hstored]
          obtain ⟨key, hkey, hencrypt⟩ := encrypt_eq_ok hblob
          have hkept := touches_encryptFields (fun _ => False) codec moment fields
            (encrypt codec moment field (codec.str value) s).2
          refine ⟨key, blob, hkept.key key hkey, hcodec.decrypt_encrypt _ _ _ _ hencrypt,
            hcodec.token_ne _ _ _ _ hencrypt, getValue_cons_self .., ?_⟩
          rw [getValue_cons_of_ne hname, getValue_cons_self]
        · refine FieldHolds.congr (ih hrestNodup hrest htail) fun key hkey => ?_
          have hmemKeys := mem_fieldKeys htail hkey
          rw [getValue_cons_of_ne, getValue_cons_of_ne]
          · rintro rfl
            exact hnotEncrypted hmemKeys
          · rintro rfl
            exact hnotName hmemKeys
    · rw [encryptFields, if_neg hstored] at h ⊢
      rcases List.mem_cons.mp hmem with hhead | htail
      · obtain ⟨rfl, rfl⟩ := Prod.mk.inj hhead
        rw [savedField, if_neg hstored]
        have hrestKeys := (keys_encryptFields h).1.subset
        exact ⟨getValue_of_notMem fun hin => hnotName (hrestKeys hin),
          getValue_of_notMem fun hin => hnotEncrypted (hrestKeys hin)⟩
      · exact ih hrestNodup h htail

/-! ### The record of an address -/

def loadedLabel (record : Entries) : Namespace → PyValue
  | .runtime => .none
  | .discovery => getValue record "label"

/-- The file of an address holds a secret. -/
structure Holds (codec : Codec Key Nonce Bytes) (s : Secrets Key Bytes) (a : Address)
    (secret : MqttBrokerSecret) (record : Entries) : Prop where
  file : s.files a.file = some (codec.dumps record)
  loads : codec.loads (codec.dumps record) = some record
  nonempty : record.isEmpty = false
  ref : secret.ref = a.ref
  username : FieldHolds codec s.key record "username" secret.username
  password : FieldHolds codec s.key record "password" secret.password
  encrypted : secret.encrypted = (secret.username.isSome || secret.password.isSome)
  label : secret.label = loadedLabel record a.space

variable {a : Address} {secret : MqttBrokerSecret}

section

variable (h : Holds codec s a secret record)
include h

theorem Holds.mono (hfile : s'.files a.file = s.files a.file)
    (hkey : ∀ key, s.key = some key → s'.key = some key) : Holds codec s' a secret record :=
  { h with
    file := hfile.trans h.file
    username := h.username.mono hkey
    password := h.password.mono hkey }

theorem Holds.namedRecord :
    namedRecord codec s a.space a.ref true = .ok (some record) := by
  have hread : readRecord codec s (fileName a.space a.ref) true = .ok (some record) := by
    have hfile : s.files (fileName a.space a.ref) = some (codec.dumps record) := h.file
    rw [readRecord, managedPath_fileName a.canonical]
    show Except.ok ((s.files (fileName a.space a.ref)).bind codec.loads) = _
    rw [hfile, Option.bind_some, h.loads]
  have hkept : (some record).filter (fun record => !record.isEmpty) = some record := by
    rw [Option.filter_some, h.nonempty]
    rfl
  refine bind_eq_ok.mpr ⟨a.ref, validatedRef_of a.canonical, bind_eq_ok.mpr ⟨_, hread, ?_⟩⟩
  rw [hkept]
  rfl

theorem Holds.secret_eq :
    secret = ⟨a.ref, decryptField codec s.key record "username",
      decryptField codec s.key record "password", recordEncrypted record,
      loadedLabel record a.space⟩ := by
  have hencrypted : recordEncrypted record = secret.encrypted := by
    rw [recordEncrypted, h.username.encrypted, h.password.encrypted, h.encrypted]
  rw [h.username.decryptField, h.password.decryptField, hencrypted, ← h.label, ← h.ref]

theorem Holds.load :
    loadSecret codec s a.space a.ref true = .ok (some secret) := by
  have hrecord := h.namedRecord
  rw [h.secret_eq]
  obtain ⟨space, ref, hcanonical⟩ := a
  cases space with
  | runtime =>
    show (Admin.namedRecord codec s .runtime ref true).map _ = _
    rw [hrecord]
    rfl
  | discovery =>
    show (Admin.namedRecord codec s .discovery ref true).map _ = _
    rw [hrecord]
    rfl

end

/-- The keys of a record: those of its head, which its fields do not have, and the fields'. -/
def recordKeys (head : Entries) (others : List (String × PyValue)) : List String :=
  "version" :: "ref" :: (head.map Prod.fst ++
    fieldKeys (("username", .none) :: ("password", .none) :: others))

/-- **A save that returns leaves what it saves**: the record's other entries have other keys than
the fields, and plain values. -/
theorem holds_saveSecret (hcodec : codec.Lawful) {space : Namespace}
    {username password label : PyValue} {others : List (String × PyValue)}
    {found : String} (hnodup : (recordKeys head others).Nodup)
    (hplain : ∀ entry ∈ head, isPlain entry.2 = true)
    (hlabel : ∀ secrets, (secrets.map Prod.fst).Sublist
        (fieldKeys (("username", .none) :: ("password", .none) :: others)) →
      label = loadedLabel (savedRecord ref head secrets) space)
    (h : (saveSecret codec moment space ref username password head others s).1 = .ok found)
    (hspace : a.space = space) (href : a.ref = ref) :
    ∃ record, Holds codec (saveSecret codec moment space ref username password head others s).2 a
      (savedSecret codec ref username password label) record := by
  rcases saveSecret_cases codec moment space ref username password head others s with
    ⟨e, he, -⟩ | ⟨secrets, -, -, hsecrets, hsave⟩
  · rw [he] at h
    cases h
  · rw [hsave]
    have hkeys : (secrets.map Prod.fst).Sublist
        (fieldKeys (("username", .none) :: ("password", .none) :: others)) :=
      (keys_encryptFields hsecrets).1
    have hsplit := List.nodup_cons.mp hnodup
    have hsplit' := List.nodup_cons.mp hsplit.2
    have hdisjoint := List.nodup_append.mp hsplit'.2
    have hrecordKeys : ((savedRecord ref head secrets).map Prod.fst).Sublist
        (recordKeys head others) := by
      rw [savedRecord, List.map_cons, List.map_cons, List.map_append]
      exact ((List.Sublist.append (List.Sublist.refl _) hkeys).cons_cons _).cons_cons _
    have hfields : (fieldKeys (("username", username) :: ("password", password) :: others)).Nodup :=
      hdisjoint.2.1
    have hget : ∀ key ∈ fieldKeys (("username", .none) :: ("password", .none) :: others),
        getValue (savedRecord ref head secrets) key = getValue secrets key := by
      intro key hkey
      have hversion : "version" ≠ key := by
        rintro rfl
        exact hsplit.1 (List.mem_cons_of_mem _ (List.mem_append_right _ hkey))
      have hrefKey : "ref" ≠ key := by
        rintro rfl
        exact hsplit'.1 (List.mem_append_right _ hkey)
      rw [savedRecord, getValue_cons_of_ne hversion, getValue_cons_of_ne hrefKey]
      exact getValue_append_of_notMem fun hin => hdisjoint.2.2 key hin key hkey rfl
    refine ⟨savedRecord ref head secrets, ?_⟩
    have hfile : a.file = fileName space ref := by rw [Address.file, hspace, href]
    exact {
      file := by rw [hfile, Secrets.setFile_files, if_pos rfl]
      loads := hcodec.loads_dumps _ (hrecordKeys.nodup hnodup) (by
        intro entry hentry
        rcases List.mem_cons.mp hentry with rfl | hentry
        · rfl
        · rcases List.mem_cons.mp hentry with rfl | hentry
          · rfl
          · rcases List.mem_append.mp hentry with hhead | hsecret
            · exact hplain entry hhead
            · exact (keys_encryptFields hsecrets).2 entry hsecret)
      nonempty := rfl
      ref := href.symm
      username := (fieldHolds_encryptFields hcodec hfields hsecrets List.mem_cons_self).congr
        fun key hkey => hget key (mem_fieldKeys List.mem_cons_self hkey)
      password := (fieldHolds_encryptFields hcodec hfields hsecrets
        (List.mem_cons_of_mem _ List.mem_cons_self)).congr
          fun key hkey => hget key (mem_fieldKeys (List.mem_cons_of_mem _ List.mem_cons_self) hkey)
      encrypted := rfl
      label := by
        rw [hspace]
        exact hlabel secrets hkeys }

/-! ### Steps -/

/-- A save of an address that returns, with the secret that it stores. -/
def Saves (codec : Codec Key Nonce Bytes) (s : Secrets Key Bytes) (op : Operation Key Nonce Bytes)
    (a : Address) (secret : MqttBrokerSecret) : Prop :=
  op.stores codec = some (a.space, secret) ∧ secret.ref = a.ref ∧
    ∃ ref, (perform codec s op).1 = .saved (.ok ref)

theorem label_of_sublist {secrets : Entries} (h : (secrets.map Prod.fst).Sublist
      (fieldKeys [("username", .none), ("password", .none)])) :
    getValue (savedRecord ref head secrets) "label" = getValue head "label" := by
  have hnot : "label" ∉ secrets.map Prod.fst := fun hin => absurd (h.subset hin) (by decide)
  rw [savedRecord, getValue_cons_of_ne (by decide), getValue_cons_of_ne (by decide), getValue,
    getValue, dictGet_append]
  cases hget : dictGet secrets "label" with
  | none => rw [Option.or_none]
  | some value => exact absurd (dictGet_isSome_iff.mp (by rw [hget]; rfl)) hnot

theorem holds_of_saves (hcodec : codec.Lawful)
    (h : Saves codec s op a secret) : ∃ record, Holds codec (next codec s op) a secret record := by
  obtain ⟨hstores, href, found, hsaved⟩ := h
  cases op with
  | saveBroker moment ref username password =>
    obtain ⟨hspace, rfl⟩ := Prod.mk.inj (Option.some.inj hstores)
    exact holds_saveSecret hcodec (by decide) (fun entry hentry => by cases hentry)
      (fun secrets _ => rfl) (Outcome.saved.inj hsaved) hspace.symm href.symm
  | saveCloudRuntime moment ref username password clientId appKey =>
    obtain ⟨hspace, rfl⟩ := Prod.mk.inj (Option.some.inj hstores)
    refine holds_saveSecret hcodec ?_ (fun entry hentry => ?_) (fun secrets _ => rfl)
      (Outcome.saved.inj hsaved) hspace.symm href.symm
    · show ["version", "ref", "source", "saved_at", "username", "username_encrypted", "password",
        "password_encrypted", "client_id", "client_id_encrypted", "app_key",
        "app_key_encrypted"].Nodup
      decide
    · rcases List.mem_cons.mp hentry with rfl | hentry
      · rfl
      · rw [List.mem_singleton.mp hentry]
        rfl
  | saveDiscovery moment ref username password label =>
    obtain ⟨hspace, rfl⟩ := Prod.mk.inj (Option.some.inj hstores)
    by_cases hlabel : truthy label = true
    · have hentries : labelEntries codec label = [("label", .str (codec.str label))] :=
        if_pos hlabel
      have hsavedLabel : savedLabel codec label = .str (codec.str label) := if_pos hlabel
      rw [hsavedLabel] at href ⊢
      refine holds_saveSecret hcodec ?_ (fun entry hentry => ?_) (fun secrets hkeys => ?_)
        (Outcome.saved.inj hsaved) hspace.symm href.symm
      · rw [hentries]
        show ["version", "ref", "label", "username", "username_encrypted", "password",
          "password_encrypted"].Nodup
        decide
      · rw [hentries] at hentry
        rw [List.mem_singleton.mp hentry]
        rfl
      · rw [loadedLabel, label_of_sublist hkeys, hentries]
        rfl
    · have hentries : labelEntries codec label = [] := if_neg hlabel
      have hsavedLabel : savedLabel codec label = .none := if_neg hlabel
      rw [hsavedLabel] at href ⊢
      refine holds_saveSecret hcodec ?_ (fun entry hentry => ?_) (fun secrets hkeys => ?_)
        (Outcome.saved.inj hsaved) hspace.symm href.symm
      · rw [hentries]
        decide
      · rw [hentries] at hentry
        cases hentry
      · rw [loadedLabel, label_of_sublist hkeys, hentries]
        rfl
  | load space ref readable | status space ref readable | credentialExists ref
  | forget space ref removable | snapshot ref readable | rollback changes => cases hstores

/-- The operations that only read. -/
def Operation.reads : Operation Key Nonce Bytes → Bool
  | .load .. => true
  | .status .. => true
  | .credentialExists _ => true
  | .snapshot .. => true
  | _ => false

/-- A save or a removal that raises. -/
def Outcome.raised : Outcome Bytes → Bool
  | .saved (.error _) => true
  | .forgotten (.error _) => true
  | _ => false

/-- An operation that is no change of an address: on others, only reading, or failed. -/
def Spares (codec : Codec Key Nonce Bytes) (a : Address) (s : Secrets Key Bytes)
    (op : Operation Key Nonce Bytes) : Prop :=
  ¬ op.On a ∨ op.reads = true ∨ (perform codec s op).1.raised = true

theorem files_of_raised (h : (perform codec s op).1.raised = true) (name : String) :
    (next codec s op).files name = s.files name := by
  cases op with
  | saveBroker moment ref username password =>
    rcases saveSecret_cases codec moment .runtime ref username password [] [] s with
      ⟨e, -, htouches⟩ | ⟨secrets, -, -, -, hsave⟩
    · exact htouches.files name id
    · rw [perform, saveMqttBrokerSecret, hsave] at h
      cases h
  | saveCloudRuntime moment ref username password clientId appKey =>
    rcases saveSecret_cases codec moment .runtime ref username password
        [("source", .str sourceZendureCloudMqtt), ("saved_at", .str moment.savedAt)]
        [("client_id", clientId), ("app_key", appKey)] s with
      ⟨e, -, htouches⟩ | ⟨secrets, -, -, -, hsave⟩
    · exact htouches.files name id
    · rw [perform, saveMqttCloudRuntimeSecret, hsave] at h
      cases h
  | saveDiscovery moment ref username password label =>
    rcases saveSecret_cases codec moment .discovery ref username password
        (labelEntries codec label) [] s with
      ⟨e, -, htouches⟩ | ⟨secrets, -, -, -, hsave⟩
    · exact htouches.files name id
    · rw [perform, saveMqttDiscoverySecret, hsave] at h
      cases h
  | forget space ref removable =>
    have hname : Admin.forget s space ref removable =
        forgetSecret s ((validatedRef ref).map (fileName space)) removable := by
      cases space <;> rfl
    rw [next, perform]
    rw [perform] at h
    rw [hname] at h ⊢
    cases href : validatedRef ref with
    | error e => rfl
    | ok found =>
      rw [href] at h
      rcases deleteFile_cases s (fileName space found) removable with hdelete | hdelete
      · exact congrArg (fun s' : Secrets Key Bytes => s'.files name) hdelete
      · have hforget : forgetSecret s (Except.map (fileName space) (.ok found)) removable =
            (.ok (), s.setFile (fileName space found) none) := hdelete
        rw [hforget] at h
        cases h
  | load space ref readable | status space ref readable | credentialExists ref
  | snapshot ref readable => rfl
  | rollback changes => cases h

/-- **An operation on other addresses leaves the record**, where no other address that it is on
shares the file. -/
theorem files_of_not_on (hR : Apart R) (hop : op.Within R) (ha : a ∈ R) (h : ¬ op.On a) :
    (next codec s op).files a.file = s.files a.file := by
  refine (touches_next codec s op).files _ ?_
  rintro ⟨b, hb, hfile⟩
  rw [hR.eq_of_file_eq (hop b hb) ha hfile] at hb
  exact h hb

theorem files_of_spares (hR : Apart R) (hop : op.Within R) (ha : a ∈ R) (h : Spares codec a s op) :
    (next codec s op).files a.file = s.files a.file := by
  rcases h with hnot | hreads | hraised
  · exact files_of_not_on hR hop ha hnot
  · cases op with
    | load space ref readable | status space ref readable | credentialExists ref
    | snapshot ref readable => rfl
    | saveBroker moment ref username password
    | saveCloudRuntime moment ref username password clientId appKey
    | saveDiscovery moment ref username password label | forget space ref removable
    | rollback changes => cases hreads
  · exact files_of_raised hraised a.file

end

/-! ### Runs -/

/-- The records of a set of addresses are independent in a run: a step leaves the records of the
addresses that it is not on, and a load returns what the last save of its address stored, where
nothing since was a change of it. -/
structure Independent (R : Set Address) (s : Secrets Key Bytes)
    (ops : List (Operation Key Nonce Bytes)) : Prop where
  frame : EveryStep (next codec) (fun s op => ∀ a ∈ R, ¬ op.On a →
    (next codec s op).files a.file = s.files a.file) s ops
  load : ∀ before save after a secret, ops = before ++ save :: after →
    Saves codec (run (next codec) s before) save a secret →
    EveryStep (next codec) (Spares codec a) (next codec (run (next codec) s before) save) after →
    loadSecret codec (run (next codec) s ops) a.space a.ref true = .ok (some secret)

variable {codec}

theorem frame_of_apart {R : Set Address} (hR : Apart R) (s : Secrets Key Bytes)
    (ops : List (Operation Key Nonce Bytes)) (hops : ∀ op ∈ ops, op.Within R) :
    EveryStep (next codec) (fun s op => ∀ a ∈ R, ¬ op.On a →
      (next codec s op).files a.file = s.files a.file) s ops := by
  induction ops generalizing s with
  | nil => trivial
  | cons op ops ih =>
    refine ⟨fun a ha hnot => ?_, ih _ fun op' hop' => hops op' (List.mem_cons_of_mem _ hop')⟩
    exact files_of_not_on hR (hops op List.mem_cons_self) ha hnot

theorem holds_run {R : Set Address} (hR : Apart R) {a : Address} (ha : a ∈ R)
    {secret : MqttBrokerSecret} {record : Entries} {s : Secrets Key Bytes}
    {ops : List (Operation Key Nonce Bytes)} (hops : ∀ op ∈ ops, op.Within R)
    (hspares : EveryStep (next codec) (Spares codec a) s ops)
    (h : Holds codec s a secret record) :
    Holds codec (run (next codec) s ops) a secret record := by
  induction ops generalizing s with
  | nil => exact h
  | cons op ops ih =>
    have hfile := files_of_spares hR (hops op List.mem_cons_self) ha hspares.1
    exact ih (fun op' hop' => hops op' (List.mem_cons_of_mem _ hop')) hspares.2
      (h.mono hfile (touches_next codec s op).key)

theorem Operation.On.of_stores {op : Operation Key Nonce Bytes} {a : Address}
    {secret : MqttBrokerSecret} (h : op.stores codec = some (a.space, secret))
    (href : secret.ref = a.ref) : op.On a := by
  cases op with
  | saveBroker moment ref username password =>
    obtain ⟨hspace, rfl⟩ := Prod.mk.inj (Option.some.inj h)
    exact List.mem_singleton.mpr (Prod.ext hspace.symm href.symm)
  | saveCloudRuntime moment ref username password clientId appKey =>
    obtain ⟨hspace, rfl⟩ := Prod.mk.inj (Option.some.inj h)
    exact List.mem_singleton.mpr (Prod.ext hspace.symm href.symm)
  | saveDiscovery moment ref username password label =>
    obtain ⟨hspace, rfl⟩ := Prod.mk.inj (Option.some.inj h)
    exact List.mem_singleton.mpr (Prod.ext hspace.symm href.symm)
  | load space ref readable | status space ref readable | credentialExists ref
  | forget space ref removable | snapshot ref readable | rollback changes => cases h

/-- **The records are independent in every run exactly where no two of the addresses meet on one
file**: where no runtime reference is `discovery-` followed by a reference of the discovery
pool. -/
theorem records_independent_iff (codec : Codec Key Nonce Bytes) (hcodec : codec.Lawful)
    (R : Set Address) :
    (∀ s ops, (∀ op ∈ ops, op.Within R) → Independent codec R s ops) ↔ Apart R := by
  constructor
  · intro hall a ha b hb hruntime hdiscovery href
    let files : Secrets Key Bytes := ⟨fun _ => some (codec.dumps []), none⟩
    let op : Operation Key Nonce Bytes := .forget .discovery b.ref true
    have hwithin : ∀ op' ∈ [op], op'.Within R := by
      intro op' hop' x hx
      obtain rfl := List.mem_singleton.mp hop'
      obtain ⟨hspace, hxref⟩ := Prod.mk.inj (List.mem_singleton.mp hx)
      rw [Address.ext_of (hspace.trans hdiscovery.symm) hxref]
      exact hb
    have hnot : ¬ op.On a := by
      intro hon
      obtain ⟨hspace, -⟩ := Prod.mk.inj (List.mem_singleton.mp hon)
      rw [hruntime] at hspace
      cases hspace
    have hkept := (hall files [op] hwithin).frame.1 a ha hnot
    have hfile : a.file = fileName .discovery b.ref := by
      rw [Address.file, hruntime]
      exact fileName_runtime_eq_discovery_iff.mpr href
    have hremoved : (next codec files op).files a.file = none := by
      have hforget : next codec files op =
          (deleteFile files (fileName .discovery b.ref) true).2 := by
        show (forgetSecret files ((validatedRef b.ref).map (fileName .discovery)) true).2 = _
        rw [validatedRef_of b.canonical]
        rfl
      rw [hforget, deleteFile, managedPath_fileName b.canonical, hfile]
      exact if_pos rfl
    rw [hremoved] at hkept
    cases hkept
  · intro hR s ops hops
    refine ⟨frame_of_apart hR s ops hops, ?_⟩
    intro before save after a secret hsplit hsaves hspares
    subst hsplit
    have ha : a ∈ R := hops save (List.mem_append_right _ List.mem_cons_self) a
      (Operation.On.of_stores hsaves.1 hsaves.2.1)
    obtain ⟨record, hholds⟩ := holds_of_saves hcodec hsaves
    have hafter : ∀ op ∈ after, op.Within R := fun op hop =>
      hops op (List.mem_append_right _ (List.mem_cons_of_mem _ hop))
    rw [run_append, run_cons]
    exact (holds_run hR ha hafter hspares hholds).load

/-! ### One file for two records -/

/-- Tokens that begin with the key, and records kept as they are. -/
def plainCodec : Codec Char Unit Entries where
  encrypt key _ value := some (String.ofList (key :: value.toList))
  decrypt key blob :=
    match blob.toList with
    | [] => none
    | c :: rest => if c = key then some (String.ofList rest) else none
  b64decode _ := none
  str value := value.str?.getD ""
  dumps record := record
  loads record := some record

theorem plainCodec_lawful : plainCodec.Lawful where
  decrypt_encrypt key nonce value blob h := by
    obtain rfl := Option.some.inj h
    simp [plainCodec]
  token_ne key nonce value blob h := by
    obtain rfl := Option.some.inj h
    intro hempty
    have hlist := congrArg String.toList hempty
    rw [String.toList_ofList] at hlist
    cases hlist
  loads_dumps record _ _ := rfl

def noon : Moment Char Unit := ⟨'k', fun _ => (), "2026-01-01T12:00:00Z", true, true⟩

/-- The credentials of a broker and an entry of the pool under one reference. -/
def bothSaves : List (Operation Char Unit Entries) :=
  [.saveBroker noon "garage" (.str "broker") (.str "first"),
    .saveDiscovery noon "garage" (.str "pool") (.str "second") .none]

theorem records_independent_garage :
    Independent plainCodec {a | a.ref = "garage"} ⟨fun _ => none, none⟩ bothSaves := by
  have hapart : Apart {a | a.ref = "garage"} := by
    intro a ha b hb _ _ href
    have ha' : a.ref = "garage" := ha
    have hb' : b.ref = "garage" := hb
    rw [ha', hb'] at href
    exact absurd href (by decide)
  refine (records_independent_iff plainCodec plainCodec_lawful {a | a.ref = "garage"}).mpr hapart
    _ _ ?_
  intro op hop a ha
  rcases List.mem_cons.mp hop with rfl | hrest
  · exact (Prod.mk.inj (List.mem_singleton.mp ha)).2
  · obtain rfl := List.mem_singleton.mp hrest
    exact (Prod.mk.inj (List.mem_singleton.mp ha)).2

/-- A pool entry and a broker's credentials, saved one after the other. -/
def garageSaves : List (Operation Char Unit Entries) :=
  [.saveDiscovery noon "garage" (.str "pool") (.str "first") .none,
    .saveBroker noon "discovery-garage" (.str "broker") (.str "second")]

/-- **The save of a broker's credentials replaces an entry of the discovery pool.** -/
theorem broker_save_replaces_pool_entry :
    loadSecret plainCodec (run (next plainCodec) ⟨fun _ => none, none⟩ garageSaves) .discovery
        "garage" true = .ok (some ⟨"garage", some "broker", some "second", true, .none⟩) ∧
      ¬ Independent plainCodec Set.univ ⟨fun _ => none, none⟩ garageSaves := by
  have hload : loadSecret plainCodec (run (next plainCodec) ⟨fun _ => none, none⟩ garageSaves)
      .discovery "garage" true =
        .ok (some ⟨"garage", some "broker", some "second", true, .none⟩) := by
    rfl
  refine ⟨hload, fun h => ?_⟩
  have hkept := h.load [] (.saveDiscovery noon "garage" (.str "pool") (.str "first") .none)
    [.saveBroker noon "discovery-garage" (.str "broker") (.str "second")]
    ⟨.discovery, "garage", by decide⟩ ⟨"garage", some "pool", some "first", true, .none⟩ rfl
    ⟨rfl, rfl, "garage", rfl⟩ ⟨.inl ?_, trivial⟩
  · rw [hload] at hkept
    simp at hkept
  · intro hon
    cases (Prod.mk.inj (List.mem_singleton.mp hon)).1

end SolarFlowEms.Admin
