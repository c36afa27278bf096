import SolarFlowEms.Admin.CredentialStore
import SolarFlowEms.Library.Fallible

/-!
# The files of the credential store's records

A record belongs to an address, a namespace with a canonical reference.  Two addresses of one
namespace never meet on a file.  Across the namespaces they meet exactly where a runtime
reference is `discovery-` followed by a reference of the discovery pool.  An operation touches
no files but those of the addresses that it is called with, and keeps the key.
-/

namespace SolarFlowEms.Admin

open Python Documents Config Fallible

/-! ### Addresses and their files -/

/-- A namespace and a reference that the store accepts. -/
structure Address where
  space : Namespace
  ref : String
  canonical : isCanonicalRef ref = true

def Address.file (a : Address) : String := fileName a.space a.ref

variable {a b : Address} {space : Namespace} {ref ref' : String}

theorem Address.ext_of (hspace : a.space = b.space) (href : a.ref = b.ref) :
    a = b := by
  cases a
  cases b
  cases hspace
  cases href
  rfl

theorem fileName_inj :
    fileName space ref = fileName space ref' ↔ ref = ref' := by
  simp [fileName, ← String.toList_inj, String.toList_append]

/-- **The namespaces meet on one file exactly at a runtime reference with the prefix of the
discovery pool.** -/
theorem fileName_runtime_eq_discovery_iff :
    fileName .runtime ref = fileName .discovery ref' ↔ ref = "discovery-" ++ ref' := by
  have hprefix : Namespace.discovery.filePrefix = Namespace.runtime.filePrefix ++ "discovery-" := rfl
  have hfile : fileName .discovery ref' = fileName .runtime ("discovery-" ++ ref') := by
    simp only [fileName, hprefix, String.append_assoc]
  rw [hfile, fileName_inj]

/-- No runtime reference among the addresses is the prefix of the discovery pool and one of its
references. -/
def Apart (R : Set Address) : Prop :=
  ∀ a ∈ R, ∀ b ∈ R, a.space = .runtime → b.space = .discovery → a.ref ≠ "discovery-" ++ b.ref

theorem Apart.eq_of_file_eq {R : Set Address} (h : Apart R) (ha : a ∈ R)
    (hb : b ∈ R) (hfile : a.file = b.file) : a = b := by
  obtain ⟨space, ref, hcanonical⟩ := a
  obtain ⟨space', ref', hcanonical'⟩ := b
  cases space with
  | runtime =>
    cases space' with
    | runtime => exact Address.ext_of rfl (fileName_inj.mp hfile)
    | discovery => exact absurd (fileName_runtime_eq_discovery_iff.mp hfile) (h _ ha _ hb rfl rfl)
  | discovery =>
    cases space' with
    | runtime =>
      exact absurd (fileName_runtime_eq_discovery_iff.mp hfile.symm) (h _ hb _ ha rfl rfl)
    | discovery => exact Address.ext_of rfl (fileName_inj.mp hfile)

/-! ### Every canonical reference has a managed file -/

theorem toList_fileName (space : Namespace) (ref : String) :
    (fileName space ref).toList = space.filePrefix.toList ++ ref.toList ++ ".json".toList := by
  rw [fileName, String.toList_append, String.toList_append]

theorem all_isRefChar_of_canonical (h : isCanonicalRef ref = true) :
    ref.toList.all isRefChar = true := by
  rw [isCanonicalRef, Bool.and_eq_true] at h
  cases hlist : ref.toList with
  | nil => rfl
  | cons c rest =>
    rw [hlist] at h
    obtain ⟨hstart, hrest⟩ := Bool.and_eq_true_iff.mp h.2
    rw [List.all_cons, hrest, isRefChar, hstart]
    rfl

theorem isManagedName_fileName
    (h : isCanonicalRef ref = true) : isManagedName (fileName space ref) = true := by
  have hall := all_isRefChar_of_canonical h
  have hlen : ref.length ≤ 128 := of_decide_eq_true (Bool.and_eq_true_iff.mp h).1
  have hfile : (fileName space ref).length ≤ 255 := by
    have hprefix : space.filePrefix.length ≤ 15 := by cases space <;> decide
    have hsuffix : ".json".length = 5 := rfl
    rw [fileName, String.length_append, String.length_append, hsuffix]
    omega
  have hreverse : (fileName space ref).toList.reverse =
      'n' :: 'o' :: 's' :: 'j' :: '.' :: (space.filePrefix.toList ++ ref.toList).reverse := by
    rw [toList_fileName, List.reverse_append]
    rfl
  simp only [isManagedName, hreverse, List.reverse_reverse, decide_eq_true hfile, Bool.and_true]
  cases space with
  | runtime =>
    show (isRefStart 'm' && (['q', 't', 't', '-'] ++ ref.toList).all isRefChar) = true
    rw [List.all_append, hall]
    rfl
  | discovery =>
    show (isRefStart 'm' && (['q', 't', 't', '-', 'd', 'i', 's', 'c', 'o', 'v', 'e', 'r', 'y', '-']
      ++ ref.toList).all isRefChar) = true
    rw [List.all_append, hall]
    rfl

theorem managedPath_fileName (h : isCanonicalRef ref = true) :
    managedPath (fileName space ref) = .ok (fileName space ref) :=
  if_pos (isManagedName_fileName h)

theorem validatedRef_eq_ok {found : String} (h : validatedRef ref = .ok found) :
    isCanonicalRef ref = true ∧ found = ref := by
  rw [validatedRef] at h
  split_ifs at h with hcanonical
  exact ⟨hcanonical, (Except.ok.inj h).symm⟩

theorem validatedRef_of (h : isCanonicalRef ref = true) :
    validatedRef ref = .ok ref := if_pos h

/-! ### Operations -/

/-- A call of the store with what it meets of the file system. -/
inductive Operation (Key Nonce Bytes : Type) where
  | saveBroker (moment : Moment Key Nonce) (ref : String) (username password : PyValue)
  | saveCloudRuntime (moment : Moment Key Nonce) (ref : String)
      (username password clientId appKey : PyValue)
  | saveDiscovery (moment : Moment Key Nonce) (ref : String) (username password label : PyValue)
  | load (space : Namespace) (ref : String) (readable : Bool)
  | status (space : Namespace) (ref : String) (readable : Bool)
  | credentialExists (ref : String)
  | forget (space : Namespace) (ref : String) (removable : Bool)
  | snapshot (ref : String) (readable : Bool)
  | rollback (changes : List (CredentialChange Bytes × Bool))

inductive Outcome (Bytes : Type) where
  | saved (result : Checked String)
  | loaded (result : Checked (Option MqttBrokerSecret))
  | status (result : Checked SecretStatus)
  | found (result : Checked Bool)
  | forgotten (result : Checked Unit)
  | snapshot (result : Checked (CredentialChange Bytes))
  | rolledBack (failed : List String)

variable {Key Nonce Bytes : Type} (codec : Codec Key Nonce Bytes)

def loadSecret (s : Secrets Key Bytes) : Namespace → String → Bool →
    Checked (Option MqttBrokerSecret)
  | .runtime => loadMqttBrokerSecret codec s
  | .discovery => loadMqttDiscoverySecret codec s

def secretStatus (s : Secrets Key Bytes) : Namespace → String → Bool → Checked SecretStatus
  | .runtime => mqttBrokerSecretStatus codec s
  | .discovery => mqttDiscoverySecretStatus codec s

def forget (s : Secrets Key Bytes) : Namespace → String → Bool →
    Checked Unit × Secrets Key Bytes
  | .runtime => forgetMqttBrokerSecret s
  | .discovery => forgetMqttDiscoverySecret s

def perform (s : Secrets Key Bytes) : Operation Key Nonce Bytes → Outcome Bytes × Secrets Key Bytes
  | .saveBroker moment ref username password =>
    (saveMqttBrokerSecret codec moment ref username password s).map .saved id
  | .saveCloudRuntime moment ref username password clientId appKey =>
    (saveMqttCloudRuntimeSecret codec moment ref username password clientId appKey s).map .saved id
  | .saveDiscovery moment ref username password label =>
    (saveMqttDiscoverySecret codec moment ref username password label s).map .saved id
  | .load space ref readable => (.loaded (loadSecret codec s space ref readable), s)
  | .status space ref readable => (.status (secretStatus codec s space ref readable), s)
  | .credentialExists ref => (.found (credentialExists s ref), s)
  | .forget space ref removable => (forget s space ref removable).map .forgotten id
  | .snapshot ref readable => (.snapshot (snapshotMqttCredentialChange s ref readable), s)
  | .rollback changes => (rollbackCredentialChanges changes s).map .rolledBack id

def next (s : Secrets Key Bytes) (op : Operation Key Nonce Bytes) : Secrets Key Bytes :=
  (perform codec s op).2

/-- The namespaces and references an operation is called with. -/
def Operation.targets : Operation Key Nonce Bytes → List (Namespace × String)
  | .saveBroker _ ref _ _ => [(.runtime, ref)]
  | .saveCloudRuntime _ ref _ _ _ _ => [(.runtime, ref)]
  | .saveDiscovery _ ref _ _ _ => [(.discovery, ref)]
  | .load space ref _ => [(space, ref)]
  | .status space ref _ => [(space, ref)]
  | .credentialExists ref => [(.runtime, ref)]
  | .forget space ref _ => [(space, ref)]
  | .snapshot ref _ => [(.runtime, ref)]
  | .rollback changes => changes.map fun change => (.runtime, change.1.credentialsRef)

def Operation.On (op : Operation Key Nonce Bytes) (a : Address) : Prop :=
  (a.space, a.ref) ∈ op.targets

def Operation.Within (op : Operation Key Nonce Bytes) (R : Set Address) : Prop :=
  ∀ a, op.On a → a ∈ R

/-! ### What an operation leaves -/

/-- Only the files named may differ, and a key that is there stays. -/
structure Touches (P : String → Prop) (s s' : Secrets Key Bytes) : Prop where
  files : ∀ name, ¬ P name → s'.files name = s.files name
  key : ∀ key, s.key = some key → s'.key = some key

section

variable {codec} {P : String → Prop} {s s' s'' : Secrets Key Bytes}

theorem Touches.refl (P : String → Prop) (s : Secrets Key Bytes) : Touches P s s :=
  ⟨fun _ _ => rfl, fun _ h => h⟩

theorem Touches.trans (h : Touches P s s') (h' : Touches P s' s'') : Touches P s s'' where
  files name hname := (h'.files name hname).trans (h.files name hname)
  key key hkey := h'.key key (h.key key hkey)

variable {name ref : String} {space : Namespace}

theorem touches_setFile (h : P name) (s : Secrets Key Bytes)
    (content : Option Bytes) : Touches P s (s.setFile name content) where
  files other hother := by
    rw [Secrets.setFile_files, if_neg]
    rintro rfl
    exact hother h
  key _ hkey := hkey

theorem writeBytes_cases (s : Secrets Key Bytes) (name : String) (content : Bytes)
    (writable : Bool) :
    writeBytes s name content writable = (.ok (), s.setFile name (some content)) ∨
      ∃ e, writeBytes s name content writable = (.error e, s) := by
  cases h : managedPath name with
  | error e => exact .inr ⟨e, by rw [writeBytes, h]⟩
  | ok found =>
    obtain rfl : name = found := by
      rw [managedPath] at h
      split_ifs at h
      exact Except.ok.inj h
    rw [writeBytes, h]
    cases writable with
    | true => exact .inl rfl
    | false => exact .inr ⟨_, rfl⟩

theorem deleteFile_cases (s : Secrets Key Bytes) (name : String) (removable : Bool) :
    (deleteFile s name removable).2 = s ∨
      deleteFile s name removable = (.ok (), s.setFile name none) := by
  cases h : managedPath name with
  | error e => exact .inl (by rw [deleteFile, h])
  | ok found =>
    obtain rfl : name = found := by
      rw [managedPath] at h
      split_ifs at h
      exact Except.ok.inj h
    rw [deleteFile, h]
    dsimp only
    split_ifs with hnone
    · exact .inl rfl
    · exact .inr rfl
    · exact .inl rfl

theorem touches_writeBytes (h : P name) (s : Secrets Key Bytes) (content : Bytes)
    (writable : Bool) : Touches P s (writeBytes s name content writable).2 := by
  rcases writeBytes_cases s name content writable with hwrite | ⟨e, hwrite⟩
  · rw [hwrite]
    exact touches_setFile h s _
  · rw [hwrite]
    exact Touches.refl P s

theorem touches_deleteFile (h : P name) (s : Secrets Key Bytes)
    (removable : Bool) : Touches P s (deleteFile s name removable).2 := by
  rcases deleteFile_cases s name removable with hdelete | hdelete
  · rw [hdelete]
    exact Touches.refl P s
  · rw [hdelete]
    exact touches_setFile h s none

theorem touches_loadOrCreateKey (P : String → Prop) (moment : Moment Key Nonce)
    (s : Secrets Key Bytes) : Touches P s (loadOrCreateKey moment s).2 := by
  refine ⟨fun name _ => ?_, fun key hkey => ?_⟩
  · rw [loadOrCreateKey]
    split_ifs
    · split <;> rfl
    · rfl
  · rw [loadOrCreateKey, hkey]
    split_ifs <;> exact hkey

theorem encrypt_state (codec : Codec Key Nonce Bytes) (moment : Moment Key Nonce)
    (field value : String) (s : Secrets Key Bytes) :
    (encrypt codec moment field value s).2 = (loadOrCreateKey moment s).2 := by
  rw [encrypt]
  split <;> rfl

theorem encryptFields_cons_of_truthy {field : String} {value : PyValue} (h : truthy value = true)
    (moment : Moment Key Nonce) (fields : List (String × PyValue)) (s : Secrets Key Bytes) :
    (∃ e, encryptFields codec moment ((field, value) :: fields) s =
        (.error e, (encrypt codec moment field (codec.str value) s).2)) ∨
      ∃ blob, (encrypt codec moment field (codec.str value) s).1 = .ok blob ∧
        encryptFields codec moment ((field, value) :: fields) s =
          ((encryptFields codec moment fields
              (encrypt codec moment field (codec.str value) s).2).1.map fun rest =>
            (field, .str blob) :: (encryptedKey field, .bool true) :: rest,
          (encryptFields codec moment fields
              (encrypt codec moment field (codec.str value) s).2).2) := by
  rw [encryptFields, if_pos h]
  rcases encrypt codec moment field (codec.str value) s with ⟨e | blob, s'⟩
  · exact .inl ⟨e, rfl⟩
  · refine .inr ⟨blob, rfl, ?_⟩
    dsimp only
    rcases encryptFields codec moment fields s' with ⟨e | rest, s''⟩ <;> rfl

theorem touches_encryptFields (P : String → Prop) (codec : Codec Key Nonce Bytes)
    (moment : Moment Key Nonce) (fields : List (String × PyValue)) (s : Secrets Key Bytes) :
    Touches P s (encryptFields codec moment fields s).2 := by
  induction fields generalizing s with
  | nil => exact Touches.refl P s
  | cons field fields ih =>
    obtain ⟨field, value⟩ := field
    by_cases hvalue : truthy value = true
    · have hfirst : Touches P s (encrypt codec moment field (codec.str value) s).2 := by
        rw [encrypt_state]
        exact touches_loadOrCreateKey P moment s
      rcases encryptFields_cons_of_truthy hvalue moment fields s
        with ⟨e, h⟩ | ⟨blob, -, h⟩
      · rw [h]
        exact hfirst
      · rw [h]
        exact hfirst.trans (ih _)
    · rw [encryptFields, if_neg hvalue]
      exact ih s

def savedRecord (ref : String) (head secrets : Entries) : Entries :=
  ("version", .int 1) :: ("ref", .str ref) :: (head ++ secrets)

theorem saveSecret_cases (codec : Codec Key Nonce Bytes) (moment : Moment Key Nonce)
    (space : Namespace) (ref : String) (username password : PyValue) (head : Entries)
    (others : List (String × PyValue)) (s : Secrets Key Bytes) :
    (∃ e, (saveSecret codec moment space ref username password head others s).1 = .error e ∧
      Touches (fun _ => False) s
        (saveSecret codec moment space ref username password head others s).2) ∨
    ∃ secrets, isCanonicalRef ref = true ∧ validateMqttAuthPair username password = .ok () ∧
      (encryptFields codec moment (("username", username) :: ("password", password) :: others)
        s).1 = .ok secrets ∧
      saveSecret codec moment space ref username password head others s =
        (.ok ref, (encryptFields codec moment
          (("username", username) :: ("password", password) :: others) s).2.setFile
            (fileName space ref) (some (codec.dumps (savedRecord ref head secrets)))) := by
  rw [saveSecret]
  cases hchecked : (validateMqttAuthPair username password).bind fun _ => validatedRef ref with
  | error e => exact .inl ⟨e, rfl, Touches.refl _ s⟩
  | ok found =>
    obtain ⟨⟨⟩, hpair, href⟩ := bind_eq_ok.mp hchecked
    obtain ⟨hcanonical, rfl⟩ := validatedRef_eq_ok href
    have htouches := touches_encryptFields (fun _ => False) codec moment
      (("username", username) :: ("password", password) :: others) s
    dsimp only
    rcases hfields : encryptFields codec moment
      (("username", username) :: ("password", password) :: others) s with ⟨e | secrets, s'⟩
    · rw [hfields] at htouches
      exact .inl ⟨e, rfl, htouches⟩
    · rw [hfields] at htouches
      dsimp only
      rcases writeBytes_cases s' (fileName space found)
        (codec.dumps (savedRecord found head secrets)) moment.writable with hwrite | ⟨e, hwrite⟩
      · rw [savedRecord] at hwrite
        rw [hwrite]
        exact .inr ⟨secrets, hcanonical, hpair, rfl, rfl⟩
      · rw [savedRecord] at hwrite
        rw [hwrite]
        exact .inl ⟨e, rfl, htouches⟩

theorem touches_saveSecret (codec : Codec Key Nonce Bytes) (moment : Moment Key Nonce)
    (h : isCanonicalRef ref = true → P (fileName space ref))
    (username password : PyValue) (head : Entries) (others : List (String × PyValue))
    (s : Secrets Key Bytes) :
    Touches P s (saveSecret codec moment space ref username password head others s).2 := by
  rcases saveSecret_cases codec moment space ref username password head others s with
    ⟨e, -, htouches⟩ | ⟨secrets, hcanonical, -, -, hsave⟩
  · exact ⟨fun name _ => htouches.files name id, htouches.key⟩
  · rw [hsave]
    exact (touches_encryptFields P codec moment _ s).trans (touches_setFile (h hcanonical) _ _)

theorem touches_forget
    (h : isCanonicalRef ref = true → P (fileName space ref)) (s : Secrets Key Bytes)
    (removable : Bool) : Touches P s (forget s space ref removable).2 := by
  have hname : forget s space ref removable =
      forgetSecret s ((validatedRef ref).map (fileName space)) removable := by
    cases space <;> rfl
  rw [hname]
  cases href : validatedRef ref with
  | error e => exact Touches.refl P s
  | ok found =>
    obtain ⟨hcanonical, rfl⟩ := validatedRef_eq_ok href
    exact touches_deleteFile (h hcanonical) s removable

theorem touches_rollbackChange {change : CredentialChange Bytes}
    (h : isCanonicalRef change.credentialsRef = true → P (fileName .runtime change.credentialsRef))
    (s : Secrets Key Bytes) (usable : Bool) :
    Touches P s (rollbackChange s change usable).2 := by
  rw [rollbackChange, mqttFilename]
  cases href : validatedRef change.credentialsRef with
  | error e => exact Touches.refl P s
  | ok found =>
    obtain ⟨hcanonical, rfl⟩ := validatedRef_eq_ok href
    have hname := h hcanonical
    obtain ⟨ref, existed, raw⟩ := change
    cases existed with
    | false => exact touches_deleteFile hname s usable
    | true =>
      cases raw with
      | none => exact touches_deleteFile hname s usable
      | some raw => exact touches_writeBytes hname s raw usable

theorem touches_rollbackEach (changes : List (CredentialChange Bytes × Bool))
    (h : ∀ change ∈ changes, isCanonicalRef change.1.credentialsRef = true →
      P (fileName .runtime change.1.credentialsRef)) (s : Secrets Key Bytes) :
    Touches P s (rollbackEach changes s).2 := by
  induction changes generalizing s with
  | nil => exact Touches.refl P s
  | cons change changes ih =>
    obtain ⟨change, usable⟩ := change
    have hfirst := touches_rollbackChange (h _ List.mem_cons_self) s usable
    have hrest := ih (fun other hother => h other (List.mem_cons_of_mem _ hother))
      (rollbackChange s change usable).2
    rw [rollbackEach]
    split <;> exact hfirst.trans hrest

/-- **An operation touches only the files of the addresses that it is on.** -/
theorem touches_next (codec : Codec Key Nonce Bytes) (s : Secrets Key Bytes)
    (op : Operation Key Nonce Bytes) :
    Touches (fun name => ∃ a, op.On a ∧ a.file = name) s (next codec s op) := by
  have hon : ∀ space ref, (space, ref) ∈ op.targets → isCanonicalRef ref = true →
      ∃ a, op.On a ∧ a.file = fileName space ref :=
    fun space ref hmem hcanonical => ⟨⟨space, ref, hcanonical⟩, hmem, rfl⟩
  cases op with
  | saveBroker moment ref username password =>
    exact touches_saveSecret codec moment (hon .runtime ref List.mem_cons_self) ..
  | saveCloudRuntime moment ref username password clientId appKey =>
    exact touches_saveSecret codec moment (hon .runtime ref List.mem_cons_self) ..
  | saveDiscovery moment ref username password label =>
    exact touches_saveSecret codec moment (hon .discovery ref List.mem_cons_self) ..
  | load space ref readable | status space ref readable
  | credentialExists ref => exact Touches.refl _ s
  | forget space ref removable => exact touches_forget (hon space ref List.mem_cons_self) s _
  | snapshot ref readable => exact Touches.refl _ s
  | rollback changes =>
    refine touches_rollbackEach changes.reverse (fun change hchange => ?_) s
    exact hon .runtime _ (List.mem_map.mpr ⟨change, List.mem_reverse.mp hchange, rfl⟩)

end

end SolarFlowEms.Admin
