import SolarFlowEms.Config.Upgrade

/-!
# The credential store of the administration

MQTT credentials are kept encrypted, one record a file, in one directory.  A record is found by
its namespace and its reference: the broker and cloud runtime credentials share one namespace,
which the runtime resolves references in, and the discovery pool is kept apart from it.  Both
namespaces differ only in the prefix of the file name.

What the store uses from outside is a codec: Fernet under a key with the randomness of one
encryption, base64, `str` and the JSON of a record.  The state is the managed files by name and
the key.
-/

namespace SolarFlowEms.Admin

open Python Documents Config

/-! ### References and file names -/

def isRefStart (c : Char) : Bool := ('a' ≤ c && c ≤ 'z') || ('0' ≤ c && c ≤ '9')

def isRefChar (c : Char) : Bool := isRefStart c || c = '_' || c = '-'

def maxRefLen : ℕ := 128

/-- `^[a-z0-9][a-z0-9_-]*$` and no longer than a reference may be. -/
def isCanonicalRef (ref : String) : Bool :=
  ref.length ≤ maxRefLen &&
    match ref.toList with
    | [] => false
    | c :: rest => isRefStart c && rest.all isRefChar

inductive CredentialStoreError where
  | store (message : String)
  | refInvalid (message credentialsRef : String)
deriving DecidableEq

def refInvalidMessage : String := "A configured MQTT credentials_ref is not a canonical reference."

def encryptErrorMessage : String :=
  "Could not encrypt the credential. Check the Admin secret-key file and permissions."

abbrev Checked (α : Type*) := Except CredentialStoreError α

def validatedRef (ref : String) : Checked String :=
  if isCanonicalRef ref then .ok ref else .error (.refInvalid refInvalidMessage ref)

/-- Where a reference is looked up: among the credentials of brokers, those the cloud runtime
uses among them, or in the discovery pool. -/
inductive Namespace where
  | runtime
  | discovery
deriving DecidableEq

def Namespace.filePrefix : Namespace → String
  | .runtime => "mqtt-"
  | .discovery => "mqtt-discovery-"

def fileName (space : Namespace) (ref : String) : String := space.filePrefix ++ ref ++ ".json"

def mqttFilename (ref : String) : Checked String :=
  (validatedRef ref).map (fileName .runtime)

def mqttDiscoveryFilename (ref : String) : Checked String :=
  (validatedRef ref).map (fileName .discovery)

/-- The names `_managed_path` admits: `^[a-z0-9][a-z0-9_-]*\.json$`, no two dots in a row, at
most 255 characters. -/
def isManagedName (name : String) : Bool :=
  match name.toList.reverse with
  | 'n' :: 'o' :: 's' :: 'j' :: '.' :: stem =>
    (match stem.reverse with
    | [] => false
    | c :: rest => isRefStart c && rest.all isRefChar) && name.length ≤ 255
  | _ => false

/-! ### The codec and the state -/

/-- What the store uses from its libraries.  `encrypt` and `decrypt` are missing for a key or a
token that Fernet refuses, `loads` is missing for content that is no JSON object. -/
structure Codec (Key Nonce Bytes : Type) where
  encrypt : Key → Nonce → String → Option String
  decrypt : Key → String → Option String
  b64decode : String → Option String
  str : PyValue → String
  dumps : Entries → Bytes
  loads : Bytes → Option Entries

/-- The managed files of the secrets directory and its key. -/
structure Secrets (Key Bytes : Type) where
  files : String → Option Bytes
  key : Option Key

/-- What a save meets: the key that would be generated, the randomness of the encryption of each
field, the time, and whether the key file and the file of the record can be used. -/
structure Moment (Key Nonce : Type) where
  freshKey : Key
  nonce : String → Nonce
  savedAt : String
  keyUsable : Bool
  writable : Bool

structure MqttBrokerSecret where
  ref : String
  username : Option String
  password : Option String
  encrypted : Bool
  label : PyValue

structure SecretStatus where
  ref : String
  label : PyValue
  saved : Bool
  usernameConfigured : Bool
  passwordConfigured : Bool
  encrypted : Bool

/-- A snapshot of one runtime record: the bytes of the file as it was. -/
structure CredentialChange (Bytes : Type) where
  credentialsRef : String
  existedBefore : Bool
  rawBytes : Option Bytes

variable {Key Nonce Bytes : Type} (codec : Codec Key Nonce Bytes)

/-! ### Files and encryption -/

def Secrets.setFile (s : Secrets Key Bytes) (name : String) (content : Option Bytes) :
    Secrets Key Bytes :=
  { s with files := fun other => if other = name then content else s.files other }

theorem Secrets.setFile_files (s : Secrets Key Bytes) (name : String) (content : Option Bytes)
    (other : String) :
    (s.setFile name content).files other = if other = name then content else s.files other := rfl

def managedPath (name : String) : Checked String :=
  if isManagedName name then .ok name
  else .error (.refInvalid "credential record name is not a managed basename" name)

/-- `read_record`: a file that is missing, cannot be read or holds no object is no record. -/
def readRecord (s : Secrets Key Bytes) (name : String) (readable : Bool) :
    Checked (Option Entries) :=
  (managedPath name).map fun name => if readable then (s.files name).bind codec.loads else none

/-- `_atomic_write`: all of the new content or an error and the old file. -/
def writeBytes (s : Secrets Key Bytes) (name : String) (content : Bytes) (writable : Bool) :
    Checked Unit × Secrets Key Bytes :=
  match managedPath name with
  | .error e => (.error e, s)
  | .ok name =>
    if writable then (.ok (), s.setFile name (some content))
    else (.error (.store "Could not write the secret file."), s)

def deleteFile (s : Secrets Key Bytes) (name : String) (removable : Bool) :
    Checked Unit × Secrets Key Bytes :=
  match managedPath name with
  | .error e => (.error e, s)
  | .ok name =>
    if (s.files name).isNone then (.ok (), s)
    else if removable then (.ok (), s.setFile name none)
    else (.error (.store "Could not remove the secret file."), s)

/-- A key that is there is never replaced. -/
def loadOrCreateKey (moment : Moment Key Nonce) (s : Secrets Key Bytes) :
    Option Key × Secrets Key Bytes :=
  if moment.keyUsable then
    match s.key with
    | some key => (some key, s)
    | none => (some moment.freshKey, { s with key := some moment.freshKey })
  else (none, s)

def encrypt (moment : Moment Key Nonce) (field value : String) (s : Secrets Key Bytes) :
    Checked String × Secrets Key Bytes :=
  let loaded := loadOrCreateKey moment s
  match loaded.1.bind fun key => codec.encrypt key (moment.nonce field) value with
  | some blob => (.ok blob, loaded.2)
  | none => (.error (.store encryptErrorMessage), loaded.2)

def encryptedKey (field : String) : String := field ++ "_encrypted"

/-- The entries of the fields that have a value, encrypted one after the other. -/
def encryptFields (moment : Moment Key Nonce) :
    List (String × PyValue) → Secrets Key Bytes → Checked Entries × Secrets Key Bytes
  | [], s => (.ok [], s)
  | (field, value) :: fields, s =>
    if truthy value then
      match encrypt codec moment field (codec.str value) s with
      | (.error e, s') => (.error e, s')
      | (.ok blob, s') =>
        match encryptFields moment fields s' with
        | (.error e, s'') => (.error e, s'')
        | (.ok rest, s'') =>
          (.ok ((field, .str blob) :: (encryptedKey field, .bool true) :: rest), s'')
    else encryptFields moment fields s

/-- `_decrypt_field`: a field that cannot be decrypted reads as missing. -/
def decryptField (key : Option Key) (record : Entries) (field : String) : Option String :=
  let blob := getValue record field
  if truthy blob then
    match blob.str? with
    | none => none
    | some blob =>
      if truthy (getValue record (encryptedKey field)) then key.bind (codec.decrypt · blob)
      else codec.b64decode blob
  else none

/-! ### Saving -/

def validateMqttAuthPair (username password : PyValue) : Checked Unit :=
  let usernamePresent := (username.str?.map fun s => decide (pyStrip s ≠ "")).getD false
  let passwordPresent := (password.str?.map fun s => decide (s ≠ "")).getD false
  if usernamePresent ≠ passwordPresent then
    .error (.store "MQTT username and password must both be non-empty or both be omitted.")
  else if ¬ username.isNone ∧ username.str?.isNone then
    .error (.store "MQTT username must be a string.")
  else if ¬ password.isNone ∧ password.str?.isNone then
    .error (.store "MQTT password must be a string.")
  else .ok ()

/-- What every save does: check, encrypt the fields after the record's other entries, write. -/
def saveSecret (moment : Moment Key Nonce) (space : Namespace) (ref : String)
    (username password : PyValue) (head : Entries) (others : List (String × PyValue))
    (s : Secrets Key Bytes) : Checked String × Secrets Key Bytes :=
  match (validateMqttAuthPair username password).bind fun _ => validatedRef ref with
  | .error e => (.error e, s)
  | .ok ref =>
    let fields := ("username", username) :: ("password", password) :: others
    match encryptFields codec moment fields s with
    | (.error e, s') => (.error e, s')
    | (.ok secrets, s') =>
      let record := ("version", .int 1) :: ("ref", .str ref) :: (head ++ secrets)
      match writeBytes s' (fileName space ref) (codec.dumps record) moment.writable with
      | (.error e, s'') => (.error e, s'')
      | (.ok _, s'') => (.ok ref, s'')

def saveMqttBrokerSecret (moment : Moment Key Nonce) (ref : String)
    (username password : PyValue) (s : Secrets Key Bytes) : Checked String × Secrets Key Bytes :=
  saveSecret codec moment .runtime ref username password [] [] s

def sourceZendureCloudMqtt : String := "zendure_cloud_mqtt"

def saveMqttCloudRuntimeSecret (moment : Moment Key Nonce) (ref : String)
    (username password clientId appKey : PyValue) (s : Secrets Key Bytes) :
    Checked String × Secrets Key Bytes :=
  saveSecret codec moment .runtime ref username password
    [("source", .str sourceZendureCloudMqtt), ("saved_at", .str moment.savedAt)]
    [("client_id", clientId), ("app_key", appKey)] s

def labelEntries (label : PyValue) : Entries :=
  if truthy label then [("label", .str (codec.str label))] else []

def saveMqttDiscoverySecret (moment : Moment Key Nonce) (ref : String)
    (username password label : PyValue) (s : Secrets Key Bytes) :
    Checked String × Secrets Key Bytes :=
  saveSecret codec moment .discovery ref username password (labelEntries codec label) [] s

/-! ### Reading and removing -/

def recordEncrypted (record : Entries) : Bool :=
  truthy (getValue record (encryptedKey "username")) ||
    truthy (getValue record (encryptedKey "password"))

/-- The record of a reference where there is one; an empty object is none. -/
def namedRecord (s : Secrets Key Bytes) (space : Namespace) (ref : String) (readable : Bool) :
    Checked (Option Entries) := do
  let ref ← validatedRef ref
  let record ← readRecord codec s (fileName space ref) readable
  return record.filter fun record => !record.isEmpty

def loadMqttBrokerSecret (s : Secrets Key Bytes) (ref : String) (readable : Bool) :
    Checked (Option MqttBrokerSecret) :=
  (namedRecord codec s .runtime ref readable).map (·.map fun record =>
    ⟨ref, decryptField codec s.key record "username", decryptField codec s.key record "password",
      recordEncrypted record, .none⟩)

def loadMqttDiscoverySecret (s : Secrets Key Bytes) (ref : String) (readable : Bool) :
    Checked (Option MqttBrokerSecret) :=
  (namedRecord codec s .discovery ref readable).map (·.map fun record =>
    ⟨ref, decryptField codec s.key record "username", decryptField codec s.key record "password",
      recordEncrypted record, getValue record "label"⟩)

def mqttBrokerSecretStatus (s : Secrets Key Bytes) (ref : String) (readable : Bool) :
    Checked SecretStatus :=
  (namedRecord codec s .runtime ref readable).map fun
    | none => ⟨ref, .none, false, false, false, false⟩
    | some record =>
      ⟨ref, .none, true, truthy (getValue record "username"), truthy (getValue record "password"),
        recordEncrypted record⟩

def mqttDiscoverySecretStatus (s : Secrets Key Bytes) (ref : String) (readable : Bool) :
    Checked SecretStatus :=
  (namedRecord codec s .discovery ref readable).map fun
    | none => ⟨ref, .none, false, false, false, false⟩
    | some record =>
      let label := getValue record "label"
      ⟨ref, if truthy label then label else .str ref, true, truthy (getValue record "username"),
        truthy (getValue record "password"), recordEncrypted record⟩

def credentialExists (s : Secrets Key Bytes) (ref : String) : Checked Bool :=
  (mqttFilename ref).map fun name => (s.files name).isSome

def forgetSecret (s : Secrets Key Bytes) (name : Checked String) (removable : Bool) :
    Checked Unit × Secrets Key Bytes :=
  match name with
  | .error e => (.error e, s)
  | .ok name => deleteFile s name removable

def forgetMqttBrokerSecret (s : Secrets Key Bytes) (ref : String) (removable : Bool) :
    Checked Unit × Secrets Key Bytes :=
  forgetSecret s (mqttFilename ref) removable

/-- Also `delete_temporary_credentials`. -/
def forgetMqttDiscoverySecret (s : Secrets Key Bytes) (ref : String) (removable : Bool) :
    Checked Unit × Secrets Key Bytes :=
  forgetSecret s (mqttDiscoveryFilename ref) removable

/-! ### Snapshots -/

/-- An existing file that cannot be read blocks the change. -/
def snapshotMqttCredentialChange (s : Secrets Key Bytes) (ref : String) (readable : Bool) :
    Checked (CredentialChange Bytes) := do
  let name ← mqttFilename ref
  let name ← managedPath name
  match s.files name with
  | none => return ⟨ref, false, none⟩
  | some raw =>
    if readable then return ⟨ref, true, some raw⟩
    else throw (.store "Could not read the secret file.")

/-- The put-back of one change: its bytes where it had some, else the file is removed. -/
def rollbackChange (s : Secrets Key Bytes) (change : CredentialChange Bytes) (usable : Bool) :
    Checked Unit × Secrets Key Bytes :=
  match mqttFilename change.credentialsRef with
  | .error e => (.error e, s)
  | .ok name =>
    match change.existedBefore, change.rawBytes with
    | true, some raw => writeBytes s name raw usable
    | _, _ => deleteFile s name usable

/-- The changes in the order of the undoing, each with whether its file can be changed. -/
def rollbackEach :
    List (CredentialChange Bytes × Bool) → Secrets Key Bytes → List String × Secrets Key Bytes
  | [], s => ([], s)
  | (change, usable) :: changes, s =>
    let undone := rollbackChange s change usable
    let rest := rollbackEach changes undone.2
    match undone.1 with
    | .error _ => (change.credentialsRef :: rest.1, rest.2)
    | .ok _ => rest

/-- `rollback_credential_changes`: the references that could not be put back. -/
def rollbackCredentialChanges (changes : List (CredentialChange Bytes × Bool))
    (s : Secrets Key Bytes) : List String × Secrets Key Bytes :=
  rollbackEach changes.reverse s

end SolarFlowEms.Admin
