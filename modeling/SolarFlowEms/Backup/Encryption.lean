import SolarFlowEms.Config.Upgrade
import SolarFlowEms.Library.ByteFields
import SolarFlowEms.Library.Fallible

/-!
# Encrypted backups

A backup that is protected by a password is a header and a sequence of chunk records, each sealed
on its own.  The associated data of a record binds its index and whether it is the last one, so
that the reader notices what was cut off, moved or added.  An earlier format seals the archive as
one token.

The primitives are parameters: key derivation, the two ciphers, Fernet, base64 and JSON.
-/

namespace SolarFlowEms.Backup

open Python Documents ByteFields Fallible

/-! ### Parameters and bounds -/

inductive Algorithm where
  | chacha20Poly1305
  | aes256Gcm
deriving DecidableEq

def Algorithm.name : Algorithm → String
  | .chacha20Poly1305 => "chacha20-poly1305"
  | .aes256Gcm => "aes-256-gcm"

/-- `SUPPORTED_AEAD_ALGORITHMS`, by name. -/
def supportedAlgorithm? (name : String) : Option Algorithm :=
  if name = Algorithm.chacha20Poly1305.name then some .chacha20Poly1305
  else if name = Algorithm.aes256Gcm.name then some .aes256Gcm
  else none

def kdfName : String := "pbkdf2-sha256"

def saltBytes : ℕ := 16

def noncePrefixBytes : ℕ := 8

def minChunkSize : ℕ := 4 * 1024

def maxChunkSize : ℕ := 64 * 1024 * 1024

def minKdfIterations : ℕ := 50000

def maxKdfIterations : ℕ := 10000000

def maxHeaderSize : ℕ := 64 * 1024

def maxCiphertextOverhead : ℕ := 16

def streamingVersion : UInt8 := 2

def legacyFernetVersion : UInt8 := 1

def asciiBytes (text : String) : Bytes := text.toList.map fun c => UInt8.ofNat c.toNat

def magic : Bytes := asciiBytes "EMSBKENC"

/-- How an encryption or a decryption fails.  The first two are the module's own errors, which its
callers handle. -/
inductive BackupFailure where
  | format (message : String)
  | password (message : String)
  | valueError (message : String)
  | typeError
  | recursionError
  | structError
deriving DecidableEq

def BackupFailure.isBackupError : BackupFailure → Bool
  | .format _ => true
  | .password _ => true
  | _ => false

/-- The parameters of an encryption within the bounds that a restore accepts. -/
structure EncryptionParams where
  algorithm : Algorithm
  chunkSize : ℕ
  iterations : ℕ
  chunkSize_bounds : minChunkSize ≤ chunkSize ∧ chunkSize ≤ maxChunkSize
  iterations_bounds : minKdfIterations ≤ iterations ∧ iterations ≤ maxKdfIterations

/-- `validate_encryption_params`, on what `int` makes of the numbers. -/
def validateEncryptionParams (algorithm : String) (chunkSize iterations : ℤ) :
    Except BackupFailure EncryptionParams :=
  match supportedAlgorithm? algorithm with
  | none => .error (.valueError ("unsupported encryption algorithm: " ++ algorithm))
  | some algorithm =>
    if hchunk : minChunkSize ≤ chunkSize.toNat ∧ chunkSize.toNat ≤ maxChunkSize then
      if hiterations : minKdfIterations ≤ iterations.toNat ∧ iterations.toNat ≤ maxKdfIterations
      then .ok ⟨algorithm, chunkSize.toNat, iterations.toNat, hchunk, hiterations⟩
      else .error (.valueError (s!"iterations out of range: {iterations} " ++
        s!"(allowed {minKdfIterations}..{maxKdfIterations})"))
    else .error (.valueError (s!"chunk_size out of range: {chunkSize} " ++
      s!"(allowed {minChunkSize}..{maxChunkSize})"))

/-- What `json.loads(bytes.decode("utf-8"))` makes of a header. -/
inductive JsonRead where
  | value (v : PyValue)
  | valueError (text : String)
  | recursionError

/-- The libraries.  `openSealed` and `fernetDecrypt` are missing for what does not verify,
`b64decode` for a text that is no base64. -/
structure Primitives (Key : Type) where
  deriveKey : String → Bytes → ℕ → Key
  sealed : Algorithm → Key → Bytes → Bytes → Bytes → Bytes
  openSealed : Algorithm → Key → Bytes → Bytes → Bytes → Option Bytes
  fernetDecrypt : Key → Bytes → Option Bytes
  b64encode : Bytes → String
  b64decode : String → Option Bytes
  dumps : Entries → Bytes
  loads : Bytes → JsonRead
  repr : PyValue → String

section

variable {Key : Type} (prims : Primitives Key)

def deriveKey (password : String) (salt : Bytes) (iterations : ℕ) : Except BackupFailure Key :=
  if password = "" then .error (.valueError "password must not be empty")
  else .ok (prims.deriveKey password salt iterations)

/-- `struct.pack` refuses an index of more than four bytes. -/
def chunkNonce (noncePrefix : Bytes) (index : ℕ) : Except BackupFailure Bytes :=
  if index < 2 ^ 32 then .ok (noncePrefix ++ packU32 index) else .error .structError

def flagByte (final : Bool) : UInt8 := if final then 1 else 0

def chunkAad (algorithm : Algorithm) (index : ℕ) (final : Bool) : Bytes :=
  magic ++ asciiBytes "|" ++ [streamingVersion] ++ asciiBytes "|" ++ asciiBytes algorithm.name ++
    asciiBytes "|" ++ packU32 index ++ asciiBytes "|" ++ [flagByte final]

/-! ### Encryption -/

/-- The random bytes of a file. -/
structure Randomness where
  salt : Bytes
  noncePrefix : Bytes
  salt_length : salt.length = saltBytes
  noncePrefix_length : noncePrefix.length = noncePrefixBytes

/-- The header of a file, its keys sorted. -/
def streamingHeader (params : EncryptionParams) (random : Randomness) : Entries :=
  [("algorithm", .str params.algorithm.name),
    ("base_nonce", .str (prims.b64encode random.noncePrefix)),
    ("chunk_size", .int params.chunkSize),
    ("format", .str "ems-backup-encrypted"),
    ("iterations", .int params.iterations),
    ("kdf", .str kdfName),
    ("salt", .str (prims.b64encode random.salt)),
    ("version", .int streamingVersion.toNat)]

def chunkRecord (final : Bool) (ciphertext : Bytes) : Bytes :=
  flagByte final :: (packU32 ciphertext.length ++ ciphertext)

/-- The loop of `encrypt_file` from a chunk on: whether it is the last one shows in the next read. -/
def encryptChunks (params : EncryptionParams) (key : Key) (noncePrefix : Bytes) (index : ℕ)
    (chunk rest : Bytes) : Except BackupFailure Bytes :=
  let next := rest.take params.chunkSize
  let final := next.isEmpty
  match chunkNonce noncePrefix index with
  | .error e => .error e
  | .ok nonce =>
    let ciphertext := prims.sealed params.algorithm key nonce chunk
      (chunkAad params.algorithm index final)
    if _hlast : final = true then .ok (chunkRecord final ciphertext)
    else
      (encryptChunks params key noncePrefix (index + 1) next (rest.drop params.chunkSize)).map
        (chunkRecord final ciphertext ++ ·)
termination_by rest.length
decreasing_by
  have hpos : 0 < params.chunkSize :=
    Nat.lt_of_lt_of_le (show 0 < minChunkSize by decide) params.chunkSize_bounds.1
  have hne : rest ≠ [] := by
    rintro rfl
    exact _hlast (by simp [final, next])
  have hlength := List.length_pos_iff.mpr hne
  rw [List.length_drop]
  omega

def filePreamble (version : UInt8) (header : Bytes) : Bytes :=
  magic ++ version :: (packU32 header.length ++ header)

/-- The content that `encrypt_file` writes. -/
def encryptFile (password : String) (params : EncryptionParams) (random : Randomness)
    (plaintext : Bytes) : Except BackupFailure Bytes := do
  let key ← deriveKey prims password random.salt params.iterations
  let header := prims.dumps (streamingHeader prims params random)
  let body ← encryptChunks prims params key random.noncePrefix 0
    (plaintext.take params.chunkSize) (plaintext.drop params.chunkSize)
  return filePreamble streamingVersion header ++ body

/-! ### Decryption -/

def require (condition : Prop) [Decidable condition] (failure : BackupFailure) :
    Except BackupFailure Unit :=
  if condition then .ok () else .error failure

theorem require_eq_ok {condition : Prop} [Decidable condition] {failure : BackupFailure}
    {u : Unit} : require condition failure = .ok u ↔ condition := by
  rw [require]
  split_ifs with h <;> simp [h]

theorem require_eq_error {condition : Prop} [Decidable condition] {failure e : BackupFailure} :
    require condition failure = .error e ↔ ¬ condition ∧ failure = e := by
  rw [require]
  split_ifs with h <;> simp [h]

def readExact (count : ℕ) (bytes : Bytes) : Except BackupFailure (Bytes × Bytes) :=
  match readExact? count bytes with
  | none => .error (.format "truncated encrypted backup")
  | some read => .ok read

def requireInt (header : Entries) (name : String) : Except BackupFailure ℤ :=
  match (getValue header name).int? with
  | none => .error (.format ("encrypted backup header has invalid " ++ name))
  | some value => .ok value

def decodeB64Field (header : Entries) (name : String) : Except BackupFailure Bytes :=
  match (getValue header name).str? with
  | none => .error (.format ("encrypted backup header is missing " ++ name))
  | some text =>
    match prims.b64decode text with
    | none => .error (.format ("encrypted backup header has invalid " ++ name))
    | some bytes => .ok bytes

/-- A list or an object, which cannot be looked up in a dict. -/
def unhashable : PyValue → Bool
  | .list _ => true
  | .dict _ => true
  | _ => false

/-- `algorithm not in SUPPORTED_AEAD_ALGORITHMS`, which fails on what has no hash. -/
def headerAlgorithm (header : Entries) : Except BackupFailure Algorithm :=
  let algorithm := getValue header "algorithm"
  if unhashable algorithm then .error .typeError
  else
    match algorithm.str?.bind supportedAlgorithm? with
    | none => .error (.format ("unsupported encryption algorithm: " ++ prims.repr algorithm))
    | some algorithm => .ok algorithm

/-- What a header says for the decryption of its chunks. -/
structure StreamParams where
  algorithm : Algorithm
  iterations : ℕ
  salt : Bytes
  noncePrefix : Bytes
  chunkSize : ℕ

def parseStreamingHeader (header : PyValue) : Except BackupFailure StreamParams :=
  match header.dict? with
  | none => .error (.format "encrypted backup header is not a JSON object")
  | some header => do
    let algorithm ← headerAlgorithm prims header
    require ((getValue header "kdf").eqStr kdfName)
      (.format ("unsupported KDF: " ++ prims.repr (getValue header "kdf")))
    let iterations ← requireInt header "iterations"
    require ((minKdfIterations : ℤ) ≤ iterations ∧ iterations ≤ maxKdfIterations)
      (.format s!"PBKDF2 iterations out of range: {iterations}")
    let salt ← decodeB64Field prims header "salt"
    require (salt.length = saltBytes)
      (.format "encrypted backup header has invalid salt length")
    let noncePrefix ← decodeB64Field prims header "base_nonce"
    require (noncePrefix.length = noncePrefixBytes)
      (.format "encrypted backup header has invalid base nonce length")
    let chunkSize ← requireInt header "chunk_size"
    require ((minChunkSize : ℤ) ≤ chunkSize ∧ chunkSize ≤ maxChunkSize)
      (.format s!"chunk size out of range: {chunkSize}")
    return ⟨algorithm, iterations.toNat, salt, noncePrefix, chunkSize.toNat⟩

/-- One chunk record: its flag, its ciphertext and what follows. -/
def readChunkRecord (maxCiphertext : ℕ) :
    Bytes → Except BackupFailure (Bool × Bytes × Bytes)
  | [] => .error (.format "truncated encrypted backup: missing final chunk")
  | flag :: rest => do
    require (flag = 0 ∨ flag = 1) (.format "invalid chunk flag in encrypted backup")
    let final := decide (flag = 1)
    let (lengthBytes, rest) ← readExact 4 rest
    let length := unpackU32 lengthBytes
    require (length = 0 → final = true) (.format "empty non-final chunk in encrypted backup")
    require (length ≤ maxCiphertext) (.format "encrypted chunk exceeds maximum size")
    let (ciphertext, rest) ← readExact length rest
    return (final, ciphertext, rest)

theorem readExact_eq_ok {count : ℕ} {bytes read rest : Bytes} :
    readExact count bytes = .ok (read, rest) ↔ bytes = read ++ rest ∧ read.length = count := by
  rw [← readExact?_eq_some, readExact]
  cases readExact? count bytes with
  | none => simp
  | some found => simp

theorem flagByte_decide {flag : UInt8} (h : flag = 0 ∨ flag = 1) :
    flagByte (decide (flag = 1)) = flag := by
  rcases h with rfl | rfl <;> rfl

theorem readChunkRecord_eq_ok {maxCiphertext : ℕ} {bytes ciphertext rest : Bytes} {final : Bool} :
    readChunkRecord maxCiphertext bytes = .ok (final, ciphertext, rest) ↔
      bytes = chunkRecord final ciphertext ++ rest ∧ ciphertext.length < 2 ^ 32 ∧
        ciphertext.length ≤ maxCiphertext ∧ (ciphertext = [] → final = true) := by
  constructor
  · intro h
    cases bytes with
    | nil => cases h
    | cons flag bytes =>
      obtain ⟨_, hflag, h₁⟩ := bind_eq_ok.mp h
      obtain ⟨⟨lengthBytes, bytes'⟩, hlength, h₂⟩ := bind_eq_ok.mp h₁
      obtain ⟨rfl, hfour⟩ := readExact_eq_ok.mp hlength
      obtain ⟨_, hempty, h₃⟩ := bind_eq_ok.mp h₂
      obtain ⟨_, hlarge, h₄⟩ := bind_eq_ok.mp h₃
      obtain ⟨⟨read, rest'⟩, hread, h₅⟩ := bind_eq_ok.mp h₄
      obtain ⟨rfl, hcount⟩ := readExact_eq_ok.mp hread
      obtain ⟨rfl, hrest⟩ := Prod.mk.inj (Except.ok.inj h₅)
      obtain ⟨rfl, rfl⟩ := Prod.mk.inj hrest
      refine ⟨?_, ?_, ?_, ?_⟩
      · rw [chunkRecord, flagByte_decide (require_eq_ok.mp hflag), hcount, packU32_unpackU32 hfour]
        simp
      · rw [hcount]
        exact unpackU32_lt lengthBytes
      · rw [hcount]
        exact require_eq_ok.mp hlarge
      · rintro rfl
        exact require_eq_ok.mp hempty hcount.symm
  · rintro ⟨rfl, hlt, hle, hempty⟩
    have hflag : flagByte final = 0 ∨ flagByte final = 1 := by cases final <;> decide
    have hdecide : decide (flagByte final = 1) = final := by cases final <;> rfl
    rw [chunkRecord, List.cons_append, readChunkRecord, hdecide]
    refine bind_eq_ok.mpr ⟨(), require_eq_ok.mpr hflag, bind_eq_ok.mpr
      ⟨(packU32 ciphertext.length, ciphertext ++ rest),
        readExact_eq_ok.mpr ⟨List.append_assoc .., rfl⟩, ?_⟩⟩
    dsimp only
    rw [unpackU32_packU32 hlt]
    exact bind_eq_ok.mpr ⟨(), require_eq_ok.mpr fun hzero => hempty (List.length_eq_zero_iff.mp hzero),
      bind_eq_ok.mpr ⟨(), require_eq_ok.mpr hle,
        bind_eq_ok.mpr ⟨_, readExact_eq_ok.mpr ⟨rfl, rfl⟩, rfl⟩⟩⟩

/-- The loop of `_decrypt_streaming` from a record on, with what is written so far. -/
def decryptChunks (stream : StreamParams) (key : Key) (index : ℕ) (bytes written : Bytes) :
    Except BackupFailure Unit × Bytes :=
  match _hread : readChunkRecord (stream.chunkSize + maxCiphertextOverhead) bytes with
  | .error e => (.error e, written)
  | .ok (final, ciphertext, rest) =>
    match chunkNonce stream.noncePrefix index with
    | .error e => (.error e, written)
    | .ok nonce =>
      match prims.openSealed stream.algorithm key nonce ciphertext
          (chunkAad stream.algorithm index final) with
      | none => (.error (.password "incorrect password or corrupted backup"), written)
      | some plaintext =>
        if final then
          if rest = [] then (.ok (), written ++ plaintext)
          else (.error (.format "trailing data after final encrypted chunk"), written ++ plaintext)
        else decryptChunks stream key (index + 1) rest (written ++ plaintext)
termination_by bytes.length
decreasing_by
  obtain ⟨rfl, -⟩ := readChunkRecord_eq_ok.mp _hread
  simp only [chunkRecord, List.cons_append, List.length_cons, List.length_append, packU32_length]
  omega

def decodeHeader (header : Bytes) : Except BackupFailure PyValue :=
  match prims.loads header with
  | .value v => .ok v
  | .valueError text => .error (.format ("invalid encrypted backup header: " ++ text))
  | .recursionError => .error .recursionError

/-- The header of a stream and what follows it. -/
def readStreamingHeader (bytes : Bytes) : Except BackupFailure (StreamParams × Bytes) := do
  let (lengthBytes, rest) ← readExact 4 bytes
  let headerLength := unpackU32 lengthBytes
  require (headerLength ≠ 0) (.format "encrypted backup header is empty")
  require (headerLength ≤ maxHeaderSize)
    (.format s!"encrypted backup header too large: {headerLength} bytes")
  let (header, rest) ← readExact headerLength rest
  let header ← decodeHeader prims header
  let stream ← parseStreamingHeader prims header
  return (stream, rest)

/-- The result of a decryption with the content of the temporary file that it leaves. -/
abbrev Decrypted := Except BackupFailure Unit × Option Bytes

/-- `_decrypt_streaming`: a failure in the loop removes the temporary file. -/
def decryptStreaming (bytes : Bytes) (password : String) : Decrypted :=
  match readStreamingHeader prims bytes with
  | .error e => (.error e, none)
  | .ok (stream, rest) =>
    match deriveKey prims password stream.salt stream.iterations with
    | .error e => (.error e, none)
    | .ok key =>
      match decryptChunks prims stream key 0 rest [] with
      | (.error e, _) => (.error e, none)
      | (.ok _, written) => (.ok (), some written)

/-- The key and the token of a file of the earlier format. -/
def readLegacy (bytes : Bytes) (password : String) : Except BackupFailure (Key × Bytes) := do
  let (iterationBytes, rest) ← readExact 4 bytes
  let iterations := unpackU32 iterationBytes
  require (minKdfIterations ≤ iterations ∧ iterations ≤ maxKdfIterations)
    (.format s!"PBKDF2 iterations out of range: {iterations}")
  let (saltLength, rest) ← readExact 1 rest
  require (saltLength = [UInt8.ofNat saltBytes])
    (.format "encrypted backup header has invalid salt length")
  let (salt, token) ← readExact saltBytes rest
  let key ← deriveKey prims password salt iterations
  return (key, token)

def decryptLegacyFernet (bytes : Bytes) (password : String) : Decrypted :=
  match readLegacy prims bytes password with
  | .error e => (.error e, none)
  | .ok (key, token) =>
    match prims.fernetDecrypt key token with
    | none => (.error (.password "incorrect password or corrupted backup"), none)
    | some plaintext => (.ok (), some plaintext)

/-- `decrypt_file_to_temp` on the content of a file. -/
def decryptFileToTemp (content : Bytes) (password : String) : Decrypted :=
  if content.take magic.length ≠ magic then
    (.error (.format "not an EMS encrypted backup"), none)
  else
    match content.drop magic.length with
    | [] => (.error (.format "truncated encrypted backup header"), none)
    | version :: rest =>
      if version = streamingVersion then decryptStreaming prims rest password
      else if version = legacyFernetVersion then decryptLegacyFernet prims rest password
      else
        (.error (.format s!"unsupported encrypted backup version {version.toNat}"), none)

end

end SolarFlowEms.Backup
