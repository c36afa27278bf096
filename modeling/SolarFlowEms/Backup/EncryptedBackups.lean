import SolarFlowEms.Backup.StreamIntegrity

/-!
# Encrypted backups: what is given back, what is refused, and how

A file that was written decrypts to its plaintext under its password.  Under ideal ciphers a body
other than the file's own is refused, and nothing of it stays behind.  What is refused is refused
with an error of the module, but for three kinds of content: a header nested too deeply, a header
whose algorithm is a list or an object, and more records than there are indices.
-/

namespace SolarFlowEms.Backup

open Python Documents ByteFields Fallible Algorithm

variable {Key : Type} {prims : Primitives Key}

/-! ### Headers -/

variable {header bytes rest body plaintext file : Bytes} {name password : String}
  {e : BackupFailure}

theorem requireInt_isBackupError {header : Entries}
    (h : requireInt header name = .error e) : e.isBackupError = true := by
  rw [requireInt] at h
  split at h
  · cases h
    rfl
  · cases h

theorem decodeB64Field_isBackupError {header : Entries}
    (h : decodeB64Field prims header name = .error e) : e.isBackupError = true := by
  rw [decodeB64Field] at h
  split at h
  · cases h
    rfl
  · split at h
    · cases h
      rfl
    · cases h

theorem require_isBackupError {condition : Prop} [Decidable condition] {failure : BackupFailure}
    (hfailure : failure.isBackupError = true) (h : require condition failure = .error e) :
    e.isBackupError = true := by
  obtain ⟨-, rfl⟩ := require_eq_error.mp h
  exact hfailure

/-- An object whose algorithm cannot be looked up. -/
def AlgorithmUnhashable (header : PyValue) : Prop :=
  ∃ entries, header = .dict entries ∧ unhashable (getValue entries "algorithm") = true

/-- **A header is refused otherwise than with an error of the module exactly where its algorithm
has no hash.** -/
theorem parseStreamingHeader_escapes_iff {header : PyValue} :
    (∃ e, parseStreamingHeader prims header = .error e ∧ e.isBackupError = false) ↔
      AlgorithmUnhashable header := by
  constructor
  · rintro ⟨e, h, hescapes⟩
    have hnot : ∀ {P : Prop}, e.isBackupError = true → P := by
      intro P herror
      rw [hescapes] at herror
      cases herror
    rw [parseStreamingHeader] at h
    cases hdict : header.dict? with
    | none =>
      rw [hdict] at h
      cases h
      cases hescapes
    | some entries =>
      rw [hdict] at h
      refine ⟨entries, PyValue.dict?_eq_some hdict, ?_⟩
      rcases bind_eq_error.mp h with halgorithm | ⟨algorithm, -, h₁⟩
      · by_contra hhash
        rw [headerAlgorithm, if_neg hhash] at halgorithm
        split at halgorithm
        · cases halgorithm
          cases hescapes
        · cases halgorithm
      rcases bind_eq_error.mp h₁ with hkdf | ⟨_, -, h₂⟩
      · exact hnot (require_isBackupError rfl hkdf)
      rcases bind_eq_error.mp h₂ with hint | ⟨iterations, -, h₃⟩
      · exact hnot (requireInt_isBackupError hint)
      rcases bind_eq_error.mp h₃ with hbounds | ⟨_, -, h₄⟩
      · exact hnot (require_isBackupError rfl hbounds)
      rcases bind_eq_error.mp h₄ with hsalt | ⟨salt, -, h₅⟩
      · exact hnot (decodeB64Field_isBackupError hsalt)
      rcases bind_eq_error.mp h₅ with hlength | ⟨_, -, h₆⟩
      · exact hnot (require_isBackupError rfl hlength)
      rcases bind_eq_error.mp h₆ with hnonce | ⟨noncePrefix, -, h₇⟩
      · exact hnot (decodeB64Field_isBackupError hnonce)
      rcases bind_eq_error.mp h₇ with hlength | ⟨_, -, h₈⟩
      · exact hnot (require_isBackupError rfl hlength)
      rcases bind_eq_error.mp h₈ with hint | ⟨chunkSize, -, h₉⟩
      · exact hnot (requireInt_isBackupError hint)
      rcases bind_eq_error.mp h₉ with hbounds | ⟨_, -, h₁₀⟩
      · exact hnot (require_isBackupError rfl hbounds)
      · cases h₁₀
  · rintro ⟨entries, rfl, hhash⟩
    refine ⟨.typeError, bind_eq_error.mpr (.inl ?_), rfl⟩
    rw [headerAlgorithm, if_pos hhash]

theorem chunkSize_of_parseStreamingHeader {header : PyValue} {stream : StreamParams}
    (h : parseStreamingHeader prims header = .ok stream) : stream.chunkSize ≤ maxChunkSize := by
  rw [parseStreamingHeader] at h
  cases hdict : header.dict? with
  | none =>
    rw [hdict] at h
    cases h
  | some entries =>
    rw [hdict] at h
    obtain ⟨_, -, h₁⟩ := bind_eq_ok.mp h
    obtain ⟨_, -, h₂⟩ := bind_eq_ok.mp h₁
    obtain ⟨_, -, h₃⟩ := bind_eq_ok.mp h₂
    obtain ⟨_, -, h₄⟩ := bind_eq_ok.mp h₃
    obtain ⟨_, -, h₅⟩ := bind_eq_ok.mp h₄
    obtain ⟨_, -, h₆⟩ := bind_eq_ok.mp h₅
    obtain ⟨_, -, h₇⟩ := bind_eq_ok.mp h₆
    obtain ⟨_, -, h₈⟩ := bind_eq_ok.mp h₇
    obtain ⟨chunkSize, -, h₉⟩ := bind_eq_ok.mp h₈
    obtain ⟨_, hbounds, h₁₀⟩ := bind_eq_ok.mp h₉
    obtain rfl := Except.ok.inj h₁₀
    have hle := (require_eq_ok.mp hbounds).2
    show chunkSize.toNat ≤ maxChunkSize
    omega

def EncryptionParams.stream (params : EncryptionParams) (random : Randomness) : StreamParams :=
  ⟨params.algorithm, params.iterations, random.salt, random.noncePrefix, params.chunkSize⟩

theorem supportedAlgorithm?_name (algorithm : Algorithm) :
    supportedAlgorithm? algorithm.name = some algorithm := by
  cases algorithm <;> rfl

theorem supportedAlgorithm?_eq_some {name : String} {algorithm : Algorithm}
    (h : supportedAlgorithm? name = some algorithm) : name = algorithm.name := by
  rw [supportedAlgorithm?] at h
  split_ifs at h with hchacha haes
  · rw [hchacha, ← Option.some.inj h]
  · rw [haes, ← Option.some.inj h]

/-- **The parameters of an encryption are what the validation accepts**, and nothing else is. -/
theorem validateEncryptionParams_eq_ok_iff {name : String} {chunkSize iterations : ℤ}
    {params : EncryptionParams} :
    validateEncryptionParams name chunkSize iterations = .ok params ↔
      name = params.algorithm.name ∧ chunkSize = params.chunkSize ∧
        iterations = params.iterations := by
  constructor
  · intro h
    rw [validateEncryptionParams] at h
    cases halgorithm : supportedAlgorithm? name with
    | none =>
      rw [halgorithm] at h
      cases h
    | some algorithm =>
      simp only [halgorithm] at h
      split_ifs at h with hchunk hiterations
      obtain rfl := Except.ok.inj h
      rw [minChunkSize] at hchunk
      rw [minKdfIterations] at hiterations
      refine ⟨supportedAlgorithm?_eq_some halgorithm, ?_, ?_⟩
      · show chunkSize = (chunkSize.toNat : ℤ)
        omega
      · show iterations = (iterations.toNat : ℤ)
        omega
  · rintro ⟨rfl, rfl, rfl⟩
    simp only [validateEncryptionParams, supportedAlgorithm?_name, Int.toNat_natCast,
      dif_pos params.chunkSize_bounds, dif_pos params.iterations_bounds]

theorem parseStreamingHeader_genuine (hprims : prims.Lawful) (params : EncryptionParams)
    (random : Randomness) :
    parseStreamingHeader prims (.dict (streamingHeader prims params random)) =
      .ok (params.stream random) := by
  have halgorithm : headerAlgorithm prims (streamingHeader prims params random) =
      .ok params.algorithm := by
    have hget : getValue (streamingHeader prims params random) "algorithm" =
        .str params.algorithm.name := rfl
    have hstr : (PyValue.str params.algorithm.name).str? = some params.algorithm.name := rfl
    have hhash : unhashable (PyValue.str params.algorithm.name) = false := rfl
    simp only [headerAlgorithm, hget, hhash, hstr, Option.bind_some, supportedAlgorithm?_name,
      Bool.false_eq_true, if_false]
  have hdecode : ∀ name bytes, getValue (streamingHeader prims params random) name =
      .str (prims.b64encode bytes) →
      decodeB64Field prims (streamingHeader prims params random) name = .ok bytes := by
    intro name bytes hget
    have hstr : (PyValue.str (prims.b64encode bytes)).str? = some (prims.b64encode bytes) := rfl
    simp only [decodeB64Field, hget, hstr, hprims.b64decode_b64encode]
  have hchunk := params.chunkSize_bounds
  have hiterations := params.iterations_bounds
  exact bind_eq_ok.mpr ⟨_, halgorithm, bind_eq_ok.mpr ⟨(), require_eq_ok.mpr rfl,
    bind_eq_ok.mpr ⟨(params.iterations : ℤ), rfl,
    bind_eq_ok.mpr ⟨(), require_eq_ok.mpr ⟨by omega, by omega⟩,
    bind_eq_ok.mpr ⟨_, hdecode "salt" random.salt rfl,
    bind_eq_ok.mpr ⟨(), require_eq_ok.mpr random.salt_length,
    bind_eq_ok.mpr ⟨_, hdecode "base_nonce" random.noncePrefix rfl,
    bind_eq_ok.mpr ⟨(), require_eq_ok.mpr random.noncePrefix_length,
    bind_eq_ok.mpr ⟨(params.chunkSize : ℤ), rfl,
    bind_eq_ok.mpr ⟨(), require_eq_ok.mpr ⟨by omega, by omega⟩, rfl⟩⟩⟩⟩⟩⟩⟩⟩⟩⟩

/-- A header in place: its length, its bytes and the rest. -/
structure HeaderAt (bytes header rest : Bytes) : Prop where
  bytes_eq : bytes = packU32 header.length ++ (header ++ rest)
  nonempty : header ≠ []
  length_le : header.length ≤ maxHeaderSize

theorem readStreamingHeader_at (h : HeaderAt bytes header rest) :
    readStreamingHeader prims bytes =
      (decodeHeader prims header).bind fun v =>
        (parseStreamingHeader prims v).map fun stream => (stream, rest) := by
  have hmax : maxHeaderSize < 2 ^ 32 := by decide
  have hle := h.length_le
  have hunpack : unpackU32 (packU32 header.length) = header.length :=
    unpackU32_packU32 (by omega)
  have hfour : readExact 4 bytes = .ok (packU32 header.length, header ++ rest) :=
    readExact_eq_ok.mpr ⟨h.bytes_eq, rfl⟩
  have hnonzero : require (header.length ≠ 0) (.format "encrypted backup header is empty") =
      .ok () := require_eq_ok.mpr fun hzero => h.nonempty (List.length_eq_zero_iff.mp hzero)
  have hread : readExact header.length (header ++ rest) = .ok (header, rest) :=
    readExact_eq_ok.mpr ⟨rfl, rfl⟩
  have hrequire : ∀ failure : BackupFailure,
      require (header.length ≤ maxHeaderSize) failure = .ok () :=
    fun _ => require_eq_ok.mpr hle
  simp only [readStreamingHeader, hfour, hunpack, hnonzero, hrequire, hread, bind, Except.bind]
  cases decodeHeader prims header with
  | error e => rfl
  | ok v => cases parseStreamingHeader prims v <;> rfl

theorem readStreamingHeader_cases (prims : Primitives Key) (bytes : Bytes) :
    (∃ header rest, HeaderAt bytes header rest) ∨
      ∃ e, readStreamingHeader prims bytes = .error e ∧ e.isBackupError = true := by
  cases hfour : readExact 4 bytes with
  | error e =>
    exact .inr ⟨e, bind_eq_error.mpr (.inl hfour), readExact_isBackupError hfour⟩
  | ok read =>
    obtain ⟨lengthBytes, rest⟩ := read
    obtain ⟨hbytes, hlength⟩ := readExact_eq_ok.mp hfour
    by_cases hzero : unpackU32 lengthBytes ≠ 0
    · by_cases hle : unpackU32 lengthBytes ≤ maxHeaderSize
      · cases hread : readExact (unpackU32 lengthBytes) rest with
        | error e =>
          refine .inr ⟨e, bind_eq_error.mpr (.inr ⟨_, hfour, bind_eq_error.mpr (.inr ⟨(),
            require_eq_ok.mpr hzero, bind_eq_error.mpr (.inr ⟨(), require_eq_ok.mpr hle,
              bind_eq_error.mpr (.inl hread)⟩)⟩)⟩), readExact_isBackupError hread⟩
        | ok found =>
          obtain ⟨header, rest'⟩ := found
          obtain ⟨rfl, hcount⟩ := readExact_eq_ok.mp hread
          refine .inl ⟨header, rest', ?_, ?_, hcount ▸ hle⟩
          · rw [hcount, packU32_unpackU32 hlength, hbytes]
          · rintro rfl
            exact hzero hcount.symm
      · exact .inr ⟨_, bind_eq_error.mpr (.inr ⟨_, hfour, bind_eq_error.mpr (.inr ⟨(),
          require_eq_ok.mpr hzero, bind_eq_error.mpr (.inl (require_eq_error.mpr ⟨hle, rfl⟩))⟩)⟩),
          rfl⟩
    · exact .inr ⟨_, bind_eq_error.mpr (.inr ⟨_, hfour,
        bind_eq_error.mpr (.inl (require_eq_error.mpr ⟨hzero, rfl⟩))⟩), rfl⟩

/-! ### Files -/

theorem decryptFileToTemp_preamble (prims : Primitives Key) (header body : Bytes)
    (password : String) :
    decryptFileToTemp prims (filePreamble streamingVersion header ++ body) password =
      decryptStreaming prims (packU32 header.length ++ (header ++ body)) password := by
  have hshape : filePreamble streamingVersion header ++ body =
      magic ++ streamingVersion :: (packU32 header.length ++ (header ++ body)) := by
    simp [filePreamble]
  rw [decryptFileToTemp, hshape, List.take_left, List.drop_left, if_neg (fun h => h rfl)]
  exact if_pos rfl

theorem HeaderAt.unique {header' rest' : Bytes}
    (h : HeaderAt bytes header rest) (h' : HeaderAt bytes header' rest') :
    header = header' ∧ rest = rest' := by
  have hmax : maxHeaderSize < 2 ^ 32 := by decide
  have hle := h.length_le
  have hle' := h'.length_le
  have hsame := h.bytes_eq.symm.trans h'.bytes_eq
  obtain ⟨hlength, htail⟩ := List.append_inj hsame rfl
  exact List.append_inj htail (packU32_inj (by omega) (by omega) hlength)

/-- What makes the decryption of a stream fail otherwise than with an error of the module. -/
def StreamEscapes (prims : Primitives Key) (password : String) (header body : Bytes) : Prop :=
  prims.loads header = .recursionError ∨ ∃ v, prims.loads header = .value v ∧
    (AlgorithmUnhashable v ∨ ∃ stream, parseStreamingHeader prims v = .ok stream ∧
      Exhausts prims stream (prims.deriveKey password stream.salt stream.iterations) 0 body)

theorem decryptStreaming_of_error (h : readStreamingHeader prims bytes = .error e) :
    decryptStreaming prims bytes password = (.error e, none) := by
  rw [decryptStreaming, h]

theorem decryptStreaming_of_ok {stream : StreamParams}
    (hpassword : password ≠ "") (h : readStreamingHeader prims bytes = .ok (stream, rest)) :
    decryptStreaming prims bytes password =
      match decryptChunks prims stream
        (prims.deriveKey password stream.salt stream.iterations) 0 rest [] with
      | (.error e, _) => (.error e, none)
      | (.ok _, written) => (.ok (), some written) := by
  have hkey : deriveKey prims password stream.salt stream.iterations =
      .ok (prims.deriveKey password stream.salt stream.iterations) := if_neg hpassword
  rw [decryptStreaming, h]
  rcases hchunks : decryptChunks prims stream
    (prims.deriveKey password stream.salt stream.iterations) 0 rest [] with ⟨e | _, written⟩
  · simp [hkey, hchunks]
  · simp [hkey, hchunks]

theorem decryptStreaming_of_loop_ok {written : Bytes}
    {stream : StreamParams} {u : Unit} (hpassword : password ≠ "")
    (h : readStreamingHeader prims bytes = .ok (stream, rest))
    (hloop : decryptChunks prims stream (prims.deriveKey password stream.salt stream.iterations) 0
      rest [] = (.ok u, written)) :
    decryptStreaming prims bytes password = (.ok (), some written) := by
  rw [decryptStreaming_of_ok hpassword h, hloop]

theorem decryptStreaming_of_no_password {stream : StreamParams}
    (h : readStreamingHeader prims bytes = .ok (stream, rest)) :
    decryptStreaming prims bytes "" = (.error (.valueError "password must not be empty"), none) := by
  rw [decryptStreaming, h]
  rfl

section

variable (hpassword : password ≠ "")
include hpassword

theorem decryptStreaming_fst_of_ok {stream : StreamParams}
    (h : readStreamingHeader prims bytes = .ok (stream, rest)) :
    (decryptStreaming prims bytes password).1 = (decryptChunks prims stream
      (prims.deriveKey password stream.salt stream.iterations) 0 rest []).1 := by
  rw [decryptStreaming_of_ok hpassword h]
  rcases decryptChunks prims stream (prims.deriveKey password stream.salt stream.iterations) 0
    rest [] with ⟨e | u, written⟩ <;> rfl

theorem decryptStreaming_at (h : HeaderAt bytes header body) :
    (∃ e, (decryptStreaming prims bytes password).1 = .error e ∧ e.isBackupError = false) ↔
      StreamEscapes prims password header body := by
  have hread : readStreamingHeader prims bytes = _ := readStreamingHeader_at h
  rw [decodeHeader] at hread
  cases hloads : prims.loads header with
  | recursionError =>
    rw [hloads] at hread
    rw [decryptStreaming_of_error hread]
    exact ⟨fun _ => .inl hloads, fun _ => ⟨_, rfl, rfl⟩⟩
  | valueError text =>
    rw [hloads] at hread
    rw [decryptStreaming_of_error hread]
    constructor
    · rintro ⟨e, he, hescapes⟩
      obtain rfl := Except.error.inj he
      cases hescapes
    · rintro (hrecursion | ⟨v, hvalue, -⟩)
      · rw [hloads] at hrecursion
        cases hrecursion
      · rw [hloads] at hvalue
        cases hvalue
  | value v =>
    have hcondition : StreamEscapes prims password header body ↔
        (AlgorithmUnhashable v ∨ ∃ stream, parseStreamingHeader prims v = .ok stream ∧
          Exhausts prims stream (prims.deriveKey password stream.salt stream.iterations) 0 body) := by
      rw [StreamEscapes, hloads]
      constructor
      · rintro (hrecursion | ⟨v', hvalue, hrest⟩)
        · cases hrecursion
        · obtain rfl := JsonRead.value.inj hvalue
          exact hrest
      · exact fun hrest => .inr ⟨v, rfl, hrest⟩
    have hparsed : readStreamingHeader prims bytes =
        (parseStreamingHeader prims v).map fun stream => (stream, body) := by
      rw [hread, hloads]
      rfl
    rw [hcondition]
    cases hparse : parseStreamingHeader prims v with
    | error e =>
      rw [hparse] at hparsed
      rw [decryptStreaming_of_error hparsed]
      constructor
      · rintro ⟨e', he, hescapes⟩
        obtain rfl := Except.error.inj he
        exact .inl (parseStreamingHeader_escapes_iff.mp ⟨e, hparse, hescapes⟩)
      · rintro (hhash | ⟨stream, hstream, -⟩)
        · obtain ⟨e', he', hescapes⟩ := parseStreamingHeader_escapes_iff.mpr hhash
          rw [hparse] at he'
          obtain rfl := Except.error.inj he'
          exact ⟨e, rfl, hescapes⟩
        · cases hstream
    | ok stream =>
      rw [hparse] at hparsed
      rw [decryptStreaming_fst_of_ok hpassword hparsed, decryptChunks_escapes_iff _
        (chunkSize_of_parseStreamingHeader hparse) (Nat.zero_le _)]
      constructor
      · exact fun hexhausts => .inr ⟨stream, rfl, hexhausts⟩
      · rintro (hhash | ⟨stream', hstream, hexhausts⟩)
        · obtain ⟨e', he', -⟩ := parseStreamingHeader_escapes_iff.mpr hhash
          rw [hparse] at he'
          cases he'
        · obtain rfl := Except.ok.inj hstream
          exact hexhausts

theorem decryptStreaming_escapes_iff (bytes : Bytes) :
    (∃ e, (decryptStreaming prims bytes password).1 = .error e ∧ e.isBackupError = false) ↔
      ∃ header body, HeaderAt bytes header body ∧ StreamEscapes prims password header body := by
  rcases readStreamingHeader_cases prims bytes with ⟨header, body, hat⟩ | ⟨e, he, herror⟩
  · rw [decryptStreaming_at hpassword hat]
    constructor
    · exact fun hescapes => ⟨header, body, hat, hescapes⟩
    · rintro ⟨header', body', hat', hescapes⟩
      obtain ⟨rfl, rfl⟩ := hat.unique hat'
      exact hescapes
  · constructor
    · rw [decryptStreaming_of_error he]
      rintro ⟨e', he', hescapes⟩
      obtain rfl := Except.error.inj he'
      rw [herror] at hescapes
      cases hescapes
    · rintro ⟨header, body, hat, hescapes⟩
      exact (decryptStreaming_at hpassword hat).mpr hescapes

theorem readLegacy_isBackupError (h : readLegacy prims bytes password = .error e) :
    e.isBackupError = true := by
  rcases bind_eq_error.mp h with h | ⟨⟨iterationBytes, rest⟩, -, h₁⟩
  · exact readExact_isBackupError h
  rcases bind_eq_error.mp h₁ with h | ⟨_, -, h₂⟩
  · exact require_isBackupError rfl h
  rcases bind_eq_error.mp h₂ with h | ⟨⟨saltLength, rest⟩, -, h₃⟩
  · exact readExact_isBackupError h
  rcases bind_eq_error.mp h₃ with h | ⟨_, -, h₄⟩
  · exact require_isBackupError rfl h
  rcases bind_eq_error.mp h₄ with h | ⟨⟨salt, token⟩, -, h₅⟩
  · exact readExact_isBackupError h
  rcases bind_eq_error.mp h₅ with h | ⟨key, -, h₆⟩
  · rw [deriveKey, if_neg hpassword] at h
    cases h
  · cases h₆

theorem decryptLegacyFernet_isBackupError
    (h : (decryptLegacyFernet prims bytes password).1 = .error e) : e.isBackupError = true := by
  rw [decryptLegacyFernet] at h
  split at h
  · rename_i e' he'
    obtain rfl := Except.error.inj h
    exact readLegacy_isBackupError hpassword he'
  · split at h
    · obtain rfl := Except.error.inj h
      rfl
    · cases h

end

/-- The content under which a decryption fails otherwise than with an error of the module: a header
that is nested too deeply, one whose algorithm has no hash, or records beyond the last index. -/
def Escapes (prims : Primitives Key) (password : String) (content : Bytes) : Prop :=
  ∃ header body, content = filePreamble streamingVersion header ++ body ∧ header ≠ [] ∧
    header.length ≤ maxHeaderSize ∧ StreamEscapes prims password header body

theorem filePreamble_append (header body : Bytes) :
    filePreamble streamingVersion header ++ body =
      magic ++ streamingVersion :: (packU32 header.length ++ (header ++ body)) := by
  simp [filePreamble]

/-- **What a decryption raises for the content of a file is an error of the module exactly where
the content is none of these.** -/
theorem decryptFileToTemp_escapes_iff (hpassword : password ≠ "") (content : Bytes) :
    (∃ e, (decryptFileToTemp prims content password).1 = .error e ∧ e.isBackupError = false) ↔
      Escapes prims password content := by
  by_cases hmagic : content.take magic.length ≠ magic
  · constructor
    · rw [decryptFileToTemp, if_pos hmagic]
      rintro ⟨e, he, hescapes⟩
      obtain rfl := Except.error.inj he
      cases hescapes
    · rintro ⟨header, body, rfl, -⟩
      rw [filePreamble_append, List.take_left] at hmagic
      exact absurd rfl hmagic
  have hstart : content = magic ++ content.drop magic.length := by
    have hsplit := List.take_append_drop magic.length content
    rw [not_not.mp hmagic] at hsplit
    exact hsplit.symm
  rw [decryptFileToTemp, if_neg hmagic]
  cases hdrop : content.drop magic.length with
  | nil =>
    constructor
    · rintro ⟨e, he, hescapes⟩
      obtain rfl := Except.error.inj he
      cases hescapes
    · rintro ⟨header, body, hcontent, -⟩
      rw [hcontent, filePreamble_append, List.drop_left] at hdrop
      cases hdrop
  | cons version rest =>
    have hversion : ∀ header body, content = filePreamble streamingVersion header ++ body →
        version = streamingVersion ∧ rest = packU32 header.length ++ (header ++ body) := by
      intro header body hcontent
      rw [hcontent, filePreamble_append, List.drop_left] at hdrop
      exact ⟨(List.cons.inj hdrop).1.symm, (List.cons.inj hdrop).2.symm⟩
    dsimp only
    by_cases hstreaming : version = streamingVersion
    · rw [if_pos hstreaming, decryptStreaming_escapes_iff hpassword]
      constructor
      · rintro ⟨header, body, hat, hescapes⟩
        refine ⟨header, body, ?_, hat.nonempty, hat.length_le, hescapes⟩
        rw [filePreamble_append, hstart, hdrop, hstreaming, hat.bytes_eq]
      · rintro ⟨header, body, hcontent, hne, hle, hescapes⟩
        exact ⟨header, body, ⟨(hversion header body hcontent).2, hne, hle⟩, hescapes⟩
    · rw [if_neg hstreaming]
      constructor
      · rintro ⟨e, he, hescapes⟩
        split_ifs at he
        · rw [decryptLegacyFernet_isBackupError hpassword he] at hescapes
          cases hescapes
        · obtain rfl := Except.error.inj he
          cases hescapes
      · rintro ⟨header, body, hcontent, -⟩
        exact absurd (hversion header body hcontent).1 hstreaming

theorem left_of_error {content : Bytes}
    (h : (decryptFileToTemp prims content password).1 = .error e) :
    (decryptFileToTemp prims content password).2 = none := by
  rw [decryptFileToTemp] at h ⊢
  split_ifs at h ⊢
  · rfl
  · cases hdrop : content.drop magic.length with
    | nil => rfl
    | cons version rest =>
      rw [hdrop] at h
      dsimp only at h ⊢
      split_ifs at h ⊢
      · rw [decryptStreaming] at h ⊢
        repeat' split at h
        all_goals first | rfl | cases h
      · rw [decryptLegacyFernet] at h ⊢
        repeat' split at h
        all_goals first | rfl | cases h
      · rfl

/-! ### The three guarantees -/

def filePlan (params : EncryptionParams) (plaintext : Bytes) : List (Bytes × Bool) :=
  chunkPlan params (plaintext.take params.chunkSize) (plaintext.drop params.chunkSize)

/-- The uses of the cipher for a file. -/
def FileMade (prims : Primitives Key) (password : String) (params : EncryptionParams)
    (random : Randomness) (plaintext : Bytes) : Encryption Key → Prop :=
  PlanEncryption prims params.algorithm (prims.deriveKey password random.salt params.iterations)
    random.noncePrefix (filePlan params plaintext)

def fileHeader (prims : Primitives Key) (params : EncryptionParams) (random : Randomness) : Bytes :=
  prims.dumps (streamingHeader prims params random)

theorem encryptFile_eq_ok {params : EncryptionParams} {random : Randomness}
    (h : encryptFile prims password params random plaintext = .ok file) :
    password ≠ "" ∧ (filePlan params plaintext).length ≤ 2 ^ 32 ∧
      file = filePreamble streamingVersion (fileHeader prims params random) ++
        chunkRecords prims params.algorithm
          (prims.deriveKey password random.salt params.iterations) random.noncePrefix 0
          (filePlan params plaintext) := by
  obtain ⟨key, hkey, h₁⟩ := bind_eq_ok.mp h
  obtain ⟨body, hbody, h₂⟩ := bind_eq_ok.mp h₁
  rw [deriveKey] at hkey
  split_ifs at hkey with hpassword
  obtain rfl := Except.ok.inj hkey
  rw [encryptChunks_eq, Nat.zero_add] at hbody
  split_ifs at hbody with hfits
  obtain rfl := Except.ok.inj hbody
  exact ⟨hpassword, hfits, (Except.ok.inj h₂).symm⟩

theorem encryptFile_returns (hpassword : password ≠ "")
    (params : EncryptionParams) (random : Randomness)
    (hlength : plaintext.length ≤ 2 ^ 32 * params.chunkSize) :
    ∃ file, encryptFile prims password params random plaintext = .ok file := by
  have hpos := params.chunkSize_pos
  have hcount := length_chunkPlan_mul_lt params (plaintext.take params.chunkSize)
    (plaintext.drop params.chunkSize)
  have hfits : 0 + (chunkPlan params (plaintext.take params.chunkSize)
      (plaintext.drop params.chunkSize)).length ≤ 2 ^ 32 := by
    by_cases hshort : plaintext.length ≤ params.chunkSize
    · rw [List.drop_eq_nil_of_le hshort, chunkPlan_nil]
      show 0 + 1 ≤ 2 ^ 32
      decide
    · rw [List.length_drop] at hcount
      by_contra hmany
      have hproduct : (2 ^ 32 + 1) * params.chunkSize ≤
          (chunkPlan params (plaintext.take params.chunkSize)
            (plaintext.drop params.chunkSize)).length * params.chunkSize :=
        Nat.mul_le_mul_right _ (by omega)
      rw [Nat.add_mul, Nat.one_mul] at hproduct
      omega
  have hbody : encryptChunks prims params
      (prims.deriveKey password random.salt params.iterations) random.noncePrefix 0
      (plaintext.take params.chunkSize) (plaintext.drop params.chunkSize) = _ :=
    encryptChunks_eq ..
  rw [if_pos hfits] at hbody
  exact ⟨_, bind_eq_ok.mpr ⟨_, if_neg hpassword, bind_eq_ok.mpr ⟨_, hbody, rfl⟩⟩⟩

theorem headerAt_file (hprims : prims.Lawful) (params : EncryptionParams) (random : Randomness)
    (body : Bytes) :
    HeaderAt (packU32 (fileHeader prims params random).length ++
      (fileHeader prims params random ++ body)) (fileHeader prims params random) body where
  bytes_eq := rfl
  nonempty := List.length_pos_iff.mp (hprims.header_length params random).1
  length_le := (hprims.header_length params random).2

theorem readStreamingHeader_file (hprims : prims.Lawful) (params : EncryptionParams)
    (random : Randomness) (body : Bytes) :
    readStreamingHeader prims (packU32 (fileHeader prims params random).length ++
      (fileHeader prims params random ++ body)) = .ok (params.stream random, body) := by
  have hdecode : decodeHeader prims (fileHeader prims params random) =
      .ok (.dict (streamingHeader prims params random)) := by
    rw [decodeHeader, fileHeader, hprims.loads_dumps]
  rw [readStreamingHeader_at (headerAt_file hprims params random body), hdecode]
  show (parseStreamingHeader prims (.dict (streamingHeader prims params random))).map _ = _
  rw [parseStreamingHeader_genuine hprims]
  rfl

/-- **What was encrypted decrypts to the plaintext**, where the cipher opens what it sealed. -/
theorem decrypt_encrypted (hprims : prims.Lawful) {params : EncryptionParams} {random : Randomness}
    (h : encryptFile prims password params random plaintext = .ok file)
    (hopens : ∀ e, FileMade prims password params random plaintext e → prims.Opens e) :
    decryptFileToTemp prims file password = (.ok (), some plaintext) := by
  obtain ⟨hpassword, hfits, rfl⟩ := encryptFile_eq_ok h
  have hloop : decryptChunks prims (params.stream random)
      (prims.deriveKey password random.salt params.iterations) 0
      (chunkRecords prims params.algorithm
        (prims.deriveKey password random.salt params.iterations) random.noncePrefix 0
        (filePlan params plaintext)) [] = (.ok (), [] ++ (filePlan params plaintext).flatMap Prod.fst) :=
    decryptChunks_chunkRecords hprims params.chunkSize_bounds.2 (planned_chunkPlan ..) 0 []
      (by rwa [Nat.zero_add]) (length_le_of_mem_chunkPlan (List.length_take_le _ _)) (by
        intro i entry hentry
        rw [Nat.zero_add]
        exact hopens _ ⟨i, entry, hentry, rfl⟩)
  have hplaintext : [] ++ (filePlan params plaintext).flatMap Prod.fst = plaintext := by
    rw [List.nil_append, filePlan, flatMap_chunkPlan, List.take_append_drop]
  rw [hplaintext] at hloop
  rw [decryptFileToTemp_preamble]
  exact decryptStreaming_of_loop_ok hpassword (readStreamingHeader_file hprims params random _)
    hloop

/-- **A body other than the file's own is refused and leaves nothing.** -/
theorem decrypt_tampered (hprims : prims.Lawful) {made : Set (Encryption Key)}
    (hideal : prims.Ideal made) {password' : String} {params : EncryptionParams}
    {random : Randomness}
    (h : encryptFile prims password params random plaintext = .ok file)
    (hunshared : Unshared params.algorithm
      (prims.deriveKey password' random.salt params.iterations) random.noncePrefix
      (FileMade prims password params random plaintext) made)
    (hbody : filePreamble streamingVersion (fileHeader prims params random) ++ body ≠ file) :
    ∃ e, decryptFileToTemp prims
      (filePreamble streamingVersion (fileHeader prims params random) ++ body) password' =
        (.error e, none) := by
  obtain ⟨-, hfits, rfl⟩ := encryptFile_eq_ok h
  cases hresult : (decryptFileToTemp prims (filePreamble streamingVersion
      (fileHeader prims params random) ++ body) password').1 with
  | error e => exact ⟨e, Prod.ext hresult (left_of_error hresult)⟩
  | ok u =>
    exfalso
    apply hbody
    have hread := readStreamingHeader_file hprims params random body
    rw [decryptFileToTemp_preamble] at hresult
    by_cases hpassword : password' = ""
    · rw [hpassword, decryptStreaming_of_no_password hread] at hresult
      cases hresult
    · rw [decryptStreaming_fst_of_ok hpassword hread] at hresult
      have hgenuine : body = chunkRecords prims params.algorithm
          (prims.deriveKey password random.salt params.iterations) random.noncePrefix 0
          (filePlan params plaintext) :=
        eq_chunkRecords_of_decrypted hideal hunshared hfits (planned_chunkPlan ..) rfl
          (Prod.ext hresult rfl)
      rw [hgenuine]

/-- **Encrypted backups.**  The parameters are what the validation accepts.  A plaintext of no more
chunks than there are indices is encrypted, and what was encrypted decrypts to it, where the cipher
opens what it sealed.  With an ideal cipher a body other than the file's own is refused and leaves
no file.  And what a decryption raises for the
content of a file is an error of the module exactly where the header is not nested too deeply, its
algorithm is no list and no object, and its records do not use up the indices. -/
theorem encrypted_backups (prims : Primitives Key) (hprims : prims.Lawful) :
    (∀ name chunkSize iterations params,
      validateEncryptionParams name chunkSize iterations = .ok params ↔
        name = params.algorithm.name ∧ chunkSize = params.chunkSize ∧
          iterations = params.iterations) ∧
    (∀ password params random plaintext, password ≠ "" →
      plaintext.length ≤ 2 ^ 32 * params.chunkSize →
        ∃ file, encryptFile prims password params random plaintext = .ok file) ∧
    (∀ password params random plaintext file,
      encryptFile prims password params random plaintext = .ok file →
      (∀ e, FileMade prims password params random plaintext e → prims.Opens e) →
        decryptFileToTemp prims file password = (.ok (), some plaintext)) ∧
    (∀ made, prims.Ideal made → ∀ password password' params random plaintext file body,
      encryptFile prims password params random plaintext = .ok file →
      Unshared params.algorithm (prims.deriveKey password' random.salt params.iterations)
        random.noncePrefix (FileMade prims password params random plaintext) made →
      filePreamble streamingVersion (fileHeader prims params random) ++ body ≠ file →
        ∃ e, decryptFileToTemp prims
          (filePreamble streamingVersion (fileHeader prims params random) ++ body) password' =
            (.error e, none)) ∧
    (∀ content password, password ≠ "" →
      ((∀ e, (decryptFileToTemp prims content password).1 = .error e → e.isBackupError = true) ↔
        ¬ Escapes prims password content)) := by
  refine ⟨fun _ _ _ _ => validateEncryptionParams_eq_ok_iff, ?_, ?_, ?_, ?_⟩
  · intro password params random plaintext hpassword hlength
    exact encryptFile_returns hpassword params random hlength
  · intro password params random plaintext file h hopens
    exact decrypt_encrypted hprims h hopens
  · intro made hideal password password' params random plaintext file body h hunshared hbody
    exact decrypt_tampered hprims hideal h hunshared hbody
  · intro content password hpassword
    rw [← decryptFileToTemp_escapes_iff hpassword content, not_exists]
    refine forall_congr' fun e => ?_
    rw [not_and, Bool.not_eq_false]

/-! ### A small file, and a header that is not refused properly -/

def latin1Text (bytes : Bytes) : String := String.ofList (bytes.map fun b => Char.ofNat b.toNat)

theorem asciiBytes_latin1Text (bytes : Bytes) : asciiBytes (latin1Text bytes) = bytes := by
  have hbyte : ∀ b : UInt8, UInt8.ofNat (Char.ofNat b.toNat).toNat = b := by
    intro b
    have hvalid : b.toNat.isValidChar := .inl (by have := b.toNat_lt; omega)
    have htoNat : (Char.ofNatAux b.toNat hvalid).toNat = b.toNat := rfl
    rw [Char.ofNat, dif_pos hvalid, htoNat, UInt8.ofNat_toNat]
  rw [asciiBytes, latin1Text, String.toList_ofList, List.map_map]
  conv_rhs => rw [← List.map_id bytes]
  exact List.map_congr_left fun b _ => hbyte b

def sampleRandom : Randomness where
  salt := List.replicate 16 7
  noncePrefix := List.replicate 8 9
  salt_length := rfl
  noncePrefix_length := rfl

def sampleParams : EncryptionParams where
  algorithm := .chacha20Poly1305
  chunkSize := 4096
  iterations := 50000
  chunkSize_bounds := by decide
  iterations_bounds := by decide

/-- A full chunk and one of two bytes. -/
def samplePlan : List (Bytes × Bool) := [(List.replicate 4096 1, false), ([2, 3], true)]

def samplePlaintext : Bytes := List.replicate 4096 1 ++ [2, 3]

def sampleSealed (plaintext : Bytes) : Bytes := plaintext ++ List.replicate 16 0

/-- The record of a chunk of the sample at its index. -/
def sampleOpens (algorithm : Algorithm) (key : String) (nonce ciphertext aad : Bytes)
    (entry : (Bytes × Bool) × ℕ) : Prop :=
  algorithm = .chacha20Poly1305 ∧ key = "secret" ∧
    nonce = sampleRandom.noncePrefix ++ packU32 entry.2 ∧
    aad = chunkAad .chacha20Poly1305 entry.2 entry.1.2 ∧ ciphertext = sampleSealed entry.1.1

instance decidableSampleOpens (algorithm : Algorithm) (key : String) (nonce ciphertext aad : Bytes) :
    DecidablePred (sampleOpens algorithm key nonce ciphertext aad) := fun _ =>
  inferInstanceAs (Decidable (_ ∧ _))

def headerText (header : Entries) (name : String) : Bytes :=
  asciiBytes (((getValue header name).str?).getD "")

def headerNumber (header : Entries) (name : String) : ℕ :=
  (((getValue header name).int?).getD 0).toNat

/-- A cipher that opens the two chunks of the sample, and headers of fixed fields. -/
def samplePrimitives : Primitives String where
  deriveKey password _ _ := password
  sealed _ _ _ plaintext _ := sampleSealed plaintext
  openSealed algorithm key nonce ciphertext aad :=
    (samplePlan.zipIdx.find? (sampleOpens algorithm key nonce ciphertext aad)).map (·.1.1)
  fernetDecrypt _ _ := none
  b64encode := latin1Text
  b64decode text := some (asciiBytes text)
  dumps header :=
    (headerText header "base_nonce").take 8 ++ ((headerText header "salt").take 16 ++
      (packU32 (headerNumber header "chunk_size") ++
        (packU32 (headerNumber header "iterations") ++
          [if getValue header "algorithm" |>.eqStr aes256Gcm.name then 1 else 0])))
  loads bytes :=
    if bytes.length < 33 then .value (.dict [("algorithm", .list [])])
    else .value (.dict
      [("algorithm", .str (if bytes.drop 32 = [1] then aes256Gcm.name
          else chacha20Poly1305.name)),
        ("base_nonce", .str (latin1Text (bytes.take 8))),
        ("chunk_size", .int (unpackU32 ((bytes.drop 24).take 4))),
        ("format", .str "ems-backup-encrypted"),
        ("iterations", .int (unpackU32 ((bytes.drop 28).take 4))),
        ("kdf", .str kdfName),
        ("salt", .str (latin1Text ((bytes.drop 8).take 16))),
        ("version", .int 2)])
  repr _ := ""

theorem samplePrimitives_dumps (params : EncryptionParams) (random : Randomness) :
    fileHeader samplePrimitives params random =
      random.noncePrefix ++ (random.salt ++ (packU32 params.chunkSize ++
        (packU32 params.iterations ++
          [if params.algorithm.name = aes256Gcm.name then 1 else 0]))) := by
  have hnonce : headerText (streamingHeader samplePrimitives params random) "base_nonce" =
      random.noncePrefix := asciiBytes_latin1Text _
  have hsalt : headerText (streamingHeader samplePrimitives params random) "salt" =
      random.salt := asciiBytes_latin1Text _
  show (headerText (streamingHeader samplePrimitives params random) "base_nonce").take 8 ++
    ((headerText (streamingHeader samplePrimitives params random) "salt").take 16 ++ _) = _
  have hnonceLength : random.noncePrefix.length ≤ 8 := Nat.le_of_eq random.noncePrefix_length
  have hsaltLength : random.salt.length ≤ 16 := Nat.le_of_eq random.salt_length
  have hname : (getValue (streamingHeader samplePrimitives params random) "algorithm").eqStr
      aes256Gcm.name = decide (params.algorithm.name = aes256Gcm.name) := rfl
  rw [hnonce, hsalt, List.take_of_length_le hnonceLength, List.take_of_length_le hsaltLength, hname]
  simp only [decide_eq_true_eq]
  rfl

theorem samplePrimitives_loads (params : EncryptionParams) (random : Randomness) :
    samplePrimitives.loads (random.noncePrefix ++ (random.salt ++ (packU32 params.chunkSize ++
      (packU32 params.iterations ++
        [if params.algorithm.name = aes256Gcm.name then 1 else 0])))) =
      .value (.dict (streamingHeader samplePrimitives params random)) := by
  have hnonce : random.noncePrefix.length = 8 := random.noncePrefix_length
  have hsalt : random.salt.length = 16 := random.salt_length
  obtain ⟨flag, hflag⟩ : ∃ flag : UInt8,
      (if params.algorithm.name = aes256Gcm.name then 1 else 0) = flag := ⟨_, rfl⟩
  rw [hflag]
  obtain ⟨bytes, hbytes⟩ : ∃ bytes, random.noncePrefix ++ (random.salt ++
      (packU32 params.chunkSize ++ (packU32 params.iterations ++ [flag]))) = bytes := ⟨_, rfl⟩
  have hlength : bytes.length = 33 := by
    rw [← hbytes]
    simp only [List.length_append, hnonce, hsalt, packU32_length, List.length_singleton]
  have h8 : bytes.drop 8 = random.salt ++ (packU32 params.chunkSize ++
      (packU32 params.iterations ++ [flag])) := by
    rw [← hbytes, List.drop_left' hnonce]
  have h24 : bytes.drop 24 = packU32 params.chunkSize ++ (packU32 params.iterations ++ [flag]) := by
    rw [show 24 = 8 + 16 from rfl, ← List.drop_drop, h8, List.drop_left' hsalt]
  have h28 : bytes.drop 28 = packU32 params.iterations ++ [flag] := by
    rw [show 28 = 24 + 4 from rfl, ← List.drop_drop, h24, List.drop_left' (packU32_length _)]
  have h32 : bytes.drop 32 = [flag] := by
    rw [show 32 = 28 + 4 from rfl, ← List.drop_drop, h28, List.drop_left' (packU32_length _)]
  have htake : bytes.take 8 = random.noncePrefix := by
    rw [← hbytes, List.take_left' hnonce]
  have hchunk := params.chunkSize_bounds
  have hiterations := params.iterations_bounds
  rw [minChunkSize, maxChunkSize] at hchunk
  rw [minKdfIterations, maxKdfIterations] at hiterations
  have hname : (if [flag] = [1] then aes256Gcm.name
      else chacha20Poly1305.name) = params.algorithm.name := by
    rw [← hflag]
    cases params.algorithm <;> rfl
  rw [hbytes]
  show (if bytes.length < 33 then _ else _ : JsonRead) = _
  rw [if_neg (by omega), h8, h24, h28, h32, htake, hname, List.take_left' hsalt,
    List.take_left' (packU32_length _), List.take_left' (packU32_length _),
    unpackU32_packU32 (by omega), unpackU32_packU32 (by omega)]
  rfl

theorem samplePrimitives_lawful : samplePrimitives.Lawful where
  sealed_length algorithm key nonce plaintext aad := by
    show (sampleSealed plaintext).length = _
    rw [sampleSealed, List.length_append, List.length_replicate]
    rfl
  b64decode_b64encode bytes := congrArg some (asciiBytes_latin1Text bytes)
  loads_dumps params random := by
    have hdumps := samplePrimitives_dumps params random
    rw [fileHeader] at hdumps
    rw [hdumps]
    exact samplePrimitives_loads params random
  header_length params random := by
    have hdumps := samplePrimitives_dumps params random
    rw [fileHeader] at hdumps
    rw [hdumps]
    simp only [List.length_append, random.noncePrefix_length, random.salt_length, packU32_length,
      List.length_singleton]
    decide

theorem filePlan_sample : filePlan sampleParams samplePlaintext = samplePlan := by
  have hlength : (List.replicate 4096 (1 : UInt8)).length = sampleParams.chunkSize :=
    List.length_replicate
  rw [filePlan, samplePlaintext, List.take_left' hlength, List.drop_left' hlength,
    chunkPlan_of_ne sampleParams _ (List.cons_ne_nil _ _)]
  exact congrArg (_ :: ·) (chunkPlan_nil sampleParams [2, 3])

theorem sample_opens_iff (e : Encryption String) : samplePrimitives.Opens e ↔
    FileMade samplePrimitives "secret" sampleParams sampleRandom samplePlaintext e := by
  obtain ⟨algorithm, key, nonce, aad, plaintext, ciphertext⟩ := e
  rw [FileMade, filePlan_sample]
  constructor
  · intro hopens
    obtain ⟨entry, hfound, rfl⟩ := Option.map_eq_some_iff.mp hopens
    have hopened := List.find?_some hfound
    obtain ⟨rfl, rfl, rfl, rfl, rfl⟩ := of_decide_eq_true hopened
    exact ⟨entry.2, entry.1,
      List.mem_zipIdx_iff_getElem?.mp (List.mem_of_find?_eq_some hfound), rfl⟩
  · rintro ⟨i, entry, hentry, heq⟩
    obtain ⟨rfl, rfl, rfl, rfl, rfl, rfl⟩ := Encryption.mk.inj heq
    have hmem : (entry, i) ∈ samplePlan.zipIdx := List.mk_mem_zipIdx_iff_getElem?.mpr hentry
    have hfinds : (samplePlan.zipIdx.find? (sampleOpens .chacha20Poly1305 "secret"
        (sampleRandom.noncePrefix ++ packU32 i) (sampleSealed entry.1)
        (chunkAad .chacha20Poly1305 i entry.2))).isSome = true :=
      List.find?_isSome.mpr ⟨(entry, i), hmem, decide_eq_true ⟨rfl, rfl, rfl, rfl, rfl⟩⟩
    obtain ⟨found, hfound⟩ := Option.isSome_iff_exists.mp hfinds
    have hopened := List.find?_some hfound
    obtain ⟨-, -, -, -, hsame⟩ := of_decide_eq_true hopened
    have hplaintext : entry.1 = found.1.1 := List.append_cancel_right hsame
    exact Option.map_eq_some_iff.mpr ⟨found, hfound, hplaintext.symm⟩

/-- The theorem at a file of two chunks. -/
theorem encrypted_backups_sample :
    ∃ file, encryptFile samplePrimitives "secret" sampleParams sampleRandom samplePlaintext =
        .ok file ∧
      decryptFileToTemp samplePrimitives file "secret" = (.ok (), some samplePlaintext) ∧
      ∀ body, filePreamble streamingVersion (fileHeader samplePrimitives sampleParams sampleRandom) ++
        body ≠ file → ∃ e, decryptFileToTemp samplePrimitives (filePreamble streamingVersion
          (fileHeader samplePrimitives sampleParams sampleRandom) ++ body) "secret" =
            (.error e, none) := by
  obtain ⟨-, hreturns, hback, htampered, -⟩ :=
    encrypted_backups samplePrimitives samplePrimitives_lawful
  have hlength : samplePlaintext.length ≤ 2 ^ 32 * sampleParams.chunkSize := by
    rw [samplePlaintext, List.length_append, List.length_replicate]
    decide
  obtain ⟨file, hfile⟩ := hreturns "secret" sampleParams sampleRandom samplePlaintext (by decide)
    hlength
  refine ⟨file, hfile, hback _ _ _ _ _ hfile fun e he => (sample_opens_iff e).mpr he, ?_⟩
  intro body hbody
  exact htampered {e | samplePrimitives.Opens e} (fun e => Iff.rfl) _ _ _ _ _ _ _ hfile
    (fun e he _ _ _ => (sample_opens_iff e).mp he) hbody

def listAlgorithmHeader : Bytes := asciiBytes "\x7b\"algorithm\": []\x7d"

def listAlgorithmFile : Bytes := filePreamble streamingVersion listAlgorithmHeader

/-- **A header whose algorithm is a list is refused with an error of the language.** -/
theorem list_algorithm_escapes :
    decryptFileToTemp samplePrimitives listAlgorithmFile "secret" = (.error .typeError, none) ∧
      ¬ ∀ content password e, password ≠ "" →
        (decryptFileToTemp samplePrimitives content password).1 = .error e →
          e.isBackupError = true := by
  have hraised : decryptFileToTemp samplePrimitives listAlgorithmFile "secret" =
      (.error .typeError, none) := by
    have hat : HeaderAt (packU32 listAlgorithmHeader.length ++ (listAlgorithmHeader ++ []))
        listAlgorithmHeader [] := ⟨rfl, by decide, by decide⟩
    have hread : readStreamingHeader samplePrimitives _ = .error .typeError :=
      readStreamingHeader_at hat
    rw [listAlgorithmFile, ← List.append_nil (filePreamble _ _), decryptFileToTemp_preamble,
      decryptStreaming_of_error hread]
  refine ⟨hraised, fun h => ?_⟩
  have hkept := h listAlgorithmFile "secret" .typeError (by decide) (congrArg Prod.fst hraised)
  cases hkept

end SolarFlowEms.Backup
