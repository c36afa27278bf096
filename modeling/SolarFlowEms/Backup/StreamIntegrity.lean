import SolarFlowEms.Backup.Encryption
import Mathlib.Data.Set.Basic

/-!
# What an encrypted backup gives back

The chunks of a plaintext in order, the last one flagged, are what the records of its file hold.
With ciphers that open only what was sealed, a body that opens under the header of a file is the
body of that file: the index and the flag in the associated data fix the place of every record,
and the read after the last one finds nothing.
-/

namespace SolarFlowEms.Backup

open Python Documents ByteFields Fallible

variable {Key : Type} {prims : Primitives Key}

/-! ### The chunks of a plaintext -/

section

variable (params : EncryptionParams)
include params

theorem EncryptionParams.chunkSize_pos : 0 < params.chunkSize :=
  Nat.lt_of_lt_of_le (show 0 < minChunkSize by decide) params.chunkSize_bounds.1

/-- The chunks from one on, each with whether it is the last. -/
def chunkPlan (params : EncryptionParams) (chunk rest : Bytes) : List (Bytes × Bool) :=
  if _hlast : rest = [] then [(chunk, true)]
  else (chunk, false) ::
    chunkPlan params (rest.take params.chunkSize) (rest.drop params.chunkSize)
termination_by rest.length
decreasing_by
  have hlength := List.length_pos_iff.mpr _hlast
  have hpos := params.chunkSize_pos
  rw [List.length_drop]
  omega

/-- The last chunk is flagged and no other. -/
inductive Planned : List (Bytes × Bool) → Prop
  | last (chunk : Bytes) : Planned [(chunk, true)]
  | cons (chunk : Bytes) {plan : List (Bytes × Bool)} : Planned plan →
      Planned ((chunk, false) :: plan)

theorem chunkPlan_nil (chunk : Bytes) :
    chunkPlan params chunk [] = [(chunk, true)] := by
  rw [chunkPlan, dif_pos rfl]

theorem chunkPlan_of_ne (chunk : Bytes) {rest : Bytes}
    (h : rest ≠ []) : chunkPlan params chunk rest = (chunk, false) ::
      chunkPlan params (rest.take params.chunkSize) (rest.drop params.chunkSize) := by
  rw [chunkPlan, dif_neg h]

theorem planned_chunkPlan (chunk rest : Bytes) :
    Planned (chunkPlan params chunk rest) := by
  induction chunk, rest using chunkPlan.induct params with
  | case1 chunk =>
    rw [chunkPlan_nil]
    exact .last chunk
  | case2 chunk rest h ih =>
    rw [chunkPlan_of_ne params chunk h]
    exact .cons chunk ih

theorem flatMap_chunkPlan (chunk rest : Bytes) :
    (chunkPlan params chunk rest).flatMap Prod.fst = chunk ++ rest := by
  induction chunk, rest using chunkPlan.induct params with
  | case1 chunk =>
    rw [chunkPlan_nil]
    simp
  | case2 chunk rest h ih =>
    rw [chunkPlan_of_ne params chunk h, List.flatMap_cons, ih, List.take_append_drop]

end

theorem length_le_of_mem_chunkPlan {params : EncryptionParams} {chunk rest : Bytes}
    (h : chunk.length ≤ params.chunkSize) :
    ∀ entry ∈ chunkPlan params chunk rest, entry.1.length ≤ params.chunkSize := by
  induction chunk, rest using chunkPlan.induct params with
  | case1 chunk =>
    intro entry hentry
    rw [chunkPlan_nil, List.mem_singleton] at hentry
    rw [hentry]
    exact h
  | case2 chunk rest hne ih =>
    intro entry hentry
    rw [chunkPlan_of_ne params chunk hne] at hentry
    rcases List.mem_cons.mp hentry with rfl | hentry
    · exact h
    · exact ih (List.length_take_le _ _) entry hentry

theorem length_chunkPlan_mul_lt (params : EncryptionParams) (chunk rest : Bytes) :
    (chunkPlan params chunk rest).length * params.chunkSize < rest.length + 2 * params.chunkSize := by
  have hpos := params.chunkSize_pos
  induction chunk, rest using chunkPlan.induct params with
  | case1 chunk =>
    rw [chunkPlan_nil, List.length_singleton, List.length_nil]
    omega
  | case2 chunk rest hne ih =>
    rw [chunkPlan_of_ne params chunk hne, List.length_cons, Nat.add_mul, Nat.one_mul]
    rw [List.length_drop] at ih
    have hrest := List.length_pos_iff.mpr hne
    by_cases hlong : params.chunkSize ≤ rest.length
    · omega
    · have hdrop : rest.drop params.chunkSize = [] :=
        List.drop_eq_nil_of_le (Nat.le_of_not_le hlong)
      rw [hdrop, chunkPlan_nil, List.length_singleton]
      omega

/-! ### The records of a file -/

section

variable (prims) (algorithm : Algorithm) (key : Key) (noncePrefix : Bytes)

def sealChunk (index : ℕ) (entry : Bytes × Bool) : Bytes :=
  prims.sealed algorithm key (noncePrefix ++ packU32 index) entry.1
    (chunkAad algorithm index entry.2)

/-- The records of chunks from an index on. -/
def chunkRecords (index : ℕ) : List (Bytes × Bool) → Bytes
  | [] => []
  | entry :: plan =>
    chunkRecord entry.2 (sealChunk prims algorithm key noncePrefix index entry) ++
      chunkRecords (index + 1) plan

end

/-- **The file holds the records of the chunks**, as far as their indices fit four bytes. -/
theorem encryptChunks_eq (params : EncryptionParams) (key : Key) (noncePrefix : Bytes)
    (index : ℕ) (chunk rest : Bytes) :
    encryptChunks prims params key noncePrefix index chunk rest =
      if index + (chunkPlan params chunk rest).length ≤ 2 ^ 32 then
        .ok (chunkRecords prims params.algorithm key noncePrefix index
          (chunkPlan params chunk rest))
      else .error .structError := by
  induction chunk, rest using chunkPlan.induct params generalizing index with
  | case1 chunk =>
    rw [chunkPlan_nil, List.length_singleton, encryptChunks, chunkNonce]
    by_cases hindex : index < 2 ^ 32
    · rw [if_pos hindex, if_pos (show index + 1 ≤ 2 ^ 32 from hindex)]
      simp [chunkRecords, sealChunk]
    · rw [if_neg hindex, if_neg (show ¬ index + 1 ≤ 2 ^ 32 from hindex)]
  | case2 chunk rest hne ih =>
    have hnext : (rest.take params.chunkSize).isEmpty = false := by
      rw [List.isEmpty_eq_false_iff]
      intro htake
      rcases List.take_eq_nil_iff.mp htake with hzero | hnil
      · exact absurd hzero (Nat.ne_of_gt params.chunkSize_pos)
      · exact hne hnil
    rw [chunkPlan_of_ne params chunk hne, encryptChunks, chunkNonce]
    by_cases hindex : index < 2 ^ 32
    · rw [if_pos hindex]
      dsimp only
      rw [hnext, dif_neg Bool.false_ne_true, ih (index + 1), List.length_cons]
      have hshift : index + 1 +
          (chunkPlan params (rest.take params.chunkSize) (rest.drop params.chunkSize)).length =
          index + ((chunkPlan params (rest.take params.chunkSize)
            (rest.drop params.chunkSize)).length + 1) := by
        omega
      rw [hshift]
      split_ifs with hfits
      · rfl
      · rfl
    · rw [if_neg hindex, if_neg]
      rw [List.length_cons]
      omega

/-! ### Reading records -/

section

variable {stream : StreamParams} {key : Key} {index : ℕ} {bytes written : Bytes}

theorem decryptChunks_of_error {e : BackupFailure}
    (h : readChunkRecord (stream.chunkSize + maxCiphertextOverhead) bytes = .error e) :
    decryptChunks prims stream key index bytes written = (.error e, written) := by
  rw [decryptChunks]
  split
  · rename_i e' h'
    rw [h] at h'
    rw [Except.error.inj h']
  · rename_i h'
    rw [h] at h'
    cases h'

theorem decryptChunks_of_record {final : Bool} {ciphertext rest : Bytes}
    (h : readChunkRecord (stream.chunkSize + maxCiphertextOverhead) bytes =
      .ok (final, ciphertext, rest)) :
    decryptChunks prims stream key index bytes written =
      if index < 2 ^ 32 then
        match prims.openSealed stream.algorithm key (stream.noncePrefix ++ packU32 index) ciphertext
            (chunkAad stream.algorithm index final) with
        | none => (.error (.password "incorrect password or corrupted backup"), written)
        | some plaintext =>
          if final then
            if rest = [] then (.ok (), written ++ plaintext)
            else (.error (.format "trailing data after final encrypted chunk"),
              written ++ plaintext)
          else decryptChunks prims stream key (index + 1) rest (written ++ plaintext)
      else (.error .structError, written) := by
  rw [decryptChunks]
  split
  · rename_i h'
    rw [h] at h'
    cases h'
  · rename_i final' ciphertext' rest' h'
    rw [h] at h'
    obtain ⟨rfl, hrest⟩ := Prod.mk.inj (Except.ok.inj h')
    obtain ⟨rfl, rfl⟩ := Prod.mk.inj hrest
    rw [chunkNonce]
    split_ifs with hindex <;> rfl

theorem decryptChunks_of_open {final : Bool} {ciphertext rest plaintext : Bytes}
    (h : readChunkRecord (stream.chunkSize + maxCiphertextOverhead) bytes =
      .ok (final, ciphertext, rest)) (hindex : index < 2 ^ 32)
    (hopen : prims.openSealed stream.algorithm key (stream.noncePrefix ++ packU32 index) ciphertext
      (chunkAad stream.algorithm index final) = some plaintext) :
    decryptChunks prims stream key index bytes written =
      if final then
        if rest = [] then (.ok (), written ++ plaintext)
        else (.error (.format "trailing data after final encrypted chunk"), written ++ plaintext)
      else decryptChunks prims stream key (index + 1) rest (written ++ plaintext) := by
  rw [decryptChunks_of_record h, if_pos hindex, hopen]

theorem exists_of_decryptChunks_eq_ok {u : Unit} {result : Bytes}
    (h : decryptChunks prims stream key index bytes written = (.ok u, result)) :
    ∃ final ciphertext rest plaintext, index < 2 ^ 32 ∧
      readChunkRecord (stream.chunkSize + maxCiphertextOverhead) bytes =
        .ok (final, ciphertext, rest) ∧
      prims.openSealed stream.algorithm key (stream.noncePrefix ++ packU32 index) ciphertext
        (chunkAad stream.algorithm index final) = some plaintext := by
  cases hread : readChunkRecord (stream.chunkSize + maxCiphertextOverhead) bytes with
  | error e =>
    rw [decryptChunks_of_error hread] at h
    cases h
  | ok record =>
    obtain ⟨final, ciphertext, rest⟩ := record
    rw [decryptChunks_of_record hread] at h
    by_cases hindex : index < 2 ^ 32
    · rw [if_pos hindex] at h
      cases hopen : prims.openSealed stream.algorithm key (stream.noncePrefix ++ packU32 index)
          ciphertext (chunkAad stream.algorithm index final) with
      | none =>
        rw [hopen] at h
        cases h
      | some plaintext => exact ⟨final, ciphertext, rest, plaintext, hindex, rfl, hopen⟩
    · rw [if_neg hindex] at h
      cases h

end

/-! ### The round trip -/

/-- What is used of the libraries: a seal adds the tag's length, base64 and JSON give back what they
were given, and the header of a file fits the reader's bound. -/
structure Primitives.Lawful (prims : Primitives Key) : Prop where
  sealed_length : ∀ algorithm key nonce plaintext aad,
    (prims.sealed algorithm key nonce plaintext aad).length =
      plaintext.length + maxCiphertextOverhead
  b64decode_b64encode : ∀ bytes, prims.b64decode (prims.b64encode bytes) = some bytes
  loads_dumps : ∀ params random, prims.loads (prims.dumps (streamingHeader prims params random)) =
    .value (.dict (streamingHeader prims params random))
  header_length : ∀ params random,
    0 < (prims.dumps (streamingHeader prims params random)).length ∧
      (prims.dumps (streamingHeader prims params random)).length ≤ maxHeaderSize

/-- One use of a cipher. -/
structure Encryption (Key : Type) where
  algorithm : Algorithm
  key : Key
  nonce : Bytes
  aad : Bytes
  plaintext : Bytes
  ciphertext : Bytes

def Primitives.Opens (prims : Primitives Key) (e : Encryption Key) : Prop :=
  prims.openSealed e.algorithm e.key e.nonce e.ciphertext e.aad = some e.plaintext

/-- The use of the cipher for the chunk at an index. -/
def chunkEncryption (prims : Primitives Key) (algorithm : Algorithm) (key : Key)
    (noncePrefix : Bytes) (index : ℕ) (entry : Bytes × Bool) : Encryption Key :=
  ⟨algorithm, key, noncePrefix ++ packU32 index, chunkAad algorithm index entry.2, entry.1,
    sealChunk prims algorithm key noncePrefix index entry⟩

theorem chunkRecords_cons (algorithm : Algorithm) (key : Key) (noncePrefix : Bytes) (index : ℕ)
    (entry : Bytes × Bool) (plan : List (Bytes × Bool)) :
    chunkRecords prims algorithm key noncePrefix index (entry :: plan) =
      chunkRecord entry.2 (sealChunk prims algorithm key noncePrefix index entry) ++
        chunkRecords prims algorithm key noncePrefix (index + 1) plan := rfl

theorem sealChunk_length (hprims : prims.Lawful) (algorithm : Algorithm) (key : Key)
    (noncePrefix : Bytes) (index : ℕ) (entry : Bytes × Bool) :
    (sealChunk prims algorithm key noncePrefix index entry).length =
      entry.1.length + maxCiphertextOverhead :=
  hprims.sealed_length ..

theorem readChunkRecord_genuine (hprims : prims.Lawful) {algorithm : Algorithm} {key : Key}
    {noncePrefix : Bytes} {index chunkSize : ℕ} {entry : Bytes × Bool} (rest : Bytes)
    (hchunk : entry.1.length ≤ chunkSize) (hsize : chunkSize ≤ maxChunkSize) :
    readChunkRecord (chunkSize + maxCiphertextOverhead)
      (chunkRecord entry.2 (sealChunk prims algorithm key noncePrefix index entry) ++ rest) =
        .ok (entry.2, sealChunk prims algorithm key noncePrefix index entry, rest) := by
  have hlength := sealChunk_length hprims algorithm key noncePrefix index entry
  have hmax : maxChunkSize + maxCiphertextOverhead < 2 ^ 32 := by decide
  refine readChunkRecord_eq_ok.mpr ⟨rfl, by omega, by omega, ?_⟩
  intro hnil
  rw [hnil, List.length_nil, maxCiphertextOverhead] at hlength
  omega

theorem decryptChunks_chunkRecords (hprims : prims.Lawful) {stream : StreamParams} {key : Key}
    (hsize : stream.chunkSize ≤ maxChunkSize) {plan : List (Bytes × Bool)} (hplan : Planned plan)
    (index : ℕ) (written : Bytes) (hfits : index + plan.length ≤ 2 ^ 32)
    (hchunks : ∀ entry ∈ plan, entry.1.length ≤ stream.chunkSize)
    (hopens : ∀ i entry, plan[i]? = some entry → prims.Opens
      (chunkEncryption prims stream.algorithm key stream.noncePrefix (index + i) entry)) :
    decryptChunks prims stream key index
      (chunkRecords prims stream.algorithm key stream.noncePrefix index plan) written =
        (.ok (), written ++ plan.flatMap Prod.fst) := by
  induction hplan generalizing index written with
  | last chunk =>
    have hindex : index < 2 ^ 32 := Nat.lt_of_succ_le hfits
    have hopen : prims.openSealed stream.algorithm key (stream.noncePrefix ++ packU32 index)
        (sealChunk prims stream.algorithm key stream.noncePrefix index (chunk, true))
        (chunkAad stream.algorithm index true) = some chunk := hopens 0 _ rfl
    rw [chunkRecords_cons, decryptChunks_of_open (readChunkRecord_genuine hprims _
      (hchunks _ List.mem_cons_self) hsize) hindex hopen]
    simp [chunkRecords]
  | @cons chunk plan hplan ih =>
    rw [List.length_cons] at hfits
    have hindex : index < 2 ^ 32 := by omega
    have hopen : prims.openSealed stream.algorithm key (stream.noncePrefix ++ packU32 index)
        (sealChunk prims stream.algorithm key stream.noncePrefix index (chunk, false))
        (chunkAad stream.algorithm index false) = some chunk := hopens 0 _ rfl
    have hrest := ih (index + 1) (written ++ chunk) (by omega)
      (fun entry hentry => hchunks entry (List.mem_cons_of_mem _ hentry)) (by
        intro i entry hentry
        have hnext := hopens (i + 1) entry hentry
        rwa [← Nat.add_assoc, Nat.add_right_comm] at hnext)
    rw [chunkRecords_cons, decryptChunks_of_open (readChunkRecord_genuine hprims _
      (hchunks _ List.mem_cons_self) hsize) hindex hopen]
    show decryptChunks prims stream key (index + 1) _ (written ++ chunk) = _
    rw [hrest, List.flatMap_cons, List.append_assoc]

/-! ### Integrity -/

/-- A cipher that opens exactly what was made with it: the key, nonce, data and plaintext of one of
its uses, with the ciphertext that came out. -/
def Primitives.Ideal (prims : Primitives Key) (made : Set (Encryption Key)) : Prop :=
  ∀ e, prims.Opens e ↔ e ∈ made

def PlanEncryption (prims : Primitives Key) (algorithm : Algorithm) (key : Key)
    (noncePrefix : Bytes) (plan : List (Bytes × Bool)) (e : Encryption Key) : Prop :=
  ∃ i entry, plan[i]? = some entry ∧ e = chunkEncryption prims algorithm key noncePrefix i entry

/-- What was made under a key with the nonces of a file was made for the file: no other has the
random bytes of its salt and its nonce. -/
def Unshared (algorithm : Algorithm) (key : Key) (noncePrefix : Bytes)
    (ofFile : Encryption Key → Prop) (made : Set (Encryption Key)) : Prop :=
  ∀ e ∈ made, e.algorithm = algorithm → e.key = key →
    (∃ index < 2 ^ 32, e.nonce = noncePrefix ++ packU32 index) → ofFile e

theorem flagByte_inj {final final' : Bool} (h : flagByte final = flagByte final') :
    final = final' := by
  cases final <;> cases final' <;> first | rfl | cases h

theorem chunkAad_final_inj {algorithm : Algorithm} {index : ℕ} {final final' : Bool}
    (h : chunkAad algorithm index final = chunkAad algorithm index final') : final = final' := by
  have hflag := List.append_cancel_left h
  exact flagByte_inj (List.cons.inj hflag).1

theorem genuine_of_open {stream : StreamParams} {key fileKey : Key} {plan : List (Bytes × Bool)}
    {made : Set (Encryption Key)} (hideal : prims.Ideal made)
    (hunshared : Unshared stream.algorithm key stream.noncePrefix
      (PlanEncryption prims stream.algorithm fileKey stream.noncePrefix plan) made)
    (hfits : plan.length ≤ 2 ^ 32) {index : ℕ} {final : Bool} {ciphertext plaintext : Bytes}
    (hindex : index < 2 ^ 32)
    (hopen : prims.openSealed stream.algorithm key (stream.noncePrefix ++ packU32 index) ciphertext
      (chunkAad stream.algorithm index final) = some plaintext) :
    plan[index]? = some (plaintext, final) ∧
      ciphertext = sealChunk prims stream.algorithm fileKey stream.noncePrefix index
        (plaintext, final) := by
  let e : Encryption Key := ⟨stream.algorithm, key, stream.noncePrefix ++ packU32 index,
    chunkAad stream.algorithm index final, plaintext, ciphertext⟩
  have hmade : e ∈ made := (hideal e).mp hopen
  obtain ⟨i, entry, hentry, heq⟩ := hunshared e hmade rfl rfl ⟨index, hindex, rfl⟩
  have hnonce : stream.noncePrefix ++ packU32 index = stream.noncePrefix ++ packU32 i :=
    congrArg Encryption.nonce heq
  have hlength : i < plan.length := (List.getElem?_eq_some_iff.mp hentry).1
  obtain rfl : index = i :=
    packU32_inj hindex (Nat.lt_of_lt_of_le hlength hfits) (List.append_cancel_left hnonce)
  have haad : chunkAad stream.algorithm index final = chunkAad stream.algorithm index entry.2 :=
    congrArg Encryption.aad heq
  obtain rfl := chunkAad_final_inj haad
  obtain rfl : plaintext = entry.1 := congrArg Encryption.plaintext heq
  exact ⟨hentry, congrArg Encryption.ciphertext heq⟩

/-- **Only the genuine records decrypt**: from any index on, what decrypts is the rest of the file's
records. -/
theorem eq_chunkRecords_of_decrypted {stream : StreamParams} {key fileKey : Key}
    {plan : List (Bytes × Bool)} {made : Set (Encryption Key)} (hideal : prims.Ideal made)
    (hunshared : Unshared stream.algorithm key stream.noncePrefix
      (PlanEncryption prims stream.algorithm fileKey stream.noncePrefix plan) made)
    (hfits : plan.length ≤ 2 ^ 32) {rest : List (Bytes × Bool)} (hrest : Planned rest)
    {index : ℕ} {bytes written result : Bytes} {u : Unit} (hdrop : plan.drop index = rest)
    (h : decryptChunks prims stream key index bytes written = (.ok u, result)) :
    bytes = chunkRecords prims stream.algorithm fileKey stream.noncePrefix index rest := by
  induction hrest generalizing index bytes written with
  | last chunk =>
    obtain ⟨final, ciphertext, after, plaintext, hindex, hread, hopen⟩ :=
      exists_of_decryptChunks_eq_ok h
    obtain ⟨hget, hciphertext⟩ := genuine_of_open hideal hunshared hfits hindex hopen
    have hhead : plan[index]? = some (chunk, true) := by
      rw [← List.head?_drop, hdrop]
      rfl
    obtain ⟨rfl, rfl⟩ := Prod.mk.inj (Option.some.inj (hget.symm.trans hhead))
    rw [decryptChunks_of_open hread hindex hopen, if_pos rfl] at h
    split_ifs at h with hafter
    · obtain ⟨rfl, -⟩ := readChunkRecord_eq_ok.mp hread
      rw [hciphertext, hafter]
      rfl
    · cases h
  | @cons chunk rest hrest ih =>
    obtain ⟨final, ciphertext, after, plaintext, hindex, hread, hopen⟩ :=
      exists_of_decryptChunks_eq_ok h
    obtain ⟨hget, hciphertext⟩ := genuine_of_open hideal hunshared hfits hindex hopen
    have hhead : plan[index]? = some (chunk, false) := by
      rw [← List.head?_drop, hdrop]
      rfl
    obtain ⟨rfl, rfl⟩ := Prod.mk.inj (Option.some.inj (hget.symm.trans hhead))
    rw [decryptChunks_of_open hread hindex hopen, if_neg Bool.false_ne_true] at h
    have hnext : plan.drop (index + 1) = rest := by
      rw [← List.tail_drop, hdrop]
      rfl
    have hafter := ih hnext h
    obtain ⟨rfl, -⟩ := readChunkRecord_eq_ok.mp hread
    rw [hciphertext, hafter, chunkRecords_cons]

/-! ### Too many records -/

/-- Records that are not the last, each opening under its index. -/
def OpensFrom (prims : Primitives Key) (stream : StreamParams) (key : Key) :
    ℕ → List Bytes → Prop
  | _, [] => True
  | index, ciphertext :: ciphertexts =>
    (ciphertext ≠ [] ∧ ciphertext.length ≤ stream.chunkSize + maxCiphertextOverhead ∧
      (prims.openSealed stream.algorithm key (stream.noncePrefix ++ packU32 index) ciphertext
        (chunkAad stream.algorithm index false)).isSome = true) ∧
      OpensFrom prims stream key (index + 1) ciphertexts

/-- From an index on, records that open use up all indices, and one more record follows. -/
def Exhausts (prims : Primitives Key) (stream : StreamParams) (key : Key) (index : ℕ)
    (bytes : Bytes) : Prop :=
  ∃ ciphertexts record after, index + ciphertexts.length = 2 ^ 32 ∧
    OpensFrom prims stream key index ciphertexts ∧
    bytes = ciphertexts.flatMap (chunkRecord false) ++ after ∧
    readChunkRecord (stream.chunkSize + maxCiphertextOverhead) after = .ok record

theorem readExact_isBackupError {count : ℕ} {bytes : Bytes} {e : BackupFailure}
    (h : readExact count bytes = .error e) : e.isBackupError = true := by
  rw [readExact] at h
  split at h
  · cases h
    rfl
  · cases h

theorem readChunkRecord_isBackupError {maxCiphertext : ℕ} {bytes : Bytes} {e : BackupFailure}
    (h : readChunkRecord maxCiphertext bytes = .error e) : e.isBackupError = true := by
  cases bytes with
  | nil =>
    cases h
    rfl
  | cons flag bytes =>
    rcases bind_eq_error.mp h with h | ⟨_, -, h₁⟩
    · obtain ⟨-, rfl⟩ := require_eq_error.mp h
      rfl
    · rcases bind_eq_error.mp h₁ with h | ⟨⟨lengthBytes, bytes'⟩, -, h₂⟩
      · exact readExact_isBackupError h
      · rcases bind_eq_error.mp h₂ with h | ⟨_, -, h₃⟩
        · obtain ⟨-, rfl⟩ := require_eq_error.mp h
          rfl
        · rcases bind_eq_error.mp h₃ with h | ⟨_, -, h₄⟩
          · obtain ⟨-, rfl⟩ := require_eq_error.mp h
            rfl
          · rcases bind_eq_error.mp h₄ with h | ⟨_, -, h₅⟩
            · exact readExact_isBackupError h
            · cases h₅

theorem Exhausts.head {stream : StreamParams} {key : Key} {index : ℕ} {bytes : Bytes}
    (hsize : stream.chunkSize ≤ maxChunkSize) (hindex : index < 2 ^ 32)
    (h : Exhausts prims stream key index bytes) :
    ∃ ciphertext rest plaintext,
      readChunkRecord (stream.chunkSize + maxCiphertextOverhead) bytes =
        .ok (false, ciphertext, rest) ∧
      prims.openSealed stream.algorithm key (stream.noncePrefix ++ packU32 index) ciphertext
        (chunkAad stream.algorithm index false) = some plaintext ∧
      Exhausts prims stream key (index + 1) rest := by
  obtain ⟨ciphertexts, record, after, hcount, hopens, rfl, hread⟩ := h
  cases ciphertexts with
  | nil =>
    rw [List.length_nil] at hcount
    omega
  | cons ciphertext ciphertexts =>
    obtain ⟨⟨hne, hlength, hopen⟩, hrest⟩ := hopens
    obtain ⟨plaintext, hplaintext⟩ := Option.isSome_iff_exists.mp hopen
    have hmax : maxChunkSize + maxCiphertextOverhead < 2 ^ 32 := by decide
    rw [List.length_cons] at hcount
    refine ⟨ciphertext, ciphertexts.flatMap (chunkRecord false) ++ after, plaintext,
      readChunkRecord_eq_ok.mpr ⟨?_, by omega, hlength, fun hnil => absurd hnil hne⟩, hplaintext,
      ciphertexts, record, after, by omega, hrest, rfl, hread⟩
    rw [List.flatMap_cons, List.append_assoc]

theorem Exhausts.of_next {stream : StreamParams} {key : Key} {index : ℕ}
    {bytes ciphertext rest plaintext : Bytes}
    (hread : readChunkRecord (stream.chunkSize + maxCiphertextOverhead) bytes =
      .ok (false, ciphertext, rest))
    (hopen : prims.openSealed stream.algorithm key (stream.noncePrefix ++ packU32 index) ciphertext
      (chunkAad stream.algorithm index false) = some plaintext)
    (h : Exhausts prims stream key (index + 1) rest) : Exhausts prims stream key index bytes := by
  obtain ⟨ciphertexts, record, after, hcount, hopens, rfl, hrecord⟩ := h
  obtain ⟨rfl, -, hlength, hempty⟩ := readChunkRecord_eq_ok.mp hread
  refine ⟨ciphertext :: ciphertexts, record, after, ?_, ⟨⟨?_, hlength, ?_⟩, hopens⟩, ?_, hrecord⟩
  · rw [List.length_cons]
    omega
  · intro hnil
    cases hempty hnil
  · rw [hopen]
    rfl
  · rw [List.flatMap_cons, List.append_assoc]

/-- **The loop fails otherwise than with an error of the module exactly when the indices run
out.** -/
theorem decryptChunks_escapes_iff {stream : StreamParams} (key : Key)
    (hsize : stream.chunkSize ≤ maxChunkSize) {index : ℕ} {bytes written : Bytes}
    (hindex : index ≤ 2 ^ 32) :
    (∃ e, (decryptChunks prims stream key index bytes written).1 = .error e ∧
      e.isBackupError = false) ↔ Exhausts prims stream key index bytes := by
  induction hlength : bytes.length using Nat.strong_induction_on generalizing index bytes written
    with
  | _ length ih =>
    subst hlength
    cases hread : readChunkRecord (stream.chunkSize + maxCiphertextOverhead) bytes with
    | error e =>
      rw [decryptChunks_of_error hread]
      constructor
      · rintro ⟨e', he, hescapes⟩
        obtain rfl := Except.error.inj he
        rw [readChunkRecord_isBackupError hread] at hescapes
        cases hescapes
      · intro h
        rcases Nat.lt_or_eq_of_le hindex with hlt | rfl
        · obtain ⟨ciphertext, rest, plaintext, hread', -⟩ := h.head hsize hlt
          rw [hread] at hread'
          cases hread'
        · obtain ⟨ciphertexts, record, after, hcount, -, hbytes, hrecord⟩ := h
          obtain rfl := List.length_eq_zero_iff.mp (show ciphertexts.length = 0 by omega)
          obtain rfl : bytes = after := hbytes
          rw [hread] at hrecord
          cases hrecord
    | ok record =>
      obtain ⟨final, ciphertext, rest⟩ := record
      rw [decryptChunks_of_record hread]
      rcases Nat.lt_or_eq_of_le hindex with hlt | rfl
      · rw [if_pos hlt]
        have hnone : ∀ {P : Prop}, final = true ∨ prims.openSealed stream.algorithm key
            (stream.noncePrefix ++ packU32 index) ciphertext
            (chunkAad stream.algorithm index final) = none →
            Exhausts prims stream key index bytes → P := by
          intro P hwrong h
          obtain ⟨ciphertext', rest', plaintext, hread', hopen', -⟩ := h.head hsize hlt
          rw [hread] at hread'
          obtain ⟨rfl, hrest⟩ := Prod.mk.inj (Except.ok.inj hread')
          obtain ⟨rfl, rfl⟩ := Prod.mk.inj hrest
          rcases hwrong with hfinal | hopen
          · cases hfinal
          · rw [hopen] at hopen'
            cases hopen'
        cases hopen : prims.openSealed stream.algorithm key
            (stream.noncePrefix ++ packU32 index) ciphertext
            (chunkAad stream.algorithm index final) with
        | none =>
          refine ⟨?_, hnone (.inr hopen)⟩
          rintro ⟨e, he, hescapes⟩
          obtain rfl := Except.error.inj he
          cases hescapes
        | some plaintext =>
          cases final with
          | true =>
            refine ⟨?_, hnone (.inl rfl)⟩
            rintro ⟨e, he, hescapes⟩
            dsimp only at he
            rw [if_pos rfl] at he
            by_cases hrest : rest = []
            · rw [if_pos hrest] at he
              cases he
            · rw [if_neg hrest] at he
              obtain rfl := Except.error.inj he
              cases hescapes
          | false =>
            have hshorter : rest.length < bytes.length := by
              obtain ⟨rfl, -⟩ := readChunkRecord_eq_ok.mp hread
              simp only [chunkRecord, List.cons_append, List.length_cons, List.length_append,
                packU32_length]
              omega
            have hnext : (∃ e, (decryptChunks prims stream key (index + 1) rest
                (written ++ plaintext)).1 = .error e ∧ e.isBackupError = false) ↔
                Exhausts prims stream key (index + 1) rest :=
              ih rest.length hshorter (show index + 1 ≤ 2 ^ 32 from hlt) rfl
            refine Iff.trans hnext ⟨Exhausts.of_next hread hopen, fun h => ?_⟩
            obtain ⟨ciphertext', rest', plaintext', hread', -, hrest'⟩ := h.head hsize hlt
            rw [hread] at hread'
            obtain ⟨-, hrest⟩ := Prod.mk.inj (Except.ok.inj hread')
            obtain ⟨-, rfl⟩ := Prod.mk.inj hrest
            exact hrest'
      · rw [if_neg (Nat.lt_irrefl _)]
        refine ⟨fun _ => ?_, fun _ => ⟨_, rfl, rfl⟩⟩
        exact ⟨[], (final, ciphertext, rest), bytes, rfl, trivial, rfl, hread⟩

end SolarFlowEms.Backup
