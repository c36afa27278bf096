import SolarFlowEms.Admin.SystemBuildId

/-!
# Tags, digests and labels of Admin images

What the appliance accepts as the tag of a release, as a repository and as a digest, and when the
labels of an image prove that it is the release that was asked for.  A tag and the version label of
its image are compared without their optional `v`, so two spellings may name one release.
-/

namespace SolarFlowEms.Appliance

open Python Admin Pattern

/-- A typed input failed validation, with a stable code. -/
structure ValidationError where
  code : String
deriving DecidableEq

/-! ### Texts -/

def maxTagLength : ℕ := 128

/-- `_require_text`, of a string. -/
def requireText (value code : String) (maxLength : ℕ) : Except ValidationError String :=
  let text := pyStrip value
  if text = "" then .error ⟨code⟩
  else if text.length > maxLength then .error ⟨code⟩
  else if text.toList.any (· ∈ ['\r', '\n', '\x00']) then .error ⟨code⟩
  else .ok text

def alphanumericChars : String :=
  "0123456789abcdefghijklmnopqrstuvwxyzABCDEFGHIJKLMNOPQRSTUVWXYZ"

/-- `RELEASE_TAG_RE` -/
def releaseTag : Pattern :=
  maybe (exactly "v") * oneOrMore SystemBuildId.digit * exactly "." *
    oneOrMore SystemBuildId.digit * exactly "." * oneOrMore SystemBuildId.digit *
      maybe (exactly "-" * anyOf alphanumericChars *
        atMost (anyOf (alphanumericChars ++ ".-")) 31)

/-- `DEVELOPMENT_TAG_RE` -/
def developmentTag : Pattern :=
  exactly "dev" * anyOf "-_" * anyOf alphanumericChars *
    (anyOf (alphanumericChars ++ "._-")).star * exactly "-" * SystemBuildId.hexRevision *
      exactly "-" * SystemBuildId.positiveInteger * exactly "-" * SystemBuildId.positiveInteger

def rollingTags : List String := ["latest"]

def validateReleaseTag (value : String) : Except ValidationError String := do
  let text ← requireText value "invalid_release_tag" maxTagLength
  if releaseTag.fullmatch text || text ∈ rollingTags || developmentTag.fullmatch text then pure text
  else throw ⟨"invalid_release_tag"⟩

/-- `is_prerelease_tag`, of a tag that is validated. -/
def isPrereleaseTag (tag : String) : Bool :=
  tag.toList.contains '-' || tag ∈ rollingTags || developmentTag.fullmatch tag

def validateInstallableTag (value : String) (allowPrerelease : Bool) :
    Except ValidationError String := do
  let tag ← validateReleaseTag value
  if isPrereleaseTag tag && !allowPrerelease then throw ⟨"prerelease_not_allowed"⟩ else pure tag

def normalizeVersion (value : String) : String :=
  let text := pyStrip value
  match text.toList with
  | 'v' :: rest => String.ofList rest
  | _ => text

/-- A part of a repository between slashes: runs of letters and digits with one separator between. -/
def repositoryPart (part : List Char) : Bool :=
  (part.splitOnP (· ∈ ['.', '_', '-'])).all fun run =>
    !run.isEmpty && run.all (· ∈ "abcdefghijklmnopqrstuvwxyz0123456789".toList)

def validateImageRepository (value : String) (allowed : List String) :
    Except ValidationError String := do
  let text ← requireText value "invalid_image_repository" 255
  let parts := text.toList.splitOn '/'
  if parts.length < 2 || !parts.all repositoryPart then throw ⟨"invalid_image_repository"⟩
  else if text ∉ allowed then throw ⟨"image_repository_not_allowed"⟩
  else pure text

/-- `[0-9a-f]` -/
def isHexDigit (c : Char) : Bool :=
  (48 ≤ c.toNat && c.toNat ≤ 57) || (97 ≤ c.toNat && c.toNat ≤ 102)

def isDigest (text : String) : Bool :=
  match text.toList with
  | 's' :: 'h' :: 'a' :: '2' :: '5' :: '6' :: ':' :: hex =>
      hex.length == 64 && hex.all isHexDigit
  | _ => false

theorem isPySpace_of_hexDigit {c : Char} (h : isHexDigit c = true) : isPySpace c = false := by
  rw [isHexDigit, Bool.or_eq_true, Bool.and_eq_true, Bool.and_eq_true] at h
  simp only [decide_eq_true_eq] at h
  rw [isPySpace, Bool.eq_false_iff]
  simp only [ne_eq, Bool.or_eq_true, Bool.and_eq_true, decide_eq_true_eq]
  omega

theorem pyStrip_of_isDigest {text : String} (h : isDigest text = true) : pyStrip text = text := by
  rw [isDigest] at h
  split at h
  · next hex htext =>
    rw [Bool.and_eq_true, beq_iff_eq] at h
    have hne : hex ≠ [] := by
      intro hempty
      simp [hempty] at h
    refine pyStrip_eq_self ?_ ?_
    · intro c hc
      rw [htext] at hc
      obtain rfl := Option.some.inj hc
      rfl
    · intro c hc
      have hlast : text.toList.getLast? = hex.getLast? := by
        rw [htext]
        simp [List.getLast?_cons, List.getLast?_eq_some_getLast hne]
      rw [hlast] at hc
      have hmem := List.mem_of_getLast? hc
      exact isPySpace_of_hexDigit (List.all_eq_true.mp h.2 c hmem)
  · cases h

def validateDigest (value : String) : Except ValidationError String := do
  let text ← requireText value "invalid_digest" 128
  if isDigest text then pure text else throw ⟨"invalid_digest"⟩

theorem eq_of_requireText {value code text : String} {n : ℕ}
    (h : requireText value code n = .ok text) : text = pyStrip value := by
  rw [requireText] at h
  split at h
  · cases h
  · split at h
    · cases h
    · split at h
      · cases h
      · exact (Except.ok.inj h).symm

theorem eq_of_validateDigest {value digest : String} (h : validateDigest value = .ok digest) :
    digest = pyStrip value := by
  rw [validateDigest] at h
  cases htext : requireText value "invalid_digest" 128 with
  | error e =>
    rw [htext] at h
    cases h
  | ok text =>
    rw [htext] at h
    have hif : (if isDigest text then pure text else throw ⟨"invalid_digest"⟩ :
      Except ValidationError String) = .ok digest := h
    split at hif
    · rw [← Except.ok.inj hif, eq_of_requireText htext]
    · cases hif

def buildDigestRef (repository digest : String) : Except ValidationError String := do
  let repo ← validateImageRepository repository [repository]
  let digest ← validateDigest digest
  pure (repo ++ "@" ++ digest)

/-! ### Images -/

/-- What an inspected image says; an image that is not there has no answer. -/
structure ImageState where
  present : Bool
  digest : String
  architecture : String
  labels : List (String × String)
deriving DecidableEq

def labelVersion : String := "org.opencontainers.image.version"

def labelRevision : String := "org.opencontainers.image.revision"

def labelSource : String := "org.opencontainers.image.source"

def requiredOciLabels : List String :=
  [labelSource, labelVersion, labelRevision, "org.opencontainers.image.created"]

/-- `labels.get(name) or ""` -/
def labelOf (labels : List (String × String)) (name : String) : String :=
  (labels.lookup name).getD ""

/-- What the host allows of images. -/
structure ImagePolicy where
  repositories : List String
  adminRepository : String
  allowPrerelease : Bool
  supportedArchitectures : List String
  expectedSource : String
  legacyExemptTags : List String

def validateArchitecture (architecture : String) (supported : List String) :
    Except ValidationError String := do
  let text ← requireText architecture "invalid_architecture" 32
  if text ∈ supported then pure text else throw ⟨"architecture_mismatch"⟩

/-- `text.rstrip("/")` -/
def withoutTrailingSlashes (text : String) : String :=
  String.ofList (text.toList.reverse.dropWhile (· = '/')).reverse

/-- Whether the labels prove the release; `true` where the tag is exempt from having them. -/
def validateOciLabels (policy : ImagePolicy) (labels : List (String × String))
    (requestedTag : String) : Except ValidationError Bool := do
  let tag ← validateReleaseTag requestedTag
  if requiredOciLabels.any fun name => decide (pyStrip (labelOf labels name) = "") then
    if tag ∈ policy.legacyExemptTags then pure true else throw ⟨"image_labels_missing"⟩
  else if policy.expectedSource ≠ "" ∧ withoutTrailingSlashes (pyStrip (labelOf labels labelSource)) ≠
      withoutTrailingSlashes policy.expectedSource then throw ⟨"image_source_mismatch"⟩
  else if normalizeVersion (pyStrip (labelOf labels labelVersion)) ≠ normalizeVersion tag then
    throw ⟨"image_version_mismatch"⟩
  else pure false

end SolarFlowEms.Appliance
