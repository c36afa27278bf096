import SolarFlowEms.Admin.SystemBuildId

/-!
# System Builds

A System Build is one pair of images, Admin and EMS, under one tag.  Its tag tells the channel it
is released on, and its identifier tells how strictly the pair is matched: a build of the first
releases keeps the Admin that runs.  Whether the Admin has to be replaced is decided from what
runs and from the image the Compose file names.
-/

namespace SolarFlowEms.Admin

open Python

/-- A resolved pair of images, as far as a transition uses it. -/
structure SystemBuild where
  canonicalTag : String
  revision : String
  buildId : String
  adminImage : String
  adminDigest : String
  emsImage : String
  emsDigest : String
deriving DecidableEq

/-- The identity of an image, as far as it could be read. -/
structure ImageIdentity where
  imageRef : Option String
  digest : Option String
  revision : Option String
  channel : Option String
  buildId : Option String
  releaseTag : Option String

/-! ### Channels -/

inductive Channel where
  | stable
  | rc
  | latest
  | development
  | unknown
deriving DecidableEq

def Channel.text : Channel → String
  | stable => "stable"
  | rc => "rc"
  | latest => "latest"
  | development => "development"
  | unknown => "unknown"

/-- The zero of every script that counts in tens; its other digits follow it. -/
def decimalZeros : List ℕ :=
  [0x30, 0x660, 0x6f0, 0x7c0, 0x966, 0x9e6, 0xa66, 0xae6, 0xb66, 0xbe6, 0xc66, 0xce6, 0xd66, 0xde6,
    0xe50, 0xed0, 0xf20, 0x1040, 0x1090, 0x17e0, 0x1810, 0x1946, 0x19d0, 0x1a80, 0x1a90, 0x1b50,
    0x1bb0, 0x1c40, 0x1c50, 0xa620, 0xa8d0, 0xa900, 0xa9d0, 0xa9f0, 0xaa50, 0xabf0, 0xff10,
    0x104a0, 0x10d30, 0x10d40, 0x11066, 0x110f0, 0x11136, 0x111d0, 0x112f0, 0x11450, 0x114d0,
    0x11650, 0x116c0, 0x116d0, 0x116da, 0x11730, 0x118e0, 0x11950, 0x11bf0, 0x11c50, 0x11d50,
    0x11da0, 0x11f50, 0x16130, 0x16a60, 0x16ac0, 0x16b50, 0x16d70, 0x1ccf0, 0x1d7ce, 0x1d7d8,
    0x1d7e2, 0x1d7ec, 0x1d7f6, 0x1e140, 0x1e2f0, 0x1e4f0, 0x1e5f1, 0x1e950, 0x1fbf0]

/-- `\d`. -/
def isDecimal (c : Char) : Bool :=
  decimalZeros.any fun first => first ≤ c.toNat && c.toNat < first + 10

/-- `^v?\d+\.\d+`. -/
def startsWithVersion (text : String) : Bool :=
  let digits := match text.toList with
    | 'v' :: rest => rest
    | characters => characters
  match digits.span isDecimal with
  | (_ :: _, '.' :: c :: _) => isDecimal c
  | _ => false

/-- `-[rR][cC]`, anywhere in the text. -/
def hasRcMarker (text : String) : Bool :=
  ["-rc", "-rC", "-Rc", "-RC"].any (contains text)

def classifyChannel (tag : String) : Channel :=
  let text := pyStrip tag
  if text = "latest" then .latest
  else if text = "local" || text.startsWith "local-" then .development
  else if text.startsWith "dev-" || text.startsWith "dev_" then .development
  else if hasRcMarker text then .rc
  else if startsWithVersion text then .stable
  else .unknown

def SystemBuild.development (build : SystemBuild) : Bool :=
  classifyChannel build.canonicalTag = .development

/-! ### Compatibility -/

inductive Compatibility where
  | modernPaired
  | legacyRelease
  | localBuild
deriving DecidableEq

def Compatibility.text : Compatibility → String
  | modernPaired => "modern_paired"
  | legacyRelease => "legacy_release"
  | localBuild => "local"

/-- `system_build_compatibility`: an identifier that is not recognised is held to the pair. -/
def systemBuildCompatibility (build : SystemBuild) : Compatibility :=
  match systemBuildIdKind build.buildId with
  | .ok .localBuild => .localBuild
  | .ok .legacyCi => .legacyRelease
  | _ => .modernPaired

/-- `resource_strategy_for_compatibility`. -/
def resourceStrategy : Compatibility → String
  | .modernPaired => "embedded"
  | .localBuild => "embedded"
  | .legacyRelease => "release_archive"

/-- `system_build_keeps_current_admin`. -/
def keepsCurrentAdmin (build : SystemBuild) : Bool :=
  systemBuildCompatibility build = .legacyRelease

/-! ### Alignment -/

inductive Alignment where
  | aligned
  | retagRequired
  | adminRecreateRequired
  | adminUpdateRequired
  | systemBuildMismatch
deriving DecidableEq

def Alignment.text : Alignment → String
  | aligned => "aligned"
  | retagRequired => "retag_required"
  | adminRecreateRequired => "admin_recreate_required"
  | adminUpdateRequired => "admin_update_required"
  | systemBuildMismatch => "system_build_mismatch"

/-- `text.rpartition(separator)`, without the separator. -/
def rpartition (separator : Char) (text : List Char) : List Char × List Char :=
  match text.reverse.span (· ≠ separator) with
  | (last, _ :: first) => (first.reverse, last.reverse)
  | (_, []) => ([], text)

def persistentRefIsCanonical (persistentRef : String) (target : SystemBuild) : Bool :=
  let text := (pyStrip persistentRef).toList
  if text = [] then false
  else if (rpartition '/' text).2.contains ':' then
    (rpartition ':' text).1 = (rpartition ':' target.adminImage.toList).1 &&
      (rpartition ':' text).2 = target.canonicalTag.toList
  else text = target.canonicalTag.toList

/-- `running.digest and target.admin_digest and running.digest == target.admin_digest`. -/
def runsTarget (running : ImageIdentity) (target : SystemBuild) : Bool :=
  running.digest.getD "" ≠ "" && running.digest = some target.adminDigest

/-- `decide_alignment`, for a target whose local image is not known. -/
def decideAlignment (running : ImageIdentity) (target : SystemBuild) (persistentRef : String) :
    Alignment :=
  if runsTarget running target then
    if persistentRefIsCanonical persistentRef target then .aligned else .retagRequired
  else .adminUpdateRequired

/-- **An Admin can always be aligned.** -/
theorem decideAlignment_ne_mismatch (running : ImageIdentity) (target : SystemBuild)
    (persistentRef : String) :
    decideAlignment running target persistentRef ≠ .systemBuildMismatch := by
  rw [decideAlignment]
  cases runsTarget running target with
  | false => exact fun h => by cases h
  | true => cases persistentRefIsCanonical persistentRef target <;> exact fun h => by cases h

/-- `_embedded_resources_state`, from what the verifier, if there is one, makes of the bundle. -/
def embeddedResourcesMismatch (embedded : Option Bool) (build : SystemBuild)
    (running : ImageIdentity) : Bool :=
  running.revision = some build.revision && running.buildId = some build.buildId &&
    embedded = some false

def effectiveAlignment (decision : Alignment) (embeddedMismatch : Bool) (build : SystemBuild) :
    Alignment :=
  if keepsCurrentAdmin build then .aligned
  else if decision = .aligned && embeddedMismatch then .adminRecreateRequired
  else decision

end SolarFlowEms.Admin
