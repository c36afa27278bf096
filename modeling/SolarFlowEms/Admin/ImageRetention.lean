import Mathlib.Data.Prod.Lex
import SolarFlowEms.Admin.TransitionStore
import SolarFlowEms.Config.Upgrade
import SolarFlowEms.Library.BoundedHistory

/-!
# Local images that may go

An upgrade leaves the images of the builds before it.  Of the two repositories of the product the
newest images are kept, and whatever the known-good record, the pending transition or the caller
names is kept in any case.  The known-good store answers the same for a file that is absent and for
one that it cannot read.
-/

namespace SolarFlowEms.Admin.ImageRetention

open Python BoundedHistory
open SolarFlowEms.Documents (Entries)
open SolarFlowEms.Config (truthy)
open Transition (FileContent Faults TransitionTexts DurableRecord TransitionRecord StoreFailure)

def adminImageRepo : String := "ghcr.io/basecubedev/ems-solarflow-admin"

def emsImageRepo : String := "ghcr.io/basecubedev/ems-solarflow-api-control"

def managedRepositories : List String := [adminImageRepo, emsImageRepo]

/-! ### The plan -/

/-- An image of a listing: what a removal names, and the other texts that name it. -/
structure Image where
  repository : String
  digest : String
  aliases : List String
  created : String
deriving DecidableEq

def Image.names (image : Image) : List String := image.digest :: image.aliases.filter (· ≠ "")

/-- What the images of a repository are ordered by: the time, then the digest. -/
abbrev Stamp := String ×ₗ String

def Image.stamp (image : Image) : Stamp := toLex (image.created, image.digest)

def Stamp.digest (stamp : Stamp) : String := (ofLex stamp).2

section Plan

variable (images : List Image) (protectedDigests : List String)

def candidates : List Image :=
  images.filter fun image => image.digest ≠ "" && image.repository ∈ managedRepositories

def identities (digest : String) : List String :=
  ((candidates images).filter (·.digest = digest)).flatMap Image.names

def isProtected (digest : String) : Bool :=
  (identities images digest).any (· ∈ protectedDigests.filter (· ≠ ""))

/-- `by_repository`. -/
def stamps (repository : String) : List Stamp :=
  ((candidates images).filter (·.repository = repository)).map Image.stamp

/-- `protected_here`, counted. -/
def protectedHere (repository : String) : ℕ :=
  (((stamps images repository).map Stamp.digest).toFinset.filter
    (isProtected images protectedDigests ·)).card

def budgetOf (keep : ℤ) : ℕ := (max keep 1).toNat

/-- What is outside the budget of one repository. -/
def removable (keep : ℤ) (repository : String) : List Stamp :=
  leftOver Stamp.digest (isProtected images protectedDigests) (budgetOf keep)
    (protectedHere images protectedDigests repository) []
    (newestFirst (stamps images repository))

def planRemovals (keep : ℤ) : List String :=
  ((managedRepositories.flatMap (removable images protectedDigests keep)).insertionSort
    (· ≤ ·)).map Stamp.digest

end Plan

/-! ### Digests of a record -/

/-- What the interpreter's library makes of values. -/
structure RetentionTexts extends TransitionTexts where
  str : PyValue → String
  str_str : ∀ s, str (.str s) = s

def endsInDigest (name : String) : Bool := "digest".toList.isSuffixOf name.toList

section Digests

variable (str : PyValue → String)

mutual

/-- `_digests_in`, of the entries of an object. -/
def digestsIn : List (String × PyValue) → List String
  | [] => []
  | (name, value) :: rest => digestsOf name value ++ digestsIn rest

def digestsOf (name : String) : PyValue → List String
  | .dict entries => digestsIn entries
  | value => if endsInDigest name && truthy value then [str value] else []

end

end Digests

/-- `dataclasses.asdict`: the running Admin of a record is four fields of its own. -/
def asDataclass (r : TransitionRecord) : Entries :=
  (r.entries.filter fun entry => entry.1 ∉ ["orchestrator_admin", "selected_ems_build"]) ++
    [("orchestrator_build_id", Transition.textValue
        (r.orchestratorOverride.map fun admin => admin.buildId.asText)),
      ("orchestrator_revision", Transition.textValue
        (r.orchestratorOverride.map Transition.AdminIdentity.revision)),
      ("orchestrator_admin_image", Transition.textValue
        (r.orchestratorOverride.map Transition.AdminIdentity.image)),
      ("orchestrator_admin_digest", Transition.textValue
        (r.orchestratorOverride.map Transition.AdminIdentity.digest))]

/-! ### The two stores -/

/-- A file, and why it cannot be read. -/
structure StoredFile where
  content : FileContent
  unreadable : Option String

structure StoredFiles where
  knownGood : StoredFile
  transition : StoredFile

/-- `KnownGoodStore.current`: a file that cannot be read is as good as none. -/
def knownGoodCurrent (file : StoredFile) : Option Entries :=
  match file.unreadable, file.content with
  | none, .json (.dict data) =>
    match parseSystemBuildId (getValue data "build_id") with
    | .ok _ => some data
    | .error _ => none
  | _, _ => none

/-- `PendingTransitionStore.read`. -/
def transitionRead (texts : RetentionTexts) (file : StoredFile) :
    Transition.Outcome (Option DurableRecord) :=
  Transition.readRecord texts.toTransitionTexts ⟨file.unreadable, .none⟩ file.content

/-- `str(exc)`. -/
def failureText : StoreFailure → String
  | .state e => e.message
  | .os message => message
  | .overflow => "date value out of range"

/-- `protected_digests`; what it raises is `ProtectionUnreadable`. -/
def protectedDigests (texts : RetentionTexts) (files : StoredFiles) : Except String (List String) :=
  match transitionRead texts files.transition with
  | .error e => .error (failureText e)
  | .ok record =>
    .ok ((knownGoodCurrent files.knownGood).elim [] (digestsIn texts.str) ++
      record.elim [] fun r => digestsIn texts.str (asDataclass r.toTransitionRecord))

/-! ### The listing -/

/-- A line of `docker images`, as decoded. -/
structure DockerLine where
  id : String
  digest : String
  repository : String
  createdAt : String

/-- What a removal names: the local id, or the digest of the repository. -/
def DockerLine.identity (line : DockerLine) : String :=
  if pyStrip line.id ≠ "" then pyStrip line.id else pyStrip line.digest

def listImages (repository : String) (lines : List DockerLine) : List Image :=
  lines.filterMap fun line =>
    if line.identity = "" ∨ line.repository ≠ repository then none
    else some ⟨repository, line.identity,
      [pyStrip line.id, pyStrip line.digest].filter (· ≠ ""), line.createdAt⟩

/-- What the daemon lists of each repository, or why it does not.  An image is listed under its
own repository. -/
structure Listing where
  images : String → Except String (List Image)
  of_repository : ∀ repository list, images repository = .ok list →
    ∀ image ∈ list, image.repository = repository

theorem repository_of_listImages {repository : String} {lines : List DockerLine} {image : Image}
    (h : image ∈ listImages repository lines) : image.repository = repository := by
  obtain ⟨line, -, hline⟩ := List.mem_filterMap.mp h
  split at hline
  · cases hline
  · obtain rfl := Option.some_inj.mp hline
    rfl

/-- The listing of a daemon that answers these lines. -/
def Listing.ofLines (lines : String → List DockerLine) : Listing where
  images repository := .ok (listImages repository (lines repository))
  of_repository _ _ hlist _ himage := by
    obtain rfl := Except.ok.inj hlist
    exact repository_of_listImages himage

/-- The images of both repositories. -/
def Listing.all (listing : Listing) : Except String (List Image) := do
  let admin ← listing.images adminImageRepo
  let ems ← listing.images emsImageRepo
  return admin ++ ems

/-! ### A run -/

/-- What a run asks the daemon to remove, and its result. -/
structure RunResult where
  asked : List String
  removed : List String
  keptProtected : ℕ
  skipped : Option String
deriving DecidableEq

/-- The inputs of a run. -/
structure RunInput where
  files : StoredFiles
  listing : Listing
  keep : ℤ
  alsoProtected : List String
  removeImage : String → Bool

def run (texts : RetentionTexts) (input : RunInput) : RunResult :=
  match protectedDigests texts input.files with
  | .error message => ⟨[], [], 0, some ("protection_unreadable: " ++ message)⟩
  | .ok found =>
    let kept := found ++ input.alsoProtected.filter (· ≠ "")
    match input.listing.all with
    | .error message => ⟨[], [], kept.dedup.length, some ("listing_failed: " ++ message)⟩
    | .ok images =>
      let asked := planRemovals images kept input.keep
      ⟨asked, asked.filter input.removeImage, kept.dedup.length, none⟩

end SolarFlowEms.Admin.ImageRetention
