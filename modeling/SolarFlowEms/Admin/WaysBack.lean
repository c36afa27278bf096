import SolarFlowEms.Admin.ImageRetention

/-!
# Image retention and the way back

A run asks to remove exactly the digests that some repository holds beyond its budget.  That spares
every way back where the files can be read as records, hand on all the digests they name, and no
image is listed under both repositories with room in one of them only.
-/

namespace SolarFlowEms.Admin.ImageRetention

open Python BoundedHistory Fallible
open SolarFlowEms.Documents (Entries)
open SolarFlowEms.Config (truthy)
open Transition (FileContent DurableRecord TransitionRecord textValue boolValue pathValue)

/-! ### What a plan removes -/

section Plan

variable {images : List Image} {handed : List String} {keep : ℤ} {repository digest : String}

/-- The protected images of the repository, and the unprotected ones that are newer than this one,
fill the budget. -/
structure OverBudget (images : List Image) (handed : List String) (keep : ℤ)
    (repository digest : String) : Prop where
  listed : digest ∈ (stamps images repository).map Stamp.digest
  unprotected : isProtected images handed digest = false
  full : budgetOf keep ≤ protectedHere images handed repository +
    (newerNames Stamp.digest (isProtected images handed) (stamps images repository) digest).card

theorem mem_removable : (∃ stamp ∈ removable images handed keep repository, stamp.digest = digest) ↔
    OverBudget images handed keep repository digest := by
  rw [removable, mem_leftOver_newestFirst]
  exact ⟨fun ⟨hlisted, hkept, hfull⟩ => ⟨hlisted, hkept, hfull⟩,
    fun h => ⟨h.listed, h.unprotected, h.full⟩⟩

/-- **A plan removes what a managed repository holds beyond its budget.** -/
theorem mem_planRemovals : digest ∈ planRemovals images handed keep ↔
    ∃ repository ∈ managedRepositories, OverBudget images handed keep repository digest := by
  have hmem (stamp : Stamp) : stamp ∈ (managedRepositories.flatMap
      (removable images handed keep)).insertionSort (· ≤ ·) ↔
      ∃ repository ∈ managedRepositories, stamp ∈ removable images handed keep repository := by
    rw [(List.perm_insertionSort _ _).mem_iff, List.mem_flatMap]
  rw [planRemovals, List.mem_map]
  constructor
  · rintro ⟨stamp, hstamp, rfl⟩
    obtain ⟨repository, hmanaged, hremovable⟩ := (hmem stamp).mp hstamp
    exact ⟨repository, hmanaged, mem_removable.mp ⟨stamp, hremovable, rfl⟩⟩
  · rintro ⟨repository, hmanaged, hover⟩
    obtain ⟨stamp, hstamp, rfl⟩ := mem_removable.mpr hover
    exact ⟨stamp, (hmem stamp).mpr ⟨repository, hmanaged, hstamp⟩, rfl⟩

theorem mem_candidates {image : Image} : image ∈ candidates images ↔
    image ∈ images ∧ image.digest ≠ "" ∧ image.repository ∈ managedRepositories := by
  simp only [candidates, List.mem_filter, Bool.and_eq_true, decide_eq_true_eq]

theorem mem_stamps_digest : digest ∈ (stamps images repository).map Stamp.digest ↔
    ∃ image ∈ candidates images, image.repository = repository ∧ image.digest = digest := by
  simp only [stamps, List.map_map, List.mem_map, List.mem_filter, decide_eq_true_eq]
  constructor
  · rintro ⟨image, ⟨hmem, hrepository⟩, hdigest⟩
    exact ⟨image, hmem, hrepository, hdigest⟩
  · rintro ⟨image, hmem, hrepository, hdigest⟩
    exact ⟨image, ⟨hmem, hrepository⟩, hdigest⟩

theorem ne_empty_of_mem_names {image : Image} (hdigest : image.digest ≠ "") {name : String}
    (h : name ∈ image.names) : name ≠ "" := by
  rcases List.mem_cons.mp h with rfl | h
  · exact hdigest
  · simpa using (List.mem_filter.mp h).2

theorem isProtected_of_name {image : Image} (himage : image ∈ candidates images) {name : String}
    (hname : name ∈ image.names) (hhanded : name ∈ handed) :
    isProtected images handed image.digest = true := by
  have hne := ne_empty_of_mem_names (mem_candidates.mp himage).2.1 hname
  refine List.any_eq_true.mpr ⟨name, List.mem_flatMap.mpr ⟨image, ?_, hname⟩, ?_⟩
  · exact List.mem_filter.mpr ⟨himage, decide_eq_true rfl⟩
  · exact decide_eq_true (List.mem_filter.mpr ⟨hhanded, decide_eq_true hne⟩)

end Plan

/-! ### What the stores hand on -/

section Digests

variable {str : PyValue → String}

/-- A digest in a field of an object, or of an object in it. -/
inductive Carries (str : PyValue → String) : List (String × PyValue) → String → Prop
  | field {entries : List (String × PyValue)} {name : String} {value : PyValue} :
      (name, value) ∈ entries → value.dict? = none → endsInDigest name = true →
      truthy value = true → Carries str entries (str value)
  | inner {entries inner : List (String × PyValue)} {name s : String} :
      (name, .dict inner) ∈ entries → Carries str inner s → Carries str entries s

variable {name s : String} {value : PyValue}

theorem digestsOf_of_not_dict (h : value.dict? = none) :
    digestsOf str name value = if endsInDigest name && truthy value then [str value] else [] := by
  rw [digestsOf]
  rintro entries rfl
  cases h

theorem carries_of_field {entries : List (String × PyValue)}
    (hdict : value.dict? = none) (hmem : (name, value) ∈ entries)
    (h : s ∈ digestsOf str name value) : Carries str entries s := by
  rw [digestsOf_of_not_dict hdict] at h
  split at h
  · rename_i hfield
    obtain rfl := List.mem_singleton.mp h
    obtain ⟨hname, htruthy⟩ := Bool.and_eq_true_iff.mp hfield
    exact .field hmem hdict hname htruthy
  · cases h

mutual

theorem carries_of_mem_digestsIn {s : String} : (entries : List (String × PyValue)) →
    s ∈ digestsIn str entries → Carries str entries s
  | [], h => by
    rw [digestsIn] at h
    cases h
  | (name, value) :: rest, h => by
    rw [digestsIn] at h
    rcases List.mem_append.mp h with h | h
    · exact carries_of_mem_digestsOf value List.mem_cons_self h
    · cases carries_of_mem_digestsIn rest h with
      | field hmem hdict hname htruthy =>
        exact .field (List.mem_cons_of_mem _ hmem) hdict hname htruthy
      | inner hmem hinner => exact .inner (List.mem_cons_of_mem _ hmem) hinner

theorem carries_of_mem_digestsOf {s name : String} {entries : List (String × PyValue)} :
    (value : PyValue) → (name, value) ∈ entries → s ∈ digestsOf str name value →
    Carries str entries s
  | .dict inner, hmem, h => by
    rw [digestsOf] at h
    exact .inner hmem (carries_of_mem_digestsIn inner h)
  | .none, hmem, h => carries_of_field rfl hmem h
  | .bool _, hmem, h => carries_of_field rfl hmem h
  | .int _, hmem, h => carries_of_field rfl hmem h
  | .float _, hmem, h => carries_of_field rfl hmem h
  | .str _, hmem, h => carries_of_field rfl hmem h
  | .list _, hmem, h => carries_of_field rfl hmem h

end

theorem mem_digestsIn_of_entry {entries : List (String × PyValue)}
    (hmem : (name, value) ∈ entries) (h : s ∈ digestsOf str name value) :
    s ∈ digestsIn str entries := by
  induction entries with
  | nil => cases hmem
  | cons entry rest ih =>
    obtain ⟨name', value'⟩ := entry
    rw [digestsIn, List.mem_append]
    rcases List.mem_cons.mp hmem with heq | hmem
    · obtain ⟨rfl, rfl⟩ := Prod.mk.inj heq
      exact .inl h
    · exact .inr (ih hmem)

/-- **What is found in a record** are the digests that its objects carry. -/
theorem mem_digestsIn {entries : List (String × PyValue)} :
    s ∈ digestsIn str entries ↔ Carries str entries s := by
  refine ⟨carries_of_mem_digestsIn entries, fun h => ?_⟩
  induction h with
  | field hmem hdict hname htruthy =>
    refine mem_digestsIn_of_entry hmem ?_
    rw [digestsOf_of_not_dict hdict, hname, htruthy]
    exact List.mem_cons_self
  | inner hmem _ ih =>
    refine mem_digestsIn_of_entry hmem ?_
    rw [digestsOf]
    exact ih

theorem digestsOf_textValue (name : String) (hstr : ∀ s, str (.str s) = s) (t : Option Text) :
    digestsOf str name (textValue t) =
      if endsInDigest name then t.toList.map Text.val else [] := by
  cases t with
  | none =>
    rw [textValue, digestsOf_of_not_dict rfl]
    simp [truthy]
  | some t =>
    rw [textValue, digestsOf_of_not_dict rfl]
    simp [truthy, hstr, t.ne_empty]

/-- The digests of a record: of the selected Admin and EMS, and of an Admin that runs it instead. -/
def recordDigests (r : TransitionRecord) : List String :=
  [r.admin.digest.val, r.emsDigest.val] ++
    (r.orchestratorOverride.map fun admin => admin.digest.val).toList

theorem digestsIn_asDataclass (hstr : ∀ s, str (.str s) = s) (r : TransitionRecord) :
    digestsIn str (asDataclass r) = recordDigests r := by
  have hfield (name : String) (value : PyValue) (hdict : value.dict? = none)
      (hname : endsInDigest name = false) : digestsOf str name value = [] := by
    rw [digestsOf_of_not_dict hdict, hname]
    rfl
  have htext (s : String) : (PyValue.str s).dict? = none := rfl
  have hflag (b : Bool) : (PyValue.bool b).dict? = none := rfl
  have hbool (b : Option Bool) : (boolValue b).dict? = none := by cases b <;> rfl
  have hpath (path : Option String) : (pathValue path).dict? = none := by cases path <;> rfl
  have hsome (t : Option Text) : (textValue t).dict? = none := by cases t <;> rfl
  have hdigest (name : String) (t : Text) (h : endsInDigest name = true) :
      digestsOf str name (.str t.val) = [t.val] := by
    have hvalue := digestsOf_textValue name hstr (some t)
    rw [h] at hvalue
    exact hvalue
  have hoverride (name : String) (t : Option Text) (h : endsInDigest name = true) :
      digestsOf str name (textValue t) = t.toList.map Text.val := by
    rw [digestsOf_textValue name hstr, if_pos h]
  have hrun : (r.orchestratorOverride.map Transition.AdminIdentity.digest).toList.map Text.val =
      (r.orchestratorOverride.map fun admin => admin.digest.val).toList := by
    cases r.orchestratorOverride <;> rfl
  rw [asDataclass, TransitionRecord.entries]
  simp (disch := first | decide | simp [htext, hflag, hbool, hpath, hsome])
    [digestsIn, hfield, hdigest, hoverride, hrun, recordDigests]

/-- A digest that a document names, wherever it stands in it. -/
inductive Names (str : PyValue → String) : PyValue → String → Prop
  | field {entries : List (String × PyValue)} {name : String} {value : PyValue} :
      (name, value) ∈ entries → value.dict? = none → endsInDigest name = true →
      truthy value = true → Names str (.dict entries) (str value)
  | entry {entries : List (String × PyValue)} {name s : String} {value : PyValue} :
      (name, value) ∈ entries → Names str value s → Names str (.dict entries) s
  | item {items : List PyValue} {value : PyValue} {s : String} :
      value ∈ items → Names str value s → Names str (.list items) s

end Digests

/-! ### A run and the way back -/

section Run

variable (texts : RetentionTexts) (input : RunInput)

/-- A text that one of the two files or the caller names. -/
def Named (name : String) : Prop :=
  (∃ v, input.files.knownGood.content = .json v ∧ Names texts.str v name) ∨
    (∃ v, input.files.transition.content = .json v ∧ Names texts.str v name) ∨
    name ∈ input.alsoProtected

/-- One of the files is there and is not read as a record. -/
def NotARecord : Prop :=
  (input.files.knownGood.content ≠ .absent ∧ knownGoodCurrent input.files.knownGood = none) ∨
    (input.files.transition.content ≠ .absent ∧
      ∀ r, transitionRead texts input.files.transition ≠ .ok (some r))

def handedOn : List String :=
  (protectedDigests texts input.files).toOption.getD [] ++ input.alsoProtected.filter (· ≠ "")

def Listed (images : List Image) : Prop := input.listing.all = .ok images

/-- The image is among the newest of its repository, as many as protection leaves room for. -/
def AmongNewest (images : List Image) (image : Image) : Prop :=
  protectedHere images (handedOn texts input) image.repository +
    (newerNames Stamp.digest (isProtected images (handedOn texts input))
      (stamps images image.repository) image.digest).card < budgetOf input.keep

/-- No way back is among what is asked to be removed. -/
structure KeepsWaysBack (asked : List String) : Prop where
  named : ∀ images, Listed input images → ∀ image ∈ images, image.digest ∈ asked →
    ∀ name ∈ image.names, ¬ Named texts input name
  managed : ∀ digest ∈ asked, ∃ images, Listed input images ∧
    (∃ image ∈ images, image.digest = digest) ∧
    ∀ image ∈ images, image.digest = digest → image.repository ∈ managedRepositories
  newest : ∀ images, Listed input images → ∀ image ∈ images, image.digest ∈ asked →
    ¬ AmongNewest texts input images image
  record : NotARecord texts input → asked = []

/-- The run ends before it plans: the transition cannot be read, or a listing fails. -/
def EndsEarly : Prop :=
  (∃ e, transitionRead texts input.files.transition = .error e) ∨
    ∃ message, input.listing.all = .error message

/-- One of the files names it, and the stores do not hand it on: it stands in a list, or outside the
fields of a record. -/
def Missed (name : String) : Prop := Named texts input name ∧ name ∉ handedOn texts input

/-- What makes a plan spare the ways back: a file that is no record leaves no image beyond a
budget, and an image beyond one bears no name that the stores miss and is not listed among the
newest of the other repository as well. -/
structure Spares (images : List Image) : Prop where
  record : NotARecord texts input → ∀ repository ∈ managedRepositories, ∀ image ∈ images,
    ¬ OverBudget images (handedOn texts input) input.keep repository image.digest
  handed : ∀ repository ∈ managedRepositories, ∀ image ∈ images,
    OverBudget images (handedOn texts input) input.keep repository image.digest →
    ∀ name ∈ image.names, ¬ Missed texts input name
  elsewhere : ∀ repository ∈ managedRepositories, ∀ image ∈ images, image.repository ≠ repository →
    OverBudget images (handedOn texts input) input.keep repository image.digest →
    ¬ AmongNewest texts input images image

variable {texts input}

/-- **What is protected** is exactly what the current known-good record carries in its objects, the
digests of a pending transition, and what the caller adds. -/
theorem mem_handedOn {record : Option DurableRecord} {name : String}
    (h : transitionRead texts input.files.transition = .ok record) :
    name ∈ handedOn texts input ↔
      (∃ data, knownGoodCurrent input.files.knownGood = some data ∧ Carries texts.str data name) ∨
        (∃ r, record = some r ∧ name ∈ recordDigests r.toTransitionRecord) ∨
        (name ∈ input.alsoProtected ∧ name ≠ "") := by
  have hfound : handedOn texts input =
      ((knownGoodCurrent input.files.knownGood).elim [] (digestsIn texts.str) ++
        record.elim [] fun r => digestsIn texts.str (asDataclass r.toTransitionRecord)) ++
          input.alsoProtected.filter (· ≠ "") := by
    rw [handedOn, protectedDigests, h]
    rfl
  rw [hfound, List.mem_append, List.mem_append, or_assoc]
  refine or_congr ?_ (or_congr ?_ ?_)
  · cases knownGoodCurrent input.files.knownGood with
    | none => simp
    | some data => simp [mem_digestsIn]
  · cases record with
    | none => simp
    | some r => simp [digestsIn_asDataclass texts.str_str]
  · simp

theorem asked_of_endsEarly (h : EndsEarly texts input) : (run texts input).asked = [] := by
  rw [run]
  cases hfound : protectedDigests texts input.files with
  | error message => rfl
  | ok found =>
    rcases h with ⟨e, he⟩ | ⟨message, hlisting⟩
    · rw [protectedDigests, he] at hfound
      cases hfound
    · simp only [hlisting]

theorem asked_of_listed {images : List Image} (h : ¬ EndsEarly texts input)
    (hlisted : Listed input images) :
    (run texts input).asked = planRemovals images (handedOn texts input) input.keep := by
  cases hread : transitionRead texts input.files.transition with
  | error e => exact absurd (.inl ⟨e, hread⟩) h
  | ok record =>
    have hfound : ∃ found, protectedDigests texts input.files = .ok found :=
      ⟨_, by rw [protectedDigests, hread]⟩
    obtain ⟨found, hfound⟩ := hfound
    rw [run, handedOn, hfound]
    simp only [show input.listing.all = .ok images from hlisted]
    rfl

theorem listed_of_not_endsEarly (h : ¬ EndsEarly texts input) : ∃ images, Listed input images := by
  cases hall : input.listing.all with
  | error message => exact absurd (.inr ⟨message, hall⟩) h
  | ok images => exact ⟨images, hall⟩

theorem managed_of_listed {images : List Image} (hlisted : Listed input images) {image : Image}
    (himage : image ∈ images) : image.repository ∈ managedRepositories := by
  obtain ⟨admin, hadmin, h⟩ := bind_eq_ok.mp hlisted
  obtain ⟨ems, hems, h⟩ := bind_eq_ok.mp h
  obtain rfl := Except.ok.inj h
  rcases List.mem_append.mp himage with himage | himage
  · rw [input.listing.of_repository _ _ hadmin image himage]
    exact List.mem_cons_self
  · rw [input.listing.of_repository _ _ hems image himage]
    exact List.mem_cons_of_mem _ List.mem_cons_self

theorem image_of_over {images : List Image} {repository digest : String}
    (h : OverBudget images (handedOn texts input) input.keep repository digest) :
    ∃ image ∈ candidates images, image.digest = digest := by
  obtain ⟨image, hmem, -, hdigest⟩ := mem_stamps_digest.mp h.listed
  exact ⟨image, hmem, hdigest⟩

theorem asked_iff {images : List Image} (h : ¬ EndsEarly texts input)
    (hlisted : Listed input images) {digest : String} : digest ∈ (run texts input).asked ↔
      ∃ repository ∈ managedRepositories,
        OverBudget images (handedOn texts input) input.keep repository digest := by
  rw [asked_of_listed h hlisted, mem_planRemovals]

/-- **Image retention never removes a way back** exactly where it ends early, or where a file that
is no record leaves nothing to remove and whatever it does remove bears no name that the stores miss
and is not among the newest of another repository. -/
theorem run_keepsWaysBack_iff : KeepsWaysBack texts input (run texts input).asked ↔
    EndsEarly texts input ∨ ∀ images, Listed input images → Spares texts input images := by
  by_cases hends : EndsEarly texts input
  · refine ⟨fun _ => .inl hends, fun _ => ?_⟩
    rw [asked_of_endsEarly hends]
    refine ⟨?_, ?_, ?_, fun _ => rfl⟩
    · intro images _ image _ hasked
      cases hasked
    · intro digest hasked
      cases hasked
    · intro images _ image _ hasked
      cases hasked
  constructor
  · intro h
    refine .inr fun images hlisted => ⟨?_, ?_, ?_⟩
    · intro hrecord repository hmanaged image _ hover
      have hasked := (asked_iff hends hlisted).mpr ⟨repository, hmanaged, hover⟩
      rw [h.record hrecord] at hasked
      cases hasked
    · intro repository hmanaged image himage hover name hname hmissed
      have hasked := (asked_iff hends hlisted).mpr ⟨repository, hmanaged, hover⟩
      exact h.named images hlisted image himage hasked name hname hmissed.1
    · intro repository hmanaged image himage _ hover
      have hasked := (asked_iff hends hlisted).mpr ⟨repository, hmanaged, hover⟩
      exact h.newest images hlisted image himage hasked
  · rintro (h | h)
    · exact absurd h hends
    obtain ⟨images, hlisted⟩ := listed_of_not_endsEarly hends
    have hspares := h images hlisted
    have hsame (images' : List Image) (hlisted' : Listed input images') : images' = images :=
      Except.ok.inj (hlisted'.symm.trans hlisted)
    refine ⟨?_, ?_, ?_, ?_⟩
    · intro images' hlisted' image himage hasked name hname hnamed
      obtain rfl := hsame images' hlisted'
      obtain ⟨repository, hmanaged, hover⟩ := (asked_iff hends hlisted).mp hasked
      have hhanded : name ∈ handedOn texts input := by
        by_contra hmissed
        exact hspares.handed repository hmanaged image himage hover name hname ⟨hnamed, hmissed⟩
      obtain ⟨image', himage', hdigest⟩ := image_of_over hover
      have hcandidate : image ∈ candidates images' :=
        mem_candidates.mpr ⟨himage, hdigest ▸ (mem_candidates.mp himage').2.1,
          managed_of_listed hlisted himage⟩
      have hprotected := isProtected_of_name hcandidate hname hhanded
      rw [hover.unprotected] at hprotected
      cases hprotected
    · intro digest hasked
      obtain ⟨repository, hmanaged, hover⟩ := (asked_iff hends hlisted).mp hasked
      obtain ⟨image, himage, hdigest⟩ := image_of_over hover
      exact ⟨images, hlisted, ⟨image, (mem_candidates.mp himage).1, hdigest⟩,
        fun image' himage' _ => managed_of_listed hlisted himage'⟩
    · intro images' hlisted' image himage hasked
      obtain rfl := hsame images' hlisted'
      obtain ⟨repository, hmanaged, hover⟩ := (asked_iff hends hlisted).mp hasked
      intro hnewest
      by_cases hown : image.repository = repository
      · -- in its own repository the two exclude each other
        rw [← hown] at hover
        exact absurd hover.full (not_le.mpr hnewest)
      · exact hspares.elsewhere repository hmanaged image himage hown hover hnewest
    · intro hrecord
      refine List.eq_nil_iff_forall_not_mem.mpr fun digest hasked => ?_
      obtain ⟨repository, hmanaged, hover⟩ := (asked_iff hends hlisted).mp hasked
      obtain ⟨image, himage, rfl⟩ := image_of_over hover
      exact hspares.record hrecord repository hmanaged image (mem_candidates.mp himage).1 hover

end Run

/-! ### A known-good file that cannot be read -/

/-- Strings are their own text. -/
def plainTexts : RetentionTexts where
  repr v := v.str?.getD ""
  parseIso _ := none
  str v := v.str?.getD ""
  str_str := Config.getD_str?_str

/-- Two Admin images of local ids `a` and `b`, one of which is to stay; reading the file that names
the older one fails. -/
def unreadableKnownGood : RunInput where
  files :=
    ⟨⟨.json (.dict [("build_id", .str "1-1"), ("admin_digest", .str "a")]),
      some "Input/output error"⟩, ⟨.absent, none⟩⟩
  listing := .ofLines fun repository =>
    if repository = adminImageRepo then
      [⟨"b", "", adminImageRepo, "2026-02"⟩, ⟨"a", "", adminImageRepo, "2026-01"⟩]
    else []
  keep := 1
  alsoProtected := []
  removeImage _ := true

/-- A record with a digest in an object of its own and another in a list, while the caller adds a
third. -/
def nestedKnownGood : RunInput where
  files :=
    ⟨⟨.json (.dict [("build_id", .str "1-1"), ("admin_digest", .str "a"),
        ("ems", .dict [("digest", .str "e")]),
        ("earlier", .list [.dict [("digest", .str "old")]])]), none⟩, ⟨.absent, none⟩⟩
  listing := unreadableKnownGood.listing
  keep := 1
  alsoProtected := ["running", ""]
  removeImage _ := true

theorem mem_handedOn_nested :
    handedOn plainTexts nestedKnownGood = ["a", "e", "running"] ∧
      ("e" ∈ handedOn plainTexts nestedKnownGood ↔
        (∃ data, knownGoodCurrent nestedKnownGood.files.knownGood = some data ∧
          Carries plainTexts.str data "e") ∨
        (∃ r : DurableRecord, none = some r ∧ "e" ∈ recordDigests r.toTransitionRecord) ∨
        ("e" ∈ nestedKnownGood.alsoProtected ∧ "e" ≠ "")) :=
  ⟨by decide, @mem_handedOn plainTexts nestedKnownGood none "e" rfl⟩

theorem unreadable_known_good_removes :
    (run plainTexts unreadableKnownGood).asked = ["a"] ∧
      ¬ KeepsWaysBack plainTexts unreadableKnownGood
        (run plainTexts unreadableKnownGood).asked := by
  have hasked : (run plainTexts unreadableKnownGood).asked = ["a"] := by decide
  refine ⟨hasked, fun h => ?_⟩
  have hnone := h.record (.inl ⟨by simp [unreadableKnownGood], rfl⟩)
  rw [hasked] at hnone
  cases hnone

end SolarFlowEms.Admin.ImageRetention
