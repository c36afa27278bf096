import SolarFlowEms.Appliance.ReleaseImages

/-!
# The history of Admins that were good

Every Admin that was verified is recorded with its digest, the newest first, so that there is one to
go back to.  A history that cannot be read holds nothing, and it is kept beside the one that the next
record begins.  An entry is the same as a new one where both image name and digest are; where an
Admin is recorded again under another name, its old entry stays, and pushes the one before it down.
-/

namespace SolarFlowEms.Appliance.KnownGood

structure Entry where
  adminImage : String
  adminDigest : String
  adminVersion : String
  adminReference : String
  revision : String
  ociSource : String
  architecture : String
  composeHash : String
  environmentHash : String
  referenced : adminReference ≠ ""

def Entry.fields (entry : Entry) : List String :=
  [entry.adminImage, entry.adminDigest, entry.adminVersion, entry.adminReference, entry.revision,
    entry.ociSource, entry.architecture, entry.composeHash, entry.environmentHash]

theorem Entry.fields_injective : Function.Injective Entry.fields := by
  intro a b h
  cases a
  simp only [fields, List.cons.injEq] at h
  obtain ⟨rfl, rfl, rfl, rfl, rfl, rfl, rfl, rfl, rfl, -⟩ := h
  rfl

instance : DecidableEq Entry := Entry.fields_injective.decidableEq

/-- `text.rpartition(":")[0]` -/
def beforeLastColon (text : String) : String :=
  String.ofList ((text.toList.reverse.dropWhile (· ≠ ':')).drop 1).reverse

/-- The reference of an entry that is given none. -/
def defaultReference (adminImage adminDigest : String) : String :=
  (if beforeLastColon adminImage = "" then adminImage else beforeLastColon adminImage) ++ "@" ++
    adminDigest

theorem defaultReference_ne (adminImage adminDigest : String) :
    defaultReference adminImage adminDigest ≠ "" := by
  intro h
  have hlist := congrArg String.toList h
  simp [defaultReference] at hlist

/-- The entry of an Admin; it always names an immutable reference. -/
def Entry.of (adminImage adminDigest adminVersion reference revision ociSource architecture
    composeHash environmentHash : String) : Entry where
  adminImage
  adminDigest
  adminVersion
  adminReference := if reference = "" then defaultReference adminImage adminDigest else reference
  revision
  ociSource
  architecture
  composeHash
  environmentHash
  referenced := by
    split
    · exact defaultReference_ne adminImage adminDigest
    · assumption

/-- `history.json`, as far as it can be read. -/
inductive HistoryFile where
  | absent
  | unreadable
  | records (entries : List Entry)
deriving DecidableEq

namespace HistoryFile

def entries : HistoryFile → List Entry
  | .records entries => entries
  | _ => []

/-- `problem`: whether the history cannot be read. -/
def problem (history : HistoryFile) : Bool := history == .unreadable

def current (history : HistoryFile) : Option Entry := history.entries.head?

def previous (history : HistoryFile) : Option Entry := history.entries[1]?

end HistoryFile

def minRetained : ℕ := 2

/-- How many entries a store keeps, two at least. -/
structure Retention where
  maxEntries : ℕ
  enough : minRetained ≤ maxEntries

/-- What the history holds once an entry is recorded. -/
def recorded (retention : Retention) (entry : Entry) (history : HistoryFile) : HistoryFile :=
  .records ((entry :: history.entries.filter fun item =>
    item.adminDigest ≠ entry.adminDigest || item.adminImage ≠ entry.adminImage).take
      retention.maxEntries)

variable {retention : Retention} {entry : Entry} {history : HistoryFile}

theorem entries_recorded : (recorded retention entry history).entries =
    entry :: (history.entries.filter fun item =>
      item.adminDigest ≠ entry.adminDigest || item.adminImage ≠ entry.adminImage).take
        (retention.maxEntries - 1) := by
  obtain ⟨n, hn⟩ := retention
  cases n with
  | zero => exact absurd hn (by decide)
  | succ n => rfl

/-! ### Histories that lead back -/

/-- What a history of the digests recorded in it, newest first, has to offer: nothing where there are
none, one entry where they are one and the same, and else two entries that differ. -/
inductive LeadsBack : List String → List Entry → Prop
  | empty : LeadsBack [] []
  | single {digests : List String} {entry : Entry}
      (same : ∀ digest ∈ digests, digest = entry.adminDigest) (any : digests ≠ []) :
      LeadsBack digests [entry]
  | several {digests : List String} {current previous : Entry} {older : List Entry}
      (last : digests.head? = some current.adminDigest)
      (differ : current.adminDigest ≠ previous.adminDigest) :
      LeadsBack digests (current :: previous :: older)

/-- The current entry is recorded under no other name. -/
def Spelled (history : HistoryFile) (entry : Entry) : Prop :=
  ∀ current, history.current = some current → current.adminDigest = entry.adminDigest →
    current.adminImage = entry.adminImage

instance (history : HistoryFile) (entry : Entry) : Decidable (Spelled history entry) :=
  match h : history.current with
  | none => isTrue fun current hc => by rw [hc] at h; cases h
  | some c =>
    decidable_of_iff (c.adminDigest = entry.adminDigest → c.adminImage = entry.adminImage)
      ⟨fun himp current hc => by rw [hc] at h; cases h; exact himp,
        fun himp => himp c h⟩

variable {digests : List String}

theorem LeadsBack.head {entries : List Entry}
    (h : LeadsBack digests entries) : digests.head? = entries.head?.map Entry.adminDigest := by
  cases h with
  | empty => rfl
  | single same any =>
    cases digests with
    | nil => contradiction
    | cons digest digests => exact congrArg some (same digest List.mem_cons_self)
  | several last differ => exact last

/-- **A record that spells the current Admin as before keeps the way back.** -/
theorem LeadsBack.recorded (h : LeadsBack digests history.entries)
    (hspelled : Spelled history entry) :
    LeadsBack (entry.adminDigest :: digests) (recorded retention entry history).entries := by
  have henough : retention.maxEntries - 1 ≠ 0 := by
    have := retention.enough
    rw [minRetained] at this
    omega
  obtain ⟨n, hn⟩ := Nat.exists_eq_succ_of_ne_zero henough
  rw [entries_recorded, hn]
  generalize hentries : history.entries = entries at h
  cases h with
  | empty =>
    rw [List.filter_nil, List.take_nil]
    exact .single (by simp) (by simp)
  | @single _ current same _ =>
    by_cases hdigest : current.adminDigest = entry.adminDigest
    · have himage : current.adminImage = entry.adminImage :=
        hspelled current (by rw [HistoryFile.current, hentries]; rfl) hdigest
      rw [List.filter_cons_of_neg (by simp [hdigest, himage]), List.filter_nil, List.take_nil]
      refine .single ?_ (by simp)
      intro digest hmem
      rcases List.mem_cons.mp hmem with rfl | hmem
      · rfl
      · exact (same digest hmem).trans hdigest
    · rw [List.filter_cons_of_pos (by simp [hdigest]), List.take_succ_cons]
      exact .several rfl (Ne.symm hdigest)
  | @several _ current previous older last differ =>
    by_cases hdigest : current.adminDigest = entry.adminDigest
    · have himage : current.adminImage = entry.adminImage :=
        hspelled current (by rw [HistoryFile.current, hentries]; rfl) hdigest
      have hprevious : previous.adminDigest ≠ entry.adminDigest :=
        fun h => differ (hdigest.trans h.symm)
      rw [List.filter_cons_of_neg (by simp [hdigest, himage]),
        List.filter_cons_of_pos (by simp [hprevious]), List.take_succ_cons]
      exact .several rfl (Ne.symm hprevious)
    · rw [List.filter_cons_of_pos (by simp [hdigest]), List.take_succ_cons]
      exact .several rfl (Ne.symm hdigest)

theorem LeadsBack.two_of_ne {entries : List Entry}
    (h : LeadsBack digests entries) {d d' : String} (hd : d ∈ digests) (hd' : d' ∈ digests)
    (hne : d ≠ d') : ∃ current previous older, entries = current :: previous :: older ∧
      current.adminDigest ≠ previous.adminDigest := by
  cases h with
  | empty => cases hd
  | single same any => exact absurd ((same d hd).trans (same d' hd').symm) hne
  | several last differ => exact ⟨_, _, _, rfl, differ⟩

/-- **An entry to go back to is another than the current one.** -/
theorem LeadsBack.previous_ne (h : LeadsBack digests history.entries)
    {current previous : Entry} (hc : history.current = some current)
    (hp : history.previous = some previous) : current.adminDigest ≠ previous.adminDigest := by
  rw [HistoryFile.current] at hc
  rw [HistoryFile.previous] at hp
  generalize history.entries = entries at h hc hp
  cases h with
  | empty => cases hc
  | single same any => cases hp
  | several last differ =>
    cases hc
    cases hp
    exact differ

end SolarFlowEms.Appliance.KnownGood
