import SolarFlowEms.Library.Fallible
import SolarFlowEms.Library.Run
import SolarFlowEms.Library.Versioned
import SolarFlowEms.Schedule.Store

/-!
# Edits against a revision

Any number of clients read the schedules file and edit rules of it, each edit naming the
revision it was made against, while the EMS records what it applied, follows renamed devices
and restores backups.  An edit that is taken should meet the rule its client read.  It does as
long as every change of a rule's content comes with a new revision: a restore that takes a
rule back to a revision that was read with another content, and a rename that changes a rule
that was read, break it, and so would ids that are given twice.
-/

namespace SolarFlowEms.Schedule

open Python Versioned Fallible Run

/-! ### What a client reads -/

/-- The editable content of an entry. -/
structure Content where
  action : PyValue
  target : PyValue
  timing : PyValue
  enabled : PyValue

def contentOf (entry : PyValue) : Content where
  action := entryField entry "action"
  target := entryField entry "target"
  timing := entryField entry "when"
  enabled := entryField entry "enabled"

/-- The whole number that a stored revision equals. -/
def revisionOf : PyValue → Option ℤ
  | .int z => some z
  | .bool b => some (if b then 1 else 0)
  | .float (.finite x) => if x.den = 1 then some x.num else none
  | _ => none

theorem eqInt_iff_revisionOf {value : PyValue} {z : ℤ} :
    value.eqInt z = true ↔ revisionOf value = some z := by
  cases value with
  | int x | bool b => simp [PyValue.eqInt, revisionOf]
  | float x =>
    cases x with
    | finite q =>
      simp only [PyValue.eqInt, revisionOf, decide_eq_true_eq, Option.ite_none_right_eq_some,
        Option.some.injEq]
      constructor
      · rintro rfl
        exact ⟨Rat.den_intCast z, Rat.num_intCast z⟩
      · rintro ⟨hden, rfl⟩
        exact (Rat.coe_int_num_of_den_eq_one hden).symm
    | posInf | negInf | nan => exact ⟨nofun, nofun⟩
  | none | str s | list items | dict entries => exact ⟨nofun, nofun⟩

section Views

variable (texts : ValueTexts)

/-- An entry as readers and editors see it: the id that edits find it by, its revision and its
content. -/
def viewOf (entry : PyValue) : View String Content where
  key := (entryId texts entry).toOption
  version := revisionOf (entryField entry "revision")
  content := contentOf entry

def findEntry (id : String) (rules : List PyValue) : Option PyValue :=
  rules.find? fun entry => (entryId texts entry).toOption = some id

variable {texts}

variable {entry : PyValue} {id : String} {revision : Option ℤ}

theorem key_viewOf :
    (viewOf texts entry).key = some id ↔ entryId texts entry = .ok id := by
  rw [viewOf]
  cases entryId texts entry with
  | ok id' | error e => simp [Except.toOption]

theorem ne_empty_of_entryId (h : entryId texts entry = .ok id) :
    id ≠ "" := by
  rw [entryId] at h
  split at h
  · next usable husable =>
    cases h
    have hne := Option.filter_eq_some_iff.mp husable
    simpa using hne.2
  · cases hhash : texts.contentHash entry with
    | error e =>
      rw [hhash] at h
      cases h
    | ok hash =>
      rw [hhash] at h
      cases h
      intro hempty
      have hlength := congrArg String.length hempty
      simp [String.length_append] at hlength

theorem checkRevision_ok {stored : PyValue} (h : checkRevision texts id revision stored = .ok ()) :
    ∀ r ∈ revision, revisionOf stored = some r := by
  intro r hr
  rw [Option.mem_def.mp hr, checkRevision] at h
  split at h
  · next heq => exact eqInt_iff_revisionOf.mp heq
  · obtain ⟨_, -, h⟩ := bind_eq_ok.mp h
    cases h

/-- **An edit finds the first entry of its id, at its revision.** -/
theorem indexOf_ok {rules : List PyValue} {index : ℕ}
    (h : indexOf texts id revision rules = .ok index) :
    ∃ entry, rules[index]? = some entry ∧ findEntry texts id rules = some entry ∧
      entryId texts entry = .ok id ∧
      ∀ r ∈ revision, revisionOf (entryField entry "revision") = some r := by
  induction rules generalizing index with
  | nil => cases h
  | cons entry rest ih =>
    rw [indexOf] at h
    obtain ⟨found, hfound, h⟩ := bind_eq_ok.mp h
    have hid := mapError_eq_ok.mp hfound
    split at h
    · next heq =>
      obtain ⟨_, hcheck, h⟩ := bind_eq_ok.mp h
      cases h
      subst heq
      refine ⟨entry, rfl, ?_, hid, checkRevision_ok hcheck⟩
      rw [findEntry, List.find?_cons_of_pos]
      simp [hid, Except.toOption]
    · next hne =>
      obtain ⟨below, hbelow, h⟩ := bind_eq_ok.mp h
      cases h
      obtain ⟨e, hget, hfind, hrest⟩ := ih hbelow
      refine ⟨e, hget, ?_, hrest⟩
      rw [findEntry, List.find?_cons_of_neg]
      · exact hfind
      · simp [hid, Except.toOption, hne]

theorem viewOf_stampFields (texts : ValueTexts) (fields : List (String × PyValue)) (stamp : RuleStamp)
    (hid : stamp.id ≠ "") : (viewOf texts (stampFields fields stamp)).key = some stamp.id ∧
      (viewOf texts (stampFields fields stamp)).version = some stamp.revision := by
  constructor
  · rw [key_viewOf, entryId, usableId]
    simp [stampFields, PyValue.dict?, getValue, dictGet, PyValue.str?, Option.filter, hid]
  · simp [viewOf, stampFields, entryField, getValue, dictGet, revisionOf, List.lookup_cons]

end Views

/-! ### What the operations do to the entries -/

variable {texts : ValueTexts} {stored written : ScheduleData}

/-- An edit at a revision puts an entry of the same id and the next revision in the place of
the one it finds. -/
structure Replaces (texts : ValueTexts) (id : String) (revision : ℤ) (rules rules' : List PyValue) :
    Prop where
  exists_entry : ∃ (index : ℕ) (entry entry' : PyValue), rules[index]? = some entry ∧
    findEntry texts id rules = some entry ∧ entryId texts entry = .ok id ∧
    (viewOf texts entry).version = some revision ∧ (viewOf texts entry').key = some id ∧
    (viewOf texts entry').version = some (revision + 1) ∧ rules' = rules.set index entry'

variable {id by_ key key' : String} {revision : ℤ} {rules : List PyValue} {payload entry : PyValue}
  {check : Option (ScheduleBook → Parsed Unit)} {now : TimeText.UtcTime} {draws : List String}
  {names : List (String × String)} {operation : Operation}

theorem replaces_of_indexOf {index : ℕ}
    (h : indexOf texts id (some revision) rules = .ok index) (fields : List (String × PyValue))
    (now : TimeText.UtcTime) (by_ : String) :
    Replaces texts id revision rules (rules.set index (stampFields fields
      { id, revision := revision + 1, updatedAt := now, updatedBy := by_ })) := by
  obtain ⟨entry, hget, hfind, hid, hrevision⟩ := indexOf_ok h
  have hview := viewOf_stampFields texts fields
    { id, revision := revision + 1, updatedAt := now, updatedBy := by_ } (ne_empty_of_entryId hid)
  exact ⟨index, entry, _, hget, hfind, hid, hrevision revision rfl, hview.1, hview.2, rfl⟩

theorem replace_replaces
    (h : replace texts id payload revision by_ check now stored = .ok written) :
    Replaces texts id revision stored.rules written.rules := by
  obtain ⟨fields, -, h⟩ := bind_eq_ok.mp h
  obtain ⟨index, hindex, h⟩ := bind_eq_ok.mp h
  obtain ⟨_, -, h⟩ := bind_eq_ok.mp h
  cases h
  exact replaces_of_indexOf hindex fields now by_

theorem skip_replaces {day : Calendar.Date}
    (h : skip texts id day revision by_ now stored = .ok written) :
    Replaces texts id revision stored.rules written.rules := by
  obtain ⟨index, hindex, h⟩ := bind_eq_ok.mp h
  obtain ⟨rule, -, h⟩ := bind_eq_ok.mp h
  obtain ⟨passed, -, h⟩ := bind_eq_ok.mp h
  obtain ⟨fields, -, h⟩ := bind_eq_ok.mp h
  cases h
  exact replaces_of_indexOf hindex fields now by_

theorem delete_erases {revision : Option ℤ} (h : delete texts id revision stored = .ok written) :
    ∃ index, indexOf texts id revision stored.rules = .ok index ∧
      written.rules = stored.rules.eraseIdx index := by
  obtain ⟨index, hindex, h⟩ := bind_eq_ok.mp h
  cases h
  exact ⟨index, hindex, rfl⟩

theorem swapEntries_perm (rules : List PyValue) (i j : ℕ) : (swapEntries rules i j).Perm rules := by
  rw [swapEntries.eq_def]
  split
  · next entry entry' hi hj =>
    obtain ⟨hi', rfl⟩ := List.getElem?_eq_some_iff.mp hi
    obtain ⟨hj', rfl⟩ := List.getElem?_eq_some_iff.mp hj
    exact List.set_set_perm hi' hj'
  · exact .refl _

theorem move_perm {direction : Direction}
    (h : move texts id direction stored = .ok written) : written.rules.Perm stored.rules := by
  obtain ⟨index, -, h⟩ := bind_eq_ok.mp h
  split at h
  · cases h
    exact .refl _
  · cases h
    exact swapEntries_perm _ _ _
  · cases h
    exact swapEntries_perm _ _ _

theorem x_append_ne_r_append (hash draw : String) : "x_" ++ hash ≠ "r_" ++ draw := by
  intro h
  have hlist := congrArg String.toList h
  simp only [String.toList_append] at hlist
  exact absurd (List.cons.inj hlist).1 (by decide)

theorem entryField_id_of_entryId {draw : String} (h : entryId texts entry = .ok ("r_" ++ draw)) :
    entry.dict?.isSome ∧ entryField entry "id" = .str ("r_" ++ draw) := by
  rw [entryId] at h
  split at h
  · next usable husable =>
    cases h
    have hid := (Option.filter_eq_some_iff.mp husable).1
    cases hdict : entry.dict? with
    | none =>
      rw [hdict] at hid
      cases hid
    | some entries =>
      rw [hdict] at hid
      refine ⟨rfl, ?_⟩
      rw [PyValue.dict?_eq_some hdict]
      exact PyValue.str?_eq_some hid
  · cases hhash : texts.contentHash entry with
    | error e =>
      rw [hhash] at h
      cases h
    | ok hash =>
      rw [hhash] at h
      exact absurd (Except.ok.inj h) (x_append_ne_r_append hash draw)

theorem mem_takenIds {taken : List PyValue} (h : takenIds rules = .ok taken)
    (hentry : entry ∈ rules) (hdict : entry.dict?.isSome)
    (hid : entryField entry "id" = .str id) : .str id ∈ taken := by
  obtain ⟨value, hvalue, hok⟩ := exists_mem_of_mapM_eq_ok h (List.mem_filter.mpr ⟨hentry, hdict⟩)
  rw [hid] at hok
  cases hok
  exact hvalue

/-- **A new entry has an id that no entry has.** -/
theorem create_appends (h : create texts payload by_ check draws now stored = .ok written) :
    ∃ taken id, takenIds stored.rules = .ok taken ∧ newId draws taken = some id ∧
      ∃ entry, written.rules = stored.rules ++ [entry] ∧ (viewOf texts entry).key = some id ∧
        ∀ e ∈ stored.rules, entryId texts e ≠ .ok id := by
  obtain ⟨fields, -, h⟩ := bind_eq_ok.mp h
  obtain ⟨_, -, h⟩ := bind_eq_ok.mp h
  obtain ⟨_, -, h⟩ := bind_eq_ok.mp h
  obtain ⟨taken, htaken, h⟩ := bind_eq_ok.mp h
  split at h
  · cases h
  · next id hnew =>
    cases h
    obtain ⟨draw, -, rfl⟩ := List.mem_map.mp (List.mem_of_find?_eq_some hnew)
    have hfree := List.find?_some hnew
    have hne : "r_" ++ draw ≠ "" := by
      intro hempty
      have hlength := congrArg String.length hempty
      simp [String.length_append] at hlength
    refine ⟨taken, _, htaken, hnew, _, rfl, (viewOf_stampFields texts fields _ hne).1, ?_⟩
    intro e he hid
    obtain ⟨hdict, hfield⟩ := entryField_id_of_entryId hid
    have hmem := mem_takenIds htaken he hdict hfield
    have htakes : taken.any (·.eqStr ("r_" ++ draw)) = true :=
      List.any_eq_true.mpr ⟨_, hmem, by simp [PyValue.eqStr]⟩
    rw [htakes] at hfree
    cases hfree

theorem getValue_dictSet_of_ne {entries : List (String × PyValue)}
    (h : key ≠ key') (value : PyValue) :
    getValue (dictSet entries key value) key' = getValue entries key' := by
  have hlookup : (dictSet entries key value).lookup key' = entries.lookup key' := by
    have hne : (key' == key) = false := by simpa using h.symm
    rw [dictSet]
    split
    · clear * - hne
      induction entries with
      | nil => rfl
      | cons entry rest ih =>
        obtain ⟨k, v⟩ := entry
        by_cases hk : k = key
        · subst hk
          simpa [List.lookup_cons, hne] using ih
        · by_cases hk' : key' == k
          · simp [List.lookup_cons, hk, hk']
          · simpa [List.lookup_cons, hk, hk'] using ih
    · rw [List.lookup_append]
      simp [List.lookup_cons, hne]
  rw [getValue, getValue, dictGet, dictGet, hlookup]

theorem entryField_setEntryField_of_ne (h : key ≠ key')
    (value : PyValue) : entryField (setEntryField entry key value) key' = entryField entry key' := by
  cases entry with
  | dict entries => exact getValue_dictSet_of_ne h value
  | _ => rfl

theorem usableId_setEntryField (h : key ≠ "id") (value : PyValue) :
    usableId (setEntryField entry key value) = usableId entry := by
  cases entry with
  | dict entries =>
    show ((getValue (dictSet entries key value) "id").str?.filter (· ≠ "")) = _
    rw [getValue_dictSet_of_ne h]
    rfl
  | _ => rfl

/-- **A renamed entry with an id of its own keeps it, and its revision.** -/
theorem viewOf_renameEntry (texts : ValueTexts) (names : List (String × String))
    (h : usableId entry = some id) :
    (viewOf texts (renameEntry names entry)).key = (viewOf texts entry).key ∧
      (viewOf texts (renameEntry names entry)).version = (viewOf texts entry).version := by
  rw [renameEntry]
  split
  · exact ⟨rfl, rfl⟩
  · constructor
    · simp only [viewOf, entryId, usableId_setEntryField (show "target" ≠ "id" by decide), h]
    · simp only [viewOf, entryField_setEntryField_of_ne (show "target" ≠ "revision" by decide)]

theorem rename_renames (h : renameDevices texts names stored = .ok written) :
    written.rules = stored.rules ∨ written.rules = stored.rules.map (renameEntry names) := by
  obtain ⟨moved, -, h⟩ := bind_eq_ok.mp h
  dsimp only at h
  split at h
  · cases h
    exact .inl rfl
  · cases h
    exact .inr rfl

/-! ### Runs of operations and reads -/

/-- The file and all that clients have read from it. -/
structure StoreHistory where
  file : File
  readings : List (Reading String Content)

inductive StoreEvent where
  /-- A client reads the rules of the file. -/
  | read
  /-- A client, the scheduler or the backup runs an operation. -/
  | run (operation : Operation)

section Histories

variable (texts : ValueTexts)

/-- The rules of a file as readers and editors see them. -/
def viewsOf (rules : List PyValue) : List (View String Content) := rules.map (viewOf texts)

/-- An operation that raises leaves the file as it is. -/
def StoreHistory.step (history : StoreHistory) : StoreEvent → StoreHistory
  | .read =>
    { history with
      readings := history.readings ++
        (viewsOf texts history.file.rules).filterMap View.reading? }
  | .run operation =>
    match operation.apply texts history.file with
    | .ok file => { history with file }
    | .error _ => history

/-- The id and the revision that an edit names. -/
def Operation.edits? : Operation → Option (String × ℤ)
  | .replace id _ revision _ _ _ => some (id, revision)
  | .delete id revision => revision.map (id, ·)
  | .skip id _ revision _ _ => some (id, revision)
  | _ => none

/-- An edit that is taken meets the content that was read at its revision. -/
def EditsWhatWasRead (history : StoreHistory) (event : StoreEvent) : Prop :=
  ∀ operation id revision file, event = .run operation → operation.edits? = some (id, revision) →
    operation.apply texts history.file = .ok file →
    ∃ entry, findEntry texts id history.file.rules = some entry ∧
      ∀ reading ∈ history.readings, reading.key = id → reading.version = revision →
        contentOf entry = reading.content

/-- Nothing changes a rule that was read without a new revision, and no id is given twice: a
new rule is given an id that nobody has read; a backup holds each id once, and each rule at a later
revision than it was ever read at, or as it was read; and a renamed device is named by rules
that have ids of their own and were not read since they got their revisions. -/
def KeepsReadings (history : StoreHistory) : StoreEvent → Prop
  | .run (.create _ _ _ draws _) =>
    ∀ taken id, takenIds history.file.rules = .ok taken → newId draws taken = some id →
      ∀ reading ∈ history.readings, reading.key ≠ id
  | .run (.restore (.ok restored) _ now) =>
    Versioned.Sound (viewsOf texts (restored.rules.map (stampRestored now))) history.readings
  | .run (.renameDevices names) =>
    ∀ entry ∈ history.file.rules, (renamedDevice names entry).isSome →
      (usableId entry).isSome ∧ Unread history.readings (viewOf texts entry)
  | _ => True

def StoreHistory.Good (history : StoreHistory) : Prop :=
  Versioned.Sound (viewsOf texts history.file.rules) history.readings

end Histories

/-! ### One operation -/

variable {file file' : File} {readings : List (Reading String Content)}

theorem update_eq_ok {change : ScheduleData → Parsed ScheduleData}
    (h : file.update change = .ok file') :
    ∃ stored written, file.rules = stored.rules ∧ change stored = .ok written ∧
      file'.rules = written.rules := by
  obtain ⟨stored, hread, h⟩ := bind_eq_ok.mp h
  obtain ⟨written, hchange, h⟩ := bind_eq_ok.mp h
  cases h
  refine ⟨stored, written, ?_, hchange, rfl⟩
  cases file with
  | absent =>
    cases hread
    rfl
  | unreadable message => cases hread
  | holds stored' =>
    cases hread
    rfl

theorem sound_of_replaces {rules' : List PyValue}
    (h : Versioned.Sound (viewsOf texts rules) readings) (hreplaces : Replaces texts id revision rules rules') :
    Versioned.Sound (viewsOf texts rules') readings := by
  obtain ⟨index, entry, entry', hget, -, hid, hversion, hkey', hversion', rfl⟩ :=
    hreplaces.exists_entry
  have hviews : (viewsOf texts rules)[index]? = some (viewOf texts entry) := by
    rw [viewsOf, List.getElem?_map, hget]
    rfl
  rw [viewsOf, List.map_set]
  exact h.set hviews hversion (hkey'.trans (key_viewOf.mpr hid).symm) hversion'

theorem sound_of_create (h : Versioned.Sound (viewsOf texts stored.rules) readings)
    (hcreate : create texts payload by_ check draws now stored = .ok written)
    (hunread : ∀ taken id, takenIds stored.rules = .ok taken → newId draws taken = some id →
      ∀ reading ∈ readings, reading.key ≠ id) :
    Versioned.Sound (viewsOf texts written.rules) readings := by
  obtain ⟨taken, id, htaken, hid, entry, hrules, hkey, hfree⟩ := create_appends hcreate
  rw [hrules, viewsOf, List.map_append]
  apply h.append
  · intro v hv k hk hkey'
    obtain ⟨e, he, rfl⟩ := List.mem_map.mp hv
    rw [hkey] at hkey'
    cases hkey'
    exact hfree e he (key_viewOf.mp hk)
  · intro reading hreading hread
    rw [hkey] at hread
    exact hunread taken id htaken hid reading hreading (Option.some.inj hread).symm

theorem sound_of_rename (h : Versioned.Sound (viewsOf texts rules) readings)
    (hunread : ∀ entry ∈ rules, (renamedDevice names entry).isSome →
      (usableId entry).isSome ∧ Unread readings (viewOf texts entry)) :
    Versioned.Sound (viewsOf texts (rules.map (renameEntry names))) readings := by
  apply h.touch
  rw [viewsOf, viewsOf, List.map_map, List.forall₂_map_left_iff, List.forall₂_map_right_iff,
    List.forall₂_same]
  intro entry hentry
  cases hrenamed : renamedDevice names entry with
  | none =>
    refine .inl (congrArg (viewOf texts) ?_)
    rw [renameEntry, hrenamed]
  | some renamed =>
    obtain ⟨husable, hread⟩ := hunread entry hentry (by rw [hrenamed]; rfl)
    obtain ⟨id, hid⟩ := Option.isSome_iff_exists.mp husable
    have hview := viewOf_renameEntry texts names hid
    exact .inr ⟨hview.1, hview.2, hread⟩

theorem restore_rules {backup : Parsed ScheduleData} {keepApplied : Bool}
    (h : restore backup keepApplied now file = .ok file') :
    file'.rules = [] ∨ ∃ restored, backup = .ok restored ∧
      file'.rules = restored.rules.map (stampRestored now) := by
  cases backup with
  | error e =>
    cases e with
    | refused message =>
      cases h
      exact .inl rfl
    | escaped exception => cases h
  | ok restored =>
    refine .inr ⟨restored, rfl, ?_⟩
    dsimp only [restore] at h
    split at h
    · cases h
    · cases h
      rfl
    · cases h
      rfl

/-- **One operation that keeps the readings keeps them right.** -/
theorem sound_of_apply (h : Versioned.Sound (viewsOf texts file.rules) readings)
    (hkeeps : KeepsReadings texts { file, readings } (.run operation))
    (happly : operation.apply texts file = .ok file') :
    Versioned.Sound (viewsOf texts file'.rules) readings := by
  cases operation with
  | restore backup keepApplied now =>
    rcases restore_rules happly with hempty | ⟨restored, rfl, hrules⟩
    · rw [hempty]
      exact h.sublist (List.nil_sublist _)
    · rw [hrules]
      exact hkeeps
  | create payload by_ check draws now =>
    obtain ⟨stored, written, hstored, hchange, hwritten⟩ := update_eq_ok happly
    have hunread : ∀ taken id, takenIds file.rules = .ok taken → _ := hkeeps
    rw [hstored] at h hunread
    rw [hwritten]
    exact sound_of_create h hchange hunread
  | replace id payload revision by_ check now =>
    obtain ⟨stored, written, hstored, hchange, hwritten⟩ := update_eq_ok happly
    rw [hstored] at h
    rw [hwritten]
    exact sound_of_replaces h (replace_replaces hchange)
  | delete id revision =>
    obtain ⟨stored, written, hstored, hchange, hwritten⟩ := update_eq_ok happly
    obtain ⟨index, -, herased⟩ := delete_erases hchange
    rw [hstored] at h
    rw [hwritten, herased]
    exact h.sublist ((List.eraseIdx_sublist _ index).map _)
  | move id direction =>
    obtain ⟨stored, written, hstored, hchange, hwritten⟩ := update_eq_ok happly
    rw [hstored] at h
    rw [hwritten]
    exact h.perm ((move_perm hchange).map _)
  | skip id day revision by_ now =>
    obtain ⟨stored, written, hstored, hchange, hwritten⟩ := update_eq_ok happly
    rw [hstored] at h
    rw [hwritten]
    exact sound_of_replaces h (skip_replaces hchange)
  | setEnabled enabled now =>
    obtain ⟨stored, written, hstored, hchange, hwritten⟩ := update_eq_ok happly
    cases hchange
    rw [hstored] at h
    rwa [hwritten]
  | recordApplied slot record =>
    obtain ⟨stored, written, hstored, hchange, hwritten⟩ := update_eq_ok happly
    cases hchange
    rw [hstored] at h
    rwa [hwritten]
  | renameDevices names =>
    obtain ⟨stored, written, hstored, hchange, hwritten⟩ := update_eq_ok happly
    have hunread : ∀ entry ∈ file.rules, _ := hkeeps
    rw [hstored] at h hunread
    rw [hwritten]
    rcases rename_renames hchange with hsame | hrenamed
    · rwa [hsame]
    · rw [hrenamed]
      exact sound_of_rename h hunread

theorem good_step (history : StoreHistory) (event : StoreEvent) (h : history.Good texts)
    (hkeeps : KeepsReadings texts history event) : (history.step texts event).Good texts := by
  cases event with
  | read => exact h.read
  | run operation =>
    show Sound _ _
    rw [StoreHistory.step]
    cases happly : operation.apply texts history.file with
    | ok file' => exact sound_of_apply h hkeeps happly
    | error e => exact h

theorem edit_finds (hedits : operation.edits? = some (id, revision))
    (happly : operation.apply texts file = .ok file') :
    ∃ entry ∈ file.rules, findEntry texts id file.rules = some entry ∧
      (viewOf texts entry).key = some id ∧ (viewOf texts entry).version = some revision := by
  have hreplaces : ∀ {stored written : ScheduleData}, file.rules = stored.rules →
      Replaces texts id revision stored.rules written.rules → ∃ entry ∈ file.rules,
        findEntry texts id file.rules = some entry ∧ (viewOf texts entry).key = some id ∧
          (viewOf texts entry).version = some revision := by
    intro stored written hstored h
    obtain ⟨index, entry, -, hget, hfind, hid, hversion, -⟩ := h.exists_entry
    rw [hstored]
    exact ⟨entry, List.mem_of_getElem? hget, hfind, key_viewOf.mpr hid, hversion⟩
  cases operation with
  | replace id' payload revision' by_ check now =>
    cases hedits
    obtain ⟨stored, written, hstored, hchange, -⟩ := update_eq_ok happly
    exact hreplaces hstored (replace_replaces hchange)
  | skip id' day revision' by_ now =>
    cases hedits
    obtain ⟨stored, written, hstored, hchange, -⟩ := update_eq_ok happly
    exact hreplaces hstored (skip_replaces hchange)
  | delete id' revision' =>
    obtain ⟨stored, written, hstored, hchange, -⟩ := update_eq_ok happly
    obtain ⟨index, hindex, -⟩ := delete_erases hchange
    obtain ⟨entry, hget, hfind, hid, hversion⟩ := indexOf_ok hindex
    obtain ⟨r, hr, hsome⟩ := Option.map_eq_some_iff.mp hedits
    cases hsome
    rw [hstored]
    exact ⟨entry, List.mem_of_getElem? hget, hfind, key_viewOf.mpr hid, hversion revision hr⟩
  | _ => cases hedits

theorem editsWhatWasRead_of_good {history : StoreHistory} (h : history.Good texts)
    (event : StoreEvent) : EditsWhatWasRead texts history event := by
  intro operation id revision file' _ hedits happly
  obtain ⟨entry, hentry, hfind, hkey, hversion⟩ := edit_finds hedits happly
  refine ⟨entry, hfind, ?_⟩
  intro reading hreading hid hrevision
  subst hid hrevision
  exact h.content_eq (List.mem_map_of_mem hentry) hreading hkey hversion

/-- **Every edit that is taken meets what its client read**, in every run from a file that holds
each id once in which nothing changes a rule that was read without a new revision. -/
theorem edits_what_was_read (texts : ValueTexts) (file : File)
    (hdistinct : ((viewsOf texts file.rules).map View.key).Pairwise Apart) (events : List StoreEvent)
    (hkeeps : EveryStep (StoreHistory.step texts) (KeepsReadings texts) { file, readings := [] }
      events) :
    EveryStep (StoreHistory.step texts) (EditsWhatWasRead texts) { file, readings := [] } events :=
  EveryStep.of_invariant good_step (fun _ event h _ => editsWhatWasRead_of_good h event)
    (Sound.start hdistinct) hkeeps

/-! ### A restore that takes a revision back -/

/-- Texts of values where none is shown. -/
def noTexts : ValueTexts where
  repr := fun _ => .ok ""
  contentHash := fun _ => .ok "00000000"

/-- A rule that stops the control at an evening hour, on or off. -/
def quietFields (enabled : Bool) : List (String × PyValue) :=
  [("name", .str "Quiet"), ("enabled", .bool enabled), ("target", .dict [("scope", .str "system")]),
    ("action", .dict [("id", .str "ems_control"), ("value", .bool false)]),
    ("when", .dict [("start", .str "2026-10-19T18:00")])]

def quietData : ScheduleData where
  enabled := true
  rules := [stampFields (quietFields true)
    { id := "r_0123abcd", revision := 1, updatedAt := ⟨0, by decide⟩, updatedBy := "emsctl" }]
  applied := []
  resumedAt := .none

def quietEdit (enabled : Bool) (revision : ℤ) : Operation :=
  .replace "r_0123abcd" (.dict (quietFields enabled)) revision "dashboard" none ⟨0, by decide⟩

/-- The rule is switched off and read, a backup brings its first revision back, and an edit of
that takes it to the revision that was read. -/
def quietRun : List StoreEvent :=
  [.run (quietEdit false 1), .read, .run (.restore (.ok quietData) true ⟨0, by decide⟩),
    .run (quietEdit true 1)]

/-- The history after that run. -/
def quietHistory : StoreHistory :=
  run (StoreHistory.step noTexts) { file := .holds quietData, readings := [] } quietRun

/-- A backup in which the rule is of one device and has a later revision. -/
def laterData : ScheduleData :=
  { quietData with
    rules := [stampFields (dictSet (quietFields true) "target" (.dict [("scope", .str "device"),
        ("identity", .str "HOA1"), ("device", .str "WR1")]))
      { id := "r_0123abcd", revision := 2, updatedAt := ⟨0, by decide⟩, updatedBy := "emsctl" }] }

/-- The rule is read, the later backup is restored, its device renamed and a rule added; then the
rule is edited at the revision that the backup brought. -/
def laterRun : List StoreEvent :=
  [.read, .run (.restore (.ok laterData) true ⟨0, by decide⟩),
    .run (.renameDevices [("HOA1", "WR2")]),
    .run (.create (.dict (quietFields false)) "dashboard" none ["00000001"] ⟨0, by decide⟩),
    .read, .run (quietEdit false 2)]

theorem edits_what_was_read_later :
    EveryStep (StoreHistory.step noTexts) (EditsWhatWasRead noTexts)
      { file := .holds quietData, readings := [] } laterRun := by
  refine edits_what_was_read noTexts (.holds quietData) (List.pairwise_singleton _ _) laterRun
    ⟨trivial, ⟨List.pairwise_singleton _ _, ?_⟩, ?_, ?_, trivial, trivial, trivial⟩
  · intro view hview reading hreading _ version hversion
    obtain rfl := List.mem_singleton.mp hview
    obtain rfl := List.mem_singleton.mp hreading
    obtain rfl := Option.some.inj hversion
    exact .inl (by decide)
  · intro entry hentry _
    obtain rfl := List.mem_singleton.mp hentry
    refine ⟨by decide, fun reading hreading _ => ?_⟩
    obtain rfl := List.mem_singleton.mp hreading
    decide
  · intro taken id htaken hid reading hreading
    obtain rfl := List.mem_singleton.mp hreading
    obtain rfl := Except.ok.inj htaken
    obtain rfl := Option.some.inj hid
    decide

/-- **After a restore an edit overwrites what its client never saw.** -/
theorem restore_takes_revision_back :
    ¬ EveryStep (StoreHistory.step noTexts) (EditsWhatWasRead noTexts)
      { file := .holds quietData, readings := [] } (quietRun ++ [.run (quietEdit false 2)]) := by
  intro h
  have hlast : EditsWhatWasRead noTexts quietHistory (.run (quietEdit false 2)) :=
    (everyStep_append.mp h).2.1
  have htaken : ((quietEdit false 2).apply noTexts quietHistory.file).isOk = true := by
    decide
  have hread : ((quietHistory.readings.find? fun reading =>
      reading.key = "r_0123abcd" ∧ reading.version = 2).map fun reading =>
        reading.content.enabled.eqInt 1) = some false := by
    decide
  have hstored : (findEntry noTexts "r_0123abcd" quietHistory.file.rules).map
      (fun entry => (contentOf entry).enabled.eqInt 1) = some true := by
    decide
  obtain ⟨reading, hfind, hoff⟩ := Option.map_eq_some_iff.mp hread
  have hnames := List.find?_some hfind
  simp only [decide_eq_true_eq] at hnames
  cases happly : (quietEdit false 2).apply noTexts quietHistory.file with
  | error e =>
    rw [happly] at htaken
    cases htaken
  | ok file =>
    obtain ⟨entry, hentry, hcontent⟩ := hlast _ _ _ file rfl rfl happly
    rw [hentry, Option.map_some,
      hcontent reading (List.mem_of_find?_eq_some hfind) hnames.1 hnames.2, hoff] at hstored
    cases hstored

end SolarFlowEms.Schedule
