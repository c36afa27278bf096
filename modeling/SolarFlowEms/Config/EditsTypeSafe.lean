import SolarFlowEms.Config.CatalogEdits
import SolarFlowEms.Library.StrippedText

/-!
# What an edit may leave in the config

An edit is safe where it leaves its path as it was, removes what was there, or leaves a value there
that the field declares: of its type, finite, between its bounds and among its options.  The check
of a sent value covers switches, numbers and lists.  It looks at no option, and it takes any value
for a text.  So an edit is safe exactly where a text field is sent a text and a field with options
one of them, and where nothing but objects stands on the way to the path.
-/

namespace SolarFlowEms.Config.Catalog

open Python Documents Run
open SolarFlowEms.Runtime (dictPop)

section

variable (texts : MeterTexts) (admits : Kind → String → Prop)

/-! ### What a field declares -/

/-- A value of a type; `admits` tells the texts that a type of texts has. -/
def HoldsType (kind : Kind) (v : PyValue) : Prop :=
  match kind with
  | .boolean => ∃ b, v = .bool b
  | .integer => ∃ z, v = .int z
  | .number => v.number?.isSome = true
  | .monthList => ∃ months : List ℤ, v = .list (months.map .int) ∧ ∀ m ∈ months, 1 ≤ m ∧ m ≤ 12
  | .integerList => ∃ numbers : List ℤ, v = .list (numbers.map .int)
  | .stringList => ∃ items : List String, v = .list (items.map .str)
  | kind => ∃ text, v = .str text ∧ admits kind text

def InRange (field : Field) (v : PyValue) : Prop :=
  ∀ x, v.number? = some x → isFiniteNumber texts v = true ∧ ∃ q, x = .finite q ∧
    (∀ least ∈ field.min, least ≤ q) ∧ ∀ most ∈ field.max, q ≤ most

def AmongOptions (field : Field) (v : PyValue) : Prop :=
  ∀ options ∈ field.options, ∃ option ∈ options, looseEq option v = true

/-- A value that the field declares. -/
structure Fits (field : Field) (v : PyValue) : Prop where
  type : HoldsType admits field.kind v
  range : InRange texts field v
  option : AmongOptions field v

/-- A sent value, without the space around it, that the check need not have looked at: a text for a
field of texts, and one that is read as an option of a field that has some. -/
structure Suits (field : Field) (value : PyValue) : Prop where
  text : field.kind.isTextual = true → ∃ text, value = .str text ∧ admits field.kind text
  option : AmongOptions field (coerceCatalogValue texts field value)

variable {texts admits} {field : Field} {value v : PyValue}

theorem stripped_stripped (v : PyValue) : stripped (stripped v) = stripped v := by
  cases v with
  | str text => rw [stripped, stripped, pyStrip_pyStrip]
  | _ => rfl

theorem coerceCatalogValue_of_nonempty (h : isNoneOrEmpty value = false) :
    coerceCatalogValue texts field value = readAs texts field.kind value := by
  have hnone : value.isNone = false := (Bool.or_eq_false_iff.mp h).1
  rw [coerceCatalogValue, hnone]
  rfl

/-! ### What the reading of a value makes of it -/

theorem coerceBoolean_eq (value : PyValue) : ∃ b, coerceBoolean value = .bool b := by
  cases value with
  | bool b => exact ⟨b, rfl⟩
  | str text | _ => exact ⟨_, rfl⟩

theorem coerceStringList_eq {items : List PyValue}
    (h : (coerceStringList texts value).list? = some items) :
    ∃ strings : List String, coerceStringList texts value = .list (strings.map .str) := by
  cases value with
  | list members | str text => exact ⟨_, rfl⟩
  | _ => exact absurd h (by simp [coerceStringList, PyValue.list?])

theorem exists_ints {P : ℤ → Prop} {items : List PyValue}
    (h : ∀ item ∈ items, ∃ z, item = .int z ∧ P z) :
    ∃ numbers : List ℤ, items = numbers.map .int ∧ ∀ z ∈ numbers, P z := by
  induction items with
  | nil => exact ⟨[], rfl, by simp⟩
  | cons item rest ih =>
    obtain ⟨z, hz, hP⟩ := h item List.mem_cons_self
    obtain ⟨numbers, hnumbers, hall⟩ := ih fun i hi => h i (List.mem_cons_of_mem item hi)
    refine ⟨z :: numbers, by rw [hz, hnumbers, List.map_cons], ?_⟩
    intro z' hz'
    rcases List.mem_cons.mp hz' with rfl | hmem
    · exact hP
    · exact hall z' hmem

theorem list_of_all {p : PyValue → Bool} (h : v.list?.any (fun items => items.all p) = true) :
    ∃ items, v = .list items ∧ ∀ item ∈ items, p item = true := by
  cases v with
  | list items =>
    have hall : items.all p = true := h
    exact ⟨items, rfl, fun item hitem => List.all_eq_true.mp hall item hitem⟩
  | _ => exact absurd h (by simp [PyValue.list?])

theorem isMonth_iff : isMonth v = true ↔ ∃ z, v = .int z ∧ 1 ≤ z ∧ z ≤ 12 := by
  cases v with
  | int z | _ => simp [isMonth, PyValue.int?]

theorem int?_isSome_iff : v.int?.isSome = true ↔ ∃ z, v = .int z := by
  cases v with
  | int z | _ => simp [PyValue.int?]

theorem inRange_of_no_problem (hfinite : isFiniteNumber texts v = true)
    (hrange : hasRangeProblem field v = false) : InRange texts field v := by
  intro x hx
  refine ⟨hfinite, ?_⟩
  have hfin : ∃ q, x = .finite q := by
    cases v with
    | int z => exact ⟨z, (Option.some.inj hx).symm⟩
    | float y =>
      cases y with
      | finite q => exact ⟨q, (Option.some.inj hx).symm⟩
      | _ => exact absurd hfinite (by simp [isFiniteNumber])
    | _ => exact absurd hx (by simp [PyValue.number?])
  obtain ⟨q, rfl⟩ := hfin
  refine ⟨q, rfl, ?_⟩
  rw [hasRangeProblem, hx] at hrange
  simp only [Bool.or_eq_false_iff, Option.any_eq_false] at hrange
  constructor
  · intro least hleast
    have hlt := hrange.1 least hleast
    exact not_lt.mp (by simpa using hlt)
  · intro most hmost
    have hlt := hrange.2 most hmost
    exact not_lt.mp (by simpa using hlt)

theorem inRange_of_not_number (h : v.number? = none) : InRange texts field v := by
  intro x hx
  rw [h] at hx
  cases hx

theorem holdsType_of_no_problem (hkind : field.kind.isTextual = false)
    (hvalue : isNoneOrEmpty value = false)
    (h : hasValueProblem texts field value (coerceCatalogValue texts field value) = false) :
    HoldsType admits field.kind (coerceCatalogValue texts field value) := by
  have hread : coerceCatalogValue texts field value = readAs texts field.kind value :=
    coerceCatalogValue_of_nonempty hvalue
  generalize coerceCatalogValue texts field value = coerced at hread h ⊢
  obtain ⟨kind, least, most, options, secretRisk⟩ := field
  cases kind with
  | boolean =>
    rw [hread]
    exact coerceBoolean_eq value
  | integer =>
    simp only [hasValueProblem, Bool.or_eq_false_iff] at h
    have hint : coerced.int?.isNone = false := h.1.1.1.2
    have hsome : coerced.int?.isSome = true := by simpa using hint
    exact int?_isSome_iff.mp hsome
  | number =>
    simp only [hasValueProblem, Bool.or_eq_false_iff] at h
    have hfinite : isFiniteNumber texts coerced = true := by simpa using h.1.2
    cases coerced with
    | int z | float x => rfl
    | _ => exact absurd hfinite (by simp [isFiniteNumber])
  | monthList =>
    obtain ⟨items, rfl, hitems⟩ := list_of_all (p := isMonth) (by simpa [hasValueProblem] using h)
    obtain ⟨months, rfl, hmonths⟩ := exists_ints fun item hitem => isMonth_iff.mp (hitems item hitem)
    exact ⟨months, rfl, hmonths⟩
  | integerList =>
    obtain ⟨items, rfl, hitems⟩ :=
      list_of_all (p := fun item => item.int?.isSome) (by simpa [hasValueProblem] using h)
    obtain ⟨numbers, rfl, -⟩ := exists_ints (P := fun _ => True) fun item hitem => by
      obtain ⟨z, hz⟩ := int?_isSome_iff.mp (hitems item hitem)
      exact ⟨z, hz, trivial⟩
    exact ⟨numbers, rfl⟩
  | stringList =>
    have hlist : coerced.list?.isNone = false := h
    obtain ⟨items, hitems⟩ := Option.isSome_iff_exists.mp (by simpa using hlist)
    subst hread
    exact coerceStringList_eq hitems
  | _ => exact absurd hkind (by simp [Kind.isTextual])

theorem inRange_of_read (hkind : field.kind.isTextual = false)
    (h : hasValueProblem texts field value (coerceCatalogValue texts field value) = false)
    (hvalue : isNoneOrEmpty value = false) :
    InRange texts field (coerceCatalogValue texts field value) := by
  have htype : HoldsType (fun _ _ => True) field.kind (coerceCatalogValue texts field value) :=
    holdsType_of_no_problem hkind hvalue h
  generalize coerceCatalogValue texts field value = coerced at h htype ⊢
  obtain ⟨kind, least, most, options, secretRisk⟩ := field
  cases kind with
  | boolean =>
    obtain ⟨b, rfl⟩ := htype
    exact inRange_of_not_number rfl
  | integer =>
    simp only [hasValueProblem, Bool.or_eq_false_iff] at h
    exact inRange_of_no_problem (by simpa using h.1.2) h.2
  | number =>
    simp only [hasValueProblem, Bool.or_eq_false_iff] at h
    exact inRange_of_no_problem (by simpa using h.1.2) h.2
  | monthList =>
    obtain ⟨months, rfl, -⟩ := htype
    exact inRange_of_not_number rfl
  | integerList =>
    obtain ⟨numbers, rfl⟩ := htype
    exact inRange_of_not_number rfl
  | stringList =>
    obtain ⟨items, rfl⟩ := htype
    exact inRange_of_not_number rfl
  | _ => exact absurd hkind (by simp [Kind.isTextual])

theorem read_textual (hkind : field.kind.isTextual = true) (hvalue : isNoneOrEmpty value = false)
    (hstripped : stripped value = value) : coerceCatalogValue texts field value = value := by
  rw [coerceCatalogValue_of_nonempty hvalue]
  obtain ⟨kind, least, most, options, secretRisk⟩ := field
  cases kind <;> first | exact hstripped | exact absurd hkind (by simp [Kind.isTextual])

theorem holdsType_textual {kind : Kind} (hkind : kind.isTextual = true) :
    HoldsType admits kind v ↔ ∃ text, v = .str text ∧ admits kind text := by
  cases kind <;> first | exact Iff.rfl | exact absurd hkind (by simp [Kind.isTextual])

/-- **Where the check finds nothing, what a value is read as fits its field just if the value
suits it.** -/
theorem fits_iff_suits (hvalue : isNoneOrEmpty value = false) (hstripped : stripped value = value)
    (h : hasValueProblem texts field value (coerceCatalogValue texts field value) = false) :
    Fits texts admits field (coerceCatalogValue texts field value) ↔
      Suits texts admits field value := by
  by_cases hkind : field.kind.isTextual = true
  · have hread : coerceCatalogValue texts field value = value :=
      read_textual hkind hvalue hstripped
    constructor
    · intro hfits
      refine ⟨fun _ => ?_, hfits.option⟩
      rw [← hread]
      exact (holdsType_textual hkind).mp hfits.type
    · intro hsuits
      obtain ⟨text, htext, hadmits⟩ := hsuits.text hkind
      refine ⟨?_, ?_, hsuits.option⟩
      · rw [hread]
        exact (holdsType_textual hkind).mpr ⟨text, htext, hadmits⟩
      · rw [hread, htext]
        exact inRange_of_not_number rfl
  · have hfalse : field.kind.isTextual = false := by simpa using hkind
    constructor
    · intro hfits
      exact ⟨fun htrue => absurd htrue hkind, hfits.option⟩
    · intro hsuits
      exact ⟨holdsType_of_no_problem hfalse hvalue h, inRange_of_read hfalse h hvalue,
        hsuits.option⟩

/-! ### One edit -/

/-- What becomes of a path that an edit is for.  A sent value that is not in the config afterwards is
reported, unless there is a reason to leave the path alone. -/
inductive Outcome (texts : MeterTexts) (admits : Kind → String → Prop) (field : Field)
    (path : String) (leftAlone : Prop) (before after : Option PyValue)
    (issues issues' : List MutationIssue) : Prop
  | refused : after = before → issues' = issues ++ [invalidValueIssue path] →
      Outcome texts admits field path leftAlone before after issues issues'
  | unchanged : after = before → issues' = issues → leftAlone →
      Outcome texts admits field path leftAlone before after issues issues'
  | removed : after = none → issues' = issues →
      Outcome texts admits field path leftAlone before after issues issues'
  | held (v : PyValue) : after = some v → Fits texts admits field v → issues' = issues →
      Outcome texts admits field path leftAlone before after issues issues'

def Separate (parts parts' : List String) : Prop := ¬ parts <+: parts' ∧ ¬ parts' <+: parts

/-- What is not at the path of an edit: paths beside it read as before, and what is no object stays
on the way to it. -/
structure Frame (parts : List String) (config config' : Entries) : Prop where
  beside : ∀ parts', Separate parts parts' →
    valueAt (.dict config') parts' = valueAt (.dict config) parts'
  above : ∀ parts' v, parts' <+: parts → parts' ≠ parts →
    valueAt (.dict config) parts' = some v → v.dict? = none →
    valueAt (.dict config') parts' = some v

theorem Frame.refl (parts : List String) (config : Entries) : Frame parts config config :=
  ⟨fun _ _ => rfl, fun _ _ _ _ h _ => h⟩

/-- Nothing but objects stands on the way to a path. -/
def ObjectsAbove (parts : List String) (config : Entries) : Prop :=
  ∀ parts' v, parts' <+: parts → parts' ≠ parts → valueAt (.dict config) parts' = some v →
    v.dict?.isSome = true

theorem objectsAbove_of_isSome {parts : List String} {config : Entries}
    (h : (valueAt (.dict config) parts).isSome = true) : ObjectsAbove parts config := by
  intro parts' v hpre hne hv
  obtain ⟨w, hw⟩ := Option.isSome_iff_exists.mp h
  obtain ⟨members, hmembers⟩ := dict_above hw hpre hne
  rw [hmembers] at hv
  obtain rfl := Option.some.inj hv
  rfl

theorem frame_writeAt {parts : List String} {config : Entries} (value : PyValue)
    (h : ObjectsAbove parts config) : Frame parts config (writeAt value config parts) := by
  constructor
  · intro parts' hseparate
    exact valueAt_writeAt_of_apart value config hseparate.1 hseparate.2
  · intro parts' v hpre hne hv hnot
    have hobject := h parts' v hpre hne hv
    rw [hnot] at hobject
    cases hobject

theorem frame_removeAt {parts : List String} {config config' : Entries}
    (h : removeAt config parts = some config') : Frame parts config config' := by
  constructor
  · intro parts' hseparate
    exact valueAt_removeAt_of_apart h hseparate.1 hseparate.2
  · intro parts' v hpre hne hv hnot
    have hobject := objectsAbove_of_isSome (valueAt_isSome_of_removeAt h) parts' v hpre hne hv
    rw [hnot] at hobject
    cases hobject

theorem objectsAbove_of_frame {parts : List String} {config : Entries} {value : PyValue}
    (h : Frame parts config (writeAt value config parts)) : ObjectsAbove parts config := by
  intro parts' v hpre hne hv
  by_contra hnot
  have hnone : v.dict? = none := by simpa using hnot
  obtain ⟨members, hmembers⟩ := dict_above_writeAt value config hpre hne
  rw [h.above parts' v hpre hne hv hnone] at hmembers
  obtain rfl := Option.some.inj hmembers
  exact absurd hnone (by simp [PyValue.dict?])

end

/-- What a workflow lets an edit do: make what is missing, remove what is there, report what it
refuses. -/
structure Rights where
  creates : Bool
  removes : Bool
  reports : Bool

section

variable (texts : MeterTexts) (admits : Kind → String → Prop) (rights : Rights) (field : Field)
  (parts : List String) (change : ConfigChange)

/-- One edit, at any path of a config. -/
def editAt (s : Edited) : Edited :=
  match resolveChange texts field change with
  | .invalid =>
    if rights.reports && !isStoredValue texts (valueAt (.dict s.config) parts) field change.value then
      s.report (invalidValueIssue change.path)
    else s
  | .keep => s
  | .clear =>
    match if rights.removes then removeAt s.config parts else none with
    | some config => s.apply config change.path .clear
    | none => s
  | .set value =>
    if (valueAt (.dict s.config) parts).isNone && !rights.creates then s
    else s.apply (writeAt value s.config parts) change.path .set

def Asks (config : Entries) : Prop :=
  change.operation = .set ∧ isNoneOrEmpty (stripped change.value) = false ∧
    ((valueAt (.dict config) parts).isSome = true ∨ rights.creates = true)

def reading : PyValue := coerceCatalogValue texts field (stripped change.value)

def SentBack (config : Entries) : Prop :=
  isStoredValue texts (valueAt (.dict config) parts) field change.value = true ∨
    valueAt (.dict config) parts = some (reading texts field change)

/-- An edit that leaves at its path what it may, and everything else as it was. -/
structure SafeEdit (s s' : Edited) : Prop where
  outcome : Outcome texts admits field change.path
    (¬ Asks rights parts change s.config ∨ SentBack texts field parts change s.config ∨
      rights.reports = false)
    (valueAt (.dict s.config) parts) (valueAt (.dict s'.config) parts) s.issues s'.issues
  frame : Frame parts s.config s'.config

/-- What the check finds nothing wrong with suits the field, or is what is stored, and stands in
objects only. -/
def Careful (config : Entries) : Prop :=
  Asks rights parts change config →
    hasValueProblem texts field (stripped change.value) (reading texts field change) = false →
    (Suits texts admits field (stripped change.value) ∨
        valueAt (.dict config) parts = some (reading texts field change)) ∧
      ObjectsAbove parts config

variable {texts admits rights field parts change} {s : Edited} {value : PyValue}

theorem resolveChange_eq_set :
    resolveChange texts field change = .set value ↔
      change.operation = .set ∧ isNoneOrEmpty (stripped change.value) = false ∧
        hasValueProblem texts field (stripped change.value) (reading texts field change) = false ∧
        value = reading texts field change := by
  rw [resolveChange, reading]
  cases change.operation with
  | keep | clear => simp
  | set =>
    simp only
    by_cases hempty : isNoneOrEmpty (stripped change.value) = true
    · rw [if_pos hempty, hempty]
      split <;> simp
    · have hnonempty : isNoneOrEmpty (stripped change.value) = false := by simpa using hempty
      rw [if_neg hempty, hnonempty]
      split
      next hproblem => simp [hproblem]
      next hproblem => simp [hproblem, eq_comm]

theorem not_asks_of_clear (h : resolveChange texts field change = .clear ∨
      resolveChange texts field change = .keep) (config : Entries) :
    ¬ Asks rights parts change config := by
  rintro ⟨hset, hvalue, -⟩
  rw [resolveChange, hset] at h
  simp only [hvalue, Bool.false_eq_true, if_false] at h
  split at h <;> simp at h

theorem not_set_of_invalid (h : resolveChange texts field change = .invalid)
    (hproblem : hasValueProblem texts field (stripped change.value) (reading texts field change) = false)
    (hvalue : isNoneOrEmpty (stripped change.value) = false) : change.operation ≠ .set := by
  intro hset
  have hresolved := resolveChange_eq_set.mpr ⟨hset, hvalue, hproblem, rfl⟩
  rw [h] at hresolved
  cases hresolved

theorem safeEdit_of_not_asks (hnot : ¬ Asks rights parts change s.config) :
    SafeEdit texts admits rights field parts change s s :=
  ⟨.unchanged rfl rfl (.inl hnot), Frame.refl parts s.config⟩

theorem safeEdit_of_clear (hnot : ¬ Asks rights parts change s.config)
    (hresolve : resolveChange texts field change = .clear) :
    SafeEdit texts admits rights field parts change s (editAt texts rights field parts change s) := by
  rw [editAt, hresolve]
  simp only
  cases hremoved : if rights.removes then removeAt s.config parts else none with
  | none => exact safeEdit_of_not_asks hnot
  | some config =>
    have hat : removeAt s.config parts = some config := by
      split at hremoved
      · exact hremoved
      · cases hremoved
    exact ⟨.removed (valueAt_removeAt_self hat) rfl, frame_removeAt hat⟩

theorem safeEdit_of_invalid (hresolve : resolveChange texts field change = .invalid) :
    SafeEdit texts admits rights field parts change s (editAt texts rights field parts change s) := by
  rw [editAt, hresolve]
  simp only
  split
  · exact ⟨.refused rfl rfl, Frame.refl parts s.config⟩
  next hquiet =>
    refine ⟨.unchanged rfl rfl (.inr ?_), Frame.refl parts s.config⟩
    cases hreports : rights.reports with
    | false => exact .inr rfl
    | true =>
      rw [hreports] at hquiet
      exact .inl (.inl (by simpa using hquiet))

theorem safeEdit_written_iff (hparts : parts ≠ [])
    (hresolve : resolveChange texts field change = .set (reading texts field change)) :
    SafeEdit texts admits rights field parts change s
        (s.apply (writeAt (reading texts field change) s.config parts) change.path .set) ↔
      (Suits texts admits field (stripped change.value) ∨
          valueAt (.dict s.config) parts = some (reading texts field change)) ∧
        ObjectsAbove parts s.config := by
  obtain ⟨-, hvalue, hproblem, -⟩ := resolveChange_eq_set.mp hresolve
  have hfits : Fits texts admits field (reading texts field change) ↔
      Suits texts admits field (stripped change.value) :=
    fits_iff_suits hvalue (stripped_stripped change.value) hproblem
  have hafter := valueAt_writeAt_self (reading texts field change) s.config hparts
  constructor
  · rintro ⟨houtcome, hframe⟩
    refine ⟨?_, objectsAbove_of_frame hframe⟩
    cases houtcome with
    | refused hsame _ | unchanged hsame _ _ => exact .inr (hsame.symm.trans hafter)
    | removed hnone _ => exact absurd (hafter.symm.trans hnone) (by simp)
    | held v hv hfit _ =>
      obtain rfl := Option.some.inj (hafter.symm.trans hv)
      exact .inl (hfits.mp hfit)
  · rintro ⟨hsuits | hstored, habove⟩
    · exact ⟨.held _ hafter (hfits.mpr hsuits) rfl, frame_writeAt _ habove⟩
    · exact ⟨.unchanged (hafter.trans hstored.symm) rfl (.inr (.inl (.inr hstored))),
        frame_writeAt _ habove⟩

/-- **An edit is safe exactly where the value that it writes suits the field or is stored already,
and stands in objects.** -/
theorem safeEdit_iff (hparts : parts ≠ []) :
    SafeEdit texts admits rights field parts change s (editAt texts rights field parts change s) ↔
      Careful texts admits rights field parts change s.config := by
  cases hresolve : resolveChange texts field change with
  | keep =>
    have hnot : ¬ Asks rights parts change s.config := not_asks_of_clear (.inr hresolve) s.config
    rw [editAt, hresolve]
    exact ⟨fun _ hasks => absurd hasks hnot, fun _ => safeEdit_of_not_asks hnot⟩
  | clear =>
    have hnot : ¬ Asks rights parts change s.config := not_asks_of_clear (.inl hresolve) s.config
    exact ⟨fun _ hasks => absurd hasks hnot, fun _ => safeEdit_of_clear hnot hresolve⟩
  | invalid =>
    refine ⟨fun _ hasks hproblem => ?_, fun _ => safeEdit_of_invalid hresolve⟩
    exact absurd hasks.1 (not_set_of_invalid hresolve hproblem hasks.2.1)
  | set value =>
    obtain ⟨hset, hvalue, hproblem, rfl⟩ := resolveChange_eq_set.mp hresolve
    rw [editAt, hresolve]
    simp only
    split
    next hmissing =>
      have hnot : ¬ Asks rights parts change s.config := by
        rintro ⟨-, -, hthere⟩
        simp only [Bool.and_eq_true, Option.isNone_iff_eq_none, Bool.not_eq_true'] at hmissing
        rw [hmissing.1, hmissing.2] at hthere
        simp at hthere
      exact ⟨fun _ hasks => absurd hasks hnot, fun _ => safeEdit_of_not_asks hnot⟩
    next hthere =>
      have hasks : Asks rights parts change s.config := by
        refine ⟨hset, hvalue, ?_⟩
        cases hstored : valueAt (.dict s.config) parts with
        | some v => exact .inl rfl
        | none => exact .inr (by simpa [hstored] using hthere)
      rw [safeEdit_written_iff hparts hresolve]
      exact ⟨fun h _ _ => h, fun h => h hasks hproblem⟩

end

/-! ### A call -/

/-- What one round of a call edits. -/
structure Edit where
  parts : List String
  field : Field
  change : ConfigChange

section

variable (texts : MeterTexts) (admits : Kind → String → Prop) (rights : Rights) {α : Type}
  (edits : α → Option Edit) (step : Edited → α → Edited)

/-- What may stand where something is edited: what stood there, nothing, or a value that fits. -/
def ValueSafe (field : Field) (before after : Option PyValue) : Prop :=
  after = before ∨ after = none ∨ ∃ v, after = some v ∧ Fits texts admits field v

def SafeStep (s : Edited) (a : α) : Prop :=
  (∀ e, edits a = some e → SafeEdit texts admits rights e.field e.parts e.change s (step s a)) ∧
    (edits a = none → (step s a).config = s.config)

def CarefulStep (s : Edited) (a : α) : Prop :=
  ∀ e, edits a = some e → Careful texts admits rights e.field e.parts e.change s.config

/-- A call that is type safe: each of its rounds is, each edited path holds in the end what it may,
and all else is as it was. -/
structure CallSafe (inputs : List α) (config config' : Entries) : Prop where
  rounds : EveryStep step (SafeStep texts admits rights edits step) { config } inputs
  edited : ∀ a ∈ inputs, ∀ e, edits a = some e →
    (∀ b ∈ inputs, ∀ e', edits b = some e' →
      (e'.parts = e.parts ∧ e'.field = e.field) ∨ Separate e'.parts e.parts) →
    ValueSafe texts admits e.field (valueAt (.dict config) e.parts) (valueAt (.dict config') e.parts)
  beside : ∀ parts, (∀ a ∈ inputs, ∀ e, edits a = some e → Separate e.parts parts) →
    valueAt (.dict config') parts = valueAt (.dict config) parts
  leaves : ∀ parts v, valueAt (.dict config) parts = some v → v.dict? = none →
    (∀ a ∈ inputs, ∀ e, edits a = some e → ¬ e.parts <+: parts) →
    valueAt (.dict config') parts = some v

variable {texts admits rights edits step} {field : Field} {parts : List String}
  {change : ConfigChange} {s s' : Edited} {a : α} {inputs : List α} {config : Entries} {v : PyValue}

theorem SafeEdit.valueSafe (h : SafeEdit texts admits rights field parts change s s') :
    ValueSafe texts admits field (valueAt (.dict s.config) parts) (valueAt (.dict s'.config) parts) := by
  cases h.outcome with
  | refused hsame _ | unchanged hsame _ _ => exact .inl hsame
  | removed hnone _ => exact .inr (.inl hnone)
  | held v hv hfits _ => exact .inr (.inr ⟨v, hv, hfits⟩)

theorem ValueSafe.trans {before middle after : Option PyValue}
    (h : ValueSafe texts admits field before middle)
    (h' : ValueSafe texts admits field middle after) : ValueSafe texts admits field before after := by
  rcases h' with rfl | h'
  · exact h
  · exact .inr h'

section

variable (h : SafeStep texts admits rights edits step s a)
include h

theorem SafeStep.beside (hseparate : ∀ e, edits a = some e → Separate e.parts parts) :
    valueAt (.dict (step s a).config) parts = valueAt (.dict s.config) parts := by
  cases hedit : edits a with
  | none => rw [h.2 hedit]
  | some e => exact (h.1 e hedit).frame.beside parts (hseparate e hedit)

theorem SafeStep.leaf
    (hbelow : ∀ e, edits a = some e → ¬ e.parts <+: parts) (hleaf : v.dict? = none)
    (hv : valueAt (.dict s.config) parts = some v) :
    valueAt (.dict (step s a).config) parts = some v := by
  cases hedit : edits a with
  | none => rw [h.2 hedit, hv]
  | some e =>
    have hframe := (h.1 e hedit).frame
    by_cases habove : parts <+: e.parts
    · have hne : parts ≠ e.parts := by
        rintro rfl
        exact hbelow e hedit (List.prefix_refl _)
      exact hframe.above parts v habove hne hv hleaf
    · rw [hframe.beside parts ⟨hbelow e hedit, habove⟩, hv]

theorem SafeStep.edited
    (hown : ∀ e, edits a = some e → (e.parts = parts ∧ e.field = field) ∨ Separate e.parts parts) :
    ValueSafe texts admits field (valueAt (.dict s.config) parts)
      (valueAt (.dict (step s a).config) parts) := by
  cases hedit : edits a with
  | none => exact .inl (by rw [h.2 hedit])
  | some e =>
    rcases hown e hedit with ⟨rfl, rfl⟩ | hseparate
    · exact (h.1 e hedit).valueSafe
    · exact .inl ((h.1 e hedit).frame.beside parts hseparate)

end

theorem callSafe_of_rounds
    (h : EveryStep step (SafeStep texts admits rights edits step) { config } inputs) :
    CallSafe texts admits rights edits step inputs config (run step { config } inputs).config := by
  refine ⟨h, ?_, ?_, ?_⟩
  · intro a _ e _ hown
    have hround : ∀ (s : Edited) (b : α),
        ValueSafe texts admits e.field (valueAt (.dict config) e.parts)
          (valueAt (.dict s.config) e.parts) →
        (SafeStep texts admits rights edits step s b ∧ ∀ e', edits b = some e' →
          (e'.parts = e.parts ∧ e'.field = e.field) ∨ Separate e'.parts e.parts) →
        ValueSafe texts admits e.field (valueAt (.dict config) e.parts)
          (valueAt (.dict (step s b).config) e.parts) :=
      fun s b hinv hb => hinv.trans (hb.1.edited hb.2)
    exact run_invariant hround (.inl rfl) (h.and (everyStep_of_forall (fun b hb _ => hown b hb) _))
  · intro parts hseparate
    have hround : ∀ (s : Edited) (b : α),
        valueAt (.dict s.config) parts = valueAt (.dict config) parts →
        (SafeStep texts admits rights edits step s b ∧
          ∀ e, edits b = some e → Separate e.parts parts) →
        valueAt (.dict (step s b).config) parts = valueAt (.dict config) parts :=
      fun s b hinv hb => (hb.1.beside hb.2).trans hinv
    exact run_invariant hround rfl (h.and (everyStep_of_forall (fun b hb _ => hseparate b hb) _))
  · intro parts v hv hleaf hbelow
    have hround : ∀ (s : Edited) (b : α), valueAt (.dict s.config) parts = some v →
        (SafeStep texts admits rights edits step s b ∧
          ∀ e, edits b = some e → ¬ e.parts <+: parts) →
        valueAt (.dict (step s b).config) parts = some v :=
      fun s b hinv hb => hb.1.leaf hb.2 hleaf hinv
    exact run_invariant hround hv (h.and (everyStep_of_forall (fun b hb _ => hbelow b hb) _))

/-- **A call of careful rounds is type safe, and no other is**, where each round is an edit at its
path or leaves the config alone. -/
theorem callSafe_iff (hnone : ∀ s a, edits a = none → (step s a).config = s.config)
    (hsome : ∀ s a e, edits a = some e → e.parts ≠ [] ∧
      step s a = editAt texts rights e.field e.parts e.change s) :
    CallSafe texts admits rights edits step inputs config (run step { config } inputs).config ↔
      EveryStep step (CarefulStep texts admits rights edits) { config } inputs := by
  have hround : ∀ s a, SafeStep texts admits rights edits step s a ↔
      CarefulStep texts admits rights edits s a := by
    intro s a
    constructor
    · intro hsafe e he
      obtain ⟨hparts, hstep⟩ := hsome s a e he
      have hedit := hsafe.1 e he
      rw [hstep] at hedit
      exact (safeEdit_iff hparts).mp hedit
    · intro hcareful
      refine ⟨fun e he => ?_, hnone s a⟩
      obtain ⟨hparts, hstep⟩ := hsome s a e he
      rw [hstep]
      exact (safeEdit_iff hparts).mpr (hcareful e he)
  constructor
  · intro hsafe
    exact hsafe.rounds.mono fun s a => (hround s a).mp
  · intro hcareful
    exact callSafe_of_rounds (hcareful.mono fun s a => (hround s a).mpr)

end

/-! ### The two kinds of calls -/

section

variable {texts : MeterTexts} {admits : Kind → String → Prop}

def fieldAt (index : String → Option Field) (path : String) : Option Field :=
  if isSkipped path then none else index path

def changeEdit (index : String → Option Field) (change : ConfigChange) : Option Edit :=
  (fieldAt index change.path).map fun field => ⟨pathParts change.path, field, change⟩

def entryEdit (values : Entries) (entry : String × Field) : Option Edit :=
  (dictGet values entry.1).map fun raw => ⟨[entry.1], entry.2, ⟨entry.1, raw, .set⟩⟩

/-- What the policy of a workflow lets an edit do. -/
def policyRights (policy : MutationPolicy) : Rights :=
  ⟨policy.allowCreate, policy.allowRemove, true⟩

theorem pathParts_ne_nil (path : String) : pathParts path ≠ [] := by
  simp [pathParts, List.splitOn_ne_nil]

theorem applyOne_eq_editAt (policy : MutationPolicy) (field : Field) (s : Edited)
    (change : ConfigChange) :
    applyOne texts policy field s change =
      editAt texts (policyRights policy) field (pathParts change.path) change s := by
  rw [applyOne, editAt]
  cases resolveChange texts field change with
  | keep | set value => rfl
  | invalid =>
    simp only [policyRights, Bool.true_and, getConfigPath]
    by_cases hstored :
      isStoredValue texts (valueAt (.dict s.config) (pathParts change.path)) field change.value = true
    · simp [hstored]
    · simp [hstored]
  | clear =>
    simp only [clearConfigPath]
    by_cases hremove : policy.allowRemove = true
    · have hrights : (policyRights policy).removes = true := hremove
      cases removeAt s.config (pathParts change.path) <;> simp only [if_pos hremove, if_pos hrights]
    · have hrights : ¬ (policyRights policy).removes = true := hremove
      rw [if_neg hremove, if_neg hrights]

theorem valueAt_single (config : Entries) (key : String) :
    valueAt (.dict config) [key] = dictGet config key := by
  rw [valueAt_cons]
  cases dictGet config key with
  | none => rfl
  | some v => exact valueAt_nil v

theorem applyCommonValue_eq_editAt {values : Entries} {entry : String × Field} {raw : PyValue}
    (hraw : dictGet values entry.1 = some raw) (reports : Bool) (s : Edited) :
    applyCommonValue texts values reports s entry =
      editAt texts ⟨true, true, reports⟩ entry.2 [entry.1] ⟨entry.1, raw, .set⟩ s := by
  rw [applyCommonValue, hraw, editAt]
  cases hresolve : resolveChange texts entry.2 ⟨entry.1, raw, .set⟩ with
  | keep => simp only [hresolve]
  | set value => simp [hresolve, writeAt]
  | invalid => simp only [hresolve, valueAt_single]
  | clear =>
    simp only [hresolve, removeAt, if_true]
    by_cases hthere : (dictGet s.config entry.1).isSome = true
    · rw [if_pos hthere, if_pos hthere]
      rfl
    · rw [if_neg hthere, if_neg hthere]

/-- **An edit of the config is type safe exactly where its rounds are careful**: where what the
check finds nothing wrong with suits its field, being a text where the type is one of texts and one
of the options where there are some, or is what is stored, and stands in objects only.  The same
holds of the fields of a repeated entry. -/
theorem edits_typeSafe_iff (texts : MeterTexts) (admits : Kind → String → Prop) :
    (∀ policy index config changes,
      CallSafe texts admits (policyRights policy) (changeEdit index)
          (applyChange texts policy index) changes config
          (applyConfigChanges texts policy index config changes).config ↔
        EveryStep (applyChange texts policy index)
          (CarefulStep texts admits (policyRights policy) (changeEdit index))
          { config } changes) ∧
      ∀ target values fields reports,
        CallSafe texts admits ⟨true, true, reports⟩ (entryEdit values)
            (applyCommonValue texts values reports) fields target
            (applyCommonValues texts target values fields reports).config ↔
          EveryStep (applyCommonValue texts values reports)
            (CarefulStep texts admits ⟨true, true, reports⟩ (entryEdit values))
            { config := target } fields := by
  constructor
  · intro policy index config changes
    refine callSafe_iff ?_ ?_
    · intro s change hedit
      rw [changeEdit, Option.map_eq_none_iff, fieldAt] at hedit
      rw [applyChange]
      split
      · rfl
      next hskipped =>
        rw [if_neg hskipped] at hedit
        simp only [hedit]
        rfl
    · intro s change e hedit
      obtain ⟨field, hfield, rfl⟩ := Option.map_eq_some_iff.mp hedit
      refine ⟨pathParts_ne_nil change.path, ?_⟩
      rw [fieldAt] at hfield
      rw [applyChange]
      split
      next hskipped =>
        rw [if_pos hskipped] at hfield
        cases hfield
      next hskipped =>
        rw [if_neg hskipped] at hfield
        simp only [hfield]
        exact applyOne_eq_editAt policy field s change
  · intro target values fields reports
    refine callSafe_iff ?_ ?_
    · intro s entry hedit
      rw [entryEdit, Option.map_eq_none_iff] at hedit
      rw [applyCommonValue, hedit]
    · intro s entry e hedit
      obtain ⟨raw, hraw, rfl⟩ := Option.map_eq_some_iff.mp hedit
      exact ⟨List.cons_ne_nil _ _, applyCommonValue_eq_editAt hraw reports s⟩

end

/-! ### A level that is none -/

/-- `system.log_level`. -/
def logLevelField : Field where
  kind := .select
  options := some (["debug", "info", "warning", "error"].map .str)

def logLevelIndex (path : String) : Option Field :=
  if path = "system.log_level" then some logLevelField else none

/-- Conversions that find no number, address or host in any text. -/
def plainMeterTexts : MeterTexts where
  str := fun value => value.str?.getD ""
  repr := fun _ => ""
  int := fun _ => none
  str_str := getD_str?_str
  float := fun _ => none
  ipAddress := fun _ => none
  urlHostname := fun _ => none
  floatOfInt := fun z => some z

def logLevelConfig : Entries := [("system", .dict [("log_level", .str "info")])]

def loudChange : ConfigChange := ⟨"system.log_level", .str "loud", .set⟩

/-- **A level that the field does not offer is written**, whatever texts a type may have. -/
theorem unlisted_option_written :
    ¬ CallSafe plainMeterTexts (fun _ _ => True) ⟨true, true, true⟩ (changeEdit logLevelIndex)
      (applyChange plainMeterTexts ⟨false, true, true⟩ logLevelIndex) [loudChange] logLevelConfig
      (applyConfigChanges plainMeterTexts ⟨false, true, true⟩ logLevelIndex logLevelConfig
        [loudChange]).config := by
  intro hsafe
  have hedit : changeEdit logLevelIndex loudChange =
      some ⟨["system", "log_level"], logLevelField, loudChange⟩ := rfl
  have hvalue := hsafe.edited loudChange List.mem_cons_self _ hedit (fun b hb e' he' => by
    obtain rfl := List.mem_singleton.mp hb
    obtain rfl := Option.some.inj (hedit.symm.trans he')
    exact .inl ⟨rfl, rfl⟩)
  have hafter : valueAt (.dict (applyConfigChanges plainMeterTexts ⟨false, true, true⟩ logLevelIndex
      logLevelConfig [loudChange]).config) ["system", "log_level"] = some (.str "loud") := rfl
  have hbefore : valueAt (.dict logLevelConfig) ["system", "log_level"] = some (.str "info") := rfl
  rw [ValueSafe, hafter, hbefore] at hvalue
  rcases hvalue with hsame | hnone | ⟨v, hv, hfits⟩
  · exact absurd (PyValue.str.inj (Option.some.inj hsame)) (by decide)
  · cases hnone
  · obtain rfl := Option.some.inj hv
    obtain ⟨option, hoption, heq⟩ := hfits.option _ rfl
    have hno : ∀ word ∈ ["debug", "info", "warning", "error"],
        looseEq (.str word) (.str "loud") = false := by decide
    obtain ⟨word, hword, rfl⟩ := List.mem_map.mp hoption
    exact absurd heq (by simp [hno word hword])

end SolarFlowEms.Config.Catalog
