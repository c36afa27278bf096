import SolarFlowEms.Schedule.Unexpandable

/-!
# One bad rule and all the others

A schedules file that can be read gives a book with one entry for every stored rule, a rule
that is not valid being kept as a broken one.  What is kept from being broken is a rule whose
reader raises an exception that is no refusal: such a rule takes all the others with it.  The
rules, the records of what was applied and the bytes that do so are listed here, and reading
fails on a file exactly when it holds one of them.
-/

namespace SolarFlowEms.Schedule

open Python Calendar TimeText Generator Fallible

/-! ### Values and actions -/

/-- An integer that rounds to 2 ** 1024 or beyond as a float. -/
def TooLarge (value : PyValue) : Prop := ∃ z : ℤ, value = .int z ∧ 2 ^ 1024 - 2 ^ 970 ≤ z.natAbs

/-- A value other than a string that is nested too deeply for a text of it. -/
def TooDeep (texts : ValueTexts) (value : PyValue) : Prop :=
  value.str? = none ∧ ∃ e, texts.repr value = .error e

variable {texts : ValueTexts} {value payload entry : PyValue} {action : ScheduleAction}
  {message : String} {entries : List (String × PyValue)} {timing : When}

theorem escapes_strText :
    Escapes (texts.strText value) ↔ TooDeep texts value := by
  rw [ValueTexts.strText.eq_def, TooDeep]
  split
  · exact ⟨fun h => absurd h (escapes_ok _), fun h => nomatch h.1⟩
  · next hnot =>
    have hstr : value.str? = none := by
      cases value <;> first | rfl | exact absurd rfl (hnot _)
    rw [ValueTexts.reprText, escapes_mapError]
    exact ⟨fun h => ⟨hstr, h⟩, fun h => h.2⟩

/-- The id of no action. -/
def Unknown (actionId : PyValue) : Prop :=
  (actions.find? fun action => actionId.eqStr action.id) = none

theorem escapes_scheduleAction {actionId : PyValue} :
    Escapes (scheduleAction texts actionId) ↔ Unknown actionId ∧ TooDeep texts actionId := by
  rw [scheduleAction, Unknown]
  cases actions.find? fun action => actionId.eqStr action.id with
  | some action => simp
  | none => simp [escapes_strText]

theorem escapes_isFinite :
    Escapes ((isFinite value).mapError .escaped) ↔ TooLarge value := by
  rw [escapes_mapError, TooLarge]
  cases value with
  | int z =>
    rw [isFinite]
    split
    · next h =>
      constructor
      · rintro ⟨e, he⟩
        cases he
      · rintro ⟨z', hz, hle⟩
        cases hz
        exact absurd h (Nat.not_lt.mpr hle)
    · next h => exact ⟨fun _ => ⟨z, rfl, Nat.not_lt.mp h⟩, fun _ => ⟨_, rfl⟩⟩
  | float x =>
    refine ⟨?_, nofun⟩
    rintro ⟨e, he⟩
    cases x <;> cases he
  | none | bool b | str s | list items | dict entries => exact ⟨nofun, nofun⟩

@[simp] theorem escapes_wholeWatts (action : ScheduleAction) (value : PyValue) :
    ¬ Escapes (wholeWatts action value) := by
  rw [wholeWatts.eq_def]
  split
  · split <;> exact nofun
  · exact nofun

/-- **A value stops its action only as a factor that is too large.** -/
theorem escapes_actionCommands :
    Escapes (actionCommands action value) ↔ action.valueType = .factor ∧ TooLarge value := by
  rw [actionCommands.eq_def]
  cases action.valueType with
  | switch =>
    refine ⟨fun h => ?_, nofun⟩
    dsimp only at h
    split at h
    · split at h
      · exact absurd h (escapes_ok _)
      · exact absurd h (escapes_ok _)
    · exact absurd h (escapes_refuse _)
  | charge =>
    refine ⟨fun h => ?_, nofun⟩
    obtain ⟨watts, -, h⟩ := (escapes_bind.mp h).resolve_left (escapes_wholeWatts _ _)
    split at h
    · exact absurd h (escapes_pure _)
    · exact absurd h (escapes_pure _)
  | watts => simp
  | choice =>
    refine ⟨fun h => ?_, nofun⟩
    dsimp only at h
    split at h
    · exact absurd h (escapes_ok _)
    · exact absurd h (escapes_refuse _)
  | factor =>
    dsimp only
    cases hnumber : value.number? with
    | none =>
      refine ⟨fun h => absurd h (escapes_refuse _), ?_⟩
      rintro ⟨-, z, rfl, -⟩
      cases hnumber
    | some x =>
      simp only [escapes_bind, escapes_isFinite, escapes_require, escapes_pure, true_and,
        and_false, exists_false, or_false]

/-- **The actions whose reading raises**: the fields of `entries` of a rule with a timing. -/
inductive Unactionable (texts : ValueTexts) (timing : When) (entries : List (String × PyValue)) :
    Prop where
  /-- The id is unknown and nested too deeply for the text of the refusal. -/
  | id (hunknown : Unknown (getValue entries "id")) (h : TooDeep texts (getValue entries "id"))
  /-- The value of a factor is too large. -/
  | value {action : ScheduleAction}
      (haction : scheduleAction texts (getValue entries "id") = .ok action)
      (hfactor : action.valueType = .factor) (h : TooLarge (getValue entries "value"))
  /-- The value of a factor is taken, and the end value of its window is too large. -/
  | endValue {action : ScheduleAction} {commands : List (String × PyValue)}
      (haction : scheduleAction texts (getValue entries "id") = .ok action)
      (hfactor : action.valueType = .factor)
      (hvalue : actionCommands action (getValue entries "value") = .ok commands)
      (hwindow : timing.windowEnd?.isSome) (h : TooLarge (getValue entries "end_value"))

theorem TooLarge.not_isNone (h : TooLarge value) : ¬ value.isNone = true := by
  obtain ⟨z, rfl, -⟩ := h
  exact nofun

theorem asDict_eq_ok :
    asDict value message = .ok entries ↔ value = .dict entries := by
  cases value with
  | dict entries' => exact ⟨fun h => by cases h; rfl, fun h => by cases h; rfl⟩
  | none | bool b | int z | float x | str s | list items => exact ⟨nofun, nofun⟩

theorem require_eq_ok {p : Prop} [Decidable p] :
    require p message = .ok () ↔ p := by
  rw [require]
  split
  · next h => exact ⟨fun _ => h, fun _ => rfl⟩
  · next h =>
    constructor
    · intro hok
      cases hok
    · intro hp
      exact absurd hp h

theorem escapes_endValue {endValue : PyValue} :
    Escapes (match timing.windowEnd? with
      | none => do
        require endValue.isNone "a single switch point has no end_value"
        return (action, value, endValue)
      | some _ => do
        require (¬ endValue.isNone) "a window needs the end_value it sets when it ends"
        let _ ← actionCommands action endValue
        return (action, value, endValue) : Parsed (ScheduleAction × PyValue × PyValue)) ↔
      timing.windowEnd?.isSome ∧ action.valueType = .factor ∧ TooLarge endValue := by
  cases timing.windowEnd? with
  | none => simp
  | some finish =>
    simp only [escapes_bind, escapes_require, escapes_actionCommands, escapes_pure, false_or,
      and_false, exists_false, or_false, Option.isSome_some, true_and]
    constructor
    · rintro ⟨_, -, h⟩
      exact h
    · rintro ⟨hfactor, h⟩
      exact ⟨(), require_eq_ok.mpr h.not_isNone, hfactor, h⟩

theorem escapes_parseAction :
    Escapes (parseAction texts payload timing) ↔ ∃ entries, payload = .dict entries ∧
      knownFields entries ["id", "value", "end_value"] "action" = .ok () ∧
      Unactionable texts timing entries := by
  simp only [parseAction, escapes_bind, escapes_asDict, escapes_knownFields, false_or, asDict_eq_ok,
    escapes_scheduleAction, escapes_actionCommands]
  apply exists_congr
  intro entries
  apply and_congr_right
  intro _
  constructor
  · rintro ⟨_, hknown, ⟨hunknown, h⟩ | ⟨action, haction, ⟨hfactor, h⟩ | ⟨commands, hvalue, h⟩⟩⟩
    · exact ⟨hknown, .id hunknown h⟩
    · exact ⟨hknown, .value haction hfactor h⟩
    · obtain ⟨hwindow, hfactor, h⟩ := escapes_endValue.mp h
      exact ⟨hknown, .endValue haction hfactor hvalue hwindow h⟩
  · rintro ⟨hknown, h⟩
    refine ⟨(), hknown, ?_⟩
    cases h with
    | id hunknown h => exact .inl ⟨hunknown, h⟩
    | value haction hfactor h => exact .inr ⟨_, haction, .inl ⟨hfactor, h⟩⟩
    | endValue haction hfactor hvalue hwindow h =>
      exact .inr ⟨_, haction, .inr ⟨_, hvalue, escapes_endValue.mpr ⟨hwindow, hfactor, h⟩⟩⟩

/-! ### Rules -/

/-- A target whose scope is not the action's, and too deep for the text of the refusal. -/
def Untargetable (texts : ValueTexts) (action : ScheduleAction)
    (entries : List (String × PyValue)) : Prop :=
  (getValue entries "scope").eqStr (if action.perDevice then "device" else "system") = false ∧
    ∃ e, texts.repr (getValue entries "scope") = .error e

theorem escapes_parseTarget :
    Escapes (parseTarget texts payload action) ↔ ∃ entries, payload = .dict entries ∧
      knownFields entries ["scope", "device", "identity"] "target" = .ok () ∧
      Untargetable texts action entries := by
  simp only [parseTarget, escapes_bind, escapes_asDict, escapes_knownFields, false_or, asDict_eq_ok,
    Untargetable]
  apply exists_congr
  intro entries
  apply and_congr_right
  intro _
  generalize (if action.perDevice = true then "device" else "system") = expected
  cases (getValue entries "scope").eqStr expected with
  | true => cases action.perDevice <;> simp
  | false =>
    simp only [Bool.false_eq_true, if_false, escapes_bind, escapes_refuse, and_false, exists_false,
      or_false, ValueTexts.reprText, escapes_mapError, true_and]
    exact ⟨fun h => h.elim fun _ => id, fun h => ⟨(), h⟩⟩

/-- The fields before the timing are valid. -/
structure HeadValid (entries : List (String × PyValue)) : Prop where
  known : knownFields entries editableFields "rule" = .ok ()
  name : ∃ name, parseName (getValue entries "name") = .ok name
  enabled : ∃ enabled, parseBool ((dictGet entries "enabled").getD (.bool true))
    "enabled must be true or false" = .ok enabled

/-- **The editable fields whose reading raises**: in the timing, the action or the target, the
fields before it being valid. -/
inductive Uneditable (texts : ValueTexts) (entries : List (String × PyValue)) : Prop where
  | timing {w : When} (hw : parseTiming (getValue entries "when") = .ok w) (h : w.Unexpandable)
  | action {w : When} {fields : List (String × PyValue)}
      (hw : parseWhen (getValue entries "when") = .ok w)
      (hfields : getValue entries "action" = .dict fields)
      (hknown : knownFields fields ["id", "value", "end_value"] "action" = .ok ())
      (h : Unactionable texts w fields)
  | target {w : When} {action : ScheduleAction} {value endValue : PyValue}
      {fields : List (String × PyValue)} (hw : parseWhen (getValue entries "when") = .ok w)
      (haction : parseAction texts (getValue entries "action") w = .ok (action, value, endValue))
      (hfields : getValue entries "target" = .dict fields)
      (hknown : knownFields fields ["scope", "device", "identity"] "target" = .ok ())
      (h : Untargetable texts action fields)

theorem escapes_parseEditable :
    Escapes (parseEditable texts (.dict entries)) ↔ HeadValid entries ∧ Uneditable texts entries := by
  simp only [parseEditable, escapes_bind, escapes_asDict, escapes_knownFields, escapes_parseName,
    escapes_parseBool, escapes_parseWhen, escapes_parseAction, escapes_parseTarget, escapes_pure,
    false_or, and_false, exists_false, or_false, asDict_eq_ok, PyValue.dict.injEq, Prod.exists]
  constructor
  · rintro ⟨_, rfl, _, hknown, name, hname, enabled, henabled, h⟩
    refine ⟨⟨hknown, ⟨name, hname⟩, ⟨enabled, henabled⟩⟩, ?_⟩
    rcases h with ⟨w, hw, h⟩ | ⟨w, hw, h⟩
    · exact .timing hw h
    · rcases h with ⟨fields, hfields, hknown, h⟩ | ⟨action, value, endValue, haction, h⟩
      · exact .action hw hfields hknown h
      · obtain ⟨fields, hfields, hknown, h⟩ := h
        exact .target hw haction hfields hknown h
  · rintro ⟨⟨hknown, ⟨name, hname⟩, ⟨enabled, henabled⟩⟩, h⟩
    refine ⟨entries, rfl, (), hknown, name, hname, enabled, henabled, ?_⟩
    cases h with
    | timing hw h => exact .inl ⟨_, hw, h⟩
    | action hw hfields hknown h => exact .inr ⟨_, hw, .inl ⟨_, hfields, hknown, h⟩⟩
    | target hw haction hfields hknown h =>
      exact .inr ⟨_, hw, .inr ⟨_, _, _, haction, _, hfields, hknown, h⟩⟩

def editablePart (entries : List (String × PyValue)) : List (String × PyValue) :=
  entries.filter fun entry => entry.1 ∈ editableFields

/-- **The stored entries that stop the whole book**: those whose fields raise, the fields
before being valid, and those without a usable id that are too deep for a name. -/
inductive StopsBook (texts : ValueTexts) (entry : PyValue) : Prop where
  | fields {entries : List (String × PyValue)} (hentry : entry = .dict entries)
      (hstamp : ∃ stamp, parseStamp entries = .ok stamp) (hhead : HeadValid (editablePart entries))
      (h : Uneditable texts (editablePart entries))
  | unnamed (hid : usableId entry = none) (h : ∃ e, texts.contentHash entry = .error e)

theorem escapes_parseRule :
    Escapes (parseRule texts entry) ↔ ∃ entries, entry = .dict entries ∧
      (∃ stamp, parseStamp entries = .ok stamp) ∧ HeadValid (editablePart entries) ∧
        Uneditable texts (editablePart entries) := by
  simp only [parseRule, escapes_bind, escapes_asDict, escapes_parseStamp, escapes_pure, false_or,
    and_false, exists_false, or_false, asDict_eq_ok, ← escapes_parseEditable, editablePart]
  apply exists_congr
  intro entries
  apply and_congr_right
  intro _
  constructor
  · intro h
    obtain ⟨stamp, hstamp, h⟩ := h
    exact ⟨⟨stamp, hstamp⟩, h⟩
  · intro h
    obtain ⟨⟨stamp, hstamp⟩, h⟩ := h
    exact ⟨stamp, hstamp, h⟩

theorem isSome_usableId_of_parseRule {rule : ScheduleRule}
    (h : parseRule texts entry = .ok rule) : (usableId entry).isSome := by
  obtain ⟨entries, hentry, h⟩ := bind_eq_ok.mp h
  obtain ⟨stamp, hstamp, -⟩ := bind_eq_ok.mp h
  obtain ⟨_, -, hstamp⟩ := bind_eq_ok.mp hstamp
  obtain ⟨id, hid, -⟩ := bind_eq_ok.mp hstamp
  rw [asDict_eq_ok.mp hentry, usableId]
  simp only [PyValue.dict?, Option.getD_some]
  rw [parseId.eq_def] at hid
  split at hid
  · next text htext =>
    rw [htext]
    split at hid
    · next hrule =>
      have hne : text ≠ "" := by
        rintro rfl
        exact absurd hrule (by decide)
      simp [PyValue.str?, hne]
    · cases hid
  · cases hid

theorem entryId_error_iff :
    (∃ e, entryId texts entry = .error e) ↔
      usableId entry = none ∧ ∃ e, texts.contentHash entry = .error e := by
  rw [entryId]
  cases usableId entry with
  | some id =>
    constructor
    · rintro ⟨e, he⟩
      cases he
    · rintro ⟨h, -⟩
      cases h
  | none => simp only [map_eq_error, true_and]

/-- **An entry is missing from the book exactly when it stops the book.** -/
theorem bookRule_error_iff :
    (∃ e, bookRule texts entry = .error e) ↔ StopsBook texts entry := by
  constructor
  · rintro ⟨e, he⟩
    rw [bookRule] at he
    cases hrule : parseRule texts entry with
    | ok rule =>
      rw [hrule] at he
      cases he
    | error raised =>
      rw [hrule] at he
      cases raised with
      | refused message =>
        obtain h | ⟨_, -, h⟩ := bind_eq_error.mp he
        · obtain ⟨hid, hhash⟩ := entryId_error_iff.mp ⟨e, h⟩
          exact .unnamed hid hhash
        · cases h
      | escaped exception =>
        obtain ⟨entries, hentry, hstamp, hhead, h⟩ := escapes_parseRule.mp ⟨exception, hrule⟩
        exact .fields hentry hstamp hhead h
  · intro h
    rw [bookRule]
    cases h with
    | fields hentry hstamp hhead h =>
      obtain ⟨e, he⟩ := escapes_parseRule.mpr ⟨_, hentry, hstamp, hhead, h⟩
      rw [he]
      exact ⟨e, rfl⟩
    | unnamed hid hhash =>
      cases hrule : parseRule texts entry with
      | ok rule =>
        have hsome := isSome_usableId_of_parseRule hrule
        rw [hid] at hsome
        cases hsome
      | error raised =>
        cases raised with
        | refused message =>
          obtain ⟨e, he⟩ := entryId_error_iff.mpr ⟨hid, hhash⟩
          exact ⟨e, bind_eq_error.mpr (.inl he)⟩
        | escaped exception => exact ⟨exception, rfl⟩

/-! ### Records -/

/-- A recorded window whose check raises: by its action's id, or by its end value. -/
inductive Unclosable (texts : ValueTexts) (window : List (String × PyValue)) : Prop where
  | id (hunknown : Unknown (getValue window "action")) (h : TooDeep texts (getValue window "action"))
  | endValue {action : ScheduleAction}
      (haction : scheduleAction texts (getValue window "action") = .ok action)
      (hfactor : action.valueType = .factor) (h : TooLarge (getValue window "end_value"))

theorem closable_error_iff {window : List (String × PyValue)} :
    (∃ e, closable texts window = .error e) ↔ Unclosable texts window := by
  have hcommands : Escapes (do
      let action ← scheduleAction texts (getValue window "action")
      let _ ← actionCommands action (getValue window "end_value")
      return action : Parsed ScheduleAction) ↔ Unclosable texts window := by
    simp only [escapes_bind, escapes_scheduleAction, escapes_actionCommands, escapes_pure, and_false,
      exists_false, or_false]
    constructor
    · rintro (⟨hunknown, h⟩ | ⟨action, haction, hfactor, h⟩)
      · exact .id hunknown h
      · exact .endValue haction hfactor h
    · rintro (⟨hunknown, h⟩ | ⟨haction, hfactor, h⟩)
      · exact .inl ⟨hunknown, h⟩
      · exact .inr ⟨_, haction, hfactor, h⟩
  rw [← hcommands, closable]
  generalize (do
      let action ← scheduleAction texts (getValue window "action")
      let _ ← actionCommands action (getValue window "end_value")
      return action : Parsed ScheduleAction) = commands
  cases commands with
  | ok action =>
    constructor
    · intro h
      obtain ⟨_, h⟩ := h
      cases h
    · intro h
      exact absurd h (escapes_ok _)
  | error raised =>
    cases raised with
    | refused message =>
      constructor
      · intro h
        obtain ⟨_, h⟩ := h
        cases h
      · intro h
        exact absurd h (escapes_refuse _)
    | escaped exception => exact ⟨fun _ => ⟨exception, rfl⟩, fun _ => ⟨exception, rfl⟩⟩

/-- **The records that stop the whole book**: of a rule, with a value and a time that can be
read, and a window whose check raises. -/
def StopsBookRecord (texts : ValueTexts) (record : PyValue) : Prop :=
  ∃ entries rule window, record = .dict entries ∧ getValue entries "rule" = .str rule ∧
    isNotFinite (getValue entries "value") = false ∧
    (∃ time, parseUtc (getValue entries "at") "applied at" = .ok time) ∧
    getValue entries "window" = .dict window ∧ Unclosable texts window

theorem escapes_appliedWindow :
    Escapes (appliedWindow texts value) ↔
      ∃ window, value = .dict window ∧ Unclosable texts window := by
  cases value with
  | dict window =>
    simp only [appliedWindow, escapes_bind, escapes_mapError, closable_error_iff,
      PyValue.dict.injEq, exists_eq_left']
    refine or_iff_left ?_
    rintro ⟨found, -, h⟩
    cases found with
    | none => exact escapes_pure _ h
    | some action =>
      obtain h | ⟨_, -, h⟩ := escapes_bind.mp h
      · exact escapes_parseUtc _ _ h
      · exact escapes_pure _ h
  | none | bool b | int z | float x | str s
  | list items => exact iff_of_false (escapes_ok _) (by simp)

theorem escapes_appliedRecord {record : PyValue} :
    Escapes (appliedRecord texts record) ↔ StopsBookRecord texts record := by
  rw [appliedRecord, escapes_bind, or_iff_right (escapes_asDict _ _)]
  apply exists_congr
  intro entries
  rw [asDict_eq_ok]
  constructor
  · rintro ⟨hrecord, h⟩
    split at h
    · next rule hrule =>
      simp only [escapes_bind, escapes_require, escapes_parseUtc, escapes_appliedWindow,
        escapes_pure, false_or, exists_false, or_false, ← exists_prop] at h
      obtain ⟨_, hvalue, time, htime, window, hwindow, h⟩ := h
      exact ⟨rule, window, hrecord, hrule, by simpa using require_eq_ok.mp hvalue, ⟨time, htime⟩,
        hwindow, h⟩
    · exact absurd h (escapes_refuse _)
  · rintro ⟨rule, window, hrecord, hrule, hvalue, ⟨time, htime⟩, hwindow, h⟩
    refine ⟨hrecord, ?_⟩
    rw [hrule]
    simp only [escapes_bind, escapes_require, escapes_parseUtc, escapes_appliedWindow,
      escapes_pure, false_or, and_false, exists_false, or_false]
    exact ⟨(), require_eq_ok.mpr (by simpa using hvalue), time, htime, window, hwindow, h⟩

theorem bookRecord_error_iff {entry : String × PyValue} :
    (∃ e, bookRecord texts entry = .error e) ↔ StopsBookRecord texts entry.2 := by
  rw [← escapes_appliedRecord, bookRecord]
  cases appliedRecord texts entry.2 with
  | ok record => exact ⟨nofun, nofun⟩
  | error raised =>
    cases raised with
    | refused message => exact ⟨nofun, nofun⟩
    | escaped exception => exact ⟨fun _ => ⟨exception, rfl⟩, fun _ => ⟨exception, rfl⟩⟩

/-! ### The file -/

theorem book_error_iff {stored : ScheduleData} :
    (∃ e, book texts stored = .error e) ↔ (∃ entry ∈ stored.rules, StopsBook texts entry) ∨
      ∃ entry ∈ stored.applied, StopsBookRecord texts entry.2 := by
  simp only [← bookRule_error_iff, ← bookRecord_error_iff, ← exists_mapM_eq_error_iff]
  constructor
  · rintro ⟨e, he⟩
    rcases bind_eq_error.mp he with h | ⟨rules, -, h⟩
    · exact .inl ⟨e, h⟩
    · rcases bind_eq_error.mp h with h | ⟨applied, -, h⟩
      · exact .inr ⟨e, h⟩
      · cases h
  · intro h
    cases hrules : stored.rules.mapM (bookRule texts) with
    | error e => exact ⟨e, bind_eq_error.mpr (.inl hrules)⟩
    | ok rules =>
      obtain ⟨e, he⟩ := h.resolve_left (by rw [hrules]; rintro ⟨e, he⟩; cases he)
      exact ⟨e, bind_eq_error.mpr (.inr ⟨rules, hrules, bind_eq_error.mpr (.inl he)⟩)⟩

/-- The entry of the book for a stored entry: the rule it parses to, or a broken one with the
entry and the reason. -/
inductive EntryOf (texts : ValueTexts) (entry : PyValue) : BookRule → Prop where
  | valid {rule : ScheduleRule} (h : parseRule texts entry = .ok rule) :
      EntryOf texts entry (.valid rule)
  | broken {id message : String} (h : parseRule texts entry = .error (.refused message))
      (hid : entryId texts entry = .ok id) :
      EntryOf texts entry (.broken { id, payload := entry, error := message })

theorem entryOf_of_bookRule {rule : BookRule}
    (h : bookRule texts entry = .ok rule) : EntryOf texts entry rule := by
  rw [bookRule] at h
  cases hrule : parseRule texts entry with
  | ok rule =>
    rw [hrule] at h
    cases h
    exact .valid hrule
  | error raised =>
    rw [hrule] at h
    cases raised with
    | refused message =>
      obtain ⟨id, hid, h⟩ := bind_eq_ok.mp h
      cases h
      exact .broken hrule hid
    | escaped exception => cases h

/-- **Every stored rule is in the book**: reading the bytes ends in a `ScheduleStoreError`, or
in a book with one entry for every stored rule, in their order. -/
def KeepsEveryRule (lib : StoreLibrary) (raw : List UInt8) : Prop :=
  (∃ message, parse lib (some raw) = .error (.refused message)) ∨
    ∃ stored book, decode lib (some raw) = .ok stored ∧ parse lib (some raw) = .ok book ∧
      List.Forall₂ (EntryOf lib.toValueTexts) stored.rules book.rules

/-- **Reading the bytes stops at them**: their nesting is too deep, or they hold schedules with
a rule or a record that stops the book. -/
inductive StopsFile (lib : StoreLibrary) (raw : List UInt8) : Prop where
  | nesting (h : lib.loads raw = .error .recursionError)
  | rule {document entry : PyValue} {stored : ScheduleData} (hload : lib.loads raw = .ok document)
      (hdata : dataOf lib.path document = .ok stored) (hentry : entry ∈ stored.rules)
      (h : StopsBook lib.toValueTexts entry)
  | record {document : PyValue} {stored : ScheduleData} {entry : String × PyValue}
      (hload : lib.loads raw = .ok document) (hdata : dataOf lib.path document = .ok stored)
      (hentry : entry ∈ stored.applied) (h : StopsBookRecord lib.toValueTexts entry.2)

@[simp] theorem escapes_dataOf (path : String) (document : PyValue) :
    ¬ Escapes (dataOf path document) := by
  simp only [dataOf, escapes_bind, escapes_asDict, escapes_require, escapes_parseBool, false_or,
    not_exists, not_and]
  intro entries _ _ _ enabled _ h
  split at h
  · exact escapes_pure _ h
  · exact escapes_refuse _ h

theorem escapes_parse_iff {lib : StoreLibrary} {raw : List UInt8} :
    Escapes (parse lib (some raw)) ↔ StopsFile lib raw := by
  have hbook : ∀ stored, Escapes ((book lib.toValueTexts stored).mapError .escaped) ↔
      (∃ entry ∈ stored.rules, StopsBook lib.toValueTexts entry) ∨
        ∃ entry ∈ stored.applied, StopsBookRecord lib.toValueTexts entry.2 :=
    fun stored => escapes_mapError.trans book_error_iff
  rw [parse, escapes_bind]
  simp only [hbook, decode]
  constructor
  · intro h
    cases hload : lib.loads raw with
    | ok document =>
      simp only [hload, escapes_dataOf, false_or] at h
      obtain ⟨stored, hdata, ⟨entry, hentry, h⟩ | ⟨entry, hentry, h⟩⟩ := h
      · exact .rule hload hdata hentry h
      · exact .record hload hdata hentry h
    | error failure =>
      cases failure with
      | recursionError => exact .nesting hload
      | valueError text =>
        rw [hload] at h
        rcases h with h | ⟨stored, h, -⟩
        · exact absurd h (escapes_refuse _)
        · cases h
  · intro h
    cases h with
    | nesting h =>
      rw [h]
      exact .inl (escapes_escape _)
    | rule hload hdata hentry h =>
      rw [hload]
      exact .inr ⟨_, hdata, .inl ⟨_, hentry, h⟩⟩
    | record hload hdata hentry h =>
      rw [hload]
      exact .inr ⟨_, hdata, .inr ⟨_, hentry, h⟩⟩

/-- **A file keeps every rule exactly when nothing in it stops its reader.** -/
theorem keepsEveryRule_iff (lib : StoreLibrary) (raw : List UInt8) :
    KeepsEveryRule lib raw ↔ ¬ StopsFile lib raw := by
  rw [← escapes_parse_iff]
  constructor
  · rintro (⟨message, h⟩ | ⟨stored, found, -, h, -⟩) ⟨e, he⟩
    · rw [h] at he
      cases he
    · rw [h] at he
      cases he
  · intro hnot
    cases hparse : parse lib (some raw) with
    | ok found =>
      obtain ⟨stored, hdecode, h⟩ := bind_eq_ok.mp hparse
      obtain ⟨rules, hrules, h⟩ := bind_eq_ok.mp (mapError_eq_ok.mp h)
      obtain ⟨applied, -, h⟩ := bind_eq_ok.mp h
      cases h
      refine .inr ⟨stored, _, hdecode, hparse, ?_⟩
      exact (mapM_eq_ok.mp hrules).imp fun _ _ h => entryOf_of_bookRule h
    | error raised =>
      cases raised with
      | refused message => exact .inl ⟨message, hparse⟩
      | escaped exception => exact absurd ⟨exception, hparse⟩ hnot

/-! ### A float as a set position -/

/-- A rule that is valid. -/
def quietRule : PyValue := .dict
  [("id", .str "r_0123abcd"), ("revision", .int 1), ("name", .str "Quiet"),
    ("target", .dict [("scope", .str "system")]),
    ("action", .dict [("id", .str "ems_control"), ("value", .bool false)]),
    ("when", .dict [("start", .str "2026-10-19T18:00")]),
    ("updated_at", .str "2026-10-18T14:02:11Z"), ("updated_by", .str "emsctl")]

/-- A rule for the first Monday of each month, the position written as `1.0`. -/
def firstMondayRule : PyValue := .dict
  [("id", .str "r_89ab4567"), ("revision", .int 1), ("name", .str "First Monday"),
    ("target", .dict [("scope", .str "system")]),
    ("action", .dict [("id", .str "ems_control"), ("value", .bool true)]),
    ("when", .dict [("start", .str "2026-10-19T18:00"),
      ("repeat", .dict [("freq", .str "monthly"), ("by_weekday", .list [.str "mo"]),
        ("by_set_pos", .float (.finite 1))])]),
    ("updated_at", .str "2026-10-18T14:02:11Z"), ("updated_by", .str "emsctl")]

/-- The text of a file with both rules. -/
def twoRulesText : String :=
  "\x7b\"schema_version\":1,\"rules\":[" ++
  "\x7b\"id\":\"r_0123abcd\",\"revision\":1,\"name\":\"Quiet\"," ++
  "\"target\":\x7b\"scope\":\"system\"\x7d,\"action\":\x7b\"id\":\"ems_control\",\"value\":false\x7d," ++
  "\"when\":\x7b\"start\":\"2026-10-19T18:00\"\x7d," ++
  "\"updated_at\":\"2026-10-18T14:02:11Z\",\"updated_by\":\"emsctl\"\x7d," ++
  "\x7b\"id\":\"r_89ab4567\",\"revision\":1,\"name\":\"First Monday\"," ++
  "\"target\":\x7b\"scope\":\"system\"\x7d,\"action\":\x7b\"id\":\"ems_control\",\"value\":true\x7d," ++
  "\"when\":\x7b\"start\":\"2026-10-19T18:00\"," ++
  "\"repeat\":\x7b\"freq\":\"monthly\",\"by_weekday\":[\"mo\"],\"by_set_pos\":1.0\x7d\x7d," ++
  "\"updated_at\":\"2026-10-18T14:02:11Z\",\"updated_by\":\"emsctl\"\x7d]\x7d"

def twoRulesBytes : List UInt8 := twoRulesText.toUTF8.toList

/-- The library on the bytes of that file. -/
def twoRulesLibrary : StoreLibrary where
  repr := fun _ => .ok ""
  contentHash := fun _ => .ok "00000000"
  path := "schedules.json"
  loads := fun _ => .ok (.dict
    [("schema_version", .int 1), ("rules", .list [quietRule, firstMondayRule])])

example : raised? (parseRule twoRulesLibrary.toValueTexts quietRule) = none := by decide

/-- **One rule with a float takes the valid rule with it.** -/
theorem firstMonday_stops_book : ¬ KeepsEveryRule twoRulesLibrary twoRulesBytes := by
  rw [keepsEveryRule_iff, not_not, ← escapes_parse_iff]
  have h : raised? (parse twoRulesLibrary (some twoRulesBytes)) = some (.escaped .typeError) := by
    decide
  exact escapes_of_raised? h

end SolarFlowEms.Schedule
