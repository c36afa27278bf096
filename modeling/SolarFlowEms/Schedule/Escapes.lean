import SolarFlowEms.Library.Fallible
import SolarFlowEms.Schedule.Book

/-!
# Which exceptions leave a reader

The readers of a rule refuse what they cannot take, and the store turns a refusal into a
broken rule.  An exception that none of them names goes through all of them.  The checks of
fields raise none; the exceptions come from expanding a repeat, from making a float of a huge
integer and from texts of values that are nested too deeply.
-/

namespace SolarFlowEms.Schedule

open Python Calendar TimeText Generator Fallible

universe u

variable {α β : Type u}

/-- The reader ends with an exception that is no refusal. -/
def Escapes (x : Parsed α) : Prop := ∃ e, x = .error (.escaped e)

/-- What the reader ends with, where it returns nothing. -/
def raised? : Parsed α → Option Raised
  | .ok _ => none
  | .error raised => some raised

theorem escapes_of_raised? {x : Parsed α} {e : PyException} (h : raised? x = some (.escaped e)) :
    Escapes x := by
  cases x with
  | ok a => cases h
  | error raised => exact ⟨e, congrArg Except.error (Option.some.inj h)⟩

@[simp] theorem escapes_ok (a : α) : ¬ Escapes (.ok a : Parsed α) := nofun

@[simp] theorem escapes_pure (a : α) : ¬ Escapes (pure a : Parsed α) := nofun

@[simp] theorem escapes_refuse (message : String) : ¬ Escapes (refuse message : Parsed α) := nofun

@[simp] theorem escapes_escape (e : PyException) : Escapes (escape e : Parsed α) := ⟨e, rfl⟩

@[simp] theorem escapes_bind {x : Parsed α} {f : α → Parsed β} :
    Escapes (x >>= f) ↔ Escapes x ∨ ∃ a, x = .ok a ∧ Escapes (f a) := by
  simp only [Escapes, bind_eq_error]
  constructor
  · rintro ⟨e, h | ⟨a, ha, h⟩⟩
    · exact .inl ⟨e, h⟩
    · exact .inr ⟨a, ha, e, h⟩
  · rintro (⟨e, h⟩ | ⟨a, ha, e, h⟩)
    · exact ⟨e, .inl h⟩
    · exact ⟨e, .inr ⟨a, ha, h⟩⟩

@[simp] theorem escapes_map {x : Parsed α} {f : α → β} : Escapes (f <$> x) ↔ Escapes x := by
  simp only [Escapes, map_eq_error]

@[simp] theorem escapes_mapM {f : α → Parsed β} {items : List α} (h : ∀ a, ¬ Escapes (f a)) :
    ¬ Escapes (items.mapM f) := by
  rintro ⟨e, he⟩
  obtain ⟨a, -, ha⟩ := exists_of_mapM_eq_error he
  exact h a ⟨e, ha⟩

@[simp] theorem escapes_mapError {x : Except PyException α} :
    Escapes (x.mapError .escaped) ↔ ∃ e, x = .error e := by
  simp [Escapes, mapError_eq_error]

@[simp] theorem escapes_require (p : Prop) [Decidable p] (message : String) :
    ¬ Escapes (require p message) := by
  rw [require]
  split
  · exact escapes_ok ()
  · exact escapes_refuse message

/-! ### Checks of fields -/

@[simp] theorem escapes_asDict (value : PyValue) (message : String) :
    ¬ Escapes (asDict value message) := by
  cases value <;> exact nofun

@[simp] theorem escapes_knownFields (entries : List (String × PyValue)) (known : List String)
    (what : String) : ¬ Escapes (knownFields entries known what) := by
  rw [knownFields]
  split <;> exact nofun

section

variable (value : PyValue)
include value

@[simp] theorem escapes_optional {parse : PyValue → Parsed α}
    (h : ∀ v, ¬ Escapes (parse v)) : ¬ Escapes (optional value parse) := by
  cases value <;> simp [optional, h]

@[simp] theorem escapes_parseLocal (field : String) :
    ¬ Escapes (parseLocal value field) := by
  rw [parseLocal.eq_def]
  split
  · split <;> exact nofun
  · exact nofun

@[simp] theorem escapes_parseDay (field : String) :
    ¬ Escapes (parseDay value field) := by
  rw [parseDay.eq_def]
  split
  · split <;> exact nofun
  · exact nofun

@[simp] theorem escapes_whole (field : String) (minimum maximum : ℕ) :
    ¬ Escapes (whole value field minimum maximum) := by
  rw [whole.eq_def]
  split
  · split
    · exact escapes_ok _
    · exact escapes_refuse _
  · exact escapes_refuse _

@[simp] theorem escapes_listOf (item? : PyValue → Option α) (message : String) :
    ¬ Escapes (listOf value item? message) := by
  rw [listOf.eq_def]
  split
  · exact nofun
  · split <;> exact nofun
  · exact nofun

@[simp] theorem escapes_parseFreq : ¬ Escapes (parseFreq value) := by
  rw [parseFreq]
  split <;> exact nofun

@[simp] theorem escapes_parseSetPos (freq : Freq) (byWeekday : List ℕ)
    (byMonthDay : List ℤ) : ¬ Escapes (parseSetPos value freq byWeekday byMonthDay) := by
  rw [parseSetPos.eq_def]
  split
  · exact nofun
  · split
    · exact nofun
    · split
      · split <;> exact nofun
      · exact nofun

@[simp] theorem escapes_parseUntil (start : LocalTime) :
    ¬ Escapes (parseUntil value start) := by
  simp [parseUntil]

end

@[simp] theorem escapes_parseRepeat (start : LocalTime) (payload : PyValue) :
    ¬ Escapes (parseRepeat start payload) := by
  simp [parseRepeat, parseWeekdays, parseMonthDays, parseMonths]

@[simp] theorem escapes_parseExceptions (value : PyValue) : ¬ Escapes (parseExceptions value) := by
  rw [parseExceptions.eq_def]
  split
  · exact nofun
  · simp
  · exact nofun

@[simp] theorem escapes_parseEnd (start : LocalTime) (value : PyValue) :
    ¬ Escapes (parseEnd start value) := by
  rw [parseEnd, escapes_bind]
  rintro (h | ⟨finish, -, h⟩)
  · exact escapes_optional value (fun v => escapes_parseLocal v "end") h
  · cases finish with
    | none => exact escapes_pure _ h
    | some time =>
      dsimp only at h
      split at h
      · exact escapes_pure _ h
      · exact escapes_refuse _ h

@[simp] theorem escapes_parseTiming (payload : PyValue) : ¬ Escapes (parseTiming payload) := by
  simp [parseTiming]

section

variable (value : PyValue)
include value

@[simp] theorem escapes_parseName : ¬ Escapes (parseName value) := by
  rw [parseName.eq_def]
  split
  · split <;> exact nofun
  · exact nofun

@[simp] theorem escapes_parseBool (message : String) :
    ¬ Escapes (parseBool value message) := by
  cases value <;> exact nofun

@[simp] theorem escapes_parseUtc (field : String) :
    ¬ Escapes (parseUtc value field) := by
  rw [parseUtc]
  split <;> exact nofun

@[simp] theorem escapes_parseIdentity : ¬ Escapes (parseIdentity value) := by
  rw [parseIdentity.eq_def]
  split
  · exact nofun
  · split <;> exact nofun
  · exact nofun

@[simp] theorem escapes_parseDevice : ¬ Escapes (parseDevice value) := by
  rw [parseDevice.eq_def]
  split
  · split <;> exact nofun
  · exact nofun

@[simp] theorem escapes_parseId : ¬ Escapes (parseId value) := by
  rw [parseId.eq_def]
  split
  · split <;> exact nofun
  · exact nofun

@[simp] theorem escapes_parseRevision : ¬ Escapes (parseRevision value) := by
  rw [parseRevision.eq_def]
  split
  · split <;> exact nofun
  · exact nofun

@[simp] theorem escapes_parseEditor : ¬ Escapes (parseEditor value) := by
  rw [parseEditor]
  split <;> exact nofun

end

@[simp] theorem escapes_parseStamp (entries : List (String × PyValue)) :
    ¬ Escapes (parseStamp entries) := by
  simp [parseStamp]

end SolarFlowEms.Schedule
