import SolarFlowEms.Runtime.RuntimeCommands

/-!
# Which values break out of the validation

A value is returned as its field declares it, or refused, except where a conversion raises what
no check names: an infinity in a field of whole numbers, an integer beyond the floats in a field of
numbers, and a value without a text where a text is asked for.  A payload breaks out where its
first value that is not taken does.
-/

namespace SolarFlowEms.Runtime

open Python Documents Fallible
open Schedule (Parsed refuse escape Escapes escapes_bind escapes_map escapes_mapError escapes_ok
  escapes_pure escapes_refuse escapes_escape)

/-! ### One value -/

section

variable (texts : RuntimeTexts)

def TooDeep (value : PyValue) : Prop := value.str? = none ∧ ∃ e, texts.repr value = .error e

/-- A value that some conversion of its field raises on. -/
def BreaksOut (value : PyValue) : FieldRule → Prop
  | .bool => False
  | .int _ _ => value = .float .posInf ∨ value = .float .negInf
  | .float _ _ => ∃ z : ℤ, value = .int z ∧ floatOverflow ≤ z.natAbs
  | .enum _ => Config.truthy value = true ∧ TooDeep texts value
  | .setting _ => value.isNone = false ∧ TooDeep texts value

/-- The integer that a value is: an integer, a float of the same value, or its digits. -/
def IsWhole (value : PyValue) (z : ℤ) : Prop :=
  value = .int z ∨ value = .float (.finite z) ∨
    ∃ s, value = .str s ∧ texts.int s = some z ∧ pyStrip s = toString z

def IsFinite (value : PyValue) (x : ℚ) : Prop :=
  (∃ z : ℤ, value = .int z ∧ z.natAbs < floatOverflow ∧ x = z) ∨ value = .float (.finite x) ∨
    ∃ s, value = .str s ∧ texts.float s = some (.finite x)

/-- A value that its field takes, with what it is returned as. -/
def Takes (value : PyValue) : FieldRule → PyValue → Prop
  | .bool, result => ∃ b, value = .bool b ∧ result = .bool b
  | .int minimum maximum, result =>
    ∃ z, IsWhole texts value z ∧ minimum ≤ z ∧ z ≤ maximum ∧ result = .int z
  | .float minimum maximum, result =>
    ∃ x, IsFinite texts value x ∧ minimum ≤ x ∧ x ≤ maximum ∧ result = .float (.finite x)
  | .enum words, result =>
    ∃ s ∈ words, normalizedText texts (orEmpty value) = .ok s ∧ result = .str s
  | .setting words, result =>
    unmanaged texts value = .ok true ∧ result = .none ∨
      unmanaged texts value = .ok false ∧ ∃ s ∈ words, settingText texts value = .ok s ∧ result = .str s

/-- What a field holds once it is validated. -/
def Declared : FieldRule → PyValue → Prop
  | .bool, value => ∃ b, value = .bool b
  | .int minimum maximum, value => ∃ z, value = .int z ∧ minimum ≤ z ∧ z ≤ maximum
  | .float minimum maximum, value => ∃ x, value = .float (.finite x) ∧ minimum ≤ x ∧ x ≤ maximum
  | .enum words, value => ∃ s ∈ words, value = .str s
  | .setting words, value => value = .none ∨ ∃ s ∈ words, value = .str s

variable {texts} {key : String} {value result : PyValue}

theorem escapes_strText : Escapes (strText texts value) ↔ TooDeep texts value := by
  unfold TooDeep
  cases value with
  | str s => exact ⟨fun h => absurd h (escapes_ok _), fun h => by cases h.1⟩
  | _ =>
    show Escapes ((texts.repr _).mapError .escaped) ↔ _
    rw [escapes_mapError]
    exact ⟨fun h => ⟨rfl, h⟩, fun h => h.2⟩

theorem escapes_normalizedText : Escapes (normalizedText texts value) ↔ TooDeep texts value := by
  unfold normalizedText
  rw [escapes_bind, escapes_strText]
  exact or_iff_left fun ⟨_, _, h⟩ => absurd h (escapes_pure _)

theorem escapes_wholeNumber :
    Escapes (wholeNumber texts key value) ↔ value = .float .posInf ∨ value = .float .negInf := by
  cases value with
  | float x =>
    cases x with
    | posInf => exact ⟨fun _ => .inl rfl, fun _ => escapes_escape _⟩
    | negInf => exact ⟨fun _ => .inr rfl, fun _ => escapes_escape _⟩
    | nan => simp [wholeNumber]
    | finite x =>
      simp only [wholeNumber]
      split <;> simp
  | str s =>
    simp only [wholeNumber]
    split
    · split <;> simp
    · simp
  | _ => simp [wholeNumber]

@[simp] theorem truncate_intCast (z : ℤ) : truncate (z : ℚ) = z := by
  unfold truncate
  split
  · exact Rat.floor_intCast z
  · exact Rat.ceil_intCast z

theorem wholeNumber_eq_ok {z : ℤ} :
    wholeNumber texts key value = .ok z ↔ IsWhole texts value z := by
  unfold IsWhole
  cases value with
  | int y => simp [wholeNumber]
  | float x =>
    cases x with
    | finite x =>
      simp only [wholeNumber, reduceCtorEq, PyValue.float.injEq, PyFloat.finite.injEq, false_or,
        false_and, exists_false, or_false]
      constructor
      · intro h
        split at h
        · rename_i hwhole
          rw [← hwhole, Except.ok.inj h]
        · cases h
      · rintro rfl
        rw [truncate_intCast, if_pos rfl]
    | posInf | negInf => simp [wholeNumber, escape]
    | nan => simp [wholeNumber, refuse]
  | str s =>
    simp only [wholeNumber, reduceCtorEq, PyValue.str.injEq, false_or]
    constructor
    · intro h
      split at h
      · rename_i y hy
        split at h
        · rename_i hdigits
          obtain rfl := Except.ok.inj h
          exact ⟨s, rfl, hy, hdigits⟩
        · cases h
      · cases h
    · rintro ⟨s', rfl, hz, hdigits⟩
      rw [hz]
      exact if_pos hdigits
  | _ => simp [wholeNumber, refuse]

theorem escapes_floatNumber :
    Escapes (floatNumber texts key value) ↔ ∃ z : ℤ, value = .int z ∧ floatOverflow ≤ z.natAbs := by
  cases value with
  | int z =>
    simp only [floatNumber, PyValue.int.injEq, exists_eq_left']
    split
    · rename_i hlt
      exact ⟨fun h => absurd h (escapes_ok _), fun hle => absurd hle (Nat.not_le.mpr hlt)⟩
    · rename_i hge
      exact ⟨fun _ => Nat.not_lt.mp hge, fun _ => escapes_escape _⟩
  | str s =>
    simp only [floatNumber]
    split <;> simp
  | _ => simp [floatNumber]

theorem floatNumber_eq_ok {x : ℚ} :
    floatNumber texts key value = .ok (.finite x) ↔ IsFinite texts value x := by
  unfold IsFinite
  cases value with
  | int z =>
    simp only [floatNumber, PyValue.int.injEq, reduceCtorEq, false_and, exists_false, or_false]
    split
    · rename_i hlt
      simp [hlt, eq_comm]
    · rename_i hge
      simp [hge, escape]
  | float y => simp [floatNumber]
  | str s =>
    simp only [floatNumber, reduceCtorEq, PyValue.str.injEq, false_and, exists_false, false_or,
      exists_eq_left']
    cases texts.float s <;> simp [refuse]
  | _ => simp [floatNumber, refuse]

theorem escapes_unmanaged :
    Escapes (unmanaged texts value) ↔ value.isNone = false ∧ TooDeep texts value := by
  cases value with
  | none => exact ⟨fun h => absurd h (escapes_ok _), fun h => by cases h.1⟩
  | _ =>
    unfold unmanaged
    rw [escapes_bind, escapes_normalizedText]
    constructor
    · rintro (h | ⟨_, _, h⟩)
      · exact ⟨rfl, h⟩
      · exact absurd h (escapes_pure _)
    · exact fun h => .inl h.2

theorem not_escapes_lookup (words : List String) (message s : String) :
    ¬Escapes (if s ∈ words then .ok (.str s) else refuse message : Parsed PyValue) := by
  split
  · exact escapes_ok _
  · exact escapes_refuse _

theorem not_escapes_settingText (h : unmanaged texts value = .ok false) :
    ¬Escapes (settingText texts value) := by
  have hfine : ¬Escapes (unmanaged texts value) := by
    rw [h]
    exact escapes_ok _
  rw [escapes_unmanaged] at hfine
  cases value with
  | none => cases h
  | bool b => exact escapes_ok _
  | _ => exact fun htext => hfine ⟨rfl, escapes_normalizedText.mp htext⟩

/-- **A value breaks out of its field's check exactly where a conversion raises.** -/
theorem escapes_validateValue (rule : FieldRule) :
    Escapes (validateValue texts key value rule) ↔ BreaksOut texts value rule := by
  cases rule with
  | bool =>
    unfold validateValue
    cases value <;> simp [BreaksOut]
  | int minimum maximum =>
    unfold validateValue BreaksOut
    rw [escapes_bind, escapes_wholeNumber]
    refine or_iff_left fun ⟨z, _, h⟩ => ?_
    split at h <;> simp at h
  | float minimum maximum =>
    unfold validateValue BreaksOut
    rw [escapes_bind, escapes_floatNumber]
    refine or_iff_left fun ⟨x, _, h⟩ => ?_
    split at h
    · split at h <;> simp at h
    · simp at h
  | enum words =>
    unfold validateValue BreaksOut
    rw [escapes_bind, escapes_normalizedText, or_iff_left fun ⟨s, _, h⟩ =>
      not_escapes_lookup words _ s h]
    unfold orEmpty
    cases htruthy : Config.truthy value with
    | true => simp
    | false => simp [TooDeep, PyValue.str?]
  | setting words =>
    unfold validateValue BreaksOut
    rw [escapes_bind, escapes_unmanaged]
    refine or_iff_left fun ⟨b, hb, h⟩ => ?_
    cases b with
    | true => exact escapes_ok _ h
    | false =>
      rcases escapes_bind.mp h with htext | ⟨s, _, hs⟩
      · exact not_escapes_settingText hb htext
      · exact not_escapes_lookup words _ s hs

theorem lookup_eq_ok {words : List String} {message s : String} :
    (if s ∈ words then .ok (.str s) else refuse message : Parsed PyValue) = .ok result ↔
      s ∈ words ∧ result = .str s := by
  split
  · rename_i hs
    exact ⟨fun h => ⟨hs, (Except.ok.inj h).symm⟩, fun h => congrArg Except.ok h.2.symm⟩
  · rename_i hs
    constructor
    · intro h
      cases h
    · intro h
      exact absurd h.1 hs

theorem validateValue_eq_ok (rule : FieldRule) :
    validateValue texts key value rule = .ok result ↔ Takes texts value rule result := by
  cases rule with
  | bool =>
    unfold validateValue Takes
    cases value <;> simp [refuse, eq_comm]
  | int minimum maximum =>
    unfold validateValue Takes
    simp only [bind_eq_ok, wholeNumber_eq_ok]
    refine exists_congr fun z => and_congr Iff.rfl ?_
    split
    · rename_i hout
      constructor
      · intro h
        cases h
      · rintro ⟨hmin, hmax, -⟩
        omega
    · rename_i hin
      rw [not_or, not_lt, not_lt] at hin
      exact ⟨fun h => ⟨hin.1, hin.2, (Except.ok.inj h).symm⟩,
        fun h => congrArg Except.ok h.2.2.symm⟩
  | float minimum maximum =>
    unfold validateValue Takes
    rw [bind_eq_ok]
    constructor
    · rintro ⟨x, hx, h⟩
      split at h
      · rename_i x
        split at h
        · cases h
        · rename_i hin
          rw [not_or, not_lt, not_lt] at hin
          exact ⟨x, floatNumber_eq_ok.mp hx, hin.1, hin.2, (Except.ok.inj h).symm⟩
      · cases h
    · rintro ⟨x, hx, hmin, hmax, rfl⟩
      refine ⟨_, floatNumber_eq_ok.mpr hx, ?_⟩
      dsimp only
      exact if_neg (not_or.mpr ⟨not_lt.mpr hmin, not_lt.mpr hmax⟩)
  | enum words =>
    unfold validateValue Takes
    simp only [bind_eq_ok, lookup_eq_ok]
    constructor
    · rintro ⟨s, htext, hs, rfl⟩
      exact ⟨s, hs, htext, rfl⟩
    · rintro ⟨s, hs, htext, rfl⟩
      exact ⟨s, htext, hs, rfl⟩
  | setting words =>
    unfold validateValue Takes settingWord
    rw [bind_eq_ok]
    constructor
    · rintro ⟨b, hb, h⟩
      cases b with
      | true => exact .inl ⟨hb, (Except.ok.inj h).symm⟩
      | false =>
        obtain ⟨s, htext, hlookup⟩ := bind_eq_ok.mp h
        obtain ⟨hs, rfl⟩ := lookup_eq_ok.mp hlookup
        exact .inr ⟨hb, s, hs, htext, rfl⟩
    · rintro (⟨hb, rfl⟩ | ⟨hb, s, hs, htext, rfl⟩)
      · exact ⟨true, hb, rfl⟩
      · exact ⟨false, hb, bind_eq_ok.mpr ⟨s, htext, lookup_eq_ok.mpr ⟨hs, rfl⟩⟩⟩

theorem Takes.declared {rule : FieldRule} (h : Takes texts value rule result) :
    Declared rule result := by
  cases rule with
  | bool =>
    obtain ⟨b, -, rfl⟩ := h
    exact ⟨b, rfl⟩
  | int minimum maximum =>
    obtain ⟨z, -, hmin, hmax, rfl⟩ := h
    exact ⟨z, rfl, hmin, hmax⟩
  | float minimum maximum =>
    obtain ⟨x, -, hmin, hmax, rfl⟩ := h
    exact ⟨x, rfl, hmin, hmax⟩
  | enum words =>
    obtain ⟨s, hs, -, rfl⟩ := h
    exact ⟨s, hs, rfl⟩
  | setting words =>
    rcases h with ⟨-, rfl⟩ | ⟨-, s, hs, -, rfl⟩
    · exact .inl rfl
    · exact .inr ⟨s, hs, rfl⟩

end

/-! ### A payload -/

section

variable (texts : RuntimeTexts)

/-- What is sent keeps a device that is connected over MQTT at its AC output. -/
def KeepsOutput (entries : Entries) : Prop :=
  ∀ entry ∈ entries, entry.1 ∈ deviceAcFields.map Prod.fst →
    backToAcOutput texts entry.1 entry.2 = .ok true

def HandsBack (entries : Entries) : Prop :=
  ∀ entry ∈ entries, entry.1 ∈ deviceSettingFields.map Prod.fst →
    unmanaged texts entry.2 = .ok true

/-- A value without a text is asked for one before anything is refused over MQTT. -/
def BreaksOverMqtt (entries : Entries) : Prop :=
  (∃ value, ("runtime_role", value) ∈ entries ∧ Config.truthy value = true ∧ TooDeep texts value) ∨
    KeepsOutput texts entries ∧ ∃ entry ∈ entries, entry.1 ∈ deviceSettingFields.map Prod.fst ∧
      entry.2.isNone = false ∧ TooDeep texts entry.2

/-- Every field is known, and the first value that its field does not take breaks out. -/
def ValuesBreak (fields : List (String × FieldRule)) (entries : Entries) : Prop :=
  (∀ entry ∈ entries, entry.1 ∈ fields.map Prod.fst) ∧
    ∃ before entry after, entries = before ++ entry :: after ∧
      (∀ other ∈ before, ∃ rule result, fields.lookup other.1 = some rule ∧
        Takes texts other.2 rule result) ∧
      ∃ rule, fields.lookup entry.1 = some rule ∧ BreaksOut texts entry.2 rule

/-- A payload that some conversion raises on before it is refused. -/
def PayloadBreaks (context : ValidationContext) (device : String) : PyValue → Prop
  | .dict entries =>
    device ∈ context.acRoleUnsupported ∧ BreaksOverMqtt texts entries ∨
      (device ∈ context.acRoleUnsupported → KeepsOutput texts entries ∧ HandsBack texts entries) ∧
        ValuesBreak texts (deviceFields context device) entries
  | _ => False

/-- A validation returns what it is to return, or refuses. -/
def Total {α : Type*} (x : Parsed α) (P : α → Prop) : Prop :=
  (∃ a, x = .ok a ∧ P a) ∨ ∃ message, x = refuse message

/-- The fields are those of the device, each as it is declared. -/
def AllDeclared (fields : List (String × FieldRule)) (entries : Entries) : Prop :=
  ∀ entry ∈ entries, ∃ rule, fields.lookup entry.1 = some rule ∧ Declared rule entry.2

theorem total_iff {α : Type*} {x : Parsed α} {P : α → Prop} (h : ∀ a, x = .ok a → P a) :
    Total x P ↔ ¬Escapes x := by
  cases x with
  | ok a => exact ⟨fun _ => escapes_ok a, fun _ => .inl ⟨a, rfl, h a rfl⟩⟩
  | error raised =>
    cases raised with
    | refused message => exact ⟨fun _ => escapes_refuse message, fun _ => .inr ⟨message, rfl⟩⟩
    | escaped e =>
      constructor
      · rintro (⟨a, ha, -⟩ | ⟨message, hm⟩)
        · cases ha
        · cases hm
      · intro hnot
        exact absurd (escapes_escape e) hnot

variable {α β : Type} {f : α → Parsed β} {items : List α}

/-- **A traversal breaks out at its first item that does not come through.** -/
theorem escapes_mapM_iff :
    Escapes (items.mapM f) ↔ ∃ before a after, items = before ++ a :: after ∧
      (∀ x ∈ before, ∃ b, f x = .ok b) ∧ Escapes (f a) := by
  induction items with
  | nil =>
    rw [List.mapM_nil]
    refine ⟨fun h => absurd h (escapes_pure _), ?_⟩
    rintro ⟨before, a, after, h, -⟩
    exact absurd h.symm (List.append_ne_nil_of_right_ne_nil before (List.cons_ne_nil a after))
  | cons item items ih =>
    rw [List.mapM_cons, escapes_bind]
    constructor
    · rintro (h | ⟨b, hb, h⟩)
      · exact ⟨[], item, items, rfl, fun x hx => absurd hx List.not_mem_nil, h⟩
      · rcases escapes_bind.mp h with hrest | ⟨_, -, hpure⟩
        · obtain ⟨before, a, after, rfl, hbefore, ha⟩ := ih.mp hrest
          exact ⟨item :: before, a, after, rfl, List.forall_mem_cons.mpr ⟨⟨b, hb⟩, hbefore⟩, ha⟩
        · exact absurd hpure (escapes_pure _)
    · rintro ⟨before, a, after, hitems, hbefore, ha⟩
      cases before with
      | nil =>
        obtain ⟨rfl, rfl⟩ := List.cons.inj hitems
        exact .inl ha
      | cons other before =>
        obtain ⟨rfl, rfl⟩ := List.cons.inj hitems
        obtain ⟨⟨b, hb⟩, hrest⟩ := List.forall_mem_cons.mp hbefore
        refine .inr ⟨b, hb, escapes_bind.mpr (.inl (ih.mpr ⟨before, a, after, rfl, hrest, ha⟩))⟩

def Answers {α : Type} (x : Parsed α) : Prop := Escapes x ∨ ∃ a, x = .ok a

theorem Answers.bind {x : Parsed α} (hx : Answers x)
    (hf : ∀ a, Answers (f a)) : Answers (x >>= f) := by
  rcases hx with h | ⟨a, rfl⟩
  · exact .inl (escapes_bind.mpr (.inl h))
  · exact hf a

theorem answers_mapError (x : Except PyException α) :
    Answers (x.mapError Schedule.Raised.escaped) := by
  cases x with
  | ok a => exact .inr ⟨a, rfl⟩
  | error e => exact .inl (escapes_escape e)

theorem escapes_mapM_iff_exists (hf : ∀ a, Answers (f a)) :
    Escapes (items.mapM f) ↔ ∃ a ∈ items, Escapes (f a) := by
  constructor
  · rintro ⟨e, he⟩
    obtain ⟨a, ha, h⟩ := exists_of_mapM_eq_error he
    exact ⟨a, ha, e, h⟩
  · rintro ⟨a, ha, e, he⟩
    obtain ⟨raised, hraised⟩ := exists_mapM_eq_error_iff.mpr ⟨a, ha, _, he⟩
    obtain ⟨a', -, ha'⟩ := exists_of_mapM_eq_error hraised
    rcases hf a' with ⟨e', h⟩ | ⟨b, h⟩
    · rw [h] at ha'
      exact ⟨e', hraised.trans (congrArg Except.error (Except.error.inj ha').symm)⟩
    · rw [h] at ha'
      cases ha'

section

variable {fields : List (String × FieldRule)} {allowed : String → PyValue → Parsed Bool}
  {entries : Entries}

theorem escapes_firstRefused
    (hallowed : ∀ key value, Answers (allowed key value)) :
    Escapes (firstRefused fields allowed entries) ↔
      ∃ entry ∈ entries, entry.1 ∈ fields.map Prod.fst ∧ Escapes (allowed entry.1 entry.2) := by
  unfold firstRefused
  rw [escapes_bind, or_iff_left fun ⟨_, _, h⟩ => escapes_pure _ h, escapes_mapM_iff_exists]
  · simp only [List.mem_filter, decide_eq_true_eq, and_assoc, escapes_bind, escapes_pure, and_false,
      exists_false, or_false]
  · exact fun entry => (hallowed entry.1 entry.2).bind fun b => .inr ⟨_, rfl⟩

theorem firstRefused_eq_none :
    firstRefused fields allowed entries = .ok none ↔
      ∀ entry ∈ entries, entry.1 ∈ fields.map Prod.fst → allowed entry.1 entry.2 = .ok true := by
  unfold firstRefused
  rw [bind_eq_ok]
  constructor
  · rintro ⟨checked, hchecked, h⟩ entry hentry hfield
    obtain ⟨answer, hanswer, hf⟩ := exists_mem_of_mapM_eq_ok hchecked
      (List.mem_filter.mpr ⟨hentry, decide_eq_true hfield⟩)
    obtain ⟨b, hb, hpair⟩ := bind_eq_ok.mp hf
    obtain rfl := Except.ok.inj hpair
    cases b with
    | true => exact hb
    | false =>
      have hnil := List.map_eq_nil_iff.mp (List.min?_eq_none_iff.mp (Except.ok.inj h))
      have hmem : (entry.1, false) ∈ checked.filter (!·.2) := List.mem_filter.mpr ⟨hanswer, rfl⟩
      rw [hnil] at hmem
      cases hmem
  · intro hall
    refine ⟨(entries.filter (·.1 ∈ fields.map Prod.fst)).map fun entry => (entry.1, true), ?_, ?_⟩
    · rw [mapM_eq_ok, List.forall₂_map_right_iff, List.forall₂_same]
      intro entry hentry
      obtain ⟨hmem, hfield⟩ := List.mem_filter.mp hentry
      exact bind_eq_ok.mpr ⟨true, hall entry hmem (of_decide_eq_true hfield), rfl⟩
    · rw [List.filter_map, List.filter_eq_nil_iff.mpr (by simp)]
      rfl

end

section

variable {texts : RuntimeTexts} {entries : Entries}

theorem escapes_backToAcOutput {key : String} {value : PyValue} :
    Escapes (backToAcOutput texts key value) ↔
      key = "runtime_role" ∧ Config.truthy value = true ∧ TooDeep texts value := by
  unfold backToAcOutput
  by_cases hkey : key = "runtime_role"
  · rw [if_pos hkey, escapes_bind, or_iff_left fun ⟨_, _, h⟩ => escapes_pure _ h,
      escapes_normalizedText, orEmpty]
    cases Config.truthy value <;> simp [hkey, TooDeep, PyValue.str?]
  · rw [if_neg hkey]
    simp [hkey]

theorem answers_normalizedText (value : PyValue) : Answers (normalizedText texts value) := by
  have htext : Answers (strText texts value) := by
    cases value with
    | str s => exact .inr ⟨s, rfl⟩
    | _ => exact answers_mapError (texts.repr _)
  exact htext.bind fun s => .inr ⟨_, rfl⟩

theorem answers_backToAcOutput (key : String) (value : PyValue) :
    Answers (backToAcOutput texts key value) := by
  unfold backToAcOutput
  split
  · exact (answers_normalizedText _).bind fun s => .inr ⟨_, rfl⟩
  · exact .inr ⟨false, rfl⟩

theorem answers_unmanaged (value : PyValue) : Answers (unmanaged texts value) := by
  cases value with
  | none => exact .inr ⟨true, rfl⟩
  | _ => exact (answers_normalizedText _).bind fun s => .inr ⟨_, rfl⟩

theorem firstRefused_eq_none_iff_keepsOutput :
    firstRefused deviceAcFields (backToAcOutput texts) entries = .ok none ↔
      KeepsOutput texts entries :=
  firstRefused_eq_none

theorem firstRefused_eq_none_iff_handsBack :
    firstRefused deviceSettingFields (fun _ => unmanaged texts) entries = .ok none ↔
      HandsBack texts entries :=
  firstRefused_eq_none

variable {device : String} {entry : String × PyValue} {payload : PyValue}

theorem refuseOverMqtt_eq_ok :
    refuseOverMqtt texts device entries = .ok () ↔
      KeepsOutput texts entries ∧ HandsBack texts entries := by
  unfold refuseOverMqtt
  rw [bind_eq_ok, ← firstRefused_eq_none_iff_keepsOutput, ← firstRefused_eq_none_iff_handsBack]
  constructor
  · rintro ⟨refused, hrole, h⟩
    cases refused with
    | some key => cases h
    | none =>
      obtain ⟨refused, hsetting, h⟩ := bind_eq_ok.mp h
      cases refused with
      | some key => cases h
      | none => exact ⟨hrole, hsetting⟩
  · rintro ⟨hrole, hsetting⟩
    exact ⟨none, hrole, bind_eq_ok.mpr ⟨none, hsetting, rfl⟩⟩

/-- **Over MQTT, a payload breaks out exactly at a value without a text** among those that are
asked for one. -/
theorem escapes_refuseOverMqtt :
    Escapes (refuseOverMqtt texts device entries) ↔ BreaksOverMqtt texts entries := by
  have hrole : Escapes (firstRefused deviceAcFields (backToAcOutput texts) entries) ↔
      ∃ value, ("runtime_role", value) ∈ entries ∧ Config.truthy value = true ∧
        TooDeep texts value := by
    rw [escapes_firstRefused answers_backToAcOutput]
    constructor
    · rintro ⟨entry, hentry, -, h⟩
      obtain ⟨hkey, hvalue⟩ := escapes_backToAcOutput.mp h
      exact ⟨entry.2, hkey ▸ hentry, hvalue⟩
    · rintro ⟨value, hentry, hvalue⟩
      exact ⟨_, hentry, List.mem_cons_self, escapes_backToAcOutput.mpr ⟨rfl, hvalue⟩⟩
  have hsetting : Escapes (firstRefused deviceSettingFields (fun _ => unmanaged texts) entries) ↔
      ∃ entry ∈ entries, entry.1 ∈ deviceSettingFields.map Prod.fst ∧ entry.2.isNone = false ∧
        TooDeep texts entry.2 := by
    rw [escapes_firstRefused fun _ => answers_unmanaged]
    simp only [escapes_unmanaged]
  unfold refuseOverMqtt BreaksOverMqtt
  rw [escapes_bind, hrole, ← hsetting, ← firstRefused_eq_none_iff_keepsOutput]
  refine or_congr Iff.rfl ⟨?_, ?_⟩
  · rintro ⟨refused, hrefused, h⟩
    cases refused with
    | some key => exact absurd h (escapes_refuse _)
    | none =>
      refine ⟨hrefused, ?_⟩
      rcases escapes_bind.mp h with hbreaks | ⟨refused, -, hrest⟩
      · exact hbreaks
      · cases refused with
        | some key => exact absurd hrest (escapes_refuse _)
        | none => exact absurd hrest (escapes_ok _)
  · rintro ⟨hrefused, hbreaks⟩
    exact ⟨none, hrefused, escapes_bind.mpr (.inl hbreaks)⟩

theorem firstUnknown_eq_none {known : List String} :
    firstUnknown known entries = none ↔ ∀ entry ∈ entries, entry.1 ∈ known := by
  rw [firstUnknown, List.min?_eq_none_iff, List.filter_eq_nil_iff, List.forall_mem_map]
  simp

theorem exists_validateEntry_iff {fields : List (String × FieldRule)} :
    (∃ validated, validateEntry texts fields entry = .ok validated) ↔
      ∃ rule result, fields.lookup entry.1 = some rule ∧ Takes texts entry.2 rule result := by
  unfold validateEntry
  cases fields.lookup entry.1 with
  | none => simp [refuse]
  | some rule =>
    simp only [Option.some.injEq, exists_eq_left', exists_and_left]
    constructor
    · rintro ⟨validated, h⟩
      obtain ⟨result, hresult, -⟩ := bind_eq_ok.mp h
      exact ⟨result, (validateValue_eq_ok rule).mp hresult⟩
    · rintro ⟨result, hresult⟩
      exact ⟨_, bind_eq_ok.mpr ⟨result, (validateValue_eq_ok rule).mpr hresult, rfl⟩⟩

theorem escapes_validateEntry {fields : List (String × FieldRule)} :
    Escapes (validateEntry texts fields entry) ↔
      ∃ rule, fields.lookup entry.1 = some rule ∧ BreaksOut texts entry.2 rule := by
  unfold validateEntry
  cases fields.lookup entry.1 with
  | none => simp
  | some rule => simp [escapes_validateValue]

/-- **The values of a payload break out exactly at the first that its field does not take**, where
that one does. -/
theorem escapes_validatePayload {fields : List (String × FieldRule)} :
    Escapes (validatePayload texts (.dict entries) fields) ↔ ValuesBreak texts fields entries := by
  cases entries with
  | nil =>
    refine ⟨fun h => absurd h (escapes_refuse _), ?_⟩
    rintro ⟨-, before, entry, after, h, -⟩
    exact absurd h.symm (List.append_ne_nil_of_right_ne_nil before (List.cons_ne_nil entry after))
  | cons entry entries =>
    unfold ValuesBreak
    rw [← firstUnknown_eq_none]
    simp only [validatePayload]
    cases hunknown : firstUnknown (fields.map Prod.fst) (entry :: entries) with
    | some unknown => simp
    | none =>
      dsimp only
      rw [escapes_mapM_iff, and_iff_right rfl]
      simp only [exists_validateEntry_iff, escapes_validateEntry]

theorem allDeclared_of_validatePayload {fields : List (String × FieldRule)}
    {values : Entries} (h : validatePayload texts payload fields = .ok values) :
    AllDeclared fields values := by
  intro entry hentry
  unfold validatePayload at h
  split at h
  · cases h
  · split at h
    · cases h
    · obtain ⟨sent, -, hsent⟩ := exists_item_of_mapM_eq_ok h hentry
      unfold validateEntry at hsent
      split at hsent
      · rename_i rule hrule
        obtain ⟨result, hresult, hpair⟩ := bind_eq_ok.mp hsent
        obtain rfl := Except.ok.inj hpair
        exact ⟨rule, hrule, ((validateValue_eq_ok rule).mp hresult).declared⟩
      · cases hsent
  · cases h

/-- **A payload breaks out exactly where a conversion raises before it is refused.** -/
theorem escapes_validateDeviceValues {context : ValidationContext}
    :
    Escapes (validateDeviceValues texts context device payload) ↔
      PayloadBreaks texts context device payload := by
  unfold validateDeviceValues
  rw [escapes_bind]
  cases payload with
  | dict entries =>
    unfold refuseForDevice PayloadBreaks
    rw [escapes_validatePayload]
    by_cases hmqtt : device ∈ context.acRoleUnsupported
    · have hpasses : (∃ x, refuseOverMqtt texts device entries = .ok x) ↔
          KeepsOutput texts entries ∧ HandsBack texts entries :=
        ⟨fun ⟨(), h⟩ => refuseOverMqtt_eq_ok.mp h, fun h => ⟨(), refuseOverMqtt_eq_ok.mpr h⟩⟩
      simp [hmqtt, escapes_refuseOverMqtt, hpasses]
    · simp [hmqtt]
  | _ => simp [refuseForDevice, validatePayload, PayloadBreaks]

end

end

/-- **The validation is total but for the values that a conversion raises on**: what it returns is
declared, and what it does not return is refused. -/
theorem validation_total_iff (texts : RuntimeTexts) :
    (∀ (key : String) (value : PyValue) (rule : FieldRule),
      Total (validateValue texts key value rule) (Declared rule) ↔ ¬BreaksOut texts value rule) ∧
    ∀ (context : ValidationContext) (device : String) (payload : PyValue),
      Total (validateDeviceValues texts context device payload)
          (AllDeclared (deviceFields context device)) ↔
        ¬PayloadBreaks texts context device payload := by
  constructor
  · intro key value rule
    rw [total_iff fun result h => ((validateValue_eq_ok rule).mp h).declared,
      escapes_validateValue]
  · intro context device payload
    rw [total_iff, escapes_validateDeviceValues]
    intro values h
    obtain ⟨_, -, hvalues⟩ := bind_eq_ok.mp h
    exact allDeclared_of_validatePayload hvalues

/-- Texts of a run in which nothing is nested too deeply, and no text is a number. -/
def wordTexts : RuntimeTexts where
  repr _ := .ok ""
  int _ := none
  float _ := none
  lower s := s.map Char.toLower
  number x := toString x.num

def powerContext : ValidationContext where
  deviceMaxPower := [("WR1", 800)]
  fallbackDeviceMaxPower := 800
  acRoleUnsupported := []

/-- **An infinity as a power, or an integer beyond the floats as a factor, is not refused**: the
conversion raises, and nothing catches what it raises. -/
theorem infinity_breaks_out :
    (¬∀ (texts : RuntimeTexts) (key : String) (value : PyValue) (rule : FieldRule),
      Total (validateValue texts key value rule) (Declared rule)) ∧
    (¬∀ (texts : RuntimeTexts) (context : ValidationContext) (device : String) (payload : PyValue),
      Total (validateDeviceValues texts context device payload)
        (AllDeclared (deviceFields context device))) ∧
    Schedule.raised? (validateDeviceValues wordTexts powerContext "WR1"
      (.dict [("max_power", .float .posInf)])) = some (.escaped .overflowError) ∧
    Schedule.raised? (validateDeviceValues wordTexts powerContext "WR1"
      (.dict [("pv_priority_factor", .int (10 ^ 400))])) = some (.escaped .overflowError) := by
  have hpower : Schedule.raised? (validateDeviceValues wordTexts powerContext "WR1"
      (.dict [("max_power", .float .posInf)])) = some (.escaped .overflowError) := by
    decide
  have hbreaks := Schedule.escapes_of_raised? hpower
  refine ⟨fun h => ?_, fun h => ?_, hpower, by decide +kernel⟩
  · rcases h wordTexts "max_power" (.float .posInf) (.int 0 800) with ⟨a, ha, -⟩ | ⟨message, hm⟩
    · cases ha
    · cases hm
  · rcases h wordTexts powerContext "WR1" (.dict [("max_power", .float .posInf)]) with
      ⟨a, ha, -⟩ | ⟨message, hm⟩
    · rw [ha] at hbreaks
      exact escapes_ok a hbreaks
    · rw [hm] at hbreaks
      exact escapes_refuse message hbreaks

end SolarFlowEms.Runtime
