import Mathlib.Data.List.Infix
import SolarFlowEms.Library.Document

/-!
# Paths into nested objects

A path is the list of the names that lead into nested objects.  Writing a value at a path makes the
objects on the way that are missing, and puts an object in the place of anything else that stands
there; removing takes away what is at the path and nothing on the way.  Neither touches what stands
at a path that is neither above nor below.
-/

namespace SolarFlowEms.Documents

open Python

/-! ### Reading -/

/-- What stands at a path. -/
def valueAt : PyValue → List String → Option PyValue
  | value, [] => some value
  | .dict entries, name :: rest => (dictGet entries name).bind fun child => valueAt child rest
  | _, _ :: _ => none

/-- The members of the object that stands under a name, of which there are none where something
else does. -/
def membersAt (entries : Entries) (name : String) : Entries :=
  ((dictGet entries name).bind PyValue.dict?).getD []

variable {entries entries' : Entries} {name : String} {path path' : List String} {value v : PyValue}

@[simp] theorem valueAt_nil (value : PyValue) : valueAt value [] = some value := by
  cases value <;> rfl

theorem valueAt_cons (entries : Entries) (name : String) (rest : List String) :
    valueAt (.dict entries) (name :: rest) =
      (dictGet entries name).bind fun child => valueAt child rest := rfl

theorem valueAt_of_not_dict (h : v.dict? = none) (name : String) (rest : List String) :
    valueAt v (name :: rest) = none := by
  cases v with
  | dict entries => simp [PyValue.dict?] at h
  | _ => rfl

theorem valueAt_append (v : PyValue) (path path' : List String) :
    valueAt v (path ++ path') = (valueAt v path).bind fun child => valueAt child path' := by
  induction path generalizing v with
  | nil => simp
  | cons name rest ih =>
    cases v with
    | dict entries =>
      rw [List.cons_append, valueAt_cons, valueAt_cons]
      cases dictGet entries name with
      | none => rfl
      | some child => exact ih child
    | _ => rfl

theorem valueAt_membersAt (entries : Entries) (name : String) (hpath : path ≠ []) :
    valueAt (.dict (membersAt entries name)) path = valueAt (.dict entries) (name :: path) := by
  obtain ⟨next, rest, rfl⟩ := List.exists_cons_of_ne_nil hpath
  rw [valueAt_cons entries, membersAt]
  cases hchild : dictGet entries name with
  | none => rfl
  | some child =>
    cases hd : child.dict? with
    | none =>
      have hnone := valueAt_of_not_dict hd next rest
      simp [hd, hnone, valueAt_cons, dictGet]
    | some members =>
      obtain rfl := PyValue.dict?_eq_some hd
      rfl

theorem dict_above (h : valueAt (.dict entries) path = some v) (hpre : path' <+: path)
    (hne : path' ≠ path) : ∃ members, valueAt (.dict entries) path' = some (.dict members) := by
  obtain ⟨rest, rfl⟩ := hpre
  rw [valueAt_append] at h
  obtain ⟨child, hchild, hrest⟩ := Option.bind_eq_some_iff.mp h
  have hne' : rest ≠ [] := fun heq => hne (by simp [heq])
  obtain ⟨next, rest', rfl⟩ := List.exists_cons_of_ne_nil hne'
  cases hd : child.dict? with
  | none =>
    rw [valueAt_of_not_dict hd] at hrest
    exact absurd hrest (by simp)
  | some members => exact ⟨members, by rw [hchild, PyValue.dict?_eq_some hd]⟩

/-! ### Writing -/

/-- A value put at a path. -/
def writeAt (value : PyValue) : Entries → List String → Entries
  | entries, [] => entries
  | entries, [name] => dictSet entries name value
  | entries, name :: next :: rest =>
    dictSet entries name (.dict (writeAt value (membersAt entries name) (next :: rest)))

theorem writeAt_cons (value : PyValue) (entries : Entries) (name : String) (hpath : path ≠ []) :
    writeAt value entries (name :: path) =
      dictSet entries name (.dict (writeAt value (membersAt entries name) path)) := by
  obtain ⟨next, rest, rfl⟩ := List.exists_cons_of_ne_nil hpath
  rfl

theorem valueAt_dictSet (entries : Entries) (name : String) (value : PyValue) (name' : String)
    (path : List String) :
    valueAt (.dict (dictSet entries name value)) (name' :: path) =
      if name' = name then valueAt value path else valueAt (.dict entries) (name' :: path) := by
  rw [valueAt_cons, valueAt_cons, dictGet_dictSet]
  by_cases h : name' = name
  · simp [h]
  · simp [h]

theorem valueAt_writeAt_self (value : PyValue) (entries : Entries) (hpath : path ≠ []) :
    valueAt (.dict (writeAt value entries path)) path = some value := by
  induction path generalizing entries with
  | nil => exact absurd rfl hpath
  | cons name rest ih =>
    by_cases hrest : rest = []
    · subst hrest
      rw [writeAt, valueAt_dictSet, if_pos rfl, valueAt_nil]
    · rw [writeAt_cons value entries name hrest, valueAt_dictSet, if_pos rfl]
      exact ih (membersAt entries name) hrest

theorem apart_cons {rest rest' : List String} (hbelow : ¬ name :: rest <+: name :: rest')
    (habove : ¬ name :: rest' <+: name :: rest) :
    (¬ rest <+: rest' ∧ ¬ rest' <+: rest) ∧ rest ≠ [] ∧ rest' ≠ [] := by
  rw [List.cons_prefix_cons, eq_self, true_and] at hbelow habove
  exact ⟨⟨hbelow, habove⟩, fun h => hbelow (h ▸ List.nil_prefix), fun h => habove (h ▸ List.nil_prefix)⟩

theorem valueAt_writeAt_of_apart (value : PyValue) (entries : Entries) (hbelow : ¬ path <+: path')
    (habove : ¬ path' <+: path) :
    valueAt (.dict (writeAt value entries path)) path' = valueAt (.dict entries) path' := by
  induction path generalizing entries path' with
  | nil => exact absurd List.nil_prefix hbelow
  | cons name rest ih =>
    cases path' with
    | nil => exact absurd List.nil_prefix habove
    | cons name' rest' =>
      by_cases hname : name' = name
      · subst hname
        obtain ⟨⟨hbelow', habove'⟩, hrest, hrest'⟩ := apart_cons hbelow habove
        rw [writeAt_cons value entries name' hrest, valueAt_dictSet, if_pos rfl,
          ih (membersAt entries name') hbelow' habove', valueAt_membersAt entries name' hrest']
      · by_cases hrest : rest = []
        · subst hrest
          rw [writeAt, valueAt_dictSet, if_neg hname]
        · rw [writeAt_cons value entries name hrest, valueAt_dictSet, if_neg hname]

theorem dict_above_writeAt (value : PyValue) (entries : Entries) (hpre : path' <+: path)
    (hne : path' ≠ path) :
    ∃ members, valueAt (.dict (writeAt value entries path)) path' = some (.dict members) := by
  have hpath : path ≠ [] := by
    rintro rfl
    exact hne (List.prefix_nil.mp hpre)
  exact dict_above (valueAt_writeAt_self value entries hpath) hpre hne

/-! ### Removing -/

/-- The object without what stands at a path, where something does. -/
def removeAt : Entries → List String → Option Entries
  | _, [] => none
  | entries, [name] =>
    if (dictGet entries name).isSome then some (entries.filter (·.1 ≠ name)) else none
  | entries, name :: next :: rest =>
    ((dictGet entries name).bind PyValue.dict?).bind fun members =>
      (removeAt members (next :: rest)).map fun members => dictSet entries name (.dict members)

theorem removeAt_cons (entries : Entries) (name : String) (hpath : path ≠ []) :
    removeAt entries (name :: path) =
      ((dictGet entries name).bind PyValue.dict?).bind fun members =>
        (removeAt members path).map fun members => dictSet entries name (.dict members) := by
  obtain ⟨next, rest, rfl⟩ := List.exists_cons_of_ne_nil hpath
  rfl

theorem removeAt_cons_eq_some (hpath : path ≠ [])
    (h : removeAt entries (name :: path) = some entries') :
    ∃ members members', dictGet entries name = some (.dict members) ∧
      removeAt members path = some members' ∧ entries' = dictSet entries name (.dict members') := by
  rw [removeAt_cons entries name hpath] at h
  obtain ⟨members, hmembers, hrest⟩ := Option.bind_eq_some_iff.mp h
  obtain ⟨child, hchild, hdict⟩ := Option.bind_eq_some_iff.mp hmembers
  obtain ⟨members', hremoved, heq⟩ := Option.map_eq_some_iff.mp hrest
  exact ⟨members, members', by rw [hchild, PyValue.dict?_eq_some hdict], hremoved, heq.symm⟩

theorem removeAt_single_eq_some (h : removeAt entries [name] = some entries') :
    (dictGet entries name).isSome = true ∧ entries' = entries.filter (·.1 ≠ name) := by
  rw [removeAt] at h
  split at h
  next hsome => exact ⟨hsome, (Option.some.inj h).symm⟩
  next => exact absurd h (by simp)

theorem dictGet_without (entries : Entries) (name name' : String) :
    dictGet (entries.filter (·.1 ≠ name)) name' =
      if name' = name then none else dictGet entries name' := by
  rw [dictGet_filter fun name' => decide (name' ≠ name)]
  by_cases h : name' = name
  · simp [h]
  · simp [h]

theorem valueAt_isSome_of_removeAt (h : removeAt entries path = some entries') :
    (valueAt (.dict entries) path).isSome = true := by
  induction path generalizing entries entries' with
  | nil => exact absurd h (by simp [removeAt])
  | cons name rest ih =>
    by_cases hrest : rest = []
    · subst hrest
      have hsome := (removeAt_single_eq_some h).1
      rw [valueAt_cons]
      obtain ⟨child, hchild⟩ := Option.isSome_iff_exists.mp hsome
      simp [hchild]
    · obtain ⟨members, members', hmembers, hremoved, -⟩ := removeAt_cons_eq_some hrest h
      rw [valueAt_cons, hmembers]
      exact ih hremoved

theorem valueAt_removeAt_self (h : removeAt entries path = some entries') :
    valueAt (.dict entries') path = none := by
  induction path generalizing entries entries' with
  | nil => exact absurd h (by simp [removeAt])
  | cons name rest ih =>
    by_cases hrest : rest = []
    · subst hrest
      obtain ⟨-, rfl⟩ := removeAt_single_eq_some h
      rw [valueAt_cons, dictGet_without, if_pos rfl]
      rfl
    · obtain ⟨members, members', -, hremoved, rfl⟩ := removeAt_cons_eq_some hrest h
      rw [valueAt_dictSet, if_pos rfl]
      exact ih hremoved

theorem valueAt_removeAt_of_apart (h : removeAt entries path = some entries')
    (hbelow : ¬ path <+: path') (habove : ¬ path' <+: path) :
    valueAt (.dict entries') path' = valueAt (.dict entries) path' := by
  induction path generalizing entries entries' path' with
  | nil => exact absurd List.nil_prefix hbelow
  | cons name rest ih =>
    cases path' with
    | nil => exact absurd List.nil_prefix habove
    | cons name' rest' =>
      by_cases hname : name' = name
      · subst hname
        obtain ⟨⟨hbelow', habove'⟩, hrest, -⟩ := apart_cons hbelow habove
        obtain ⟨members, members', hmembers, hremoved, rfl⟩ := removeAt_cons_eq_some hrest h
        rw [valueAt_dictSet, if_pos rfl, ih hremoved hbelow' habove', valueAt_cons, hmembers]
        rfl
      · by_cases hrest : rest = []
        · subst hrest
          obtain ⟨-, rfl⟩ := removeAt_single_eq_some h
          rw [valueAt_cons, valueAt_cons, dictGet_without, if_neg hname]
        · obtain ⟨members, members', -, -, rfl⟩ := removeAt_cons_eq_some hrest h
          rw [valueAt_dictSet, if_neg hname]

end SolarFlowEms.Documents
