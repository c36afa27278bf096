import Mathlib.Data.List.Nodup
import SolarFlowEms.Library.PyValue

/-!
# Paths in documents, and merging defaults into them

A path leads through keys and indices to a value of a document.  Defaults are merged under a
document: an object takes each key that it lacks from the default object, and any other value
stays.  So what the document has stays where it is, and merging the same defaults a second time
changes nothing.
-/

namespace SolarFlowEms.Documents

open Python

abbrev Entries := List (String × PyValue)

/-! ### Entries -/

section

variable {entries entries' : Entries} {key key' : String} {value : PyValue}

theorem dictGet_cons (entry : String × PyValue) (entries : Entries) (key : String) :
    dictGet (entry :: entries) key = if entry.1 = key then some entry.2 else dictGet entries key := by
  show List.lookup key ((entry.1, entry.2) :: entries) = _
  rw [List.lookup_cons]
  by_cases h : entry.1 = key
  · rw [h, beq_self_eq_true, if_pos rfl]
  · rw [beq_false_of_ne (Ne.symm h), if_neg h]
    rfl

theorem dictGet_append (entries entries' : Entries) (key : String) :
    dictGet (entries ++ entries') key = (dictGet entries key).or (dictGet entries' key) := by
  induction entries with
  | nil => rfl
  | cons entry entries ih =>
    rw [List.cons_append, dictGet_cons, dictGet_cons, ih]
    split_ifs <;> rfl

theorem dictGet_isSome_iff : (dictGet entries key).isSome = true ↔ key ∈ entries.map Prod.fst := by
  induction entries with
  | nil => simp [dictGet]
  | cons entry entries ih =>
    rw [dictGet_cons, List.map_cons, List.mem_cons]
    by_cases h : entry.1 = key
    · simp [h]
    · rw [if_neg h, ih]
      simp [Ne.symm h]

theorem mem_of_dictGet (h : dictGet entries key = some value) : (key, value) ∈ entries := by
  induction entries with
  | nil => cases h
  | cons entry entries ih =>
    rw [dictGet_cons] at h
    split_ifs at h with hkey
    · obtain rfl : entry.2 = value := Option.some.inj h
      rw [← hkey]
      exact List.mem_cons_self
    · exact List.mem_cons_of_mem _ (ih h)

theorem dictGet_of_mem (hnodup : (entries.map Prod.fst).Nodup) (h : (key, value) ∈ entries) :
    dictGet entries key = some value := by
  induction entries with
  | nil => cases h
  | cons entry entries ih =>
    rw [List.map_cons, List.nodup_cons] at hnodup
    rw [dictGet_cons]
    rcases List.mem_cons.mp h with rfl | hrest
    · exact if_pos rfl
    · have hne : entry.1 ≠ key := by
        rintro rfl
        exact hnodup.1 (List.mem_map.mpr ⟨_, hrest, rfl⟩)
      rw [if_neg hne]
      exact ih hnodup.2 hrest

theorem dictGet_filter (p : String → Bool) (entries : Entries) (key : String) :
    dictGet (entries.filter fun entry => p entry.1) key =
      if p key then dictGet entries key else none := by
  induction entries with
  | nil => simp [dictGet]
  | cons entry entries ih =>
    by_cases hp : p entry.1
    · rw [List.filter_cons, if_pos hp, dictGet_cons, dictGet_cons, ih]
      by_cases h : entry.1 = key
      · rw [if_pos h, if_pos h, if_pos (h ▸ hp)]
      · rw [if_neg h, if_neg h]
    · rw [List.filter_cons, if_neg hp, ih, dictGet_cons]
      by_cases h : entry.1 = key
      · rw [if_neg (h ▸ hp), if_neg (h ▸ hp)]
      · rw [if_neg h]

/-- The entries with what `f` makes of each value, in place. -/
theorem dictGet_map (f : String → PyValue → PyValue) (entries : Entries) (key : String) :
    dictGet (entries.map fun entry => (entry.1, f entry.1 entry.2)) key =
      (dictGet entries key).map (f key) := by
  induction entries with
  | nil => rfl
  | cons entry entries ih =>
    rw [List.map_cons, dictGet_cons, dictGet_cons, ih]
    by_cases h : entry.1 = key
    · rw [if_pos h, if_pos h, ← h]
      rfl
    · rw [if_neg h, if_neg h]

theorem dictGet_of_mem_entries {entry : String × PyValue} (hnodup : (entries.map Prod.fst).Nodup)
    (h : entry ∈ entries) : dictGet entries entry.1 = some entry.2 :=
  dictGet_of_mem hnodup h

theorem dictSet_of_mem (h : (dictGet entries key).isSome = true) (value : PyValue) :
    dictSet entries key value =
      entries.map fun entry => (entry.1, if entry.1 = key then value else entry.2) := by
  have hany : entries.any (·.1 = key) = true := by
    obtain ⟨found, hfound⟩ := Option.isSome_iff_exists.mp h
    exact List.any_eq_true.mpr ⟨_, mem_of_dictGet hfound, decide_eq_true rfl⟩
  rw [dictSet, if_pos hany]
  refine List.map_congr_left fun entry _ => ?_
  by_cases hkey : entry.1 = key
  · rw [if_pos hkey, if_pos hkey, hkey]
  · rw [if_neg hkey, if_neg hkey]

theorem dictSet_of_notMem (h : dictGet entries key = none) (value : PyValue) :
    dictSet entries key value = entries ++ [(key, value)] := by
  have hany : ¬ entries.any (·.1 = key) = true := by
    intro hany
    obtain ⟨entry, hentry, hkey⟩ := List.any_eq_true.mp hany
    have hsome := dictGet_isSome_iff.mpr (List.mem_map.mpr ⟨_, hentry, rfl⟩)
    rw [of_decide_eq_true hkey, h] at hsome
    cases hsome
  rw [dictSet, if_neg hany]

theorem dictGet_dictSet (entries : Entries) (key : String) (value : PyValue) (key' : String) :
    dictGet (dictSet entries key value) key' =
      if key' = key then some value else dictGet entries key' := by
  cases h : dictGet entries key with
  | none =>
    rw [dictSet_of_notMem h, dictGet_append, dictGet_cons]
    by_cases hkey : key' = key
    · rw [if_pos hkey, hkey, h, if_pos rfl]
      rfl
    · rw [if_neg hkey, if_neg (Ne.symm hkey)]
      exact Option.or_none
  | some old =>
    rw [dictSet_of_mem (by rw [h]; rfl),
      dictGet_map (fun name found => if name = key then value else found)]
    by_cases hkey : key' = key
    · simp [hkey, h]
    · simp [hkey]

theorem dictSet_self (hnodup : (entries.map Prod.fst).Nodup) (h : dictGet entries key = some value) :
    dictSet entries key value = entries := by
  rw [dictSet_of_mem (by rw [h]; rfl)]
  refine (List.map_congr_left fun entry hentry => ?_).trans (List.map_id _)
  by_cases hkey : entry.1 = key
  · have hvalue := dictGet_of_mem_entries hnodup hentry
    rw [hkey, h] at hvalue
    rw [if_pos hkey, Option.some.inj hvalue]
    rfl
  · rw [if_neg hkey]
    rfl

theorem keys_dictSet_of_mem (h : (dictGet entries key).isSome = true) (value : PyValue) :
    (dictSet entries key value).map Prod.fst = entries.map Prod.fst := by
  rw [dictSet_of_mem h, List.map_map]
  rfl

end

/-! ### Objects that agree on some of their keys -/

def AgreeOn (P : String → Prop) (entries entries' : Entries) : Prop :=
  ∀ key, P key → dictGet entries key = dictGet entries' key

section

variable {P : String → Prop} {entries entries' : Entries}

section

variable (h : AgreeOn P entries entries')
include h

theorem AgreeOn.getValue_eq {key : String} (hkey : P key) :
    getValue entries key = getValue entries' key := by
  rw [getValue, getValue, h key hkey]

theorem AgreeOn.dictSet (key : String) (value : PyValue) :
    AgreeOn P (dictSet entries key value) (dictSet entries' key value) := by
  intro key' hkey'
  rw [dictGet_dictSet, dictGet_dictSet, h key' hkey']

theorem AgreeOn.filter (p : String → Bool) :
    AgreeOn (fun key => P key ∨ p key = false) (entries.filter fun entry => p entry.1)
      (entries'.filter fun entry => p entry.1) := by
  intro key hkey
  rw [dictGet_filter, dictGet_filter]
  cases hp : p key with
  | false => rfl
  | true =>
    rw [if_pos rfl, if_pos rfl]
    refine h key (hkey.resolve_right fun hfalse => ?_)
    rw [hp] at hfalse
    cases hfalse

theorem AgreeOn.mono {Q : String → Prop}
    (himp : ∀ key, Q key → P key) : AgreeOn Q entries entries' :=
  fun key hkey => h key (himp key hkey)

end

end

/-! ### Induction over a document -/

/-- Neither a list nor an object. -/
def IsAtom : PyValue → Bool
  | .list _ => false
  | .dict _ => false
  | _ => true

/-- **Induction over a document**: a property that every value has whose parts have it. -/
theorem induct {P : PyValue → Prop} (atom : ∀ v, IsAtom v = true → P v)
    (list : ∀ items, (∀ v ∈ items, P v) → P (.list items))
    (dict : ∀ entries : Entries, (∀ entry ∈ entries, P entry.2) → P (.dict entries)) (v : PyValue) :
    P v := by
  refine PyValue.rec (motive_1 := P) (motive_2 := fun items => ∀ v ∈ items, P v)
    (motive_3 := fun entries => ∀ entry ∈ entries, P entry.2) (motive_4 := fun entry => P entry.2)
    (atom _ rfl) (fun _ => atom _ rfl) (fun _ => atom _ rfl) (fun _ => atom _ rfl)
    (fun _ => atom _ rfl) (fun items ih => list items ih) (fun entries ih => dict entries ih)
    ?_ ?_ ?_ ?_ ?_ v
  · intro v hv
    cases hv
  · intro head tail hhead htail v hv
    rcases List.mem_cons.mp hv with rfl | hv
    · exact hhead
    · exact htail v hv
  · intro entry hentry
    cases hentry
  · intro head tail hhead htail entry hentry
    rcases List.mem_cons.mp hentry with rfl | hentry
    · exact hhead
    · exact htail entry hentry
  · intro _ _ h
    exact h

/-! ### Documents without repeated keys -/

mutual

/-- The keys of every object are distinct. -/
def Proper : PyValue → Prop
  | .list items => ProperItems items
  | .dict entries => (entries.map Prod.fst).Nodup ∧ ProperEntries entries
  | _ => True

def ProperItems : List PyValue → Prop
  | [] => True
  | v :: items => Proper v ∧ ProperItems items

def ProperEntries : List (String × PyValue) → Prop
  | [] => True
  | (_, v) :: entries => Proper v ∧ ProperEntries entries

end

theorem proper_atom {v : PyValue} (h : IsAtom v = true) : Proper v := by
  cases v <;> trivial

theorem proper_list {items : List PyValue} : Proper (.list items) ↔ ∀ v ∈ items, Proper v := by
  rw [Proper]
  induction items with
  | nil => simp [ProperItems]
  | cons v items ih => rw [ProperItems, ih, List.forall_mem_cons]

theorem proper_dict {entries : Entries} :
    Proper (.dict entries) ↔
      (entries.map Prod.fst).Nodup ∧ ∀ entry ∈ entries, Proper entry.2 := by
  rw [Proper]
  have hforall : ProperEntries entries ↔ ∀ entry ∈ entries, Proper entry.2 := by
    induction entries with
    | nil => simp [ProperEntries]
    | cons entry entries ih => rw [ProperEntries, ih, List.forall_mem_cons]
  rw [hforall]

theorem Proper.of_dictGet {entries : Entries} {key : String} {value : PyValue}
    (h : Proper (.dict entries)) (hget : dictGet entries key = some value) : Proper value :=
  (proper_dict.mp h).2 _ (mem_of_dictGet hget)

theorem proper_filter {entries : Entries} (h : Proper (.dict entries))
    (p : String × PyValue → Bool) : Proper (.dict (entries.filter p)) := by
  rw [proper_dict] at h ⊢
  refine ⟨(List.filter_sublist.map Prod.fst).nodup h.1, ?_⟩
  intro entry hentry
  exact h.2 entry (List.mem_of_mem_filter hentry)

theorem proper_dictSet {entries : Entries} (h : Proper (.dict entries)) (key : String)
    {value : PyValue} (hvalue : Proper value) : Proper (.dict (dictSet entries key value)) := by
  rw [proper_dict] at h ⊢
  cases hget : dictGet entries key with
  | none =>
    rw [dictSet_of_notMem hget]
    have hnew : key ∉ entries.map Prod.fst := by
      intro hmem
      rw [← dictGet_isSome_iff, hget] at hmem
      cases hmem
    constructor
    · rw [List.map_append]
      refine List.nodup_append.mpr ⟨h.1, List.nodup_singleton _, ?_⟩
      rintro name hname name' hname' rfl
      obtain rfl : name = key := List.mem_singleton.mp hname'
      exact hnew hname
    · intro entry hentry
      rcases List.mem_append.mp hentry with hold | hadded
      · exact h.2 entry hold
      · rw [List.mem_singleton.mp hadded]
        exact hvalue
  | some old =>
    have hsome : (dictGet entries key).isSome = true := by
      rw [hget]
      rfl
    refine ⟨?_, ?_⟩
    · rw [keys_dictSet_of_mem hsome]
      exact h.1
    · intro entry hentry
      rw [dictSet_of_mem hsome] at hentry
      obtain ⟨old, hold, rfl⟩ := List.mem_map.mp hentry
      dsimp only
      split_ifs
      · exact hvalue
      · exact h.2 old hold

/-- An object whose keys, at every level, are distinct. -/
structure Document where
  entries : Entries
  proper : Proper (.dict entries)

/-! ### Equality as Python sees it -/

/-- What a number is worth, a bool being 0 or 1. -/
def numeric : PyValue → Option PyFloat
  | .bool b => some (.finite (if b then 1 else 0))
  | .int z => some (.finite z)
  | .float x => some x
  | _ => none

mutual

/-- `v == w`: objects compare without the order of their keys, numbers across their types. -/
def equal : PyValue → PyValue → Bool
  | .list items, .list items' => equalItems items items'
  | .dict entries, .dict entries' => entries.length = entries'.length && equalEntries entries entries'
  | .str s, w => w.eqStr s
  | .none, w => w.isNone
  | v, w => (numeric v).isSome && decide (numeric v = numeric w)

def equalItems : List PyValue → List PyValue → Bool
  | [], [] => true
  | v :: items, w :: items' => equal v w && equalItems items items'
  | _, _ => false

/-- Every entry of the first is in the second. -/
def equalEntries : List (String × PyValue) → Entries → Bool
  | [], _ => true
  | (key, v) :: entries, entries' =>
    (match dictGet entries' key with
      | none => false
      | some w => equal v w) && equalEntries entries entries'

end

theorem equalItems_self {items : List PyValue} (h : ∀ v ∈ items, equal v v = true) :
    equalItems items items = true := by
  induction items with
  | nil => rfl
  | cons v items ih =>
    rw [List.forall_mem_cons] at h
    rw [equalItems, h.1, ih h.2]
    rfl

theorem equalEntries_of_forall {entries entries' : Entries}
    (h : ∀ entry ∈ entries, ∃ w, dictGet entries' entry.1 = some w ∧ equal entry.2 w = true) :
    equalEntries entries entries' = true := by
  induction entries with
  | nil => rfl
  | cons entry entries ih =>
    rw [List.forall_mem_cons] at h
    obtain ⟨⟨w, hget, heq⟩, hrest⟩ := h
    rw [equalEntries, hget, ih hrest]
    simp [heq]

theorem equal_self (v : PyValue) (h : Proper v) : equal v v = true := by
  induction v using induct with
  | atom v hv => cases v <;> first | exact absurd hv Bool.false_ne_true | simp [equal, numeric,
      PyValue.eqStr, PyValue.isNone]
  | list items ih =>
    rw [proper_list] at h
    rw [equal]
    exact equalItems_self fun v hv => ih v hv (h v hv)
  | dict entries ih =>
    rw [proper_dict] at h
    rw [equal, decide_eq_true rfl, Bool.true_and]
    refine equalEntries_of_forall fun entry hentry => ⟨entry.2, ?_, ?_⟩
    · exact dictGet_of_mem h.1 hentry
    · exact ih entry hentry (h.2 entry hentry)

/-! ### Paths -/

/-- One step of a path: a key of an object or an index of a list. -/
inductive PathStep where
  | key (name : String)
  | index (i : ℕ)
deriving DecidableEq

abbrev Path := List PathStep

/-- The value that a path leads to. -/
def at? : PyValue → Path → Option PyValue
  | v, [] => some v
  | .dict entries, .key name :: rest => (dictGet entries name).bind fun v => at? v rest
  | .list items, .index i :: rest => (items[i]?).bind fun v => at? v rest
  | _, _ => none

/-- The document with the value at a path replaced. -/
def setAt : PyValue → Path → PyValue → PyValue
  | _, [], v => v
  | .dict entries, .key name :: rest, v =>
    .dict (entries.map fun entry =>
      (entry.1, if entry.1 = name then setAt entry.2 rest v else entry.2))
  | .list items, .index i :: rest, v => .list (items.modify i fun item => setAt item rest v)
  | w, _, _ => w

@[simp] theorem at?_nil (v : PyValue) : at? v [] = some v := by
  cases v <;> rfl

@[simp] theorem setAt_nil (w v : PyValue) : setAt w [] v = v := by
  cases w <;> rfl

theorem at?_dict (entries : Entries) (name : String) (rest : Path) :
    at? (.dict entries) (.key name :: rest) = (dictGet entries name).bind fun v => at? v rest := rfl

theorem at?_list (items : List PyValue) (i : ℕ) (rest : Path) :
    at? (.list items) (.index i :: rest) = (items[i]?).bind fun v => at? v rest := rfl

theorem at?_cons_eq_some {v x : PyValue} {step : PathStep} {rest : Path}
    (h : at? v (step :: rest) = some x) :
    (∃ entries name child, v = .dict entries ∧ step = .key name ∧
        dictGet entries name = some child ∧ at? child rest = some x) ∨
      ∃ items i child, v = .list items ∧ step = .index i ∧ items[i]? = some child ∧
        at? child rest = some x := by
  cases v with
  | dict entries =>
    cases step with
    | key name =>
      obtain ⟨child, hget, hchild⟩ := Option.bind_eq_some_iff.mp h
      exact .inl ⟨entries, name, child, rfl, rfl, hget, hchild⟩
    | index i => cases h
  | list items =>
    cases step with
    | key name => cases h
    | index i =>
      obtain ⟨child, hget, hchild⟩ := Option.bind_eq_some_iff.mp h
      exact .inr ⟨items, i, child, rfl, rfl, hget, hchild⟩
  | none | bool b | int z | float x | str s => cases step <;> cases h

theorem proper_at? {v x : PyValue} {path : Path} (hv : Proper v) (h : at? v path = some x) :
    Proper x := by
  induction path generalizing v with
  | nil =>
    rw [at?_nil] at h
    rw [← Option.some.inj h]
    exact hv
  | cons step rest ih =>
    rcases at?_cons_eq_some h with ⟨entries, name, child, rfl, rfl, hget, hchild⟩ |
      ⟨items, i, child, rfl, rfl, hget, hchild⟩
    · exact ih (hv.of_dictGet hget) hchild
    · exact ih (proper_list.mp hv child (List.mem_of_getElem? hget)) hchild

theorem at?_setAt_self {w x : PyValue} {path : Path} (h : at? w path = some x) (v : PyValue) :
    at? (setAt w path v) path = some v := by
  induction path generalizing w with
  | nil => rw [setAt_nil, at?_nil]
  | cons step rest ih =>
    rcases at?_cons_eq_some h with ⟨entries, name, child, rfl, rfl, hget, hchild⟩ |
      ⟨items, i, child, rfl, rfl, hget, hchild⟩
    · rw [setAt, at?_dict,
        dictGet_map (fun key old => if key = name then setAt old rest v else old), hget]
      simpa using ih hchild
    · rw [setAt, at?_list, List.getElem?_modify, hget]
      simpa using ih hchild

/-- Neither path leads past the other's end. -/
def Apart : Path → Path → Prop
  | step :: rest, step' :: rest' => step ≠ step' ∨ Apart rest rest'
  | _, _ => False

/-- **Setting one path leaves every path apart from it as it was.** -/
theorem at?_setAt_of_apart {path path' : Path} (h : Apart path path') (w v : PyValue) :
    at? (setAt w path v) path' = at? w path' := by
  induction path generalizing path' w with
  | nil => cases path' <;> cases h
  | cons step rest ih =>
    cases path' with
    | nil => cases h
    | cons step' rest' =>
      rw [Apart] at h
      cases w with
      | dict entries =>
        cases step with
        | key name =>
          cases step' with
          | key name' =>
            rw [setAt, at?_dict, at?_dict,
              dictGet_map (fun key old => if key = name then setAt old rest v else old)]
            cases hget : dictGet entries name' with
            | none => rfl
            | some child =>
              by_cases hname : name' = name
              · have hrest : Apart rest rest' := by
                  refine h.resolve_left fun hne => hne ?_
                  rw [hname]
                simpa [hname] using ih hrest child
              · simp [hname]
          | index i => rfl
        | index i => rfl
      | list items =>
        cases step with
        | key name => rfl
        | index i =>
          cases step' with
          | key name' => rfl
          | index i' =>
            rw [setAt, at?_list, at?_list, List.getElem?_modify]
            cases hget : items[i']? with
            | none => rfl
            | some child =>
              by_cases hi : i = i'
              · have hrest : Apart rest rest' := by
                  refine h.resolve_left fun hne => hne ?_
                  rw [hi]
                simpa [hi] using ih hrest child
              · simp [hi]
      | none | bool b | int z | float x | str s => cases step <;> rfl

theorem proper_setAt {w v : PyValue} (hw : Proper w) (hv : Proper v) (path : Path) :
    Proper (setAt w path v) := by
  induction path generalizing w with
  | nil =>
    rw [setAt_nil]
    exact hv
  | cons step rest ih =>
    cases w with
    | dict entries =>
      cases step with
      | key name =>
        rw [proper_dict] at hw
        rw [setAt, proper_dict, List.map_map]
        refine ⟨hw.1, ?_⟩
        intro entry hentry
        obtain ⟨old, hold, rfl⟩ := List.mem_map.mp hentry
        dsimp only
        split_ifs
        · exact ih (hw.2 old hold)
        · exact hw.2 old hold
      | index i => exact hw
    | list items =>
      cases step with
      | key name => exact hw
      | index i =>
        rw [proper_list] at hw
        rw [setAt, proper_list]
        intro x hx
        obtain ⟨j, hj⟩ := List.mem_iff_getElem?.mp hx
        rw [List.getElem?_modify] at hj
        obtain ⟨old, hold, rfl⟩ := Option.map_eq_some_iff.mp hj
        split_ifs
        · exact ih (hw old (List.mem_of_getElem? hold))
        · exact hw old (List.mem_of_getElem? hold)
    | none | bool b | int z | float x | str s => cases step <;> exact hw

/-! ### Merging defaults -/

mutual

/-- A value over its default: an object takes what it lacks from a default object, any other
value stays. -/
def mergeUnder : PyValue → PyValue → PyValue
  | .dict defaults, .dict values =>
    .dict (mergeEntries defaults values ++
      values.filter fun entry => (dictGet defaults entry.1).isNone)
  | _, value => value

/-- The keys of the defaults, each with the value over its default. -/
def mergeEntries : List (String × PyValue) → Entries → Entries
  | [], _ => []
  | (key, default) :: defaults, values =>
    (key, match dictGet values key with
      | none => default
      | some value => mergeUnder default value) :: mergeEntries defaults values

end

/-- The entries of an object over a default object, in the order in which Python leaves them. -/
def mergeDict (defaults values : Entries) : Entries :=
  mergeEntries defaults values ++ values.filter fun entry => (dictGet defaults entry.1).isNone

theorem mergeUnder_dict (defaults values : Entries) :
    mergeUnder (.dict defaults) (.dict values) = .dict (mergeDict defaults values) := by
  rw [mergeUnder, mergeDict]

theorem mergeUnder_of_atom {default : PyValue} (h : IsAtom default = true) (value : PyValue) :
    mergeUnder default value = value := by
  cases default <;> first | rfl | exact absurd h Bool.false_ne_true

theorem mergeUnder_of_not_dict {value : PyValue} (h : ∀ entries, value ≠ .dict entries)
    (default : PyValue) : mergeUnder default value = value := by
  cases default with
  | dict defaults =>
    cases value with
    | dict entries => exact absurd rfl (h entries)
    | _ => rfl
  | _ => rfl

def overDefault (values : Entries) (key : String) (default : PyValue) : PyValue :=
  (dictGet values key).elim default (mergeUnder default)

theorem mergeEntries_eq_map (defaults values : Entries) :
    mergeEntries defaults values =
      defaults.map fun entry => (entry.1, overDefault values entry.1 entry.2) := by
  induction defaults with
  | nil => rfl
  | cons entry defaults ih =>
    rw [mergeEntries, ih, List.map_cons, overDefault]
    cases dictGet values entry.1 <;> rfl

theorem dictGet_mergeDict (defaults values : Entries) (key : String) :
    dictGet (mergeDict defaults values) key =
      (dictGet defaults key).elim (dictGet values key)
        fun default => some (overDefault values key default) := by
  rw [mergeDict, mergeEntries_eq_map, dictGet_append, dictGet_map (overDefault values),
    dictGet_filter fun name => (dictGet defaults name).isNone]
  cases dictGet defaults key with
  | none => simp
  | some default => rfl

theorem dictGet_mergeDict_of_none {defaults : Entries} {key : String}
    (h : dictGet defaults key = none) (values : Entries) :
    dictGet (mergeDict defaults values) key = dictGet values key := by
  rw [dictGet_mergeDict, h]
  rfl

theorem dictGet_mergeDict_of_some {defaults : Entries} {key : String} {default : PyValue}
    (h : dictGet defaults key = some default) (values : Entries) :
    dictGet (mergeDict defaults values) key = some (overDefault values key default) := by
  rw [dictGet_mergeDict, h]
  rfl

theorem mergeDict_nil (defaults : Entries) : mergeDict defaults [] = defaults := by
  rw [mergeDict, mergeEntries_eq_map, List.filter_nil, List.append_nil]
  exact (List.map_congr_left fun entry _ => rfl).trans (List.map_id _)

theorem overDefault_dict (values : Entries) (key : String) (defaults : Entries) :
    overDefault values key (.dict defaults) =
      mergeUnder (.dict defaults) ((dictGet values key).getD (.dict [])) := by
  rw [overDefault]
  cases dictGet values key with
  | none =>
    rw [Option.getD_none, mergeUnder_dict, mergeDict_nil]
    rfl
  | some value => rfl

/-- **A merge keeps what the document has**, at every path; an object may gain keys. -/
theorem at?_mergeUnder {value x : PyValue} {path : Path} (h : at? value path = some x)
    (default : PyValue) :
    ∃ x', at? (mergeUnder default value) path = some x' ∧
      (x' = x ∨ ∃ entries entries', x = .dict entries ∧ x' = .dict entries') := by
  induction path generalizing value default with
  | nil =>
    rw [at?_nil] at h
    obtain rfl : value = x := Option.some.inj h
    refine ⟨_, at?_nil _, ?_⟩
    cases default with
    | dict defaults =>
      cases value with
      | dict values => exact .inr ⟨_, _, rfl, mergeUnder_dict defaults values⟩
      | _ => exact .inl rfl
    | _ => exact .inl rfl
  | cons step rest ih =>
    have hsame (heq : mergeUnder default value = value) :
        ∃ x', at? (mergeUnder default value) (step :: rest) = some x' ∧
          (x' = x ∨ ∃ entries entries', x = .dict entries ∧ x' = .dict entries') := by
      rw [heq]
      exact ⟨x, h, .inl rfl⟩
    rcases at?_cons_eq_some h with ⟨values, name, child, rfl, rfl, hget, hchild⟩ |
      ⟨items, i, child, rfl, rfl, hget, hchild⟩
    · cases default with
      | dict defaults =>
        rw [mergeUnder_dict, at?_dict]
        cases hdefault : dictGet defaults name with
        | none =>
          rw [dictGet_mergeDict_of_none hdefault, hget]
          exact ⟨x, hchild, .inl rfl⟩
        | some under =>
          rw [dictGet_mergeDict_of_some hdefault, overDefault, hget]
          exact ih hchild under
      | _ => exact hsame rfl
    · cases default with
      | dict defaults | _ => exact hsame rfl

theorem keys_mergeDict (defaults values : Entries) :
    (mergeDict defaults values).map Prod.fst =
      defaults.map Prod.fst ++
        (values.map Prod.fst).filter fun name => (dictGet defaults name).isNone := by
  rw [mergeDict, mergeEntries_eq_map, List.map_append, List.map_map, List.filter_map]
  rfl

theorem proper_mergeUnder (default : PyValue) {value : PyValue} (hdefault : Proper default)
    (hvalue : Proper value) : Proper (mergeUnder default value) := by
  induction default using induct generalizing value with
  | atom default h =>
    rw [mergeUnder_of_atom h]
    exact hvalue
  | list items => exact hvalue
  | dict defaults ih =>
    cases value with
    | dict values =>
      rw [mergeUnder_dict, proper_dict, keys_mergeDict]
      have hd := proper_dict.mp hdefault
      have hv := proper_dict.mp hvalue
      constructor
      · refine List.nodup_append.mpr ⟨hd.1, hv.1.filter _, ?_⟩
        rintro name hname name' hname' rfl
        have hnone := (List.mem_filter.mp hname').2
        have hsome := dictGet_isSome_iff.mpr hname
        rw [Option.isNone_iff_eq_none] at hnone
        rw [hnone] at hsome
        cases hsome
      · intro entry hentry
        rw [mergeDict, mergeEntries_eq_map] at hentry
        rcases List.mem_append.mp hentry with hin | hout
        · obtain ⟨old, hold, rfl⟩ := List.mem_map.mp hin
          show Proper (overDefault values old.1 old.2)
          rw [overDefault]
          cases hget : dictGet values old.1 with
          | none => exact hd.2 old hold
          | some v => exact ih old hold (hd.2 old hold) (hvalue.of_dictGet hget)
        · exact hv.2 entry (List.mem_of_mem_filter hout)
    | _ => exact hvalue

/-! ### Merging again -/

/-- A document that has all that the defaults would add. -/
def Covered (defaults values : Entries) : Prop := mergeDict defaults values = values

theorem filter_mergeDict (defaults values : Entries) :
    ((mergeDict defaults values).filter fun entry => (dictGet defaults entry.1).isNone) =
      values.filter fun entry => (dictGet defaults entry.1).isNone := by
  rw [mergeDict, List.filter_append, List.filter_filter, mergeEntries_eq_map]
  have hnone : ((defaults.map fun entry => (entry.1, overDefault values entry.1 entry.2)).filter
      fun entry => (dictGet defaults entry.1).isNone) = [] := by
    refine List.filter_eq_nil_iff.mpr fun entry hentry => ?_
    obtain ⟨old, hold, rfl⟩ := List.mem_map.mp hentry
    have hsome := dictGet_isSome_iff.mpr (List.mem_map.mpr ⟨_, hold, rfl⟩)
    simpa [Option.isNone_iff_eq_none, Option.isSome_iff_ne_none] using hsome
  rw [hnone, List.nil_append]
  simp

theorem covered_of_forall {defaults values : Entries}
    (hkeys : values = (defaults.map fun entry =>
      (entry.1, overDefault values entry.1 entry.2)) ++
        values.filter fun entry => (dictGet defaults entry.1).isNone) : Covered defaults values := by
  rw [Covered, mergeDict, mergeEntries_eq_map]
  exact hkeys.symm

theorem mergeUnder_self (default : PyValue) (h : Proper default) :
    mergeUnder default default = default := by
  induction default using induct with
  | atom default hatom => exact mergeUnder_of_atom hatom _
  | list items => rfl
  | dict defaults ih =>
    have hd := proper_dict.mp h
    rw [mergeUnder_dict, mergeDict, mergeEntries_eq_map]
    have hmap : (defaults.map fun entry =>
        (entry.1, overDefault defaults entry.1 entry.2)) = defaults := by
      refine (List.map_congr_left fun entry hentry => ?_).trans (List.map_id _)
      rw [overDefault, dictGet_of_mem_entries hd.1 hentry]
      exact congrArg (Prod.mk entry.1) (ih entry hentry (hd.2 entry hentry))
    have hnone : (defaults.filter fun entry => (dictGet defaults entry.1).isNone) = [] := by
      refine List.filter_eq_nil_iff.mpr fun entry hentry => ?_
      rw [dictGet_of_mem_entries hd.1 hentry]
      exact Bool.false_ne_true
    rw [hmap, hnone, List.append_nil]

/-- **Merging the same defaults again changes nothing.** -/
theorem mergeUnder_idem (default : PyValue) (h : Proper default) (value : PyValue) :
    mergeUnder default (mergeUnder default value) = mergeUnder default value := by
  induction default using induct generalizing value with
  | atom default hatom => rw [mergeUnder_of_atom hatom]
  | list items => rfl
  | dict defaults ih =>
    cases value with
    | dict values =>
      have hd := proper_dict.mp h
      rw [mergeUnder_dict, mergeUnder_dict]
      refine congrArg PyValue.dict (covered_of_forall ?_)
      rw [filter_mergeDict]
      show mergeEntries defaults values ++ _ = _
      rw [mergeEntries_eq_map]
      refine congrArg (· ++ _) (List.map_congr_left fun entry hentry => ?_)
      have hget := dictGet_mergeDict_of_some (dictGet_of_mem_entries hd.1 hentry) values
      refine congrArg (Prod.mk entry.1) ?_
      show _ = overDefault (mergeDict defaults values) entry.1 entry.2
      conv_rhs => rw [overDefault, hget]
      rw [overDefault]
      cases dictGet values entry.1 with
      | none => exact (mergeUnder_self entry.2 (hd.2 entry hentry)).symm
      | some v => exact (ih entry hentry (hd.2 entry hentry) v).symm
    | _ => rfl

theorem covered_mergeDict {defaults : Entries} (h : Proper (.dict defaults)) (values : Entries) :
    Covered defaults (mergeDict defaults values) := by
  have hidem := mergeUnder_idem (.dict defaults) h (.dict values)
  rw [mergeUnder_dict, mergeUnder_dict] at hidem
  exact PyValue.dict.inj hidem

theorem Covered.mergeUnder_eq {defaults values : Entries} (h : Covered defaults values)
    {key : String} {default value : PyValue}
    (hdefault : dictGet defaults key = some default) (hvalue : dictGet values key = some value) :
    mergeUnder default value = value := by
  have hget := dictGet_mergeDict_of_some hdefault values
  rw [h, hvalue, overDefault, hvalue] at hget
  exact (Option.some.inj hget).symm

/-- **A covered document stays covered** where the value under a key is changed to one that its
default would add nothing to. -/
theorem Covered.mapKey {defaults values : Entries} (h : Covered defaults values)
    (hnodup : (defaults.map Prod.fst).Nodup) {key : String} {f : PyValue → PyValue}
    (hf : ∀ default value, dictGet defaults key = some default → dictGet values key = some value →
      mergeUnder default (f value) = f value) :
    Covered defaults
      (values.map fun entry => (entry.1, if entry.1 = key then f entry.2 else entry.2)) := by
  refine covered_of_forall ?_
  conv_lhs => rw [← show mergeDict defaults values = values from h]
  rw [mergeDict, mergeEntries_eq_map, List.map_append, List.map_map, List.filter_map]
  refine congrArg₂ (· ++ ·) (List.map_congr_left fun entry hentry => ?_) rfl
  refine congrArg (Prod.mk entry.1) ?_
  show (if entry.1 = key then f (overDefault values entry.1 entry.2)
    else overDefault values entry.1 entry.2) = overDefault _ entry.1 entry.2
  have hsome : (dictGet values entry.1).isSome = true := by
    rw [dictGet_isSome_iff, ← show mergeDict defaults values = values from h, keys_mergeDict]
    exact List.mem_append_left _ (List.mem_map.mpr ⟨_, hentry, rfl⟩)
  obtain ⟨value, hvalue⟩ := Option.isSome_iff_exists.mp hsome
  have hdefault := dictGet_of_mem_entries hnodup hentry
  conv_rhs => rw [overDefault,
    dictGet_map (fun name old => if name = key then f old else old), hvalue]
  rw [overDefault, hvalue]
  show (if entry.1 = key then f (mergeUnder entry.2 value) else mergeUnder entry.2 value) =
    mergeUnder entry.2 (if entry.1 = key then f value else value)
  rw [h.mergeUnder_eq hdefault hvalue]
  by_cases hkey : entry.1 = key
  · rw [if_pos hkey]
    rw [hkey] at hdefault hvalue
    exact (hf _ _ hdefault hvalue).symm
  · rw [if_neg hkey, h.mergeUnder_eq hdefault hvalue]

/-- **A value stays covered where a part of it becomes what the default has there.** -/
theorem mergeUnder_setAt {default value x : PyValue} {path : Path}
    (h : mergeUnder default value = value) (hdefault : Proper default)
    (hx : at? default path = some x) :
    mergeUnder default (setAt value path x) = setAt value path x := by
  induction path generalizing default value with
  | nil =>
    rw [at?_nil] at hx
    rw [setAt_nil, ← Option.some.inj hx]
    exact mergeUnder_self default hdefault
  | cons step rest ih =>
    rcases at?_cons_eq_some hx with ⟨defaults, name, under, rfl, rfl, hget, hunder⟩ |
      ⟨items, i, child, rfl, rfl, hget, hchild⟩
    · cases value with
      | dict values =>
        have hcovered : Covered defaults values := by
          rw [mergeUnder_dict] at h
          exact PyValue.dict.inj h
        rw [setAt, mergeUnder_dict]
        refine congrArg PyValue.dict
          (hcovered.mapKey (proper_dict.mp hdefault).1 (f := fun old => setAt old rest x) ?_)
        intro default value hdefault' hvalue
        rw [hget] at hdefault'
        obtain rfl := Option.some.inj hdefault'
        exact ih (hcovered.mergeUnder_eq hget hvalue) (hdefault.of_dictGet hget) hunder
      | _ => rfl
    · rfl

end SolarFlowEms.Documents
