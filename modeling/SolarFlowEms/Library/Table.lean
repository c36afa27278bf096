import Mathlib.Data.List.Nodup

/-!
# Tables with a primary key

A table holds one row for each of its keys.  A row is inserted, or replaced where its key is
there already; a view computes each row from its key and what is stored.  Replacing a row and
viewing the table commute, also where the view of that one row changes at the same time.
-/

namespace SolarFlowEms.Tables

variable {κ α β : Type*}

/-! ### Rows -/

section

variable [DecidableEq κ]

/-- The rows with the one under a key replaced, or added at the end. -/
def upsertRow : List (κ × α) → κ → α → List (κ × α)
  | [], k, a => [(k, a)]
  | row :: rows, k, a => if row.1 = k then (k, a) :: rows else row :: upsertRow rows k a

theorem mem_keys_upsertRow {rows : List (κ × α)} {k k' : κ} {a : α}
    (h : k' ∈ (upsertRow rows k a).map Prod.fst) : k' = k ∨ k' ∈ rows.map Prod.fst := by
  induction rows with
  | nil => exact .inl (List.mem_singleton.mp h)
  | cons row rows ih =>
    rw [upsertRow] at h
    split_ifs at h with hrow
    · exact (List.mem_cons.mp h).imp id (List.mem_cons_of_mem _)
    · rcases List.mem_cons.mp h with heq | hrest
      · exact .inr (heq ▸ List.mem_cons_self)
      · exact (ih hrest).imp id (List.mem_cons_of_mem _)

theorem mem_upsertRow {rows : List (κ × α)} {k k' : κ} {a a' : α}
    (h : (k', a') ∈ upsertRow rows k a) : (k' = k ∧ a' = a) ∨ (k', a') ∈ rows := by
  induction rows with
  | nil =>
    rw [upsertRow, List.mem_singleton, Prod.mk.injEq] at h
    exact .inl h
  | cons row rows ih =>
    rw [upsertRow] at h
    split_ifs at h with hrow
    · rcases List.mem_cons.mp h with hnew | hold
      · exact .inl (Prod.mk.injEq .. ▸ hnew)
      · exact .inr (List.mem_cons_of_mem _ hold)
    · rcases List.mem_cons.mp h with hhead | hrest
      · exact .inr (hhead ▸ List.mem_cons_self)
      · exact (ih hrest).imp id (List.mem_cons_of_mem _)

theorem mem_of_lookup {rows : List (κ × α)} {k : κ} {a : α} (h : rows.lookup k = some a) :
    (k, a) ∈ rows := by
  induction rows with
  | nil => cases h
  | cons row rows ih =>
    obtain ⟨k', a'⟩ := row
    rw [List.lookup_cons] at h
    by_cases heq : k = k'
    · subst heq
      rw [beq_self_eq_true] at h
      obtain rfl : a' = a := Option.some.inj h
      exact List.mem_cons_self
    · rw [beq_false_of_ne heq] at h
      exact List.mem_cons_of_mem _ (ih h)

theorem nodup_keys_upsertRow {rows : List (κ × α)} {k : κ} {a : α}
    (h : (rows.map Prod.fst).Nodup) : ((upsertRow rows k a).map Prod.fst).Nodup := by
  induction rows with
  | nil => exact List.nodup_singleton k
  | cons row rows ih =>
    rw [List.map_cons, List.nodup_cons] at h
    rw [upsertRow]
    split_ifs with hrow
    · rw [List.map_cons, List.nodup_cons]
      exact ⟨hrow ▸ h.1, h.2⟩
    · rw [List.map_cons, List.nodup_cons]
      refine ⟨fun hin => ?_, ih h.2⟩
      rcases mem_keys_upsertRow hin with heq | hold
      · exact hrow heq
      · exact h.1 hold

theorem lookup_upsertRow (rows : List (κ × α)) (k : κ) (a : α) (k' : κ) :
    (upsertRow rows k a).lookup k' = if k' = k then some a else rows.lookup k' := by
  induction rows with
  | nil =>
    by_cases h : k' = k
    · simp [upsertRow, h]
    · simp [upsertRow, h, List.lookup_cons, beq_false_of_ne h]
  | cons row rows ih =>
    rw [upsertRow]
    by_cases hrow : row.1 = k
    · rw [if_pos hrow, List.lookup_cons, List.lookup_cons, hrow]
      by_cases h : k' = k
      · simp [h]
      · simp [h, beq_false_of_ne h]
    · rw [if_neg hrow, List.lookup_cons, List.lookup_cons, ih]
      by_cases h : k' = row.1
      · subst h
        simp [hrow]
      · simp [beq_false_of_ne h]

theorem lookup_filter_keys (rows : List (κ × α)) (p : κ → Bool) (k : κ) :
    (rows.filter fun row => p row.1).lookup k = if p k then rows.lookup k else none := by
  induction rows with
  | nil => simp
  | cons row rows ih =>
    by_cases hp : p row.1 = true
    · rw [List.filter_cons, if_pos hp, List.lookup_cons, List.lookup_cons, ih]
      by_cases h : k = row.1
      · subst h
        simp [hp]
      · simp [beq_false_of_ne h]
    · rw [List.filter_cons, if_neg hp, ih, List.lookup_cons]
      by_cases h : k = row.1
      · subst h
        simp [hp]
      · simp [beq_false_of_ne h]

theorem lookup_of_mem {rows : List (κ × α)} {k : κ} {a : α} (hnodup : (rows.map Prod.fst).Nodup)
    (h : (k, a) ∈ rows) : rows.lookup k = some a := by
  induction rows with
  | nil => cases h
  | cons row rows ih =>
    rw [List.map_cons, List.nodup_cons] at hnodup
    rw [List.lookup_cons]
    rcases List.mem_cons.mp h with hhead | hrest
    · subst hhead
      rw [beq_self_eq_true]
    · have hne : k ≠ row.1 := fun heq => hnodup.1 (heq ▸ List.mem_map_of_mem hrest)
      rw [beq_false_of_ne hne]
      exact ih hnodup.2 hrest

theorem upsertRow_self {rows : List (κ × α)} {k : κ} {a : α} (h : rows.lookup k = some a) :
    upsertRow rows k a = rows := by
  induction rows with
  | nil => cases h
  | cons row rows ih =>
    obtain ⟨k', a'⟩ := row
    rw [List.lookup_cons] at h
    rw [upsertRow]
    by_cases hk : k = k'
    · subst hk
      rw [beq_self_eq_true] at h
      rw [if_pos rfl, Option.some.inj h]
    · rw [beq_false_of_ne hk] at h
      rw [if_neg (Ne.symm hk), ih h]

theorem map_upsertRow {rows : List (κ × α)} {k : κ} {a : α} {f g : κ → α → β}
    (hrows : (rows.map Prod.fst).Nodup) (h : ∀ k', k' ≠ k → ∀ a, f k' a = g k' a) :
    (upsertRow rows k a).map (fun row => (row.1, f row.1 row.2)) =
      upsertRow (rows.map fun row => (row.1, g row.1 row.2)) k (f k a) := by
  induction rows with
  | nil => rfl
  | cons row rows ih =>
    rw [List.map_cons, List.nodup_cons] at hrows
    rw [upsertRow, List.map_cons, upsertRow]
    by_cases hrow : row.1 = k
    · rw [if_pos hrow, if_pos hrow, List.map_cons]
      congr 1
      apply List.map_congr_left
      intro other hother
      have hne : other.1 ≠ k := by
        intro heq
        exact hrows.1 (hrow.trans heq.symm ▸ List.mem_map_of_mem hother)
      rw [h other.1 hne]
    · rw [if_neg hrow, if_neg hrow, List.map_cons, ih hrows.2, h row.1 hrow]

theorem upsertRow_of_lookup_eq_none {rows : List (κ × α)} {k : κ} {a : α}
    (h : rows.lookup k = none) : upsertRow rows k a = rows ++ [(k, a)] := by
  induction rows with
  | nil => rfl
  | cons row rows ih =>
    rw [List.lookup_cons] at h
    by_cases heq : k = row.1
    · simp [heq] at h
    · rw [beq_false_of_ne heq] at h
      rw [upsertRow, if_neg (Ne.symm heq), ih h, List.cons_append]

theorem length_upsertRow_of_lookup {rows : List (κ × α)} {k : κ} {a b : α}
    (h : rows.lookup k = some b) : (upsertRow rows k a).length = rows.length := by
  induction rows with
  | nil => cases h
  | cons row rows ih =>
    rw [upsertRow]
    by_cases heq : row.1 = k
    · rw [if_pos heq, List.length_cons, List.length_cons]
    · rw [List.lookup_cons, beq_false_of_ne (Ne.symm heq)] at h
      rw [if_neg heq, List.length_cons, List.length_cons, ih h]

end

/-! ### Tables -/

/-- Rows under keys of their own. -/
@[ext]
structure Table (κ α : Type*) where
  rows : List (κ × α)
  nodup : (rows.map Prod.fst).Nodup

namespace Table

def empty : Table κ α := ⟨[], List.nodup_nil⟩

/-- Each row seen through a function of its key and itself. -/
def view (t : Table κ α) (f : κ → α → β) : Table κ β where
  rows := t.rows.map fun row => (row.1, f row.1 row.2)
  nodup := by
    rw [List.map_map]
    exact t.nodup

/-- **The rows of a view in the order of their keys** are those of the table, viewed. -/
theorem mergeSort_view (t : Table κ α) (f : κ → α → β) (le : κ → κ → Bool) :
    (t.view f).rows.mergeSort (fun row row' => le row.1 row'.1) =
      (t.rows.mergeSort fun row row' => le row.1 row'.1).map fun row => (row.1, f row.1 row.2) := by
  symm
  apply List.map_mergeSort
  intro row _ row' _
  rfl

variable [DecidableEq κ]

def lookup (t : Table κ α) (k : κ) : Option α := t.rows.lookup k

/-- `INSERT … ON CONFLICT DO UPDATE`. -/
def upsert (t : Table κ α) (k : κ) (a : α) : Table κ α :=
  ⟨upsertRow t.rows k a, nodup_keys_upsertRow t.nodup⟩

/-- The rows that meet a condition. -/
def keep (t : Table κ α) (p : κ × α → Bool) : Table κ α where
  rows := t.rows.filter p
  nodup := t.nodup.sublist (List.filter_sublist.map _)

/-- `rows.pop(k, None)`. -/
def erase (t : Table κ α) (k : κ) : Table κ α where
  rows := t.rows.filter fun row => row.1 ≠ k
  nodup := t.nodup.sublist (List.filter_sublist.map _)

variable {t : Table κ α} {k k' : κ} {a : α} {f g : κ → α → β}

theorem mem_rows_iff : (k, a) ∈ t.rows ↔ t.lookup k = some a :=
  ⟨lookup_of_mem t.nodup, mem_of_lookup⟩

theorem lookup_keep (t : Table κ α) (p : κ × α → Bool) (k : κ) :
    (t.keep p).lookup k = (t.lookup k).filter fun a => p (k, a) := by
  ext a
  rw [← mem_rows_iff, Option.filter_eq_some_iff, ← mem_rows_iff]
  exact List.mem_filter

theorem lookup_erase (t : Table κ α) (k k' : κ) :
    (t.erase k).lookup k' = if k' = k then none else t.lookup k' := by
  show (t.rows.filter fun row => decide (row.1 ≠ k)).lookup k' = _
  rw [lookup_filter_keys t.rows (fun key => decide (key ≠ k)) k']
  by_cases h : k' = k
  · simp [h]
  · simp [h, lookup]

@[simp] theorem erase_erase (t : Table κ α) (k : κ) : (t.erase k).erase k = t.erase k := by
  apply Table.ext
  show (t.rows.filter _).filter _ = t.rows.filter _
  rw [List.filter_filter]
  simp only [Bool.and_self]

@[simp] theorem lookup_erase_self (t : Table κ α) (k : κ) : (t.erase k).lookup k = none := by
  rw [lookup_erase, if_pos rfl]

theorem lookup_erase_of_ne (t : Table κ α) (h : k' ≠ k) : (t.erase k).lookup k' = t.lookup k' := by
  rw [lookup_erase, if_neg h]

theorem lookup_upsert (t : Table κ α) (k : κ) (a : α) (k' : κ) :
    (t.upsert k a).lookup k' = if k' = k then some a else t.lookup k' :=
  lookup_upsertRow t.rows k a k'

theorem lookup_view (t : Table κ α) (f : κ → α → β) (k : κ) :
    (t.view f).lookup k = (t.lookup k).map (f k) := by
  show (t.rows.map fun row => (row.1, f row.1 row.2)).lookup k = (t.rows.lookup k).map (f k)
  induction t.rows with
  | nil => rfl
  | cons row rows ih =>
    rw [List.map_cons, List.lookup_cons, List.lookup_cons]
    by_cases h : k = row.1
    · simp [h]
    · simp only [beq_false_of_ne h]
      exact ih

@[simp] theorem lookup_upsert_self (t : Table κ α) (k : κ) (a : α) :
    (t.upsert k a).lookup k = some a := by
  show (upsertRow t.rows k a).lookup k = _
  rw [lookup_upsertRow, if_pos rfl]

theorem lookup_upsert_of_ne (t : Table κ α) (a : α) (h : k' ≠ k) :
    (t.upsert k a).lookup k' = t.lookup k' := by
  show (upsertRow t.rows k a).lookup k' = _
  rw [lookup_upsertRow, if_neg h]
  rfl

theorem upsert_self (h : t.lookup k = some a) : t.upsert k a = t :=
  Table.ext (upsertRow_self h)

/-- **Viewing a table with a row replaced** is replacing the row of the view, where the view
changes at that row only. -/
theorem view_upsert (h : ∀ k', k' ≠ k → ∀ a, f k' a = g k' a) :
    (t.upsert k a).view f = (t.view g).upsert k (f k a) :=
  Table.ext (map_upsertRow t.nodup h)

/-- **A view that changes at one row** is the old view with that row replaced. -/
theorem view_eq_upsert (hrow : t.lookup k = some a) (h : ∀ k', k' ≠ k → ∀ a, f k' a = g k' a) :
    t.view f = (t.view g).upsert k (f k a) := by
  rw [← view_upsert h, upsert_self hrow]

end Table

end SolarFlowEms.Tables
