import SolarFlowEms.Appliance.Calls

/-!
# The store seen at one operation

Seen at one id the store is a cell: the record, the end that was kept for it, and the time of the
record whose recovery was refused.  A call changes the cell of the id it is called with and no
other.  What closes the refused ends and recoveries goes through all operations, and at each it
does what the end and the recovery do to that one cell.
-/

namespace SolarFlowEms.Appliance

open Python Documents Tables Fallible Table

/-- What there is of one operation, on the card and in memory. -/
@[ext]
structure Cell where
  record : Option Operation
  kept : Option End
  refused : Option ℚ

namespace Cell

def saved (m : Moment) (op : Operation) : Cell := ⟨some { op with updatedAt := m.now }, none, none⟩

/-- A kept end written, dropped or kept again. -/
def closeEnd (m : Moment) (id : String) (e : End) (c : Cell) : Cell :=
  match c.record.map (Operation.finish m.now e) with
  | some (.ok op) => if m.writable id then saved m op else c
  | _ => { c with kept := none }

/-- `_close_unrecorded` as far as the ends. -/
def closeKept (m : Moment) (id : String) (c : Cell) : Cell :=
  match c.kept with
  | none => c
  | some e => c.closeEnd m id e

/-- The recovery of a record that a test does not leave out. -/
def recover (m : Moment) (id : String) (leaves : Operation → Bool) (c : Cell) : Cell :=
  match c.record, c.kept with
  | some op, none =>
    if leaves op then { c with refused := none }
    else
      match op.recovered m.now m.bootId with
      | none => { c with refused := none }
      | some op' => if m.writable id then saved m op' else ⟨some op, none, some op.updatedAt⟩
  | _, _ => { c with refused := none }

def recoverRefused (m : Moment) (id : String) (c : Cell) : Cell :=
  c.recover m id fun op => c.refused ≠ some op.updatedAt

end Cell

namespace Store

variable {m : Moment} {s : Store} {id : String} {op : Operation}

def cell (s : Store) (id : String) : Cell :=
  ⟨s.records.lookup id, s.unfinished.lookup id, s.unrecorded.lookup id⟩

def Recovery.cell (r : Recovery) (id : String) : Cell :=
  ⟨r.store.records.lookup id, r.store.unfinished.lookup id, r.unrecorded.lookup id⟩

/-! ### Calls -/

theorem cell_written (s : Store) (id : String) (op : Operation) (id' : String) :
    (s.written id op).cell id' = if id' = id then ⟨some op, none, none⟩ else s.cell id' := by
  show Cell.mk ((s.records.upsert id op).lookup id') ((s.unfinished.erase id).lookup id')
    ((s.unrecorded.erase id).lookup id') = _
  rw [lookup_upsert, lookup_erase, lookup_erase]
  split_ifs with h
  · rfl
  · rfl

theorem cell_written_self (s : Store) (id : String) (op : Operation) :
    (s.written id op).cell id = ⟨some op, none, none⟩ := by rw [cell_written, if_pos rfl]

theorem cell_written_of_ne (s : Store) (op : Operation) {id' : String} (h : id' ≠ id) :
    (s.written id op).cell id' = s.cell id' := by rw [cell_written, if_neg h]

/-- **A call that changes one record** leaves its cell or writes the changed record, and leaves
every other cell. -/
theorem cell_revise (m : Moment) (s : Store) (id : String) (change : Operation → Attempt Operation)
    (id' : String) :
    (s.revise m id change).2.cell id' = s.cell id' ∨
      id' = id ∧ ∃ op op', s.records.lookup id = some op ∧ change op = .ok op' ∧
        (s.revise m id change).2.cell id' = Cell.saved m op' := by
  rcases revise_cases m s id change with ⟨e, heq⟩ | ⟨op, op', hop, hchange, _, heq⟩
  · exact .inl (by rw [heq])
  · rw [heq, cell_written]
    split_ifs with h
    · exact .inr ⟨h, op, op', hop, hchange, rfl⟩
    · exact .inl rfl

theorem cell_keepEnd (s : Store) (id : String) (e : End) (id' : String) :
    (s.keepEnd id e).cell id' =
      if id' = id then { s.cell id with kept := some ((s.cell id).kept.getD e) }
      else s.cell id' := by
  rw [keepEnd]
  cases hkept : s.unfinished.lookup id with
  | some kept =>
    split_ifs with h
    · rw [h]
      exact Cell.ext rfl (by rw [cell, hkept]; rfl) rfl
    · rfl
  | none =>
    show Cell.mk (s.records.lookup id') ((s.unfinished.upsert id e).lookup id')
      (s.unrecorded.lookup id') = _
    rw [lookup_upsert]
    split_ifs with h
    · rw [h]
      exact Cell.ext rfl (by rw [cell, hkept]; rfl) rfl
    · rfl

/-- The end a call of `finish` writes: the kept one where there is one. -/
def endFor (s : Store) (id : String) (e : End) : End := (s.unfinished.lookup id).getD e

/-- **What a call of `finish` does**: its end is refused for good, written, or kept. -/
theorem finish_cases (m : Moment) (s : Store) (id : String) (e : End) :
    ((∀ op, s.records.lookup id = some op → (s.endFor id e).state ∉ op.state.transitions) ∧
        (s.finish m id e).2 = s) ∨
      ∃ op op', s.records.lookup id = some op ∧ op.finish m.now (s.endFor id e) = .ok op' ∧
        ((m.writable id = true ∧
            (s.finish m id e).2 = s.written id { op' with updatedAt := m.now }) ∨
          (m.writable id = false ∧ (s.finish m id e).2 = s.keepEnd id (s.endFor id e))) := by
  rw [finish, ← endFor]
  generalize s.endFor id e = e'
  cases hop : s.records.lookup id with
  | none =>
    refine .inl ⟨fun op h => (by cases h), ?_⟩
    have hrevise : s.revise m id (Operation.finish m.now e') = (.error (unknownOperation id), s) := by
      rw [revise, load, hop]
      rfl
    rw [hrevise]
    rfl
  | some op =>
    by_cases htransition : e'.state ∈ op.state.transitions
    · obtain ⟨op', hop'⟩ : ∃ op', op.finish m.now e' = .ok op' :=
        ⟨_, Operation.finish_of_transition htransition m.now⟩
      refine .inr ⟨op, op', rfl, hop', ?_⟩
      rw [revise_of_ok hop hop', save]
      cases m.writable id with
      | true => exact .inl ⟨rfl, rfl⟩
      | false => exact .inr ⟨rfl, rfl⟩
    · refine .inl ⟨fun found hfound => (Option.some.inj hfound ▸ htransition), ?_⟩
      rw [revise_of_error hop (Operation.finish_of_not_transition htransition m.now)]
      rfl

/-! ### Closing what was refused -/

theorem cell_closeEnd_of_ne (m : Moment) (s : Store) (row : String × End) (id : String)
    (h : id ≠ row.1) : (s.closeEnd m row).cell id = s.cell id := by
  rcases closeEnd_cases m s row with ⟨_, heq⟩ | ⟨op, op', _, _, ⟨_, heq⟩ | ⟨_, heq⟩⟩
  · rw [heq]
    exact Cell.ext rfl (lookup_erase_of_ne _ h) rfl
  · rw [heq, cell_written_of_ne _ _ h]
  · rw [heq]

theorem cell_closeEnd_self (m : Moment) (s : Store) (id : String) (e : End) :
    (s.closeEnd m (id, e)).cell id = (s.cell id).closeEnd m id e := by
  have hclose : (s.cell id).closeEnd m id e =
      match (s.records.lookup id).map (Operation.finish m.now e) with
      | some (.ok op) => if m.writable id then Cell.saved m op else s.cell id
      | _ => { s.cell id with kept := none } := rfl
  rcases closeEnd_cases m s (id, e) with ⟨hrefused, heq⟩ | ⟨op, op', hop, hop', hsaved⟩
  · have hcell : Store.cell { s with unfinished := s.unfinished.erase id } id =
        { s.cell id with kept := none } := Cell.ext rfl (lookup_erase_self _ _) rfl
    rw [heq, hcell, hclose]
    cases hop : s.records.lookup id with
    | none => rfl
    | some op => rw [Option.map_some, Operation.finish_of_not_transition (hrefused op hop)]
  · rw [hop, Option.map_some, hop'] at hclose
    rw [hclose]
    rcases hsaved with ⟨hroom, heq⟩ | ⟨hroom, heq⟩
    · rw [heq, cell_written_self]
      exact (if_pos hroom).symm
    · rw [heq]
      exact (if_neg (by rw [hroom]; exact Bool.false_ne_true)).symm

theorem cell_closeKept (m : Moment) (s : Store) (id : String) :
    (Run.run (closeEnd m) s s.unfinished.rows).cell id = (s.cell id).closeKept m id := by
  have hother : ∀ s row id, id ≠ Prod.fst row → (closeEnd m s row).cell id = s.cell id :=
    fun s row id h => cell_closeEnd_of_ne m s row id h
  cases hkept : s.unfinished.lookup id with
  | none =>
    have hnotMem : id ∉ s.unfinished.rows.map Prod.fst := by
      intro hmem
      obtain ⟨row, hrow, hid⟩ := List.mem_map.mp hmem
      have hlookup := mem_rows_iff.mp (hid ▸ hrow : (id, row.2) ∈ s.unfinished.rows)
      rw [hkept] at hlookup
      cases hlookup
    rw [Run.obs_run_of_notMem (fun id s => Store.cell s id) hother s hnotMem]
    rw [Cell.closeKept, cell, hkept]
  | some e =>
    obtain ⟨s', hs', hrun⟩ := Run.obs_run_of_mem (fun id s => Store.cell s id) hother s
      s.unfinished.nodup (mem_rows_iff.mpr hkept)
    rw [hrun, cell_closeEnd_self, hs', Cell.closeKept, cell, hkept]

/-! ### Recovery -/

theorem keys_sortedRows (s : Store) : (s.sortedRows.map Prod.fst).Nodup :=
  ((List.mergeSort_perm _ _).map _).nodup_iff.mpr s.records.nodup

theorem cell_recoverRecord_of_ne (m : Moment) (only : Option (Table String ℚ)) (r : Recovery)
    (row : String × Operation) (id : String) (h : id ≠ row.1) :
    (recoverRecord m only r row).cell id = r.cell id := by
  rcases recoverRecord_cases m only r row with heq | ⟨op', _, _, _, ⟨_, heq⟩ | ⟨_, heq⟩⟩
  · rw [heq]
  · rw [heq]
    exact Cell.ext (lookup_upsert_of_ne _ _ h) (lookup_erase_of_ne _ h) rfl
  · rw [heq]
    exact Cell.ext rfl rfl (lookup_upsert_of_ne _ _ h)

theorem cell_recoverRecord_self (m : Moment) (only : Option (Table String ℚ)) (r : Recovery)
    (id : String) (op : Operation) (kept : Option End) (hcell : r.cell id = ⟨some op, kept, none⟩) :
    (recoverRecord m only r (id, op)).cell id =
      (r.cell id).recover m id fun op => leftOut only id op.updatedAt := by
  have hrecord : r.store.records.lookup id = some op := congrArg Cell.record hcell
  have hkept : r.store.unfinished.lookup id = kept := congrArg Cell.kept hcell
  have hrefused : r.unrecorded.lookup id = none := congrArg Cell.refused hcell
  rw [hcell, recoverRecord, hkept]
  cases kept with
  | some e =>
    rw [if_pos Option.isSome_some, hcell]
    rfl
  | none =>
    rw [Cell.recover, if_neg (by simp)]
    dsimp only
    by_cases hleft : leftOut only id op.updatedAt = true
    · rw [if_pos hleft, if_pos hleft]
      exact hcell
    · rw [if_neg hleft, if_neg hleft]
      cases op.recovered m.now m.bootId with
      | none => exact hcell
      | some op' =>
        dsimp only
        rw [save]
        cases m.writable id with
        | true =>
          exact Cell.ext (lookup_upsert_self _ _ _) (lookup_erase_self _ _) hrefused
        | false =>
          exact Cell.ext hrecord hkept (lookup_upsert_self _ _ _)

theorem cell_recoverInterrupted (m : Moment) (only : Option (Table String ℚ)) (s : Store)
    (id : String) : (s.recoverInterrupted m only).2.cell id =
      (s.cell id).recover m id fun op => leftOut only id op.updatedAt := by
  have hother : ∀ r row id, id ≠ Prod.fst row → (recoverRecord m only r row).cell id = r.cell id :=
    fun r row id h => cell_recoverRecord_of_ne m only r row id h
  have hresult : (s.recoverInterrupted m only).2.cell id =
      (Run.run (recoverRecord m only) ⟨s, .empty, []⟩ s.sortedRows).cell id := rfl
  have hstart : (⟨s, .empty, []⟩ : Recovery).cell id = { s.cell id with refused := none } := rfl
  rw [hresult]
  cases hop : s.records.lookup id with
  | none =>
    have hnotMem : id ∉ s.sortedRows.map Prod.fst := by
      intro hmem
      obtain ⟨row, hrow, hid⟩ := List.mem_map.mp hmem
      have hlookup := mem_sortedRows.mp hrow
      rw [hid, hop] at hlookup
      cases hlookup
    rw [Run.obs_run_of_notMem (fun id r => Recovery.cell r id) hother _ hnotMem, hstart,
      Cell.recover, cell, hop]
  | some op =>
    obtain ⟨r, hr, hrun⟩ := Run.obs_run_of_mem (fun id r => Recovery.cell r id) hother
      ⟨s, .empty, []⟩ (keys_sortedRows s) (mem_sortedRows.mpr hop : (id, op) ∈ s.sortedRows)
    have hcell : r.cell id = ⟨some op, s.unfinished.lookup id, none⟩ := by
      rw [hr, hstart, cell, hop]
    rw [hrun, cell_recoverRecord_self m only r id op _ hcell, hcell, cell, hop]
    rfl

/-- **Closing what was refused, at one operation**: its kept end, then its refused recovery. -/
theorem cell_closeUnrecorded (m : Moment) (s : Store) (id : String) :
    (s.closeUnrecorded m).cell id = ((s.cell id).closeKept m id).recoverRefused m id := by
  rw [closeUnrecorded, ← cell_closeKept]
  generalize Run.run (closeEnd m) s s.unfinished.rows = s'
  split_ifs with hnone
  · have hrefused : s'.unrecorded.lookup id = none := by
      rw [lookup, hnone]
      rfl
    rw [Cell.recoverRefused, Cell.recover, cell, hrefused]
    cases s'.records.lookup id with
    | none => rfl
    | some op =>
      cases s'.unfinished.lookup id with
      | none => rfl
      | some e => rfl
  · exact cell_recoverInterrupted m _ s' id

end Store

end SolarFlowEms.Appliance
