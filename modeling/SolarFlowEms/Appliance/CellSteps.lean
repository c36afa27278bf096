import SolarFlowEms.Appliance.Cells

/-!
# What a step of the agent can do at one operation

A step of the agent that is no restart takes a cell through single steps: a save writes the record
and empties the memory of it, a record goes, an end is kept, and an end or a recovery is
forgotten.  No single step changes what an ended operation came to, and the memory stays true:
what is kept can still be written, and what was refused has not been written since.
-/

namespace SolarFlowEms.Appliance

open Python Documents Tables Fallible

variable {m : Moment} {id : String}

/-! ### Single steps -/

inductive CellStep : Cell → Cell → Prop
  | saved {c : Cell} {op : Operation} (op' : Operation) (record : c.record = some op)
      (ended : op.terminal = true → Operation.SameEnd op op') : CellStep c ⟨some op', none, none⟩
  | gone (c : Cell) : CellStep c { c with record := none }
  | keeps {c : Cell} {op : Operation} (e : End) (record : c.record = some op)
      (transition : e.state ∈ op.state.transitions) : CellStep c { c with kept := some e }
  | forgetsEnd (c : Cell) : CellStep c { c with kept := none }
  | forgetsRecovery (c : Cell) : CellStep c { c with refused := none }

abbrev CellSteps : Cell → Cell → Prop := Relation.ReflTransGen CellStep

namespace Cell

/-- What memory holds of an operation is true of its record. -/
def Sound (c : Cell) : Prop :=
  ∀ op, c.record = some op →
    (∀ e, c.kept = some e → e.state ∈ op.state.transitions) ∧
      ∀ seen, c.refused = some seen → op.updatedAt = seen ∧ op.settled = false

/-- A record that is there was there, and has kept its end where it had one. -/
def KeepsEnd (c c' : Cell) : Prop :=
  ∀ op', c'.record = some op' →
    ∃ op, c.record = some op ∧ (op.terminal = true → Operation.SameEnd op op')

/-- A record that has been written is not among the refused recoveries. -/
def WritesClear (c c' : Cell) : Prop :=
  c'.record = c.record ∨ c'.record = none ∨ c'.refused = none

theorem sound_of_forgotten {record : Option Operation} : (⟨record, none, none⟩ : Cell).Sound := by
  intro op hop
  constructor
  · intro e he
    cases he
  · intro seen hseen
    cases hseen

theorem KeepsEnd.refl (c : Cell) : KeepsEnd c c :=
  fun op h => ⟨op, h, fun _ => .refl op⟩

theorem KeepsEnd.trans {c c' c'' : Cell} (h : KeepsEnd c c') (h' : KeepsEnd c' c'') :
    KeepsEnd c c'' := by
  intro op'' hop''
  obtain ⟨op', hop', hended'⟩ := h' op'' hop''
  obtain ⟨op, hop, hended⟩ := h op' hop'
  refine ⟨op, hop, fun hterminal => ?_⟩
  have hsame := hended hterminal
  exact hsame.trans (hended' (hsame.terminal ▸ hterminal))

end Cell

namespace CellStep

variable {c c' : Cell}

theorem sound (h : CellStep c c') (hsound : c.Sound) : c'.Sound := by
  cases h with
  | saved op' record ended => exact Cell.sound_of_forgotten
  | gone => exact fun op hop => by cases hop
  | keeps e record transition =>
    intro op hop
    refine ⟨fun e' he' => ?_, (hsound op hop).2⟩
    rw [← Option.some.inj he', ← Option.some.inj (record.symm.trans hop)]
    exact transition
  | forgetsEnd => exact fun op hop => ⟨fun e he => (by cases he), (hsound op hop).2⟩
  | forgetsRecovery => exact fun op hop => ⟨(hsound op hop).1, fun seen hseen => by cases hseen⟩

theorem keepsEnd (h : CellStep c c') : c.KeepsEnd c' := by
  cases h with
  | @saved op op' record ended =>
    intro found hfound
    rw [← Option.some.inj hfound]
    exact ⟨op, record, ended⟩
  | gone => exact fun op hop => by cases hop
  | keeps e record transition | forgetsEnd | forgetsRecovery => exact .refl c

theorem refused_eq_none (h : CellStep c c') (hrefused : c.refused = none) : c'.refused = none := by
  cases h with
  | saved op' record ended => rfl
  | gone | keeps e record transition | forgetsEnd => exact hrefused
  | forgetsRecovery => rfl

theorem record_eq_none (h : CellStep c c') (hrecord : c.record = none) : c'.record = none := by
  cases h with
  | saved op' record ended =>
    rw [hrecord] at record
    cases record
  | gone => rfl
  | keeps e record transition | forgetsEnd | forgetsRecovery => exact hrecord

theorem writesClear (h : CellStep c c') : c.WritesClear c' := by
  cases h with
  | saved op' record ended => exact .inr (.inr rfl)
  | gone => exact .inr (.inl rfl)
  | keeps e record transition | forgetsEnd | forgetsRecovery => exact .inl rfl

end CellStep

namespace CellSteps

variable {c c' : Cell}

theorem sound (h : CellSteps c c') (hsound : c.Sound) : c'.Sound := by
  induction h with
  | refl => exact hsound
  | tail _ hstep ih => exact hstep.sound ih

theorem keepsEnd (h : CellSteps c c') : c.KeepsEnd c' := by
  induction h with
  | refl => exact .refl c
  | tail _ hstep ih => exact ih.trans hstep.keepsEnd

theorem refused_eq_none (h : CellSteps c c') (hrefused : c.refused = none) : c'.refused = none := by
  induction h with
  | refl => exact hrefused
  | tail _ hstep ih => exact hstep.refused_eq_none ih

theorem writesClear (h : CellSteps c c') : c.WritesClear c' := by
  induction h with
  | refl => exact .inl rfl
  | tail _ hstep ih =>
    rcases ih with hsame | hgone | hrefused
    · rcases hstep.writesClear with hsame' | hgone | hrefused
      · exact .inl (hsame'.trans hsame)
      · exact .inr (.inl hgone)
      · exact .inr (.inr hrefused)
    · exact .inr (.inl (hstep.record_eq_none hgone))
    · exact .inr (.inr (hstep.refused_eq_none hrefused))

end CellSteps

/-! ### Closing what was refused -/

namespace Cell

variable {c : Cell}

theorem cellSteps_closeEnd (m : Moment) (id : String) (e : End) (c : Cell) :
    CellSteps c (c.closeEnd m id e) := by
  obtain ⟨record, kept, refused⟩ := c
  cases record with
  | none => exact .single (.forgetsEnd _)
  | some op =>
    rw [closeEnd, Option.map_some]
    cases hfinish : op.finish m.now e with
    | error _ => exact .single (.forgetsEnd _)
    | ok op' =>
      dsimp only
      split_ifs with hroom
      · exact .single (.saved _ rfl ((Operation.WindsDown.of_finish hfinish).stamped m.now).ended)
      · exact .refl

theorem cellSteps_closeKept (m : Moment) (id : String) (c : Cell) :
    CellSteps c (c.closeKept m id) := by
  rw [closeKept]
  cases c.kept with
  | none => exact .refl
  | some e => exact cellSteps_closeEnd m id e c

theorem cellSteps_recoverRefused (m : Moment) (id : String) (c : Cell) :
    CellSteps c (c.recoverRefused m id) := by
  obtain ⟨record, kept, refused⟩ := c
  cases record with
  | none => exact .single (.forgetsRecovery _)
  | some op =>
    cases kept with
    | some e => exact .single (.forgetsRecovery _)
    | none =>
      rw [recoverRefused, recover]
      dsimp only
      by_cases hleft : refused = some op.updatedAt
      · rw [if_neg (by simpa using hleft)]
        cases hrecovered : op.recovered m.now m.bootId with
        | none => exact .single (.forgetsRecovery _)
        | some op' =>
          dsimp only
          split_ifs with hroom
          · exact .single
              (.saved _ rfl ((Operation.WindsDown.of_recovered hrecovered).stamped m.now).ended)
          · rw [hleft]
      · rw [if_pos (by simpa using hleft)]
        exact .single (.forgetsRecovery _)

theorem recoverRefused_of_none {c : Cell} (h : c.refused = none) (m : Moment) (id : String) :
    c.recoverRefused m id = c := by
  obtain ⟨record, kept, refused⟩ := c
  cases h
  cases record with
  | none => rfl
  | some op =>
    cases kept with
    | none | some e => rfl

theorem closed_of_gone {c : Cell} (h : c.record = none) (m : Moment) (id : String) :
    (c.closeKept m id).recoverRefused m id = ⟨none, none, none⟩ := by
  obtain ⟨record, kept, refused⟩ := c
  cases h
  cases kept with
  | none | some e => rfl

theorem closed_of_none {c : Cell} (hkept : c.kept = none) (hrefused : c.refused = none)
    (m : Moment) (id : String) : (c.closeKept m id).recoverRefused m id = c := by
  rw [closeKept, hkept]
  exact recoverRefused_of_none hrefused m id

/-- **A kept end when what was refused is closed**: it is written, or there is no room for it. -/
theorem closed_of_kept {c : Cell} {op : Operation} {e : End} (hop : c.record = some op)
    (hkept : c.kept = some e) (htransition : e.state ∈ op.state.transitions) (m : Moment)
    (id : String) :
    (m.writable id = true ∧ ∃ op', op.finish m.now e = .ok op' ∧
        (c.closeKept m id).recoverRefused m id = saved m op') ∨
      (m.writable id = false ∧ (c.closeKept m id).recoverRefused m id = ⟨some op, some e, none⟩) := by
  obtain ⟨record, kept, refused⟩ := c
  cases hop
  cases hkept
  obtain ⟨op', hop'⟩ : ∃ op', op.finish m.now e = .ok op' :=
    ⟨_, Operation.finish_of_transition htransition m.now⟩
  have hclose : (⟨some op, some e, refused⟩ : Cell).closeKept m id =
      if m.writable id then saved m op' else ⟨some op, some e, refused⟩ := by
    show (⟨some op, some e, refused⟩ : Cell).closeEnd m id e = _
    rw [closeEnd, Option.map_some, hop']
  rw [hclose]
  cases m.writable id with
  | true => exact .inl ⟨rfl, op', hop', recoverRefused_of_none rfl m id⟩
  | false => exact .inr ⟨rfl, rfl⟩

theorem closed_of_refused {c : Cell} {op : Operation} (hop : c.record = some op)
    (hkept : c.kept = none) (hrefused : c.refused = some op.updatedAt)
    (hopen : op.settled = false) {m : Moment} (hroom : m.writable id = true) :
    ∃ op', op.recovered m.now m.bootId = some op' ∧
      (c.closeKept m id).recoverRefused m id = saved m op' := by
  obtain ⟨record, kept, refused⟩ := c
  cases hop
  cases hkept
  cases hrefused
  obtain ⟨op', hop'⟩ := Operation.recovered_of_not_settled hopen m.now m.bootId
  refine ⟨op', hop', ?_⟩
  show (⟨some op, none, some op.updatedAt⟩ : Cell).recoverRefused m id = _
  rw [recoverRefused, recover]
  dsimp only
  rw [if_neg (by simp), hop', hroom]
  rfl

end Cell

/-! ### The calls of the store -/

namespace Store

variable {s : Store}

theorem cellSteps_revise {change : Operation → Attempt Operation}
    (h : ∀ op op', change op = .ok op' → op.terminal = true → Operation.SameEnd op op')
    (m : Moment) (s : Store) (id id' : String) :
    CellSteps (s.cell id') ((s.revise m id change).2.cell id') := by
  rcases cell_revise m s id change id' with heq | ⟨rfl, op, op', hop, hchange, heq⟩
  · rw [heq]
  · rw [heq]
    refine .single (.saved _ hop fun hterminal => ?_)
    have hsame := h op op' hchange hterminal
    exact ⟨hsame.state, hsame.result, hsame.error, hsame.finishedAt⟩

theorem sameEnd_of_start {op op' : Operation}
    (hstate : op.state = .awaitingConfirmation ∨ op.state = .failedRecoverable)
    (hterminal : op.terminal = true) : Operation.SameEnd op op' := by
  rw [Operation.terminal] at hterminal
  rcases hstate with hstate | hstate
  · rw [hstate] at hterminal
    cases hterminal
  · rw [hstate] at hterminal
    cases hterminal

theorem cellSteps_confirm (m : Moment) (s : Store) (id token id' : String) :
    CellSteps (s.cell id') ((s.confirm m id token).2.cell id') :=
  cellSteps_revise (fun _ _ h => sameEnd_of_start (Operation.confirm_eq_ok h).2.1) m s id id'

theorem cellSteps_retry (m : Moment) (s : Store) (id token id' : String) :
    CellSteps (s.cell id') ((s.retry m id token).2.cell id') :=
  cellSteps_revise (fun _ _ h => sameEnd_of_start (Operation.retry_eq_ok h).2.1) m s id id'

theorem cell_keepEnd_of_none {e : End} (hkept : s.unfinished.lookup id = none) :
    (s.keepEnd id e).cell id = { s.cell id with kept := some e } := by
  rw [cell_keepEnd, if_pos rfl]
  show Cell.mk _ (some ((s.unfinished.lookup id).getD e)) _ = _
  rw [hkept]
  rfl

theorem keepEnd_of_some {e kept : End} (hkept : s.unfinished.lookup id = some kept) :
    s.keepEnd id e = s := by
  rw [keepEnd, hkept]

theorem cellSteps_keepEnd {op : Operation} {e : End} (hop : s.records.lookup id = some op)
    (htransition : e.state ∈ op.state.transitions) (id' : String) :
    CellSteps (s.cell id') ((s.keepEnd id e).cell id') := by
  cases hkept : s.unfinished.lookup id with
  | some kept => rw [keepEnd_of_some hkept]
  | none =>
    by_cases heq : id' = id
    · rw [heq, cell_keepEnd_of_none hkept]
      exact .single (.keeps e hop htransition)
    · rw [cell_keepEnd, if_neg heq]

theorem cellSteps_finish (m : Moment) (s : Store) (id : String) (e : End) (id' : String) :
    CellSteps (s.cell id') ((s.finish m id e).2.cell id') := by
  rcases finish_cases m s id e with ⟨_, heq⟩ | ⟨op, op', hop, hfinish, ⟨_, heq⟩ | ⟨_, heq⟩⟩
  · rw [heq]
  · rw [heq, cell_written]
    split_ifs with hid
    · rw [hid]
      exact .single (.saved _ hop ((Operation.WindsDown.of_finish hfinish).stamped m.now).ended)
    · exact .refl
  · rw [heq]
    exact cellSteps_keepEnd hop (Operation.finish_eq_ok hfinish).1 id'

theorem cellSteps_closeUnrecorded (m : Moment) (s : Store) (id : String) :
    CellSteps (s.cell id) ((s.closeUnrecorded m).cell id) := by
  rw [cell_closeUnrecorded]
  exact (Cell.cellSteps_closeKept m id _).trans (Cell.cellSteps_recoverRefused m id _)

theorem cell_erase_self (s : Store) (id : String) :
    Store.cell { s with records := s.records.erase id } id = { s.cell id with record := none } :=
  Cell.ext (Table.lookup_erase_self _ _) rfl rfl

theorem cell_erase_of_ne (s : Store) {id' : String} (h : id' ≠ id) :
    Store.cell { s with records := s.records.erase id } id' = s.cell id' :=
  Cell.ext (Table.lookup_erase_of_ne _ h) rfl rfl

theorem cellSteps_erase (s : Store) (id id' : String) :
    CellSteps (s.cell id') (Store.cell { s with records := s.records.erase id } id') := by
  by_cases heq : id' = id
  · rw [heq, cell_erase_self]
    exact .single (.gone _)
  · rw [cell_erase_of_ne s heq]

theorem cellSteps_prune (m : Moment) (s : Store) (id : String) :
    CellSteps (s.cell id) ((s.prune m).cell id) := by
  have hstep : ∀ s' row, CellSteps (s.cell id) (s'.cell id) → True →
      CellSteps (s.cell id) ((pruneRecord m s' row).cell id) := by
    intro s' row hs' _
    rw [pruneRecord]
    split_ifs with hremoved
    · exact hs'.trans (cellSteps_erase s' row.1 id)
    · exact hs'
  exact Run.run_invariant hstep .refl (Run.everyStep_true _ _ _)

theorem cell_prune_of_live {op : Operation} (m : Moment) (hop : s.records.lookup id = some op)
    (hlive : op.terminal = false) : (s.prune m).cell id = s.cell id := by
  have hrows : ∀ row ∈ (s.sortedRows.mergeSort fun row row' =>
      decide (row'.2.startedAt ≤ row.2.startedAt)).drop maxRetainedOperations,
      row.1 = id → row.2.terminal = false := by
    intro row hrow hid
    have hlookup := mem_sortedRows.mp (List.mem_mergeSort.mp (List.mem_of_mem_drop hrow))
    rw [hid, hop] at hlookup
    rwa [← Option.some.inj hlookup]
  have hstep : ∀ s' row, s'.cell id = s.cell id → (row.1 = id → row.2.terminal = false) →
      (pruneRecord m s' row).cell id = s.cell id := by
    intro s' row hs' hrow
    rw [pruneRecord]
    split_ifs with hremoved
    · have hne : id ≠ row.1 := by
        intro heq
        rw [hrow heq.symm, Bool.false_and] at hremoved
        cases hremoved
      exact (cell_erase_of_ne s' hne).trans hs'
    · exact hs'
  exact Run.run_invariant hstep rfl (Run.everyStep_of_forall (fun row hrow _ => hrows row hrow) s)

/-- **A plan at an operation**: what was refused is closed, the record may be pruned, and where
the plan draws its id it is a new record. -/
theorem cellSteps_create (digest : String → String) (m : Moment) (s : Store)
    (request : PlanRequest) (id : String) :
    CellSteps (s.cell id) ((s.create digest m request).2.cell id) ∨
      (request.id = id ∧ ∃ op, (s.create digest m request).2.cell id = ⟨some op, none, none⟩) := by
  have hclosed := cellSteps_closeUnrecorded m s id
  have hpruned := hclosed.trans (cellSteps_prune m (s.closeUnrecorded m) id)
  rcases create_cases digest m s request with
    ⟨found, _, heq⟩ | ⟨_, heq | ⟨op, planning, _, _, heq⟩⟩
  · rw [heq]
    exact .inl hclosed
  · rw [heq]
    exact .inl hpruned
  · have hcell : (s.create digest m request).2.cell id =
        if id = request.id then ⟨some op, none, none⟩
        else ((s.closeUnrecorded m).prune m).cell id := by
      rw [heq, ← cell_written]
      rfl
    rw [hcell]
    split_ifs with hid
    · exact .inr ⟨hid.symm, op, rfl⟩
    · exact .inl hpruned

end Store

end SolarFlowEms.Appliance
