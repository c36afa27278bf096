import SolarFlowEms.Appliance.OperationStore

/-!
# What the calls of the store do to a record

One lemma for each change of a record says where it may come from and what it leaves.  Every
change but a confirmation and a retry winds an operation down: it makes no record blocking that
was not, brings none back from an end, starts none, and keeps the end of a record that has one.
The calls of the store are put together from these changes, and a restart is.
-/

namespace SolarFlowEms.Appliance

open Python Documents Tables Fallible

/-! ### States -/

namespace OperationState

variable {state target : OperationState}

theorem terminal_of_transition (h : target ∈ state.transitions) : state.terminal = false := by
  cases state with
  | planned | awaitingConfirmation | running | verifying | failedRecoverable | rollingBack => rfl
  | succeeded | rolledBack | failedTerminal | cancelled | manualActionRequired
  | unknown text notOurs => cases h

theorem eq_planned_of_transition (h : awaitingConfirmation ∈ state.transitions) :
    state = planned := by
  cases state with
  | planned => rfl
  | awaitingConfirmation | running | verifying | failedRecoverable
  | rollingBack => simp [transitions] at h
  | succeeded | rolledBack | failedTerminal | cancelled | manualActionRequired
  | unknown text notOurs => cases h

/-- **An operation enters running** from the wait for its confirmation or from a recoverable
failure. -/
theorem running_of_transition (h : running ∈ state.transitions) :
    state = awaitingConfirmation ∨ state = failedRecoverable := by
  cases state with
  | planned => simp [transitions] at h
  | awaitingConfirmation => exact .inl rfl
  | running | verifying => simp [transitions] at h
  | failedRecoverable => exact .inr rfl
  | rollingBack => simp [transitions] at h
  | succeeded | rolledBack | failedTerminal | cancelled | manualActionRequired
  | unknown text notOurs => cases h

theorem not_settled_of_progress {progress : Progress} (h : progress.state ∈ state.transitions) :
    state.settled = false := by
  cases state with
  | planned | awaitingConfirmation => cases progress <;> simp [transitions, Progress.state] at h
  | running | verifying | rollingBack => rfl
  | failedRecoverable => cases progress <;> simp [transitions, Progress.state] at h
  | succeeded | rolledBack | failedTerminal | cancelled | manualActionRequired => cases h
  | unknown text notOurs => rfl

theorem ne_running_of_settled (h : state.settled = true) : state ≠ running := by
  intro heq
  rw [heq] at h
  cases h

end OperationState

/-! ### Winding down -/

namespace Operation

variable {op op' op'' : Operation}

/-- The state of a record, what came of it and when it ended. -/
structure SameEnd (op op' : Operation) : Prop where
  state : op'.state = op.state
  result : op'.result = op.result
  error : op'.error = op.error
  finishedAt : op'.finishedAt = op.finishedAt

/-- A change that takes no hold of the appliance, and leaves an operation that has ended as it
ended. -/
structure WindsDown (op op' : Operation) : Prop where
  blocking : op'.blocking = true → op.blocking = true
  live : op'.terminal = false → op.terminal = false
  running : op'.state = .running → op.state = .running
  ended : op.terminal = true → SameEnd op op'

theorem SameEnd.refl (op : Operation) : SameEnd op op := ⟨rfl, rfl, rfl, rfl⟩

theorem SameEnd.trans (h : SameEnd op op') (h' : SameEnd op' op'') : SameEnd op op'' :=
  ⟨h'.state.trans h.state, h'.result.trans h.result, h'.error.trans h.error,
    h'.finishedAt.trans h.finishedAt⟩

theorem SameEnd.terminal (h : SameEnd op op') : op'.terminal = op.terminal := by
  rw [Operation.terminal, h.state, Operation.terminal]

theorem SameEnd.windsDown (h : SameEnd op op') : WindsDown op op' where
  blocking hblocking := by
    rw [blocking, settled, h.state] at hblocking
    exact hblocking
  live hlive := by rwa [h.terminal] at hlive
  running hrunning := h.state ▸ hrunning
  ended _ := h

theorem WindsDown.refl (op : Operation) : WindsDown op op := (SameEnd.refl op).windsDown

theorem WindsDown.trans (h : WindsDown op op') (h' : WindsDown op' op'') : WindsDown op op'' where
  blocking hblocking := h.blocking (h'.blocking hblocking)
  live hlive := h.live (h'.live hlive)
  running hrunning := h.running (h'.running hrunning)
  ended hended := by
    have hsame := h.ended hended
    exact hsame.trans (h'.ended (hsame.terminal ▸ hended))

theorem WindsDown.stamped (h : WindsDown op op') (now : ℚ) :
    WindsDown op { op' with updatedAt := now } :=
  ⟨h.blocking, h.live, h.running, fun hended =>
    ⟨(h.ended hended).state, (h.ended hended).result, (h.ended hended).error,
      (h.ended hended).finishedAt⟩⟩

theorem WindsDown.of_settled (hlive : op.terminal = false) (hsettled : op'.settled = true) :
    WindsDown op op' where
  blocking hblocking := by
    have hopen : (!op'.settled) = true := hblocking
    rw [hsettled] at hopen
    cases hopen
  live _ := hlive
  running hrunning := absurd hrunning (OperationState.ne_running_of_settled hsettled)
  ended hended := by
    rw [hlive] at hended
    cases hended

/-! ### One change after the other -/

theorem moveTo_eq_ok {target : OperationState} :
    op.moveTo target = .ok op' ↔
      target ∈ op.state.transitions ∧ op' = { op with state := target } := by
  rw [moveTo]
  split_ifs with h
  · exact ⟨fun heq => ⟨h, (Except.ok.inj heq).symm⟩, fun ⟨_, heq⟩ => heq ▸ rfl⟩
  · constructor
    · intro heq
      cases heq
    · intro ⟨hmem, _⟩
      exact absurd hmem h

variable {plan : PyValue} {token booted : String} {now : ℚ} {e : End}

theorem awaitConfirmation_eq_ok (h : op.awaitConfirmation plan = .ok op') :
    op.state = .planned ∧ op' = { op with
      state := .awaitingConfirmation, stage := "awaiting_confirmation",
      result := some [("plan", plan)] } := by
  obtain ⟨moved, hmove, hrest⟩ := bind_eq_ok.mp h
  obtain ⟨htransition, rfl⟩ := moveTo_eq_ok.mp hmove
  exact ⟨OperationState.eq_planned_of_transition htransition, (Except.ok.inj hrest).symm⟩

/-- **What a confirmation takes**: the token, and an operation that waits or has failed
recoverably. -/
theorem confirm_eq_ok (h : op.confirm token = .ok op') :
    op.confirmationToken = token ∧
      (op.state = .awaitingConfirmation ∨ op.state = .failedRecoverable) ∧
      op' = { op with state := .running, stage := "running", hostDownBoot := "" } := by
  obtain ⟨⟨⟩, htoken, hrest⟩ := bind_eq_ok.mp h
  obtain ⟨moved, hmove, hdone⟩ := bind_eq_ok.mp hrest
  obtain ⟨htransition, rfl⟩ := moveTo_eq_ok.mp hmove
  have heq : op.confirmationToken = token := by
    rw [requireToken] at htoken
    split_ifs at htoken with heq
    exact heq
  exact ⟨heq, OperationState.running_of_transition htransition, (Except.ok.inj hdone).symm⟩

/-- **What a retry takes**: besides, that no other operation is active. -/
theorem retry_eq_ok {id : String} {active : Option (String × Operation)}
    (h : op.retry id token active = .ok op') :
    (∀ other, active = some other → other.1 = id) ∧
      (op.state = .awaitingConfirmation ∨ op.state = .failedRecoverable) ∧
      op' = { op with state := .running, stage := "running", error := none, hostDownBoot := "" } := by
  obtain ⟨⟨⟩, _, hrest⟩ := bind_eq_ok.mp h
  obtain ⟨⟨⟩, hfree, hmoving⟩ := bind_eq_ok.mp hrest
  obtain ⟨moved, hmove, hdone⟩ := bind_eq_ok.mp hmoving
  obtain ⟨htransition, rfl⟩ := moveTo_eq_ok.mp hmove
  refine ⟨?_, OperationState.running_of_transition htransition, (Except.ok.inj hdone).symm⟩
  intro other hother
  rw [hother] at hfree
  by_contra hne
  have hfree : (if other.1 = id then .ok () else .error (operationConflict other.1 other.2.type) :
      Attempt Unit) = .ok () := hfree
  rw [if_neg hne] at hfree
  cases hfree

/-- **What an end leaves**: it is asked for where a transition leads to it. -/
theorem finish_eq_ok (h : op.finish now e = .ok op') :
    e.state ∈ op.state.transitions ∧ op' = { op with
      state := e.state, stage := endStage e, result := e.result, error := e.error,
      finishedAt := some now }.logged (progressEntry (endStage e) now) := by
  obtain ⟨moved, hmove, hrest⟩ := bind_eq_ok.mp h
  obtain ⟨htransition, rfl⟩ := moveTo_eq_ok.mp hmove
  exact ⟨htransition, (Except.ok.inj hrest).symm⟩

theorem finish_of_transition (h : e.state ∈ op.state.transitions) (now : ℚ) :
    op.finish now e = .ok ({ op with
      state := e.state, stage := endStage e, result := e.result, error := e.error,
      finishedAt := some now }.logged (progressEntry (endStage e) now)) := by
  rw [finish, moveTo, if_pos h]
  rfl

theorem finish_of_not_transition (h : e.state ∉ op.state.transitions) (now : ℚ) :
    op.finish now e = .error (invalidTransition op.state e.state) := by
  rw [finish, moveTo, if_neg h]
  rfl

/-! ### Every change but a start winds down -/

theorem WindsDown.of_awaitConfirmation
    (h : op.awaitConfirmation plan = .ok op') : WindsDown op op' := by
  obtain ⟨hplanned, rfl⟩ := awaitConfirmation_eq_ok h
  have hblocking : op.blocking = true := by
    show (!op.state.settled) = true
    rw [hplanned]
    rfl
  have hlive : op.terminal = false := by rw [terminal, hplanned]; rfl
  refine ⟨fun _ => hblocking, fun _ => hlive, ?_, ?_⟩
  · intro hrunning
    cases hrunning
  · intro hended
    rw [hlive] at hended
    cases hended

theorem WindsDown.of_finish (h : op.finish now e = .ok op') :
    WindsDown op op' := by
  obtain ⟨htransition, rfl⟩ := finish_eq_ok h
  exact .of_settled (OperationState.terminal_of_transition htransition) e.settled

theorem WindsDown.of_report {state : Option Progress} (h : op.report state = .ok op') :
    WindsDown op op' := by
  cases state with
  | none => exact Except.ok.inj h ▸ .refl op
  | some progress =>
    have h : (if progress.state = op.state then .ok op else op.moveTo progress.state) = .ok op' := h
    split_ifs at h with heq
    · exact Except.ok.inj h ▸ .refl op
    · obtain ⟨htransition, rfl⟩ := moveTo_eq_ok.mp h
      have hsettled := OperationState.not_settled_of_progress htransition
      have hlive := OperationState.terminal_of_transition htransition
      refine ⟨fun _ => ?_, fun _ => hlive, ?_, ?_⟩
      · show (!op.state.settled) = true
        rw [hsettled]
        rfl
      · intro hrunning
        cases progress <;> cases hrunning
      · intro hended
        rw [terminal, hlive] at hended
        cases hended

theorem WindsDown.of_advance {bootId stage : String} {state : Option Progress}
    {detail : Option String} {hostDown : Bool}
    (h : op.advance now bootId stage state detail hostDown = .ok op') : WindsDown op op' := by
  obtain ⟨moved, hmoved, hrest⟩ := bind_eq_ok.mp h
  refine (WindsDown.of_report hmoved).trans (SameEnd.windsDown ?_)
  rw [← Except.ok.inj hrest]
  cases hostDown <;> exact ⟨rfl, rfl, rfl, rfl⟩

theorem WindsDown.of_updateTarget {values : Entries} (h : op.updateTarget values = .ok op') :
    WindsDown op op' := by
  rw [← Except.ok.inj h]
  exact SameEnd.windsDown ⟨rfl, rfl, rfl, rfl⟩

theorem WindsDown.of_note {detail : String} (h : op.note detail = .ok op') : WindsDown op op' := by
  rw [← Except.ok.inj h]
  cases op.progress.getLast? with
  | none => exact .refl op
  | some entry => exact SameEnd.windsDown ⟨rfl, rfl, rfl, rfl⟩

theorem WindsDown.of_acknowledge (h : op.acknowledge = .ok op') : WindsDown op op' := by
  rw [acknowledge] at h
  split_ifs at h with hsettled
  rw [← Except.ok.inj h]
  exact SameEnd.windsDown ⟨rfl, rfl, rfl, rfl⟩

theorem recovered_eq_some (h : op.recovered now booted = some op') :
    op.settled = false ∧ op'.settled = true := by
  rw [recovered] at h
  rw [settled]
  cases hstate : op.state with
  | running =>
    rw [hstate] at h
    refine ⟨rfl, ?_⟩
    dsimp only at h
    split_ifs at h with hdown huntouched
    · rw [← Option.some.inj h]; rfl
    · rw [← Option.some.inj h]; rfl
    · rw [← Option.some.inj h]; rfl
  | verifying | rollingBack | planned | awaitingConfirmation
  | unknown text notOurs => rw [hstate] at h; exact ⟨rfl, Option.some.inj h ▸ rfl⟩
  | succeeded | failedRecoverable | rolledBack | failedTerminal | cancelled
  | manualActionRequired => rw [hstate] at h; cases h

theorem recovered_of_not_settled (h : op.settled = false) (now : ℚ) (booted : String) :
    ∃ op', op.recovered now booted = some op' := by
  rw [settled] at h
  rw [recovered]
  cases hstate : op.state with
  | running =>
    dsimp only
    split_ifs
    · exact ⟨_, rfl⟩
    · exact ⟨_, rfl⟩
    · exact ⟨_, rfl⟩
  | verifying | rollingBack | planned | awaitingConfirmation
  | unknown text notOurs => exact ⟨_, rfl⟩
  | succeeded | failedRecoverable | rolledBack | failedTerminal | cancelled
  | manualActionRequired => rw [hstate] at h; cases h

theorem terminal_of_not_settled (h : op.settled = false) : op.terminal = false := by
  rw [settled, OperationState.settled, Bool.or_eq_false_iff] at h
  exact h.1

theorem WindsDown.of_recovered (h : op.recovered now booted = some op') : WindsDown op op' := by
  obtain ⟨hopen, hsettled⟩ := recovered_eq_some h
  exact .of_settled (terminal_of_not_settled hopen) hsettled

end Operation

/-! ### The calls of the store -/

namespace Store

variable {m : Moment} {s s' s'' : Store} {id : String} {op op' : Operation}

theorem load_eq_ok : s.load id = .ok op ↔ s.records.lookup id = some op := by
  rw [load]
  cases s.records.lookup id with
  | none =>
    constructor
    · intro h
      cases h
    · intro h
      cases h
  | some found =>
    constructor
    · intro h
      rw [Except.ok.inj h]
    · intro h
      rw [Option.some.inj h]

variable {change : Operation → Attempt Operation}

theorem revise_of_error {e : StoreError}
    (hlookup : s.records.lookup id = some op) (h : change op = .error e) :
    s.revise m id change = (.error e, s) := by
  have hchange : (s.load id >>= change) = .error e := by
    rw [load_eq_ok.mpr hlookup]
    exact h
  rw [revise, hchange]

theorem revise_of_ok (hlookup : s.records.lookup id = some op) (h : change op = .ok op') :
    s.revise m id change = s.save m id op' := by
  have hchange : (s.load id >>= change) = .ok op' := by
    rw [load_eq_ok.mpr hlookup]
    exact h
  rw [revise, hchange]

/-- **A call that changes one record** leaves the store as it was, or writes the record with the
change. -/
theorem revise_cases (m : Moment) (s : Store) (id : String)
    (change : Operation → Attempt Operation) :
    (∃ e, s.revise m id change = (.error e, s)) ∨
      ∃ op op', s.records.lookup id = some op ∧ change op = .ok op' ∧ m.writable id = true ∧
        s.revise m id change =
          (.ok { op' with updatedAt := m.now }, s.written id { op' with updatedAt := m.now }) := by
  rw [revise]
  cases hchange : s.load id >>= change with
  | error e => exact .inl ⟨e, rfl⟩
  | ok op' =>
    obtain ⟨op, hload, hop⟩ := bind_eq_ok.mp hchange
    show (∃ e, s.save m id op' = (.error e, s)) ∨ _
    by_cases hwritable : m.writable id = true
    · refine .inr ⟨op, op', load_eq_ok.mp hload, hop, hwritable, ?_⟩
      show s.save m id op' = _
      rw [save, if_pos hwritable]
    · refine .inl ⟨.os, ?_⟩
      rw [save, if_neg hwritable]

/-- The records that are there were there before, and were at most wound down; no plan is begun. -/
structure WindsDown (s s' : Store) : Prop where
  records : ∀ id op', s'.records.lookup id = some op' →
    ∃ op, s.records.lookup id = some op ∧ Operation.WindsDown op op'
  planning : ∀ id ∈ s'.planning, id ∈ s.planning

theorem WindsDown.refl (s : Store) : WindsDown s s :=
  ⟨fun _ op h => ⟨op, h, .refl op⟩, fun _ h => h⟩

theorem WindsDown.trans (h : WindsDown s s') (h' : WindsDown s' s'') : WindsDown s s'' := by
  refine ⟨fun id op'' hop'' => ?_, fun id hid => h.planning id (h'.planning id hid)⟩
  obtain ⟨op', hop', hwinds'⟩ := h'.records id op'' hop''
  obtain ⟨op, hop, hwinds⟩ := h.records id op' hop'
  exact ⟨op, hop, hwinds.trans hwinds'⟩

theorem WindsDown.of_records_eq (hrecords : s'.records = s.records)
    (hplanning : s'.planning = s.planning) : WindsDown s s' := by
  refine ⟨fun id op h => ⟨op, ?_, .refl op⟩, fun id h => hplanning ▸ h⟩
  rw [← hrecords]
  exact h

theorem WindsDown.written (h : WindsDown s s') (hlookup : s.records.lookup id = some op)
    (hop : Operation.WindsDown op op') : WindsDown s (s'.written id op') := by
  refine ⟨fun id' found hfound => ?_, h.planning⟩
  have hfound : (s'.records.upsert id op').lookup id' = some found := hfound
  rw [Table.lookup_upsert] at hfound
  split_ifs at hfound with heq
  · rw [heq, ← Option.some.inj hfound]
    exact ⟨op, hlookup, hop⟩
  · exact h.records id' found hfound

theorem WindsDown.erased (h : WindsDown s s') (id : String) :
    WindsDown s { s' with records := s'.records.erase id } := by
  refine ⟨fun id' found hfound => ?_, h.planning⟩
  have hfound : (s'.records.erase id).lookup id' = some found := hfound
  rw [Table.lookup_erase] at hfound
  split_ifs at hfound with heq
  exact h.records id' found hfound

theorem windsDown_revise
    (h : ∀ op op', change op = .ok op' → Operation.WindsDown op op') (m : Moment) (s : Store)
    (id : String) : WindsDown s (s.revise m id change).2 := by
  rcases revise_cases m s id change with ⟨e, heq⟩ | ⟨op, op', hlookup, hchange, _, heq⟩
  · rw [heq]
    exact .refl s
  · rw [heq]
    exact (WindsDown.refl s).written hlookup ((h op op' hchange).stamped m.now)

theorem windsDown_keepEnd (s : Store) (id : String) (e : End) : WindsDown s (s.keepEnd id e) := by
  rw [keepEnd]
  cases s.unfinished.lookup id with
  | none => exact .of_records_eq rfl rfl
  | some kept => exact .refl s

theorem windsDown_finish (m : Moment) (s : Store) (id : String) (e : End) :
    WindsDown s (s.finish m id e).2 := by
  have hrevise : WindsDown s
      (s.revise m id (Operation.finish m.now ((s.unfinished.lookup id).getD e))).2 :=
    windsDown_revise (fun op op' h => .of_finish h) m s id
  rw [finish]
  revert hrevise
  rcases s.revise m id _ with ⟨(_ | _) | op, s'⟩
  · intro hrevise
    exact hrevise
  · intro hrevise
    exact hrevise.trans (windsDown_keepEnd s' _ _)
  · intro hrevise
    exact hrevise

/-! ### Recovery and the ends that were kept -/

theorem mem_sortedRows {row : String × Operation} :
    row ∈ s.sortedRows ↔ s.records.lookup row.1 = some row.2 := by
  rw [sortedRows, List.mem_mergeSort, ← Table.mem_rows_iff]

theorem recoverRecord_cases (m : Moment) (only : Option (Table String ℚ)) (r : Recovery)
    (row : String × Operation) :
    recoverRecord m only r row = r ∨
      ∃ op', row.2.recovered m.now m.bootId = some op' ∧
        leftOut only row.1 row.2.updatedAt = false ∧ r.store.unfinished.lookup row.1 = none ∧
        ((m.writable row.1 = true ∧ recoverRecord m only r row =
            ⟨r.store.written row.1 { op' with updatedAt := m.now }, r.unrecorded,
              r.recovered ++ [(row.1, { op' with updatedAt := m.now })]⟩) ∨
          (m.writable row.1 = false ∧ recoverRecord m only r row =
            { r with unrecorded := r.unrecorded.upsert row.1 row.2.updatedAt })) := by
  rw [recoverRecord]
  split_ifs with hkept hleft
  · exact .inl rfl
  · exact .inl rfl
  · cases hrecovered : row.2.recovered m.now m.bootId with
    | none => exact .inl rfl
    | some op' =>
      refine .inr ⟨op', rfl, Bool.eq_false_iff.mpr hleft, Option.not_isSome_iff_eq_none.mp hkept, ?_⟩
      dsimp only
      rw [save]
      cases m.writable row.1 with
      | true => exact .inl ⟨rfl, rfl⟩
      | false => exact .inr ⟨rfl, rfl⟩

theorem windsDown_recoverInterrupted (m : Moment) (only : Option (Table String ℚ)) (s : Store) :
    WindsDown s (s.recoverInterrupted m only).2 := by
  have hrun : WindsDown s (Run.run (recoverRecord m only) ⟨s, .empty, []⟩ s.sortedRows).store := by
    have hrows : Run.EveryStep (recoverRecord m only) (fun _ row => row ∈ s.sortedRows)
        ⟨s, .empty, []⟩ s.sortedRows := Run.everyStep_of_forall (fun row hrow _ => hrow) _
    have hstart : WindsDown s (⟨s, .empty, []⟩ : Recovery).store := .refl s
    have hstep : ∀ r row, WindsDown s r.store → row ∈ s.sortedRows →
        WindsDown s (recoverRecord m only r row).store := by
      intro r row hr hrow
      rcases recoverRecord_cases m only r row with heq | ⟨op', hop', _, _, hsaved | hrefused⟩
      · rw [heq]
        exact hr
      · rw [hsaved.2]
        exact hr.written (mem_sortedRows.mp hrow) ((Operation.WindsDown.of_recovered hop').stamped _)
      · rw [hrefused.2]
        exact hr
    exact Run.run_invariant hstep hstart hrows
  exact hrun.trans (.of_records_eq rfl rfl)

/-- **One kept end** is dropped where the record cannot end so any more, kept again where there
is no room for it, and written otherwise. -/
theorem closeEnd_cases (m : Moment) (s : Store) (row : String × End) :
    ((∀ op, s.records.lookup row.1 = some op → row.2.state ∉ op.state.transitions) ∧
        s.closeEnd m row = { s with unfinished := s.unfinished.erase row.1 }) ∨
      ∃ op op', s.records.lookup row.1 = some op ∧ op.finish m.now row.2 = .ok op' ∧
        ((m.writable row.1 = true ∧
            s.closeEnd m row = s.written row.1 { op' with updatedAt := m.now }) ∨
          (m.writable row.1 = false ∧ s.closeEnd m row = s)) := by
  rw [closeEnd]
  cases hload : s.load row.1 with
  | error e =>
    refine .inl ⟨fun op hop => ?_, rfl⟩
    rw [load_eq_ok.mpr hop] at hload
    cases hload
  | ok op =>
    have hlookup := load_eq_ok.mp hload
    by_cases htransition : row.2.state ∈ op.state.transitions
    · have hlive : op.terminal = false := OperationState.terminal_of_transition htransition
      have hfinish := Operation.finish_of_transition htransition m.now
      obtain ⟨op', hop'⟩ : ∃ op', op.finish m.now row.2 = .ok op' := ⟨_, hfinish⟩
      dsimp only
      rw [if_neg (by rw [hlive]; exact Bool.false_ne_true), revise_of_ok hlookup hop']
      refine .inr ⟨op, op', hlookup, hop', ?_⟩
      cases hwritable : m.writable row.1 with
      | false =>
        refine .inr ⟨rfl, ?_⟩
        rw [save, hwritable]
        rfl
      | true =>
        refine .inl ⟨rfl, ?_⟩
        rw [save, if_pos hwritable]
        show { s.written row.1 _ with unfinished := (s.unfinished.erase row.1).erase row.1 } = _
        rw [Table.erase_erase]
        rfl
    · refine .inl ⟨fun found hfound => ?_, ?_⟩
      · rw [hlookup] at hfound
        rwa [← Option.some.inj hfound]
      · dsimp only
        split_ifs with hterminal
        · rfl
        · rw [revise_of_error hlookup (Operation.finish_of_not_transition htransition m.now)]
          rfl

theorem windsDown_closeUnrecorded (m : Moment) (s : Store) : WindsDown s (s.closeUnrecorded m) := by
  have hends : WindsDown s (Run.run (closeEnd m) s s.unfinished.rows) := by
    have hstep : ∀ s' row, WindsDown s s' → True → WindsDown s (closeEnd m s' row) := by
      intro s' row hs' _
      rcases closeEnd_cases m s' row with ⟨_, heq⟩ | ⟨op, op', hop, hop', ⟨_, heq⟩ | ⟨_, heq⟩⟩
      · rw [heq]
        exact hs'.trans (.of_records_eq rfl rfl)
      · rw [heq]
        exact hs'.trans ((WindsDown.refl s').written hop
          ((Operation.WindsDown.of_finish hop').stamped _))
      · rw [heq]
        exact hs'
    exact Run.run_invariant hstep (.refl s) (Run.everyStep_true _ _ _)
  rw [closeUnrecorded]
  split_ifs with hnone
  · exact hends
  · exact hends.trans (windsDown_recoverInterrupted m _ _)

theorem windsDown_prune (m : Moment) (s : Store) : WindsDown s (s.prune m) := by
  have hstep : ∀ s' row, WindsDown s s' → True → WindsDown s (pruneRecord m s' row) := by
    intro s' row hs' _
    rw [pruneRecord]
    split_ifs with hremoved
    · exact hs'.erased row.1
    · exact hs'
  exact Run.run_invariant hstep (.refl s) (Run.everyStep_true _ _ _)

/-- **A plan** is refused, or it is written as planned. -/
theorem create_cases (digest : String → String) (m : Moment) (s : Store) (request : PlanRequest) :
    (∃ found, (s.closeUnrecorded m).active = some found ∧
        (s.create digest m request).2 = s.closeUnrecorded m) ∨
      ((s.closeUnrecorded m).active = none ∧
        ((s.create digest m request).2 = (s.closeUnrecorded m).prune m ∨
          ∃ op planning, op.state = .planned ∧
            (∀ id ∈ planning, id = request.id ∨ id ∈ ((s.closeUnrecorded m).prune m).planning) ∧
            (s.create digest m request).2 =
              { ((s.closeUnrecorded m).prune m).written request.id op with planning })) := by
  rw [create]
  cases hactive : (s.closeUnrecorded m).active with
  | some found => exact .inl ⟨found, rfl, rfl⟩
  | none =>
    refine .inr ⟨rfl, ?_⟩
    dsimp only
    rw [save]
    cases m.writable request.id with
    | false => exact .inl rfl
    | true =>
      refine .inr ⟨{ newOperation digest m request with updatedAt := m.now }, ?_⟩
      cases request.planning with
      | false => exact ⟨_, rfl, fun id hid => .inr hid, rfl⟩
      | true => exact ⟨_, rfl, fun id hid => List.mem_cons.mp hid, rfl⟩

/-! ### The calls that wind down -/

theorem windsDown_discard (m : Moment) (s : Store) (id : String) :
    WindsDown s (s.discard m id).2 := by
  rw [discard]
  cases s.load id with
  | error e => exact .refl s
  | ok op =>
    dsimp only
    split_ifs with hplanned hremovable
    · exact .refl s
    · exact (WindsDown.refl s).erased id
    · exact .refl s

theorem windsDown_abandon (m : Moment) (s : Store) (id : String) (error : Option Entries)
    (acknowledge : Bool) : WindsDown s (s.abandon m id error acknowledge).2 := by
  rw [abandon]
  cases s.load id with
  | error e => exact .refl s
  | ok op =>
    dsimp only
    split_ifs with hterminal
    · exact .refl s
    · refine windsDown_revise (fun op op' hop' => ?_) m s id
      have hsame : Operation.SameEnd op { op with acknowledged := acknowledge } := ⟨rfl, rfl, rfl, rfl⟩
      exact hsame.windsDown.trans (.of_finish hop')

theorem note_snd_eq (m : Moment) (s : Store) (id detail : String) :
    (s.note m id detail).2 = s ∨
      (s.note m id detail).2 = (s.revise m id (Operation.note detail)).2 := by
  rw [note]
  cases s.load id with
  | error e => exact .inl rfl
  | ok op =>
    dsimp only
    split_ifs with hterminal
    · exact .inl rfl
    · refine .inr ?_
      rcases s.revise m id (Operation.note detail) with ⟨e | op, s'⟩
      · rfl
      · rfl

theorem windsDown_note (m : Moment) (s : Store) (id detail : String) :
    WindsDown s (s.note m id detail).2 := by
  rcases note_snd_eq m s id detail with heq | heq
  · rw [heq]
    exact .refl s
  · rw [heq]
    exact windsDown_revise (fun op op' h => .of_note h) m s id

theorem windsDown_planningEnded (s : Store) (id : String) : WindsDown s (s.planningEnded id) :=
  ⟨fun _ op h => ⟨op, h, .refl op⟩, fun _ h => (List.mem_filter.mp h).1⟩

end Store

/-! ### Steps that leave the store -/

namespace Agent

variable {digest : String → String} {validate : Validate}

theorem store_readOperation (a : Agent) (thread : ℕ) (id token : String) :
    (step digest validate a (.readOperation thread id token)).store = a.store := by
  rw [step]
  cases a.store.load id with
  | error e | ok seen => rfl

theorem store_checkToken (a : Agent) (thread : ℕ) :
    (step digest validate a (.checkToken thread)).store = a.store := by
  rw [step]
  cases a.executing.lookup thread with
  | none => rfl
  | some request =>
    dsimp only
    cases a.store.requireToken request.id request.token with
    | error e | ok _ => rfl

end Agent

end SolarFlowEms.Appliance
