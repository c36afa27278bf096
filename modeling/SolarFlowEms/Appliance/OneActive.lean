import SolarFlowEms.Appliance.Calls

/-!
# One active operation

The appliance is held by a record that is not settled, and by one that has failed recoverably
while its planner still runs, which a retry may bring back.  At most one record holds it, at any
time and whatever fails, as long as no request confirms a record that has failed recoverably
since the request read it while another record holds the appliance.  A retry looks for another
active operation first; a confirmation does not, and a request that read a plan still waiting
confirms also where the operation was started and has failed since.
-/

namespace SolarFlowEms.Appliance

open Python Documents Tables Fallible

namespace Store

variable {m : Moment} {s s' : Store} {id : String} {op op' : Operation}

/-! ### Holding the appliance -/

/-- A record that is not settled, or that failed recoverably while its planner runs. -/
def Holds (s : Store) (id : String) (op : Operation) : Prop :=
  op.blocking = true ∨ (id ∈ s.planning ∧ op.terminal = false)

def FreeBut (s : Store) (id : String) : Prop :=
  ∀ id' op', id' ≠ id → s.records.lookup id' = some op' → ¬ s.Holds id' op'

def OneHolder (s : Store) : Prop :=
  ∀ id op, s.records.lookup id = some op → s.Holds id op → s.FreeBut id

def OneBlocking (s : Store) : Prop :=
  ∀ id id' op op', s.records.lookup id = some op → s.records.lookup id' = some op' →
    op.blocking = true → op'.blocking = true → id = id'

/-- An operation that runs now and did not run before found no other record blocking. -/
def EntersAlone (s s' : Store) : Prop :=
  ∀ id op', s'.records.lookup id = some op' → op'.state = .running →
    (∀ op, s.records.lookup id = some op → op.state ≠ .running) →
      ∀ id' other, id' ≠ id → s.records.lookup id' = some other → other.blocking = false

instance (s : Store) (id : String) (op : Operation) : Decidable (s.Holds id op) :=
  inferInstanceAs (Decidable (_ ∨ _))

instance (s : Store) (id : String) : Decidable (s.FreeBut id) :=
  decidable_of_iff (∀ row ∈ s.records.rows, row.1 ≠ id → ¬ s.Holds row.1 row.2)
    ⟨fun h id' op' hne hop' => h (id', op') (Table.mem_rows_iff.mpr hop') hne,
      fun h row hrow hne => h row.1 row.2 hne (Table.mem_rows_iff.mp hrow)⟩

instance (s : Store) : Decidable s.OneBlocking :=
  decidable_of_iff (∀ row ∈ s.records.rows, ∀ row' ∈ s.records.rows,
      row.2.blocking = true → row'.2.blocking = true → row.1 = row'.1)
    ⟨fun h id id' op op' hop hop' =>
        h (id, op) (Table.mem_rows_iff.mpr hop) (id', op') (Table.mem_rows_iff.mpr hop'),
      fun h row hrow row' hrow' =>
        h row.1 row'.1 row.2 row'.2 (Table.mem_rows_iff.mp hrow) (Table.mem_rows_iff.mp hrow')⟩

theorem OneHolder.oneBlocking (h : s.OneHolder) : s.OneBlocking := by
  intro id id' op op' hop hop' hblocking hblocking'
  by_contra hne
  exact h id op hop (.inl hblocking) id' op' (Ne.symm hne) hop' (.inl hblocking')

theorem OneBlocking.oneHolder (h : s.OneBlocking) (hplanning : s.planning = []) :
    s.OneHolder := by
  have hblocking : ∀ id op, s.Holds id op → op.blocking = true := by
    intro id op hholds
    rcases hholds with hblocking | ⟨hmem, _⟩
    · exact hblocking
    · rw [hplanning] at hmem
      cases hmem
  intro id op hop hholds id' op' hne hop' hholds'
  exact hne (h id' id op' op hop' hop (hblocking id' op' hholds') (hblocking id op hholds))

/-! ### Winding down keeps one holder -/

theorem WindsDown.holds (h : WindsDown s s') (hwinds : Operation.WindsDown op op')
    (hholds : s'.Holds id op') : s.Holds id op := by
  rcases hholds with hblocking | ⟨hplanning, hlive⟩
  · exact .inl (hwinds.blocking hblocking)
  · exact .inr ⟨h.planning id hplanning, hwinds.live hlive⟩

theorem WindsDown.freeBut (h : WindsDown s s') (hfree : s.FreeBut id) : s'.FreeBut id := by
  intro id' op' hne hop' hholds
  obtain ⟨op, hop, hwinds⟩ := h.records id' op' hop'
  exact hfree id' op hne hop (h.holds hwinds hholds)

theorem WindsDown.oneHolder (h : WindsDown s s') (hone : s.OneHolder) : s'.OneHolder := by
  intro id op' hop' hholds
  obtain ⟨op, hop, hwinds⟩ := h.records id op' hop'
  exact h.freeBut (hone id op hop (h.holds hwinds hholds))

theorem WindsDown.entersAlone (h : WindsDown s s') : EntersAlone s s' := by
  intro id op' hop' hrunning hstopped
  obtain ⟨op, hop, hwinds⟩ := h.records id op' hop'
  exact absurd (hwinds.running hrunning) (hstopped op hop)

/-! ### Taking the appliance -/

theorem oneHolder_written (hfree : s.FreeBut id) (op : Operation) :
    (s.written id op).OneHolder := by
  have hother : (s.written id op).FreeBut id := by
    intro id' op' hne hop' hholds
    have hop' : (s.records.upsert id op).lookup id' = some op' := hop'
    rw [Table.lookup_upsert_of_ne s.records op hne] at hop'
    exact hfree id' op' hne hop' hholds
  intro id₁ op₁ hop₁ hholds₁
  by_cases heq : id₁ = id
  · rw [heq]
    exact hother
  · exact absurd hholds₁ (hother id₁ op₁ heq hop₁)

theorem entersAlone_written (hfree : s.FreeBut id) (op : Operation) :
    EntersAlone s (s.written id op) := by
  intro id₁ op₁ hop₁ hrunning hstopped id₂ other hne hother
  have hop₁ : (s.records.upsert id op).lookup id₁ = some op₁ := hop₁
  by_cases heq : id₁ = id
  · rw [heq] at hne
    by_contra hblocking
    exact hfree id₂ other hne hother (.inl (Bool.not_eq_false _ ▸ hblocking))
  · rw [Table.lookup_upsert_of_ne s.records op heq] at hop₁
    exact absurd hrunning (hstopped op₁ hop₁)

theorem active_eq_none (h : s.active = none) (hop : s.records.lookup id = some op) :
    op.blocking = false ∧ id ∉ s.planning := by
  have hrow := List.find?_eq_none.mp h (id, op) (mem_sortedRows.mpr hop)
  simpa using hrow

/-- **What is active** is there, and not settled or still being planned. -/
theorem active_eq_some {found : String × Operation} (h : s.active = some found) :
    s.records.lookup found.1 = some found.2 ∧
      (found.2.blocking = true ∨ found.1 ∈ s.planning) := by
  have hholds := List.find?_some h
  exact ⟨mem_sortedRows.mp (List.mem_of_find?_eq_some h), by simpa using hholds⟩

theorem freeBut_of_inactive (h : s.active = none) (id : String) : s.FreeBut id := by
  intro id' op' _ hop' hholds
  obtain ⟨hsettled, hplanning⟩ := active_eq_none h hop'
  rcases hholds with hblocking | ⟨hmem, _⟩
  · rw [hsettled] at hblocking
    cases hblocking
  · exact hplanning hmem

theorem OneHolder.freeBut_of_awaiting (h : s.OneHolder) (hop : s.records.lookup id = some op)
    (hstate : op.state = .awaitingConfirmation) : s.FreeBut id := by
  refine h id op hop (.inl ?_)
  show (!op.state.settled) = true
  rw [hstate]
  rfl

/-- **A retry finds the appliance free** but for the operation itself. -/
theorem OneHolder.freeBut_of_retry (h : s.OneHolder) (hop : s.records.lookup id = some op)
    (hstate : op.state = .awaitingConfirmation ∨ op.state = .failedRecoverable)
    (hactive : ∀ other, s.active = some other → other.1 = id) : s.FreeBut id := by
  rcases hstate with hwaiting | hfailed
  · exact h.freeBut_of_awaiting hop hwaiting
  · cases hfound : s.active with
    | none => exact freeBut_of_inactive hfound id
    | some found =>
      obtain ⟨hlookup, hholds⟩ := active_eq_some hfound
      have hid := hactive found hfound
      rw [hid, hop] at hlookup
      obtain rfl := Option.some.inj hlookup
      refine h id found.2 hop ?_
      rcases hholds with hblocking | hplanning
      · exact .inl hblocking
      · refine .inr ⟨hid ▸ hplanning, ?_⟩
        show found.2.state.terminal = false
        rw [hfailed]
        rfl

/-- A step of the store that keeps one holder and starts an operation only where no other record
is blocking. -/
def KeepsOne (s s' : Store) : Prop := s'.OneHolder ∧ EntersAlone s s'

theorem WindsDown.keepsOne (h : WindsDown s s') (hone : s.OneHolder) : KeepsOne s s' :=
  ⟨h.oneHolder hone, h.entersAlone⟩

theorem keepsOne_written (hfree : s.FreeBut id) (op : Operation) :
    KeepsOne s (s.written id op) :=
  ⟨oneHolder_written hfree op, entersAlone_written hfree op⟩

/-- **A retry keeps one holder**: it looks for another active operation. -/
theorem keepsOne_retry (hone : s.OneHolder) (m : Moment) (id token : String) :
    KeepsOne s (s.retry m id token).2 := by
  rw [retry]
  rcases revise_cases m s id (Operation.retry id token s.active) with
    ⟨e, heq⟩ | ⟨op, op', hop, hretry, _, heq⟩
  · rw [heq]
    exact (WindsDown.refl s).keepsOne hone
  · rw [heq]
    obtain ⟨hactive, hstate, _⟩ := Operation.retry_eq_ok hretry
    exact keepsOne_written (hone.freeBut_of_retry hop hstate hactive) _

theorem keepsOne_confirm (hone : s.OneHolder) {m : Moment} {id token : String}
    (h : ∀ op, s.records.lookup id = some op → op.confirmationToken = token →
      m.writable id = true → op.state = .failedRecoverable → s.FreeBut id) :
    KeepsOne s (s.confirm m id token).2 := by
  rw [confirm]
  rcases revise_cases m s id (Operation.confirm token) with
    ⟨e, heq⟩ | ⟨op, op', hop, hconfirm, hwritable, heq⟩
  · rw [heq]
    exact (WindsDown.refl s).keepsOne hone
  · rw [heq]
    obtain ⟨htoken, hstate, _⟩ := Operation.confirm_eq_ok hconfirm
    refine keepsOne_written ?_ _
    rcases hstate with hwaiting | hfailed
    · exact hone.freeBut_of_awaiting hop hwaiting
    · exact h op hop htoken hwritable hfailed

theorem keepsOne_create (hone : s.OneHolder) (digest : String → String) (m : Moment)
    (request : PlanRequest) : KeepsOne s (s.create digest m request).2 := by
  have hclosed := windsDown_closeUnrecorded m s
  have hwinds := hclosed.trans (windsDown_prune m (s.closeUnrecorded m))
  rcases create_cases digest m s request with
    ⟨found, _, heq⟩ | ⟨hactive, heq | ⟨op, planning, hstate, hplan, heq⟩⟩
  · rw [heq]
    exact hclosed.keepsOne hone
  · rw [heq]
    exact hwinds.keepsOne hone
  · have hfree : ((s.closeUnrecorded m).prune m).FreeBut request.id :=
      (windsDown_prune m _).freeBut (freeBut_of_inactive hactive request.id)
    rw [heq]
    have hother : FreeBut
        { ((s.closeUnrecorded m).prune m).written request.id op with planning } request.id := by
      intro id' op' hne hop' hholds
      have hop' := (Table.lookup_upsert_of_ne _ op hne).symm.trans hop'
      refine hfree id' op' hne hop' (hholds.imp_right fun ⟨hmem, hlive⟩ => ⟨?_, hlive⟩)
      exact (hplan id' hmem).resolve_left hne
    constructor
    · intro id₁ op₁ hop₁ hholds₁
      by_cases hid : id₁ = request.id
      · rw [hid]
        exact hother
      · exact absurd hholds₁ (hother id₁ op₁ hid hop₁)
    · intro id₁ op₁ hop₁ hrunning hstopped
      have hop₁ := (Table.lookup_upsert _ request.id op id₁).symm.trans hop₁
      split_ifs at hop₁ with hid
      · rw [← Option.some.inj hop₁, hstate] at hrunning
        cases hrunning
      · exact hwinds.entersAlone id₁ op₁ hop₁ hrunning hstopped

end Store

/-! ### The agent's runs -/

def Step.start? : Step → Option (Moment × ℕ)
  | .startOperation m thread => some (m, thread)
  | _ => none

namespace Agent

open Store

variable (digest : String → String) (validate : Validate)

/-- A request that read its record before it failed confirms it after it has failed recoverably,
while another record holds the appliance. -/
def StaleConfirm (a : Agent) (st : Step) : Prop :=
  ∃ start ∈ st.start?, ∃ request ∈ a.executing.lookup start.2,
    request.tokenChecked = true ∧ validate request.id request.seen = none ∧
      request.seen.state ≠ .failedRecoverable ∧
      ∃ op ∈ a.store.records.lookup request.id,
        op.state = .failedRecoverable ∧ op.confirmationToken = request.token ∧
          start.1.writable request.id = true ∧ ¬ a.store.FreeBut request.id

instance (a : Agent) (st : Step) : Decidable (StaleConfirm validate a st) := by
  unfold StaleConfirm
  infer_instance

variable {digest validate}

theorem windsDown_restarted (m : Moment) (s : Store) : WindsDown s (restarted m s) := by
  have hfresh : WindsDown s ⟨s.records, .empty, .empty, []⟩ :=
    ⟨fun _ op h => ⟨op, h, .refl op⟩, fun _ h => by cases h⟩
  exact hfresh.trans (windsDown_recoverInterrupted m none _)

theorem keepsOne_startOperation {s : Store} (hone : s.OneHolder) {m : Moment}
    {request : ExecuteRequest}
    (h : ∀ op, validate request.id request.seen = none →
      request.seen.state ≠ .failedRecoverable → s.records.lookup request.id = some op →
      op.state = .failedRecoverable → op.confirmationToken = request.token →
      m.writable request.id = true → s.FreeBut request.id) :
    KeepsOne s (startOperation validate m s request).2 := by
  rw [startOperation]
  cases hvalid : validate request.id request.seen with
  | some refusal =>
    dsimp only
    split_ifs
    · exact (windsDown_finish m s _ _).keepsOne hone
    · exact (WindsDown.refl s).keepsOne hone
  | none =>
    dsimp only
    split_ifs with hfailed
    · exact keepsOne_retry hone m request.id request.token
    · refine keepsOne_confirm hone fun op hop htoken hwritable hstate => ?_
      exact h op hvalid hfailed hop hstate htoken hwritable

theorem keepsOne_step {a : Agent} (hone : a.store.OneHolder) (st : Step)
    (hstale : ¬ StaleConfirm validate a st) :
    KeepsOne a.store (step digest validate a st).store := by
  cases st with
  | plan m request => exact keepsOne_create hone digest m request
  | planningEnded id => exact (windsDown_planningEnded a.store id).keepsOne hone
  | awaitConfirmation m id plan =>
    exact (windsDown_revise (fun op op' h => .of_awaitConfirmation h) m a.store id).keepsOne hone
  | updateTarget m id values =>
    exact (windsDown_revise (fun op op' h => .of_updateTarget h) m a.store id).keepsOne hone
  | advance m id stage state detail hostDown =>
    exact (windsDown_revise (fun op op' h => .of_advance h) m a.store id).keepsOne hone
  | finish m id e => exact (windsDown_finish m a.store id e).keepsOne hone
  | discard m id => exact (windsDown_discard m a.store id).keepsOne hone
  | abandon m id error acknowledge =>
    exact (windsDown_abandon m a.store id error acknowledge).keepsOne hone
  | note m id detail => exact (windsDown_note m a.store id detail).keepsOne hone
  | acknowledge m id =>
    exact (windsDown_revise (fun op op' h => .of_acknowledge h) m a.store id).keepsOne hone
  | cancel m id => exact (windsDown_finish m a.store id _).keepsOne hone
  | readOperation thread id token =>
    rw [store_readOperation]
    exact (WindsDown.refl a.store).keepsOne hone
  | checkToken thread =>
    rw [store_checkToken]
    exact (WindsDown.refl a.store).keepsOne hone
  | startOperation m thread =>
    rw [step]
    cases hrequest : a.executing.lookup thread with
    | none => exact (WindsDown.refl a.store).keepsOne hone
    | some request =>
      dsimp only
      split_ifs with hchecked
      · refine keepsOne_startOperation hone fun op hvalid hseen hop hstate htoken hwritable => ?_
        by_contra hheld
        exact hstale ⟨(m, thread), rfl, request, hrequest, hchecked, hvalid, hseen, op, hop, hstate,
          htoken, hwritable, hheld⟩
      · exact (WindsDown.refl a.store).keepsOne hone
  | restart m => exact (windsDown_restarted m a.store).keepsOne hone

/-- **One active mutation on the appliance.**  In every run of the agent from records of which at
most one is blocking, whatever is refused, interrupted or restarted, at most one record is
blocking before each step and after the last, and an operation enters running only where no other
record is blocking, as long as no step is a stale confirmation. -/
theorem one_active_operation {a : Agent} {steps : List Step} (hone : a.store.OneBlocking)
    (hplanning : a.store.planning = [])
    (hsteps : Run.EveryStep (step digest validate) (fun a st => ¬ StaleConfirm validate a st) a
      steps) :
    Run.EveryStep (step digest validate)
        (fun a st => a.store.OneBlocking ∧ EntersAlone a.store (step digest validate a st).store)
        a steps ∧
      (Run.run (step digest validate) a steps).store.OneBlocking := by
  have hholder : a.store.OneHolder := hone.oneHolder hplanning
  have hstep : ∀ (a : Agent) st, a.store.OneHolder → ¬ StaleConfirm validate a st →
      (step digest validate a st).store.OneHolder :=
    fun a st hone hstale => (keepsOne_step hone st hstale).1
  constructor
  · refine Run.EveryStep.of_invariant hstep (fun a st hone hstale => ?_) hholder hsteps
    exact ⟨hone.oneBlocking, (keepsOne_step hone st hstale).2⟩
  · have hrun : (Run.run (step digest validate) a steps).store.OneHolder :=
      Run.run_invariant hstep hholder hsteps
    exact hrun.oneBlocking

/-! ### A failure between the reading and the confirmation -/

def room : Moment := ⟨0, "boot", fun _ => true, fun _ => true⟩

def fresh : Agent := ⟨⟨.empty, .empty, .empty, []⟩, .empty⟩

def noRefusal : Validate := fun _ _ => none

def installUpdates (id : String) : PlanRequest := ⟨id, "token", "updates.install", [], "", "", true⟩

def recoverableEnd : End := ⟨.failedRecoverable, rfl, none, none, none⟩

/-- A plan that two requests have read, confirmed by the first and failed. -/
def failedAfterRead : List Step :=
  [.plan room (installUpdates "a"), .awaitConfirmation room "a" .none, .planningEnded "a",
    .readOperation 1 "a" "token", .checkToken 1, .readOperation 2 "a" "token", .checkToken 2,
    .startOperation room 1, .finish room "a" recoverableEnd]

/-- The run on which the failed operation is retried by a request that has seen the failure. -/
theorem one_active_operation_retried :
    (Run.run (step id noRefusal) fresh (failedAfterRead ++
      [.readOperation 3 "a" "token", .checkToken 3, .startOperation room 3])).store.OneBlocking :=
  (one_active_operation (by decide +kernel) rfl (by decide +kernel)).2

/-- **The second request confirms the failed operation beside the plan that came after it.** -/
theorem stale_confirm_beside_plan :
    ¬ (Run.run (step id noRefusal) fresh (failedAfterRead ++
      [.plan room (installUpdates "b"), .startOperation room 2])).store.OneBlocking := by
  decide +kernel

end Agent

end SolarFlowEms.Appliance
