import SolarFlowEms.Appliance.CellSteps
import SolarFlowEms.Appliance.OneActive

/-!
# Ends that are not lost

An end that the card has no room for is kept until the record is next written: every later call
of `finish` and the next plan write it, whichever end they ask for themselves.  What closes the
refused ends and recoveries writes each of them that there is room for, and recovers nothing that
has been written since.  A record in a final state stays as it ended.
-/

namespace SolarFlowEms.Appliance

open Python Documents Tables Fallible Cell

def Step.draws : Step → Option String
  | .plan _ request => some request.id
  | _ => none

def Step.isRestart : Step → Bool
  | .restart _ => true
  | _ => false

/-- The record has come to this end. -/
structure HasEnd (e : End) (op : Operation) : Prop where
  state : op.state = e.state
  result : op.result = e.result
  error : op.error = e.error
  stage : op.stage = Operation.endStage e

theorem HasEnd.of_finish {e : End} {op op' : Operation} {now : ℚ}
    (h : op.finish now e = .ok op') (stamp : ℚ) : HasEnd e { op' with updatedAt := stamp } := by
  obtain ⟨_, rfl⟩ := Operation.finish_eq_ok h
  exact ⟨rfl, rfl, rfl, rfl⟩

namespace Agent

open Store

variable {digest : String → String} {validate : Validate}

/-! ### A step at one operation -/

theorem cellSteps_startOperation (m : Moment) (s : Store) (request : ExecuteRequest) (id : String) :
    CellSteps (s.cell id) ((startOperation validate m s request).2.cell id) := by
  rw [startOperation]
  cases validate request.id request.seen with
  | some refusal =>
    dsimp only
    split_ifs
    · exact cellSteps_finish m s request.id _ id
    · exact .refl
  | none =>
    dsimp only
    split_ifs
    · exact cellSteps_retry m s request.id request.token id
    · exact cellSteps_confirm m s request.id request.token id

/-- **A step that is no restart** takes the cell of an operation through single steps, or makes
its record. -/
theorem cellSteps_step (a : Agent) (st : Step) (id : String) (hst : st.isRestart = false) :
    CellSteps (a.store.cell id) ((step digest validate a st).store.cell id) ∨
      (st.draws = some id ∧
        ∃ op, (step digest validate a st).store.cell id = ⟨some op, none, none⟩) := by
  cases st with
  | plan m request =>
    refine (cellSteps_create digest m a.store request id).imp_right fun ⟨hid, hnew⟩ => ?_
    exact ⟨congrArg some hid, hnew⟩
  | planningEnded id' => exact .inl .refl
  | awaitConfirmation m id' plan =>
    exact .inl (cellSteps_revise (fun _ _ h => (Operation.WindsDown.of_awaitConfirmation h).ended)
      m a.store id' id)
  | updateTarget m id' values =>
    exact .inl (cellSteps_revise (fun _ _ h => (Operation.WindsDown.of_updateTarget h).ended)
      m a.store id' id)
  | advance m id' stage state detail hostDown =>
    exact .inl (cellSteps_revise (fun _ _ h => (Operation.WindsDown.of_advance h).ended)
      m a.store id' id)
  | finish m id' e => exact .inl (cellSteps_finish m a.store id' e id)
  | discard m id' =>
    refine .inl ?_
    show CellSteps _ ((a.store.discard m id').2.cell id)
    rw [Store.discard]
    cases a.store.load id' with
    | error e => exact .refl
    | ok op =>
      dsimp only
      split_ifs
      · exact .refl
      · exact cellSteps_erase a.store id' id
      · exact .refl
  | abandon m id' error acknowledge =>
    refine .inl ?_
    show CellSteps _ ((a.store.abandon m id' error acknowledge).2.cell id)
    rw [Store.abandon]
    cases a.store.load id' with
    | error e => exact .refl
    | ok op =>
      dsimp only
      split_ifs
      · exact .refl
      · refine cellSteps_revise (fun op op' h hterminal => ?_) m a.store id' id
        have hsame := (Operation.WindsDown.of_finish h).ended hterminal
        exact ⟨hsame.state, hsame.result, hsame.error, hsame.finishedAt⟩
  | note m id' detail =>
    refine .inl ?_
    show CellSteps _ ((a.store.note m id' detail).2.cell id)
    rcases note_snd_eq m a.store id' detail with heq | heq
    · rw [heq]
    · rw [heq]
      exact cellSteps_revise (fun _ _ h => (Operation.WindsDown.of_note h).ended) m a.store id' id
  | acknowledge m id' =>
    exact .inl (cellSteps_revise (fun _ _ h => (Operation.WindsDown.of_acknowledge h).ended)
      m a.store id' id)
  | cancel m id' => exact .inl (cellSteps_finish m a.store id' _ id)
  | readOperation thread id' token =>
    rw [store_readOperation]
    exact .inl .refl
  | checkToken thread =>
    rw [store_checkToken]
    exact .inl .refl
  | startOperation m thread =>
    rw [step]
    cases a.executing.lookup thread with
    | none => exact .inl .refl
    | some request =>
      dsimp only
      split_ifs
      · exact .inl (cellSteps_startOperation m a.store request id)
      · exact .inl .refl
  | restart m => cases hst

/-- **A restart at one operation**: memory is lost and the record recovered. -/
theorem cell_restarted (m : Moment) (s : Store) (id : String) :
    (restarted m s).cell id =
      (⟨s.records.lookup id, none, none⟩ : Cell).recover m id fun _ => false :=
  cell_recoverInterrupted m none ⟨s.records, .empty, .empty, []⟩ id

/-! ### Memory is true -/

def MemoryTrue (a : Agent) : Prop := ∀ id, (a.store.cell id).Sound

theorem sound_restarted (m : Moment) (s : Store) (id : String) : ((restarted m s).cell id).Sound := by
  rw [cell_restarted]
  cases s.records.lookup id with
  | none => exact sound_of_forgotten
  | some op =>
    cases hrecovered : op.recovered m.now m.bootId with
    | none =>
      simp only [recover, hrecovered]
      exact sound_of_forgotten
    | some op' =>
      simp only [recover, hrecovered, Bool.false_eq_true, if_false]
      split_ifs
      · exact sound_of_forgotten
      · intro found hfound
        rw [← Option.some.inj hfound]
        refine ⟨fun e he => (by cases he), fun seen hseen => ⟨Option.some.inj hseen, ?_⟩⟩
        exact (Operation.recovered_eq_some hrecovered).1

theorem memoryTrue_step {a : Agent} (h : MemoryTrue a) (st : Step) :
    MemoryTrue (step digest validate a st) := by
  intro id
  cases hst : st.isRestart with
  | true =>
    cases st with
    | restart m => exact sound_restarted m a.store id
    | _ => cases hst
  | false =>
    have hcell : CellSteps (a.store.cell id) ((step digest validate a st).store.cell id) ∨
        (st.draws = some id ∧
          ∃ op, (step digest validate a st).store.cell id = ⟨some op, none, none⟩) :=
      cellSteps_step a st id hst
    rcases hcell with hsteps | ⟨_, op, hnew⟩
    · exact hsteps.sound (h id)
    · rw [hnew]
      exact sound_of_forgotten

/-! ### Final states -/

/-- A record in a final state stays as it ended, until it is pruned. -/
def FinalIsFinal (digest : String → String) (validate : Validate) (a : Agent) : Prop :=
  ∀ id op steps, a.store.records.lookup id = some op → op.terminal = true →
    (∀ st ∈ steps, st.draws ≠ some id) →
      ∀ op', (Run.run (step digest validate) a steps).store.records.lookup id = some op' →
        Operation.SameEnd op op'

theorem keepsEnd_restarted (m : Moment) (s : Store) (id : String) :
    (s.cell id).KeepsEnd ((restarted m s).cell id) := by
  intro op' hop'
  obtain ⟨op, hop, hwinds⟩ := (windsDown_restarted m s).records id op' hop'
  exact ⟨op, hop, hwinds.ended⟩

theorem keepsEnd_step (a : Agent) (st : Step) (id : String) (hdraws : st.draws ≠ some id) :
    (a.store.cell id).KeepsEnd ((step digest validate a st).store.cell id) := by
  cases hst : st.isRestart with
  | true =>
    cases st with
    | restart m => exact keepsEnd_restarted m a.store id
    | _ => cases hst
  | false =>
    rcases cellSteps_step a st id hst with hsteps | ⟨hid, _⟩
    · exact hsteps.keepsEnd
    · exact absurd hid hdraws

theorem finalIsFinal (a : Agent) : FinalIsFinal digest validate a := by
  intro id op steps hop hterminal hdraws op' hop'
  have hstep : ∀ (a' : Agent) st, (a.store.cell id).KeepsEnd (a'.store.cell id) →
      st.draws ≠ some id →
      (a.store.cell id).KeepsEnd ((step digest validate a' st).store.cell id) :=
    fun a' st h hst => h.trans (keepsEnd_step a' st id hst)
  have hrun : (a.store.cell id).KeepsEnd
      ((Run.run (step digest validate) a steps).store.cell id) :=
    Run.run_invariant hstep (.refl _) (Run.everyStep_of_forall (fun st hst _ => hdraws st hst) a)
  obtain ⟨found, hfound, hended⟩ := hrun op' hop'
  rw [← Option.some.inj (hop.symm.trans hfound)] at hended
  exact hended hterminal

/-! ### The first end -/

/-- An end that a transition leads to is written, or kept where the card has no room for it. -/
def FirstEndIsKept (a : Agent) : Prop :=
  ∀ m id e op, a.store.records.lookup id = some op → e.state ∈ op.state.transitions →
    a.store.unfinished.lookup id = none →
      (m.writable id = true →
        ∃ op', (a.store.finish m id e).2.records.lookup id = some op' ∧ HasEnd e op') ∧
      (m.writable id = false →
        (a.store.finish m id e).2.records.lookup id = some op ∧
          (a.store.finish m id e).2.unfinished.lookup id = some e)

theorem firstEndIsKept (a : Agent) : FirstEndIsKept a := by
  intro m id e op hop htransition hkept
  have hend : a.store.endFor id e = e := by
    rw [endFor, hkept]
    rfl
  rcases finish_cases m a.store id e with ⟨hrefused, _⟩ | ⟨found, op', hfound, hfinish, hsaved⟩
  · rw [hend] at hrefused
    exact absurd htransition (hrefused op hop)
  · rw [hend] at hfinish hsaved
    constructor
    · intro hroom
      rcases hsaved with ⟨_, heq⟩ | ⟨hfull, _⟩
      · rw [heq]
        exact ⟨_, Table.lookup_upsert_self _ _ _, .of_finish hfinish m.now⟩
      · rw [hroom] at hfull
        cases hfull
    · intro hfull
      rcases hsaved with ⟨hroom, _⟩ | ⟨_, heq⟩
      · rw [hfull] at hroom
        cases hroom
      · have hcell := cell_keepEnd_of_none (e := e) hkept
        rw [heq]
        exact ⟨(congrArg record hcell).trans hop, congrArg kept hcell⟩

/-! ### The end that is kept -/

/-- A step that asks for an end or a plan. -/
def AsksEnd (validate : Validate) (a : Agent) : Step → Prop
  | .plan _ _ => True
  | .finish _ _ _ => True
  | .cancel _ _ => True
  | .startOperation _ thread =>
    ∀ request, a.executing.lookup thread = some request → validate request.id request.seen ≠ none
  | _ => False

/-- A step that asks for ends or plans, or leaves the operation as it is. -/
def LeavesToEnds (digest : String → String) (validate : Validate) (id : String) (a : Agent)
    (st : Step) : Prop :=
  st.draws ≠ some id ∧
    (AsksEnd validate a st ∨ (step digest validate a st).store.cell id = a.store.cell id)

/-- The store after what a step closes: a plan closes what was refused before it does the rest. -/
def closing (digest : String → String) (validate : Validate) (a : Agent) : Step → Store
  | .plan m _ => a.store.closeUnrecorded m
  | st => (step digest validate a st).store

def Keeps (a : Agent) (id : String) (op : Operation) (e : End) : Prop :=
  a.store.records.lookup id = some op ∧ a.store.unfinished.lookup id = some e

def WritesEnd (digest : String → String) (validate : Validate) (a : Agent) (st : Step)
    (id : String) (e : End) : Prop :=
  ∃ op, (closing digest validate a st).records.lookup id = some op ∧ HasEnd e op

/-- A kept end stays kept or is written, whichever ends and plans are asked for. -/
def KeptEndIsWritten (digest : String → String) (validate : Validate) (a : Agent) : Prop :=
  ∀ id op e steps, Keeps a id op e →
    Run.EveryStep (step digest validate) (LeavesToEnds digest validate id) a steps →
      Keeps (Run.run (step digest validate) a steps) id op e ∨
        ∃ before st after, steps = before ++ st :: after ∧
          Keeps (Run.run (step digest validate) a before) id op e ∧
          WritesEnd digest validate (Run.run (step digest validate) a before) st id e

theorem finish_keeps {s : Store} {id : String} {op : Operation} {e : End}
    (hsound : (s.cell id).Sound) (hop : s.records.lookup id = some op)
    (hkept : s.unfinished.lookup id = some e) (m : Moment) (id' : String) (e' : End) :
    (s.finish m id' e').2.cell id = s.cell id ∨
      ∃ op', (s.finish m id' e').2.records.lookup id = some op' ∧ HasEnd e op' := by
  have htransition : e.state ∈ op.state.transitions := (hsound op hop).1 e hkept
  rcases finish_cases m s id' e' with ⟨_, heq⟩ | ⟨found, op', hfound, hfinish, hsaved⟩
  · rw [heq]
    exact .inl rfl
  · by_cases hid : id = id'
    · subst hid
      have hend : s.endFor id e' = e := by
        rw [endFor, hkept]
        rfl
      rw [hend] at hfinish hsaved
      rcases hsaved with ⟨_, heq⟩ | ⟨_, heq⟩
      · rw [heq]
        exact .inr ⟨_, Table.lookup_upsert_self _ _ _, .of_finish hfinish m.now⟩
      · rw [heq, keepEnd_of_some hkept]
        exact .inl rfl
    · refine .inl ?_
      rcases hsaved with ⟨_, heq⟩ | ⟨_, heq⟩
      · rw [heq, cell_written_of_ne _ _ hid]
      · rw [heq, cell_keepEnd, if_neg hid]

theorem keeps_of_cell_eq {a a' : Agent} {id : String} {op : Operation} {e : End}
    (h : Keeps a id op e) (hcell : a'.store.cell id = a.store.cell id) : Keeps a' id op e :=
  ⟨(congrArg record hcell).trans h.1, (congrArg kept hcell).trans h.2⟩

/-- **A plan beside a kept end** writes it, or leaves it where there is no room. -/
theorem plan_keeps {a : Agent} {id : String} {op : Operation} {e : End} (h : Keeps a id op e)
    (hsound : (a.store.cell id).Sound) (m : Moment) (request : PlanRequest)
    (hid : request.id ≠ id) :
    Keeps (step digest validate a (.plan m request)) id op e ∨
      WritesEnd digest validate a (.plan m request) id e := by
  have htransition : e.state ∈ op.state.transitions := (hsound op h.1).1 e h.2
  have hcell := cell_closeUnrecorded m a.store id
  rcases closed_of_kept (c := a.store.cell id) h.1 h.2 htransition m id with
    ⟨_, op', hfinish, hsaved⟩ | ⟨_, hkeeps⟩
  · rw [hsaved] at hcell
    exact .inr ⟨_, congrArg record hcell, .of_finish hfinish m.now⟩
  · rw [hkeeps] at hcell
    have hop : (a.store.closeUnrecorded m).records.lookup id = some op :=
      congrArg record hcell
    have hlive : op.terminal = false := OperationState.terminal_of_transition htransition
    have hpruned := cell_prune_of_live m hop hlive
    have hcreated : (a.store.create digest m request).2.cell id = ⟨some op, some e, none⟩ := by
      rcases create_cases digest m a.store request with
        ⟨found, _, heq⟩ | ⟨_, heq | ⟨new, planning, _, _, heq⟩⟩
      · rw [heq, hcell]
      · rw [heq, hpruned, hcell]
      · rw [heq]
        exact (cell_written_of_ne _ new (Ne.symm hid)).trans (hpruned.trans hcell)
    exact .inl ⟨congrArg record hcreated, congrArg kept hcreated⟩

theorem startOperation_keeps {s : Store} {id : String} {op : Operation} {e : End}
    (hsound : (s.cell id).Sound) (hop : s.records.lookup id = some op)
    (hkept : s.unfinished.lookup id = some e) (m : Moment) {request : ExecuteRequest}
    (hrefused : validate request.id request.seen ≠ none) :
    (startOperation validate m s request).2.cell id = s.cell id ∨
      ∃ op', (startOperation validate m s request).2.records.lookup id = some op' ∧
        HasEnd e op' := by
  rw [startOperation]
  cases hvalid : validate request.id request.seen with
  | none => exact absurd hvalid hrefused
  | some refusal =>
    dsimp only
    split_ifs
    · exact finish_keeps hsound hop hkept m request.id _
    · exact .inl rfl

theorem startOperation_keeps_step {a : Agent} {id : String} {op : Operation} {e : End}
    (h : Keeps a id op e) (hsound : (a.store.cell id).Sound) (m : Moment) (thread : ℕ)
    (hasks : AsksEnd validate a (.startOperation m thread)) :
    Keeps (step digest validate a (.startOperation m thread)) id op e ∨
      WritesEnd digest validate a (.startOperation m thread) id e := by
  have hstore : (step digest validate a (.startOperation m thread)).store = a.store ∨
      ∃ request, a.executing.lookup thread = some request ∧
        (step digest validate a (.startOperation m thread)).store =
          (startOperation validate m a.store request).2 := by
    rw [step]
    cases hrequest : a.executing.lookup thread with
    | none => exact .inl rfl
    | some request =>
      dsimp only
      split_ifs
      · exact .inr ⟨request, rfl, rfl⟩
      · exact .inl rfl
  rcases hstore with heq | ⟨request, hrequest, heq⟩
  · exact .inl (keeps_of_cell_eq h (by rw [heq]))
  · rcases startOperation_keeps hsound h.1 h.2 m (hasks request hrequest) with hsame | hwritten
    · exact .inl (keeps_of_cell_eq h (by rw [heq]; exact hsame))
    · refine .inr ?_
      show ∃ op', (step digest validate a (.startOperation m thread)).store.records.lookup id =
        some op' ∧ HasEnd e op'
      rw [heq]
      exact hwritten

theorem keeps_step {a : Agent} {id : String} {op : Operation} {e : End} (h : Keeps a id op e)
    (hsound : (a.store.cell id).Sound) {st : Step} (hst : LeavesToEnds digest validate id a st) :
    Keeps (step digest validate a st) id op e ∨ WritesEnd digest validate a st id e := by
  obtain ⟨hdraws, hasks | hsame⟩ := hst
  · cases st with
    | plan m request =>
      exact plan_keeps h hsound m request fun heq => hdraws (congrArg some heq)
    | finish m id' e' =>
      exact (finish_keeps hsound h.1 h.2 m id' e').imp_left (keeps_of_cell_eq h)
    | cancel m id' =>
      exact (finish_keeps hsound h.1 h.2 m id' _).imp_left (keeps_of_cell_eq h)
    | startOperation m thread => exact startOperation_keeps_step h hsound m thread hasks
    | _ => cases hasks
  · exact .inl (keeps_of_cell_eq h hsame)

theorem keptEndIsWritten {a : Agent} (hmemory : MemoryTrue a) :
    KeptEndIsWritten digest validate a := by
  intro id op e steps h hsteps
  induction steps generalizing a with
  | nil => exact .inl h
  | cons st steps ih =>
    rcases keeps_step h (hmemory id) hsteps.1 with hkeeps | hwrites
    · rcases ih (memoryTrue_step hmemory st) hkeeps hsteps.2 with
        hend | ⟨before, st', after, heq, hbefore, hwrites⟩
      · exact .inl hend
      · exact .inr ⟨st :: before, st', after, congrArg (st :: ·) heq, hbefore, hwrites⟩
    · exact .inr ⟨[], st, steps, rfl, h, hwrites⟩

/-! ### What the next plan closes -/

/-- With room for every record, a plan first writes every kept end and every refused recovery, and
leaves the other records. -/
def NextPlanCloses (a : Agent) : Prop :=
  ∀ m, (∀ id, m.writable id = true) → ∀ id,
    let s := a.store.closeUnrecorded m
    s.unfinished.lookup id = none ∧ s.unrecorded.lookup id = none ∧
      ∀ op, a.store.records.lookup id = some op →
        match a.store.unfinished.lookup id, a.store.unrecorded.lookup id with
        | some e, _ => ∃ op', s.records.lookup id = some op' ∧ HasEnd e op'
        | none, some _ => ∃ op', op.recovered m.now m.bootId = some op' ∧
            s.records.lookup id = some { op' with updatedAt := m.now }
        | none, none => s.records.lookup id = some op

theorem nextPlanCloses {a : Agent} (hmemory : MemoryTrue a) : NextPlanCloses a := by
  intro m hroom id s
  have hcell : s.cell id = ((a.store.cell id).closeKept m id).recoverRefused m id :=
    cell_closeUnrecorded m a.store id
  have hsound := hmemory id
  cases hop : a.store.records.lookup id with
  | none =>
    rw [closed_of_gone (c := a.store.cell id) hop] at hcell
    exact ⟨congrArg kept hcell, congrArg refused hcell, fun op h => by cases h⟩
  | some op =>
    cases hkept : a.store.unfinished.lookup id with
    | some e =>
      rcases closed_of_kept (c := a.store.cell id) hop hkept ((hsound op hop).1 e hkept) m id with
        ⟨_, op', hfinish, hsaved⟩ | ⟨hfull, _⟩
      · rw [hsaved] at hcell
        refine ⟨congrArg kept hcell, congrArg refused hcell, fun found hfound => ?_⟩
        exact ⟨_, congrArg record hcell, .of_finish hfinish m.now⟩
      · rw [hroom id] at hfull
        cases hfull
    | none =>
      cases hrefused : a.store.unrecorded.lookup id with
      | some seen =>
        obtain ⟨hseen, hopen⟩ := (hsound op hop).2 seen hrefused
        rw [← hseen] at hrefused
        obtain ⟨op', hop', hsaved⟩ := closed_of_refused (c := a.store.cell id) hop hkept
          hrefused hopen (hroom id)
        rw [hsaved] at hcell
        refine ⟨congrArg kept hcell, congrArg refused hcell, fun found hfound => ?_⟩
        rw [← Option.some.inj hfound]
        exact ⟨op', hop', congrArg record hcell⟩
      | none =>
        rw [closed_of_none (c := a.store.cell id) hkept hrefused] at hcell
        exact ⟨(congrArg kept hcell).trans hkept, (congrArg refused hcell).trans hrefused,
          fun found hfound => hfound ▸ (congrArg record hcell).trans hop⟩

/-! ### What has been written since -/

/-- A written record is no refused recovery any more, and stays none until the agent restarts:
what the next plan closes changes its record only by an end that is kept for it. -/
def WrittenIsLive (digest : String → String) (validate : Validate) (a : Agent) : Prop :=
  (∀ st id, st.isRestart = false →
    (a.store.cell id).WritesClear ((step digest validate a st).store.cell id)) ∧
  ∀ id steps, a.store.unrecorded.lookup id = none → (∀ st ∈ steps, st.isRestart = false) →
    let s := (Run.run (step digest validate) a steps).store
    s.unrecorded.lookup id = none ∧
      (s.unfinished.lookup id = none →
        ∀ m, (s.closeUnrecorded m).records.lookup id = s.records.lookup id)

theorem writesClear_step (a : Agent) (st : Step) (id : String) (hst : st.isRestart = false) :
    (a.store.cell id).WritesClear ((step digest validate a st).store.cell id) := by
  rcases cellSteps_step a st id hst with hsteps | ⟨_, op, hnew⟩
  · exact hsteps.writesClear
  · rw [hnew]
    exact .inr (.inr rfl)

theorem refused_eq_none_step {a : Agent} {id : String} (h : a.store.unrecorded.lookup id = none)
    (st : Step) (hst : st.isRestart = false) :
    (step digest validate a st).store.unrecorded.lookup id = none := by
  rcases cellSteps_step a st id hst with hsteps | ⟨_, op, hnew⟩
  · exact hsteps.refused_eq_none h
  · exact congrArg refused hnew

theorem writtenIsLive (a : Agent) : WrittenIsLive digest validate a := by
  refine ⟨fun st id hst => writesClear_step a st id hst, ?_⟩
  intro id steps hrefused hsteps s
  have hstep : ∀ (a : Agent) st, a.store.unrecorded.lookup id = none → st.isRestart = false →
      (step digest validate a st).store.unrecorded.lookup id = none :=
    fun a st h hst => refused_eq_none_step h st hst
  have hnone : s.unrecorded.lookup id = none :=
    Run.run_invariant hstep hrefused (Run.everyStep_of_forall (fun st hst _ => hsteps st hst) a)
  refine ⟨hnone, fun hkept m => ?_⟩
  have hcell := cell_closeUnrecorded m s id
  rw [closed_of_none (c := s.cell id) hkept hnone] at hcell
  exact congrArg record hcell

/-! ### Every run -/

def started (m : Moment) (records : Table String Operation) : Agent :=
  ⟨restarted m ⟨records, .empty, .empty, []⟩, .empty⟩

/-- **Ends are not lost.**  In every state of every run of the agent, from whatever records it
starts on and whatever the card refuses: a final record stays as it ended; the first end is written
or kept; a kept end is written before any other, as long as only ends and plans are asked for; the
next plan with room writes every kept end and every refused recovery; and what has been written
since is not recovered. -/
theorem ends_not_lost (digest : String → String) (validate : Validate) (m : Moment)
    (records : Table String Operation) (steps : List Step) :
    let a := Run.run (step digest validate) (started m records) steps
    FinalIsFinal digest validate a ∧ FirstEndIsKept a ∧ KeptEndIsWritten digest validate a ∧
      NextPlanCloses a ∧ WrittenIsLive digest validate a := by
  intro a
  have hstart : MemoryTrue (started m records) := fun id => sound_restarted m _ id
  have hmemory : MemoryTrue a :=
    Run.run_invariant (fun a st h _ => memoryTrue_step h st) hstart (Run.everyStep_true _ _ _)
  exact ⟨finalIsFinal a, firstEndIsKept a, keptEndIsWritten hmemory, nextPlanCloses hmemory,
    writtenIsLive a⟩

/-! ### A confirmation after a refused cancel -/

/-- A kept end is what the operation comes to, unless the agent restarts. -/
def KeptEndIsFinal (digest : String → String) (validate : Validate) (a : Agent) : Prop :=
  ∀ id e steps, a.store.unfinished.lookup id = some e →
    (∀ st ∈ steps, st.isRestart = false ∧ st.draws ≠ some id) →
      ∀ op, (Run.run (step digest validate) a steps).store.records.lookup id = some op →
        op.terminal = true → op.state = e.state

def fullCard : Moment := ⟨0, "boot", fun _ => false, fun _ => true⟩

def succeededEnd : End := ⟨.succeeded, rfl, none, none, none⟩

def refusedCancel : List Step :=
  [.plan room (installUpdates "a"), .awaitConfirmation room "a" .none, .planningEnded "a",
    .cancel fullCard "a"]

/-- **The first end is not always the last**: a plan whose cancel was refused is confirmed, and
the operation succeeds. -/
theorem refused_cancel_succeeds :
    ¬ KeptEndIsFinal id noRefusal (Run.run (step id noRefusal) fresh refusedCancel) := by
  intro h
  have hkept : ((Run.run (step id noRefusal) fresh refusedCancel).store.unfinished.lookup "a").map
      (·.state) = some .cancelled := by decide +kernel
  have hend : ((Run.run (step id noRefusal) (Run.run (step id noRefusal) fresh refusedCancel)
      [.readOperation 1 "a" "token", .checkToken 1, .startOperation room 1,
        .finish room "a" succeededEnd]).store.records.lookup "a").map (·.state) =
      some .succeeded := by decide +kernel
  obtain ⟨e, he, hcancelled⟩ := Option.map_eq_some_iff.mp hkept
  obtain ⟨op, hop, hsucceeded⟩ := Option.map_eq_some_iff.mp hend
  have hsteps : ∀ st ∈ [Step.readOperation 1 "a" "token", .checkToken 1, .startOperation room 1,
      .finish room "a" succeededEnd], st.isRestart = false ∧ st.draws ≠ some "a" := by
    simp [Step.isRestart, Step.draws]
  have hterminal : op.terminal = true := by rw [Operation.terminal, hsucceeded]; rfl
  have hstate := h "a" e _ he hsteps op hop hterminal
  rw [hsucceeded, hcancelled] at hstate
  cases hstate

end Agent

end SolarFlowEms.Appliance
