import SolarFlowEms.Winter.Reserve

/-!
# One winter step a day

A run is any sequence of visits and restarts; every load and every save works or fails, and a
restart may bring other settings.  A process that is killed inside a visit leaves what the visit
leaves whose later saves fail, so a restart after the visit stands for one inside it too.

Once a step of a day is taken it is on record: the row names the day, and a process that is to
plan for the device either has read it or has no leave to save.  A visit on the same day keeps
that, and a step takes a save.
-/

namespace SolarFlowEms.Winter

open Calendar Models Process

/-! ### Runs -/

/-- The devices of an installation, the process that runs, the day that its clock shows, and the
steps that were taken. -/
structure World where
  process : Process
  clock : ℕ
  devices : String → WinterDevice
  taken : List (String × Date)

inductive Event where
  | visit (visit : Visit)
  | restart (process : Process)

/-- A new process, which remembers nothing; the rows stay. -/
def World.restarted (w : World) (process : Process) : World :=
  { w with process, devices := fun name => ⟨.fresh, (w.devices name).stored⟩ }

def World.visited (w : World) (visit : Visit) : World :=
  let planned := w.process.reconciliationTarget visit (w.devices visit.device)
  { w with
    clock := visit.today.ordinal
    devices := Function.update w.devices visit.device planned.device
    taken := if planned.stepped then w.taken ++ [(visit.device, visit.today)] else w.taken }

def World.step (w : World) : Event → World
  | .visit visit => w.visited visit
  | .restart process => w.restarted process

def World.start (process : Process) (rows : String → Option WinterRecord) : World :=
  ⟨process, 0, fun name => ⟨.fresh, rows name⟩, []⟩

/-- Writes are allowed, the clock does not go back to an earlier day, and every process has a
store. -/
def Event.Ordinary (w : World) : Event → Prop
  | .visit v => v.writesAllowed = true ∧ w.clock ≤ v.today.ordinal
  | .restart process => process.hasStore = true

/-! ### What the steps of a visit leave on record -/

def OnRecord (today : Date) (stored : Option WinterRecord) : Prop :=
  ∃ row, stored = some row ∧ row.stepDate = some today ∧ row.target.isSome = true

/-- The process knows that the day has its step, or has no leave to save. -/
def Known (today : Date) (item : WinterDeviceState) : Prop :=
  item.stepDate = some today ∨ item.storeFailed = true

/-- **The day's step is on record**, and no process repeats it: one that has seen the device knows,
and one that plans anything for it is in a winter month. -/
structure Kept (process : Process) (today : Date) (d : WinterDevice) : Prop where
  row : OnRecord today d.stored
  known : d.item.seen = true → Known today d.item
  inWinter : d.item.target.isSome = true ∨ d.item.stepDate.isSome = true →
    process.settings.months.contains today.month = true

theorem recordIsCurrent_of_onRecord {today : Date} {stored : Option WinterRecord}
    (h : OnRecord today stored) : recordIsCurrent stored today = true := by
  obtain ⟨row, rfl, hdate, htarget⟩ := h
  obtain ⟨target, htarget⟩ := Option.isSome_iff_exists.mp htarget
  simp [recordIsCurrent, htarget, hdate, storedTargetMaxAgeDays]

section

variable {process : Process} {visit : Visit} {d : WinterDevice}

/-- **A save goes through or changes nothing**, and none goes through after a load that failed. -/
theorem persist_cases (hstore : process.hasStore = true) (hwrites : visit.writesAllowed = true)
    (works : Bool) (d : WinterDevice) :
    process.persist visit works d = (d, false) ∨
      d.item.storeFailed = false ∧
        process.persist visit works d = ({ d with stored := some d.item.record }, true) := by
  simp only [persist, hstore, hwrites, Bool.not_true, Bool.false_eq_true, if_false]
  cases d.item.storeFailed <;> cases works <;> simp

variable (process) in
theorem applyRecord_of_onRecord (h : OnRecord visit.today d.stored) (item : WinterDeviceState) :
    (process.applyRecord visit item d.stored).1.stepDate = some visit.today ∧
      (process.applyRecord visit item d.stored).2 = true := by
  have hcurrent := recordIsCurrent_of_onRecord h
  obtain ⟨row, hrow, hdate, -⟩ := h
  rw [hrow] at hcurrent ⊢
  simp [applyRecord, hcurrent, hdate]

theorem recall_stored (kind : StepKind) (d : WinterDevice) :
    (process.recall visit kind d).stored = d.stored := by
  unfold Process.recall restore reload
  split_ifs <;> dsimp only
  split <;> rfl

/-- **Whoever is to plan knows of the day's step**, or cannot save. -/
theorem known_recall (hstore : process.hasStore = true) (kind : StepKind)
    (h : Kept process visit.today d) : Known visit.today (process.recall visit kind d).item := by
  unfold Process.recall
  cases hseen : d.item.seen with
  | false =>
    simp only [Bool.not_false, if_true]
    unfold restore
    dsimp only
    by_cases hdate : d.item.stepDate = some visit.today
    · rw [if_pos hdate]
      exact .inl hdate
    · rw [if_neg hdate, if_pos hstore]
      cases visit.loadWorks with
      | true =>
        obtain ⟨hfound, hcurrent⟩ := applyRecord_of_onRecord process h.row
          { d.item with seen := true, storeFailed := false }
        simp only [if_true, hcurrent]
        exact .inl hfound
      | false => exact .inr rfl
  | true =>
    simp only [Bool.not_true, Bool.false_eq_true, if_false]
    cases hfailed : d.item.storeFailed with
    | true =>
      simp only [if_true]
      unfold reload
      cases visit.loadWorks with
      | true => exact .inl (applyRecord_of_onRecord process h.row _).1
      | false => exact .inr hfailed
    | false => exact h.known hseen

/-- On record, known and with a target: what the steps of a visit keep after the recall. -/
structure Settled (today : Date) (d : WinterDevice) : Prop where
  row : OnRecord today d.stored
  known : Known today d.item
  target : d.item.target.isSome = true

theorem adoptMinSoc_target (d : WinterDevice) :
    (process.adoptMinSoc visit d).item.target.isSome = true := by
  unfold adoptMinSoc
  cases h : d.item.target <;> simp [h]

theorem settled_adoptMinSoc (hrow : OnRecord visit.today d.stored)
    (hknown : Known visit.today d.item) : Settled visit.today (process.adoptMinSoc visit d) := by
  refine ⟨?_, ?_, adoptMinSoc_target d⟩
  · unfold adoptMinSoc
    cases d.item.target <;> exact hrow
  · unfold adoptMinSoc
    cases d.item.target <;> exact hknown

theorem Settled.persist (hstore : process.hasStore = true) (hwrites : visit.writesAllowed = true)
    (works : Bool) (h : Settled visit.today d) :
    Settled visit.today (process.persist visit works d).1 := by
  rcases persist_cases hstore hwrites works d with heq | ⟨hleave, heq⟩
  · rw [heq]
    exact h
  · rw [heq]
    have hdate : d.item.stepDate = some visit.today := by
      refine h.known.resolve_right ?_
      rw [hleave]
      exact Bool.false_ne_true
    exact ⟨⟨_, rfl, hdate, h.target⟩, h.known, h.target⟩

theorem Settled.withItem (h : Settled visit.today d) {item : WinterDeviceState}
    (hdate : item.stepDate = d.item.stepDate) (hfailed : item.storeFailed = d.item.storeFailed)
    (htarget : item.target = d.item.target) : Settled visit.today { d with item } := by
  refine ⟨h.row, ?_, ?_⟩
  · show item.stepDate = some visit.today ∨ item.storeFailed = true
    rw [hdate, hfailed]
    exact h.known
  · show item.target.isSome = true
    rw [htarget]
    exact h.target

section

variable (hstore : process.hasStore = true) (hwrites : visit.writesAllowed = true)
include hstore hwrites

theorem Settled.observePv
    (h : Settled visit.today d) : Settled visit.today (process.observePv visit d) := by
  unfold Process.observePv
  by_cases hdark : visit.report.pvPower < darkPvW
  · rw [if_pos hdark]
    exact h.withItem rfl rfl rfl
  · rw [if_neg hdark]
    dsimp only
    generalize hstart : (if d.item.darkDate = some visit.today then some visit.now else none) = start
    generalize hitem : (if d.item.pvDate = some visit.today then d.item
      else { d.item with pvDate := some visit.today, pvStartAt := start }) = item
    have hsame : item.stepDate = d.item.stepDate ∧ item.storeFailed = d.item.storeFailed ∧
        item.target = d.item.target := by
      rw [← hitem]
      split_ifs <;> exact ⟨rfl, rfl, rfl⟩
    obtain ⟨hdate, hfailed, htarget⟩ := hsame
    split_ifs
    · have hever : Settled visit.today { d with item := { item with pvEver := true } } :=
        h.withItem hdate hfailed htarget
      exact hever.persist hstore hwrites _
    · exact h.withItem hdate hfailed htarget

theorem Settled.followSoc
    (h : Settled visit.today d) : Settled visit.today (process.followSoc visit d) := by
  unfold Process.followSoc
  cases daytimeFollowTarget visit.report.socReading (d.item.target.getD 0)
      process.settings.winterMinSoc with
  | none => exact h
  | some target =>
    dsimp only
    have hraised : Settled visit.today { d with item := { d.item with target := some target } } :=
      ⟨h.row, h.known, rfl⟩
    have hkept := hraised.persist hstore hwrites visit.planSaveWorks
    rcases persist_cases hstore hwrites visit.planSaveWorks
      { d with item := { d.item with target := some target } } with heq | ⟨-, heq⟩
    · rw [heq]
      exact ⟨h.row, h.known, h.target⟩
    · rw [heq] at hkept ⊢
      exact hkept

/-! ### A step takes a save -/

/-- **A step that was taken is on record**, by a process that had leave to save. -/
theorem takeStep_stepped (kind : StepKind) (h : (process.takeStep visit kind d).stepped = true) :
    d.item.storeFailed = false ∧ Settled visit.today (process.takeStep visit kind d).device := by
  revert h
  unfold Process.takeStep
  cases process.dayTarget visit kind d.item with
  | none =>
    intro h
    cases h
  | some target =>
    dsimp only
    rcases persist_cases hstore hwrites visit.planSaveWorks
      { d with item := { d.item with
        stepDate := some visit.today
        stepAt := some visit.now
        stepTarget := some target
        target := some target } } with heq | ⟨hleave, heq⟩
    · rw [heq]
      intro h
      cases h
    · rw [heq]
      intro _
      exact ⟨hleave, ⟨_, rfl, rfl, rfl⟩, .inl rfl, rfl⟩

theorem Settled.takeStep
    (kind : StepKind) (h : Settled visit.today d) (hfailed : d.item.storeFailed = true) :
    (process.takeStep visit kind d).stepped = false ∧
      Settled visit.today (process.takeStep visit kind d).device := by
  unfold Process.takeStep
  cases process.dayTarget visit kind d.item with
  | none => exact ⟨rfl, h⟩
  | some target =>
    dsimp only
    rcases persist_cases hstore hwrites visit.planSaveWorks
      { d with item := { d.item with
        stepDate := some visit.today
        stepAt := some visit.now
        stepTarget := some target
        target := some target } } with heq | ⟨hleave, -⟩
    · rw [heq]
      exact ⟨rfl, h.row, h.known, h.target⟩
    · rw [show d.item.storeFailed = false from hleave] at hfailed
      cases hfailed

end

/-! ### A visit in winter -/

theorem Settled.kept (h : Settled visit.today d) (hactive : process.winterActive visit = true) :
    Kept process visit.today d := by
  refine ⟨h.row, fun _ => h.known, fun _ => ?_⟩
  exact (Bool.and_eq_true_iff.mp hactive).2

/-- **A visit in winter repeats no step of the day.** -/
theorem winterMinSoc_of_kept (hstore : process.hasStore = true)
    (hwrites : visit.writesAllowed = true) (kind : StepKind) (h : Kept process visit.today d) :
    (process.winterMinSoc visit kind d).stepped = false ∧
      Settled visit.today (process.winterMinSoc visit kind d).device := by
  have hrecalled : Settled visit.today
      (process.adoptMinSoc visit (process.recall visit kind d)) := by
    refine settled_adoptMinSoc ?_ (known_recall hstore kind h)
    rw [recall_stored]
    exact h.row
  have hobserved := hrecalled.observePv hstore hwrites
  unfold winterMinSoc
  dsimp only
  split_ifs with hdue hfollows
  · refine hobserved.takeStep hstore hwrites kind ?_
    refine hobserved.known.resolve_left fun hdate => ?_
    simp [stepDue, Visit.steppedToday, hdate] at hdue
  · exact ⟨rfl, hobserved.followSoc hstore hwrites⟩
  · exact ⟨rfl, hobserved⟩

theorem winterMinSoc_stepped (hstore : process.hasStore = true)
    (hwrites : visit.writesAllowed = true) (kind : StepKind)
    (h : (process.winterMinSoc visit kind d).stepped = true) :
    Settled visit.today (process.winterMinSoc visit kind d).device := by
  revert h
  unfold winterMinSoc
  dsimp only
  split_ifs with hdue hfollows
  · intro h
    exact (takeStep_stepped hstore hwrites kind h).2
  · intro h
    cases h
  · intro h
    cases h

/-! ### Every visit -/

theorem Kept.summerMinSoc (h : Kept process visit.today d)
    (hsummer : process.settings.months.contains visit.today.month = false) :
    Kept process visit.today (process.summerMinSoc visit d) := by
  have hnone : (d.item.target.isSome || d.item.stepDate.isSome) = false := by
    cases hplan : d.item.target.isSome || d.item.stepDate.isSome with
    | false => rfl
    | true => 
      have hwinter := h.inWinter (Bool.or_eq_true_iff.mp hplan)
      rw [hsummer] at hwinter
      cases hwinter
  unfold Process.summerMinSoc
  rw [hnone]
  exact ⟨h.row, nofun, h.inWinter⟩

/-- **A visit on the day of a step that is on record takes none, and leaves it on record.** -/
theorem Kept.plannedMinSoc (hstore : process.hasStore = true)
    (hwrites : visit.writesAllowed = true) (policy : WinterPolicy)
    (h : Kept process visit.today d) :
    (process.plannedMinSoc visit policy d).stepped = false ∧
      Kept process visit.today (process.plannedMinSoc visit policy d).device := by
  unfold Process.plannedMinSoc
  cases hon : visit.featureEnabled with
  | false => exact ⟨rfl, h.row, nofun, h.inWinter⟩
  | true =>
    simp only [Bool.not_true, Bool.false_eq_true, if_false]
    split
    · exact ⟨rfl, h⟩
    split
    · exact ⟨rfl, h⟩
    cases policy.step with
    | none => exact ⟨rfl, h⟩
    | some kind =>
      dsimp only
      split
      · exact ⟨rfl, h⟩
      cases hactive : process.winterActive visit with
      | false =>
        refine ⟨rfl, h.summerMinSoc ?_⟩
        rw [winterActive, hon, Bool.true_and] at hactive
        exact hactive
      | true =>
        obtain ⟨hstepped, hsettled⟩ := winterMinSoc_of_kept hstore hwrites kind h
        exact ⟨hstepped, hsettled.kept hactive⟩

theorem plannedMinSoc_of_stepped {policy : WinterPolicy}
    (h : (process.plannedMinSoc visit policy d).stepped = true) :
    process.winterActive visit = true ∧
      ∃ kind, process.plannedMinSoc visit policy d = process.winterMinSoc visit kind d := by
  revert h
  unfold Process.plannedMinSoc
  split
  · intro h
    cases h
  split
  · intro h
    cases h
  split
  · intro h
    cases h
  cases policy.step with
  | none =>
    intro h
    cases h
  | some kind =>
    dsimp only
    split
    · intro h
      cases h
    cases process.winterActive visit with
    | false =>
      intro h
      cases h
    | true =>
      intro _
      exact ⟨rfl, kind, rfl⟩

theorem plannedMinSoc_stepped (hstore : process.hasStore = true)
    (hwrites : visit.writesAllowed = true) (policy : WinterPolicy)
    (h : (process.plannedMinSoc visit policy d).stepped = true) :
    Kept process visit.today (process.plannedMinSoc visit policy d).device := by
  obtain ⟨hactive, kind, heq⟩ := plannedMinSoc_of_stepped h
  rw [heq] at h ⊢
  exact (winterMinSoc_stepped hstore hwrites kind h).kept hactive

theorem Kept.policy (h : Kept process visit.today d) :
    Kept process visit.today (process.policy visit d).2 := by
  have hresolved : Kept process visit.today (process.resolved visit d).2 :=
    ⟨h.row, h.known, h.inWinter⟩
  unfold Process.policy
  split
  · exact h
  cases d.item.policy with
  | none => exact hresolved
  | some policy =>
    dsimp only
    split
    · exact h
    · exact hresolved

theorem reconciliationTarget_stepped (d : WinterDevice) :
    (process.reconciliationTarget visit d).stepped =
      (process.plannedMinSoc visit (process.policy visit d).1 (process.policy visit d).2).stepped := by
  unfold reconciliationTarget
  dsimp only
  split <;> rfl

theorem kept_reconciliationTarget
    (h : Kept process visit.today (process.plannedMinSoc visit (process.policy visit d).1
      (process.policy visit d).2).device) :
    Kept process visit.today (process.reconciliationTarget visit d).device := by
  unfold reconciliationTarget
  dsimp only
  split
  · exact h
  · exact ⟨h.row, h.known, h.inWinter⟩

end

/-! ### Every run -/

/-- Every step that was taken is in the past, or today's and on record; none was taken twice. -/
structure World.Sound (w : World) : Prop where
  hasStore : w.process.hasStore = true
  past : ∀ s ∈ w.taken, s.2.ordinal ≤ w.clock
  kept : ∀ s ∈ w.taken, s.2.ordinal = w.clock → Kept w.process s.2 (w.devices s.1)
  once : w.taken.Nodup

theorem sound_restarted {w : World} (h : w.Sound) {process : Process}
    (hstore : process.hasStore = true) : (w.restarted process).Sound := by
  refine ⟨hstore, h.past, ?_, h.once⟩
  intro s hs hday
  exact ⟨(h.kept s hs hday).row, nofun, nofun⟩

theorem date_eq_of_ordinal {date date' : Date} (h : date.ordinal = date'.ordinal) :
    date = date' := by
  cases date
  cases date'
  cases h
  rfl

theorem World.Sound.kept_on {w : World} (h : w.Sound) {visit : Visit}
    (hclock : w.clock ≤ visit.today.ordinal) {s : String × Date} (hs : s ∈ w.taken)
    (hday : s.2.ordinal = visit.today.ordinal) :
    s.2 = visit.today ∧ Kept w.process visit.today (w.devices s.1) := by
  have hdate : s.2 = visit.today := date_eq_of_ordinal hday
  refine ⟨hdate, hdate ▸ h.kept s hs ?_⟩
  have := h.past s hs
  omega

theorem sound_visited {w : World} (h : w.Sound) {visit : Visit}
    (hwrites : visit.writesAllowed = true) (hclock : w.clock ≤ visit.today.ordinal) :
    (w.visited visit).Sound := by
  have hkept (hold : (visit.device, visit.today) ∈ w.taken) :
      (w.process.reconciliationTarget visit (w.devices visit.device)).stepped = false ∧
        Kept w.process visit.today
          (w.process.reconciliationTarget visit (w.devices visit.device)).device := by
    have hplanned := (h.kept_on hclock hold rfl).2.policy.plannedMinSoc h.hasStore hwrites
      (w.process.policy visit (w.devices visit.device)).1
    rw [reconciliationTarget_stepped]
    exact ⟨hplanned.1, kept_reconciliationTarget hplanned.2⟩
  have hothers (s : String × Date) (hs : s ∈ w.taken) (hday : s.2.ordinal = visit.today.ordinal) :
      Kept w.process s.2 ((w.visited visit).devices s.1) := by
    obtain ⟨hdate, hold⟩ := h.kept_on hclock hs hday
    obtain ⟨name, date⟩ := s
    obtain rfl : date = visit.today := hdate
    show Kept w.process visit.today (Function.update w.devices visit.device _ name)
    by_cases hname : name = visit.device
    · subst hname
      rw [Function.update_self]
      exact (hkept hs).2
    · rw [Function.update_of_ne hname]
      exact hold
  cases hstepped : (w.process.reconciliationTarget visit (w.devices visit.device)).stepped with
  | false =>
    have htaken : (w.visited visit).taken = w.taken := by simp [World.visited, hstepped]
    refine ⟨h.hasStore, ?_, ?_, ?_⟩
    · intro s hs
      exact (h.past s (htaken ▸ hs)).trans hclock
    · intro s hs hday
      exact hothers s (htaken ▸ hs) hday
    · rw [htaken]
      exact h.once
  | true =>
    have htaken : (w.visited visit).taken = w.taken ++ [(visit.device, visit.today)] := by
      simp [World.visited, hstepped]
    have hnew : (visit.device, visit.today) ∉ w.taken := by
      intro hold
      rw [(hkept hold).1] at hstepped
      cases hstepped
    refine ⟨h.hasStore, ?_, ?_, ?_⟩
    · intro s hs
      rw [htaken, List.mem_append, List.mem_singleton] at hs
      rcases hs with hs | rfl
      · exact (h.past s hs).trans hclock
      · exact le_rfl
    · intro s hs hday
      rw [htaken, List.mem_append, List.mem_singleton] at hs
      rcases hs with hs | rfl
      · exact hothers s hs hday
      · show Kept w.process visit.today (Function.update w.devices visit.device _ visit.device)
        rw [Function.update_self]
        rw [reconciliationTarget_stepped] at hstepped
        exact kept_reconciliationTarget (plannedMinSoc_stepped h.hasStore hwrites _ hstepped)
    · rw [htaken]
      exact List.nodup_append.mpr ⟨h.once, List.nodup_singleton _, fun s hs t ht heq =>
        hnew (List.mem_singleton.mp ht ▸ heq ▸ hs)⟩

theorem sound_step (w : World) (event : Event) (h : w.Sound) (hordinary : event.Ordinary w) :
    (w.step event).Sound := by
  cases event with
  | visit visit => exact sound_visited h hordinary.1 hordinary.2
  | restart process => exact sound_restarted h hordinary

theorem sound_start {process : Process} (hstore : process.hasStore = true)
    (rows : String → Option WinterRecord) : (World.start process rows).Sound :=
  ⟨hstore, nofun, nofun, List.nodup_nil⟩

/-- **One step a day**: in every run of visits and restarts, whatever the devices report and
whichever loads and saves fail, no device takes the winter step of a day twice. -/
theorem one_step_a_day (process : Process) (rows : String → Option WinterRecord)
    (events : List Event) (hstore : process.hasStore = true)
    (h : Run.EveryStep World.step (fun w event => event.Ordinary w) (World.start process rows)
      events) :
    (Run.run World.step (World.start process rows) events).taken.Nodup := by
  have hsound : (Run.run World.step (World.start process rows) events).Sound :=
    Run.run_invariant sound_step (sound_start hstore rows) h
  exact hsound.once

/-! ### A morning with a restart -/

def sampleProcess : Process where
  settings :=
    { months := [1]
      summerMinSoc := 15
      winterMinSoc := 40
      stepPercent := 3
      adjustHour := 12
      policies := fun _ => none
      entry := fun _ => ⟨false, "auto"⟩ }
  hasStore := true

def sampleDay : Date := ⟨1, by decide, by decide⟩

/-- A visit at a second of the day, at a PV power. -/
def sampleVisit (second : ℕ) (pv : ℚ) : Visit where
  device := "battery"
  minSoc := 15
  supportsStateReconciliation := true
  modelClass := none
  report :=
    { Controller.zeroDeviceState with
      soc := 30
      minSoc := 20
      solar := pv
      packNum := some 1
      minSocReported := true
      socUsable := true }
  featureEnabled := true
  now := ⟨sampleDay, second⟩
  writesAllowed := true
  loadWorks := true
  pvSaveWorks := true
  planSaveWorks := true

/-- The step of the morning is taken once, although the process restarts in the dark and sees the
PV come up again. -/
theorem one_step_a_day_over_a_restart :
    (Run.run World.step (World.start sampleProcess fun _ => none)
      [.visit (sampleVisit 21600 0), .visit (sampleVisit 28800 60), .restart sampleProcess,
        .visit (sampleVisit 28900 0), .visit (sampleVisit 29000 60)]).taken =
        [("battery", sampleDay)] ∧
      (Run.run World.step (World.start sampleProcess fun _ => none)
        [.visit (sampleVisit 21600 0), .visit (sampleVisit 28800 60), .restart sampleProcess,
          .visit (sampleVisit 28900 0), .visit (sampleVisit 29000 60)]).taken.Nodup :=
  ⟨by decide +kernel, one_step_a_day sampleProcess (fun _ => none) _ rfl
    ⟨⟨rfl, by decide⟩, ⟨rfl, by decide⟩, rfl, ⟨rfl, by decide⟩, ⟨rfl, by decide⟩, trivial⟩⟩

end SolarFlowEms.Winter
