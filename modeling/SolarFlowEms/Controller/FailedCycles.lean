import SolarFlowEms.Controller.CycleGuard
import SolarFlowEms.Controller.HeldMeter

/-!
# Failed cycles and the AC input of an assist

The third failed cycle in a row returns the charges, and the assist takes no AC input until three
cycles in a row have run through.  While an assist runs, the withhold ends within the hourly limit
only.  What the guarded loop does to its counts is a machine of its own, and a guarded cycle of the
controller is one step of it.
-/

namespace SolarFlowEms.Controller

open ChargeDirection Interrupted Run SlidingWindow World

variable {n : ℕ} {Text : Type}

/-! ### The counts as a machine -/

namespace CycleGuard

def fresh : CycleGuard := ⟨0, none, []⟩

/-- The charges are returned, or too few cycles have run through since. -/
def withheld (g : CycleGuard) : Bool := 3 ≤ g.cycleFailures || g.cyclesThroughSinceRelease.isSome

def failed (g : CycleGuard) : CycleGuard :=
  { g with
    cycleFailures := g.cycleFailures + 1
    cyclesThroughSinceRelease :=
      if 3 ≤ g.cycleFailures + 1 then some 0 else g.cyclesThroughSinceRelease.map fun _ => 0 }

/-- End the withhold; that of a running assist takes an entry of the hour. -/
def endWithhold (g : CycleGuard) (takesAcInput : Bool) (now : ℚ)
    (settings : ChargeDirectionSettings) : CycleGuard :=
  let allowed := chargeEntriesWithinLimit g.assistReentries now settings
  if !takesAcInput then { g with cyclesThroughSinceRelease := none }
  else if !allowed.2 then { g with assistReentries := allowed.1 }
  else { g with assistReentries := allowed.1 ++ [now], cyclesThroughSinceRelease := none }

def ranThrough (g : CycleGuard) (takesAcInput : Bool) (now : ℚ)
    (settings : ChargeDirectionSettings) : CycleGuard :=
  match g.cyclesThroughSinceRelease with
  | none => { g with cycleFailures := 0 }
  | some cycles =>
    let counted : CycleGuard :=
      { g with cycleFailures := 0, cyclesThroughSinceRelease := some (cycles + 1) }
    if 3 ≤ cycles + 1 then counted.endWithhold takesAcInput now settings else counted

end CycleGuard

/-! ### A guarded cycle is a step of the machine -/

/-- A cycle of the guarded loop: what it reads, and where an exception cuts it short. -/
structure GuardedCycle (n : ℕ) where
  input : CycleInput n
  raisesAfter : Option ℕ

namespace GuardedCycle

variable (c : GuardedCycle n)

def failed : Bool := c.raisesAfter.isSome

/-- When the cycle would count an entry of the assist. -/
def now : ℚ := c.input.readings.reentryNow

end GuardedCycle

namespace World

variable [DecidableEq Text] (texts : TimeTexts Text) (w : World n Text) (c : GuardedCycle n)

def afterGuarded (w : World n Text) (c : GuardedCycle n) : World n Text :=
  w.step texts (.guarded c.input c.raisesAfter)

omit [DecidableEq Text] in
theorem assistAcInputWithheld_eq (w : World n Text) :
    w.memory.assistAcInputWithheld = w.guard.withheld := rfl

omit [DecidableEq Text] in
theorem guard_endAssistAcInputWithhold (input : CycleInput n) :
    (w.endAssistAcInputWithhold input).guard =
      w.guard.endWithhold (w.fullChargeAssistTakesAcInput input) input.readings.reentryNow
        input.settings.chargeDirection := by
  unfold endAssistAcInputWithhold CycleGuard.endWithhold
  cases w.fullChargeAssistTakesAcInput input with
  | false => rfl
  | true =>
    cases hallowed : (chargeEntriesWithinLimit w.memory.assistReentries input.readings.reentryNow
        input.settings.chargeDirection).2 with
    | false =>
      have hguard : (chargeEntriesWithinLimit w.guard.assistReentries input.readings.reentryNow
        input.settings.chargeDirection).2 = false := hallowed
      simp only [hallowed, hguard, if_true, Bool.not_false, Bool.not_true]
      rfl
    | true =>
      have hguard : (chargeEntriesWithinLimit w.guard.assistReentries input.readings.reentryNow
        input.settings.chargeDirection).2 = true := hallowed
      simp only [hallowed, hguard, if_true, Bool.not_true]
      rfl

omit [DecidableEq Text] in
theorem fullChargeAssistTakesAcInput_cycleRanThrough (input : CycleInput n) :
    (w.cycleRanThrough input).fullChargeAssistTakesAcInput input =
      w.fullChargeAssistTakesAcInput input := by
  have hassist : (w.cycleRanThrough input).assist = w.assist := by
    unfold cycleRanThrough endAssistAcInputWithhold
    dsimp only
    split
    · rfl
    · split_ifs <;> rfl
  unfold fullChargeAssistTakesAcInput row
  rw [hassist]

omit [DecidableEq Text] in
theorem guard_cycleRanThrough (input : CycleInput n) :
    (w.cycleRanThrough input).guard =
      w.guard.ranThrough (w.fullChargeAssistTakesAcInput input) input.readings.reentryNow
        input.settings.chargeDirection := by
  unfold CycleGuard.ranThrough
  cases hsince : w.memory.cyclesThroughSinceRelease with
  | none =>
    have hguard : w.guard.cyclesThroughSinceRelease = none := hsince
    simp [cycleRanThrough, remember, hsince, guard, Memory.guard]
  | some cycles =>
    have hguard : w.guard.cyclesThroughSinceRelease = some cycles := hsince
    have hran : w.cycleRanThrough input =
        if 3 ≤ cycles + 1 then
          (w.remember fun m =>
            { m with
              cycleFailures := 0
              cyclesThroughSinceRelease := some (cycles + 1) }).endAssistAcInputWithhold input
        else
          w.remember fun m =>
            { m with
              cycleFailures := 0
              cyclesThroughSinceRelease := some (cycles + 1) } := by
      simp [cycleRanThrough, remember, hsince]
    rw [hran, hguard]
    dsimp only
    split
    · exact guard_endAssistAcInputWithhold _ input
    · rfl

omit [DecidableEq Text] in
/-- **A failed cycle counts**, and the third in a row starts the withhold. -/
theorem guard_cycleFailed (input : CycleInput n) :
    ((cycleFailed input).final w).guard = w.guard.failed := by
  have hfinal : (cycleFailed input).final w =
      (cycleFailed input w).tail.getLastD
        (w.remember fun m => { m with cycleFailures := m.cycleFailures + 1 }) := by
    unfold Steps.final cycleFailed
    exact List.getLastD_cons
  rw [hfinal]
  unfold cycleFailed CycleGuard.failed
  by_cases hthird : 3 ≤ w.memory.cycleFailures + 1
  · have hreturned : (w.remember fun m =>
        { m with cycleFailures := m.cycleFailures + 1 }).memory.chargesReturnedAfterFailedCycles =
          true := decide_eq_true hthird
    have hguard : 3 ≤ w.guard.cycleFailures + 1 := hthird
    dsimp only [List.tail_cons]
    rw [if_pos hreturned, if_pos hguard]
    show (((releaseChargingDevices input true).andThen (Steps.once _)).final _).guard = _
    rw [Steps.final_andThen, Steps.final_once]
    have hkept : ((releaseChargingDevices input true).final (w.remember fun m =>
        { m with cycleFailures := m.cycleFailures + 1 })).guard =
          { w.guard with cycleFailures := w.guard.cycleFailures + 1 } :=
      (guarded_releaseChargingDevices true).final rfl
    exact congrArg (fun g : CycleGuard => { g with cyclesThroughSinceRelease := some 0 }) hkept
  · have hreturned : (w.remember fun m =>
        { m with cycleFailures := m.cycleFailures + 1 }).memory.chargesReturnedAfterFailedCycles =
          false := decide_eq_false hthird
    have hguard : ¬3 ≤ w.guard.cycleFailures + 1 := hthird
    dsimp only [List.tail_cons]
    rw [hreturned, if_neg Bool.false_ne_true, if_neg hguard]
    rfl

variable {w c}

theorem guard_of_failed (h : c.failed = true) : (w.afterGuarded texts c).guard = w.guard.failed := by
  obtain ⟨count, hcount⟩ := Option.isSome_iff_exists.mp h
  have hafter : w.afterGuarded texts c =
      (cycleFailed c.input).final
        (Steps.final (fun w => (runOnce c.input texts w).take count) w.cleared) := by
    unfold afterGuarded step Event.steps runGuarded
    rw [hcount]
    exact Steps.final_andThen _ _ _
  have hkept : (Steps.final (fun w => (runOnce c.input texts w).take count) w.cleared).guard =
      w.guard := (guarded_runOnce texts).interrupted rfl count
  rw [hafter, guard_cycleFailed, hkept]

theorem guard_of_ranThrough (h : c.failed = false) :
    (w.afterGuarded texts c).guard =
      w.guard.ranThrough ((w.afterGuarded texts c).fullChargeAssistTakesAcInput c.input) c.now
        c.input.settings.chargeDirection := by
  have hraises : c.raisesAfter = none := Option.isNone_iff_eq_none.mp (by simpa [GuardedCycle.failed] using h)
  have hafter : w.afterGuarded texts c =
      ((runOnce c.input texts).final w.cleared).cycleRanThrough c.input := by
    unfold afterGuarded step Event.steps runGuarded
    rw [hraises]
    exact Steps.final_andThen _ _ _
  rw [hafter, guard_cycleRanThrough, fullChargeAssistTakesAcInput_cycleRanThrough]
  have hkept : ((runOnce c.input texts).final w.cleared).guard = w.guard :=
    (guarded_runOnce texts).final (s := w.cleared) rfl
  rw [hkept]
  rfl

end World

/-! ### Withheld until three cycles in a row have run through -/

/-- How many cycles have run through since the last failed one. -/
def throughSince (cycles : List (GuardedCycle n)) : ℕ :=
  (cycles.rtakeWhile fun c => !c.failed).length

def NoThreeThrough (cycles : List (GuardedCycle n)) : Prop :=
  ∀ group, group <:+: cycles → group.length = 3 → ∃ c ∈ group, c.failed = true

theorem NoThreeThrough.throughSince_lt {cycles : List (GuardedCycle n)}
    (h : NoThreeThrough cycles) : throughSince cycles < 3 := by
  by_contra hlong
  have hlong : 3 ≤ throughSince cycles := Nat.not_lt.mp hlong
  obtain ⟨c, hc, hfailed⟩ := h ((cycles.rtakeWhile fun c => !c.failed).take 3)
    ((List.take_prefix 3 _).isInfix.trans (List.rtakeWhile_suffix _ cycles).isInfix)
    (by rw [List.length_take]; exact Nat.min_eq_left hlong)
  have hthrough := List.mem_rtakeWhile_imp (List.mem_of_mem_take hc)
  simp [hfailed] at hthrough

section

variable [DecidableEq Text] (texts : TimeTexts Text) {w : World n Text}

/-- **Before three cycles in a row have run through, those since the last failure are counted.** -/
theorem cyclesThroughSinceRelease_run (hw : w.guard.cyclesThroughSinceRelease = some 0)
    (after : List (GuardedCycle n)) (hafter : NoThreeThrough after) :
    (run (afterGuarded texts) w after).guard.cyclesThroughSinceRelease =
      some (throughSince after) := by
  induction after using List.reverseRecOn with
  | nil => exact hw
  | append_singleton cycles c ih =>
    have hbefore : NoThreeThrough cycles := fun group hgroup =>
      hafter group (hgroup.trans (List.prefix_append cycles [c]).isInfix)
    have hsince := ih hbefore
    rw [run_append, run_cons, run_nil]
    cases hfailed : c.failed with
    | true =>
      have hnone : throughSince (cycles ++ [c]) = 0 := by
        rw [throughSince, List.rtakeWhile_concat_neg _ _ _ (by simp [hfailed])]
        rfl
      rw [guard_of_failed texts hfailed, CycleGuard.failed, hsince, hnone]
      simp
    | false =>
      have hmore : throughSince (cycles ++ [c]) = throughSince cycles + 1 := by
        rw [throughSince, List.rtakeWhile_concat_pos _ _ _ (by simp [hfailed]),
          List.length_append]
        rfl
      have hlt := hafter.throughSince_lt
      rw [guard_of_ranThrough texts hfailed, CycleGuard.ranThrough, hsince, hmore]
      dsimp only
      rw [if_neg (by omega)]

theorem cyclesThroughSinceRelease_failures (w : World n Text) {failures : List (GuardedCycle n)}
    (hcount : failures.length = 3) (hfailed : ∀ c ∈ failures, c.failed = true) :
    (run (afterGuarded texts) w failures).guard.cyclesThroughSinceRelease = some 0 := by
  obtain ⟨a, b, c, rfl⟩ := List.length_eq_three.mp hcount
  simp only [run_cons, run_nil]
  rw [guard_of_failed texts (hfailed c (by simp)),
    guard_of_failed texts (hfailed b (by simp)),
    guard_of_failed texts (hfailed a (by simp))]
  simp [CycleGuard.failed]

/-! ### The hourly limit -/

def World.endsAssistWithhold (w : World n Text) (c : GuardedCycle n) : Bool :=
  w.memory.assistAcInputWithheld && !(w.afterGuarded texts c).memory.assistAcInputWithheld &&
    (w.afterGuarded texts c).fullChargeAssistTakesAcInput c.input

/-- When a run gave a running assist its AC input back. -/
def acInputReturns : World n Text → List (GuardedCycle n) → List ℚ
  | _, [] => []
  | w, c :: cycles =>
    (if w.endsAssistWithhold texts c then [c.now] else []) ++
      acInputReturns (w.afterGuarded texts c) cycles

end

/-- **What the machine keeps of the run.** -/
structure CycleGuard.Counts (limit : ℕ) (g : CycleGuard) (returns : List ℚ) (clock : ℚ) : Prop where
  /-- The entries counted are those of any later hour. -/
  recent_eq : ∀ t, clock ≤ t →
    recent secondsPerHour g.assistReentries t = recent secondsPerHour returns t
  bounded : Bounded secondsPerHour limit returns
  /-- Returned charges are withheld by the count of cycles. -/
  since : 3 ≤ g.cycleFailures → g.cyclesThroughSinceRelease.isSome = true

namespace CycleGuard.Counts

variable {limit : ℕ} {g : CycleGuard} {returns : List ℚ} {clock now : ℚ}

section

variable (h : g.Counts limit returns clock)
include h

theorem failed (hle : clock ≤ now) :
    g.failed.Counts limit returns now where
  recent_eq t ht := h.recent_eq t (hle.trans ht)
  bounded := h.bounded
  since hthree := by
    have hthree : 3 ≤ g.cycleFailures + 1 := hthree
    simp [CycleGuard.failed, hthree]

theorem withheld_failed (hheld : g.withheld = true) :
    g.failed.withheld = true := by
  have hsome : g.cyclesThroughSinceRelease.isSome = true := by
    rcases Bool.or_eq_true_iff.mp hheld with hthree | hsome
    · exact h.since (of_decide_eq_true hthree)
    · exact hsome
  simp only [withheld, CycleGuard.failed]
  split <;> simp [hsome]

theorem recent_recentEntries (hle : clock ≤ now) {t : ℚ} (ht : now ≤ t) :
    recent secondsPerHour (recentEntries g.assistReentries now) t =
      recent secondsPerHour returns t := by
  rw [recentEntries, recent_recent ht]
  exact h.recent_eq t (hle.trans ht)

/-- **Where the machine ends a withhold**, an entry of the hour was left. -/
theorem endWithhold (hle : clock ≤ now)
    {settings : ChargeDirectionSettings} (hlimit : settings.entryLimit ≤ limit)
    (hfailures : g.cycleFailures = 0) (hsince : g.cyclesThroughSinceRelease.isSome = true)
    (takesAcInput : Bool) :
    (g.endWithhold takesAcInput now settings).Counts limit
      (if !(g.endWithhold takesAcInput now settings).withheld && takesAcInput then
        returns ++ [now] else returns) now := by
  have hnone : ¬3 ≤ g.cycleFailures := by omega
  cases takesAcInput with
  | false =>
    rw [Bool.and_false, if_neg Bool.false_ne_true]
    exact ⟨fun t ht => h.recent_eq t (hle.trans ht), h.bounded, fun hthree => absurd hthree hnone⟩
  | true =>
    cases hallowed : (chargeEntriesWithinLimit g.assistReentries now settings).2 with
    | false =>
      have hend : g.endWithhold true now settings =
          { g with assistReentries := recentEntries g.assistReentries now } := by
        unfold CycleGuard.endWithhold
        dsimp only
        rw [hallowed]
        rfl
      have hheld : (g.endWithhold true now settings).withheld = true := by
        rw [hend, withheld, hsince, Bool.or_true]
      rw [hheld, Bool.not_true, Bool.false_and, if_neg Bool.false_ne_true, hend]
      exact ⟨fun t ht => h.recent_recentEntries hle ht, h.bounded, fun hthree => absurd hthree hnone⟩
    | true =>
      have hend : g.endWithhold true now settings =
          { g with
            assistReentries := recentEntries g.assistReentries now ++ [now]
            cyclesThroughSinceRelease := none } := by
        unfold CycleGuard.endWithhold
        dsimp only
        rw [hallowed]
        rfl
      have hfree : (g.endWithhold true now settings).withheld = false := by
        rw [hend, withheld, hfailures]
        rfl
      have hlt : (recent secondsPerHour returns now).length < limit := by
        have hfew : (recentEntries g.assistReentries now).length < settings.entryLimit :=
          of_decide_eq_true hallowed
        rw [← h.recent_eq now hle]
        exact hfew.trans_le hlimit
      rw [hfree, Bool.not_false, Bool.true_and, if_pos rfl, hend]
      refine ⟨?_, h.bounded.append hlt, fun hthree => absurd hthree hnone⟩
      intro t ht
      have hrecent := h.recent_recentEntries hle ht
      unfold recent at hrecent ⊢
      rw [List.filter_append, List.filter_append, hrecent]

/-- **A cycle that runs through counts the entry of an assist that it gives the AC input back.** -/
theorem ranThrough (hle : clock ≤ now)
    {settings : ChargeDirectionSettings} (hlimit : settings.entryLimit ≤ limit)
    (takesAcInput : Bool) :
    (g.ranThrough takesAcInput now settings).Counts limit
      (if g.withheld && !(g.ranThrough takesAcInput now settings).withheld && takesAcInput then
        returns ++ [now] else returns) now := by
  have hkept : ∀ t, now ≤ t →
      recent secondsPerHour g.assistReentries t = recent secondsPerHour returns t :=
    fun t ht => h.recent_eq t (hle.trans ht)
  cases hsince : g.cyclesThroughSinceRelease with
  | none =>
    have hran : g.ranThrough takesAcInput now settings = { g with cycleFailures := 0 } := by
      simp [CycleGuard.ranThrough, hsince]
    have hfree : g.withheld = false := by
      have hfew : ¬3 ≤ g.cycleFailures := fun hthree => by simpa [hsince] using h.since hthree
      simp [withheld, hsince, hfew]
    rw [hran, hfree, Bool.false_and, Bool.false_and, if_neg Bool.false_ne_true]
    exact ⟨hkept, h.bounded, fun hthree => absurd hthree (Nat.not_succ_le_zero 2)⟩
  | some cycles =>
    have hheld : g.withheld = true := by simp [withheld, hsince]
    have hcounted : Counts limit { g with
        cycleFailures := 0, cyclesThroughSinceRelease := some (cycles + 1) } returns clock :=
      ⟨h.recent_eq, h.bounded, fun hthree => absurd hthree (Nat.not_succ_le_zero 2)⟩
    rw [hheld, Bool.true_and]
    by_cases hthird : 3 ≤ cycles + 1
    · have hran : g.ranThrough takesAcInput now settings =
          CycleGuard.endWithhold { g with
            cycleFailures := 0, cyclesThroughSinceRelease := some (cycles + 1) } takesAcInput now
            settings := by
        simp only [CycleGuard.ranThrough, hsince, if_pos hthird]
      rw [hran]
      exact hcounted.endWithhold hle hlimit rfl rfl takesAcInput
    · have hran : g.ranThrough takesAcInput now settings =
          { g with cycleFailures := 0, cyclesThroughSinceRelease := some (cycles + 1) } := by
        simp only [CycleGuard.ranThrough, hsince, if_neg hthird]
      rw [hran, withheld, Option.isSome_some, Bool.or_true, Bool.not_true, Bool.false_and,
        if_neg Bool.false_ne_true]
      exact ⟨hkept, h.bounded, fun hthree => absurd hthree (Nat.not_succ_le_zero 2)⟩

end

end CycleGuard.Counts

/-! ### Every run -/

section

variable [DecidableEq Text] (texts : TimeTexts Text) {limit : ℕ}

theorem counts_afterGuarded {w : World n Text} {c : GuardedCycle n} {returns : List ℚ} {clock : ℚ}
    (h : w.guard.Counts limit returns clock) (hle : clock ≤ c.now)
    (hlimit : c.input.settings.chargeDirection.entryLimit ≤ limit) :
    (w.afterGuarded texts c).guard.Counts limit
      (returns ++ if w.endsAssistWithhold texts c then [c.now] else []) c.now := by
  rw [endsAssistWithhold, assistAcInputWithheld_eq, assistAcInputWithheld_eq]
  cases hfailed : c.failed with
  | true =>
    have hguard := guard_of_failed (w := w) texts hfailed
    have hnot : (w.guard.withheld && !(w.afterGuarded texts c).guard.withheld) = false := by
      cases hheld : w.guard.withheld with
      | false => rfl
      | true =>
        rw [hguard, h.withheld_failed hheld]
        rfl
    rw [hnot, Bool.false_and, if_neg Bool.false_ne_true, List.append_nil, hguard]
    exact h.failed hle
  | false =>
    have hran := h.ranThrough hle hlimit
      ((w.afterGuarded texts c).fullChargeAssistTakesAcInput c.input)
    rw [← guard_of_ranThrough texts hfailed] at hran
    split at hran
    · rename_i hends
      rw [if_pos hends]
      exact hran
    · rename_i hends
      rw [if_neg hends, List.append_nil]
      exact hran

theorem bounded_acInputReturns {w : World n Text} {cycles : List (GuardedCycle n)}
    {returns : List ℚ} {clock : ℚ} (h : w.guard.Counts limit returns clock)
    (htimes : (clock :: cycles.map GuardedCycle.now).Pairwise (· ≤ ·))
    (hlimit : ∀ c ∈ cycles, c.input.settings.chargeDirection.entryLimit ≤ limit) :
    Bounded secondsPerHour limit (returns ++ acInputReturns texts w cycles) := by
  induction cycles generalizing w returns clock with
  | nil => simpa [acInputReturns] using h.bounded
  | cons c cycles ih =>
    obtain ⟨hclock, hlater⟩ := List.pairwise_cons.mp htimes
    have hstep := counts_afterGuarded texts h (hclock c.now (by simp)) (hlimit c (by simp))
    rw [acInputReturns, ← List.append_assoc]
    exact ih hstep hlater fun c' hc' => hlimit c' (List.mem_cons_of_mem c hc')

/-- **Failed cycles withhold AC input.**  Over every run of guarded cycles whose times do not go
back: after three failures in a row AC input stays withheld until three cycles in a row have run
through, and no hour, with its first or with its last second, sees a running assist get its AC
input back more often than the limit. -/
theorem failed_cycles_withhold_acInput (w : World n Text) (cycles : List (GuardedCycle n))
    (hfresh : w.guard = .fresh) (htimes : (cycles.map GuardedCycle.now).Pairwise (· ≤ ·))
    (hlimit : ∀ c ∈ cycles, c.input.settings.chargeDirection.entryLimit ≤ limit) :
    (∀ before failures after, before ++ failures ++ after <+: cycles → failures.length = 3 →
      (∀ c ∈ failures, c.failed = true) → NoThreeThrough after →
      (run (afterGuarded texts) w (before ++ failures ++ after)).memory.assistAcInputWithheld =
        true) ∧
    ∀ a : ℚ,
      ((acInputReturns texts w cycles).filter fun t =>
        decide (a ≤ t ∧ t < a + secondsPerHour)).length ≤ limit ∧
      ((acInputReturns texts w cycles).filter fun t =>
        decide (a < t ∧ t ≤ a + secondsPerHour)).length ≤ limit := by
  constructor
  · intro before failures after _ hcount hfailed hafter
    have hsince := cyclesThroughSinceRelease_run texts
      (cyclesThroughSinceRelease_failures texts (run (afterGuarded texts) w before) hcount
        hfailed) after hafter
    rw [assistAcInputWithheld_eq, run_append, run_append, CycleGuard.withheld, hsince,
      Option.isSome_some, Bool.or_true]
  · have hbounded : Bounded secondsPerHour limit (acInputReturns texts w cycles) := by
      cases cycles with
      | nil => exact bounded_nil _ _
      | cons c cycles =>
        have hcounts : w.guard.Counts limit [] c.now := by
          rw [hfresh]
          exact ⟨fun t _ => rfl, bounded_nil _ _, fun hthree => absurd hthree (Nat.not_succ_le_zero 2)⟩
        have hpairwise : (c.now :: (c :: cycles).map GuardedCycle.now).Pairwise (· ≤ ·) := by
          refine List.pairwise_cons.mpr ⟨?_, htimes⟩
          intro t ht
          rcases List.mem_cons.mp ht with rfl | hlater
          · exact le_rfl
          · exact (List.pairwise_cons.mp htimes).1 t hlater
        have hall := bounded_acInputReturns texts hcounts hpairwise hlimit
        rwa [List.nil_append] at hall
    intro a
    exact ⟨hbounded _ (narrow_Ico secondsPerHour a), hbounded _ (narrow_Ioc secondsPerHour a)⟩

end

/-- The settings with an assist that takes AC input. -/
def assisting (settings : Settings n) : Settings n :=
  { settings with assist := ⟨true, 28, 2, 30, 720, true, 400⟩ }

/-- A cycle over a held meter whose assist takes AC input, a day after its charge was due. -/
def assistCycle (now : ℚ) (raisesAfter : Option ℕ) : GuardedCycle 1 where
  input :=
    { heldCycle (assisting (oneDeviceSettings true)) 0 with
      now := ⟨DateTime.microsPerDay, some 0⟩
      readings := { quietReadings with reentryNow := now } }
  raisesAfter := raisesAfter

/-- Three cycles that raise at once, and three that run through. -/
def failingCycles : List (GuardedCycle 1) :=
  [assistCycle 0 (some 0), assistCycle 5 (some 0), assistCycle 10 (some 0), assistCycle 15 none,
    assistCycle 20 none, assistCycle 25 none]

/-- A fresh controller over a device whose charge is due. -/
def dueWorld : World 1 DateTime :=
  { heldWorld with assist := ⟨StateStore.opened AssistWorld.dueRows (some true), []⟩ }

/-- AC input is withheld until the third cycle that runs through gives it back. -/
theorem failed_cycles_withhold_acInput_first :
    (run (afterGuarded TimeTexts.plain) dueWorld
      (failingCycles.take 5)).memory.assistAcInputWithheld = true ∧
    acInputReturns TimeTexts.plain dueWorld failingCycles = [25] ∧
    ((acInputReturns TimeTexts.plain dueWorld failingCycles).filter fun t =>
      decide (0 ≤ t ∧ t < 0 + secondsPerHour)).length ≤ 12 := by
  obtain ⟨hwithheld, hreturns⟩ := @failed_cycles_withhold_acInput 1 DateTime _ TimeTexts.plain 12
    dueWorld failingCycles rfl (by decide) (by decide)
  refine ⟨hwithheld [] (failingCycles.take 3) ((failingCycles.drop 3).take 2)
    ⟨failingCycles.drop 5, rfl⟩ rfl (by decide) ?_, by decide +kernel, (hreturns 0).1⟩
  intro group hgroup hlength
  have hle := hgroup.length_le
  rw [hlength] at hle
  exact absurd hle (by decide)

end SolarFlowEms.Controller
