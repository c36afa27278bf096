import SolarFlowEms.Schedule.PeriodDays

/-!
# Which days the expansion misses

The expansion of a timing that was read yields days that its repeat denotes, ascending.  It
yields every one of them unless it stops before: at a run of periods without a day that is
longer than the frequency allows, or in the calendar's last week, which it cannot build where
a weekday of the repeat is past the calendar.  The runs it allows are those of intervals of
one, and a longer interval has longer runs.
-/

namespace SolarFlowEms.Schedule

open Python Calendar Generator Fallible

/-! ### What reading leaves -/

variable {payload : PyValue}

theorem ordered_of_parseRepeat {start : TimeText.LocalTime} {r : Repeat}
    (h : parseRepeat start payload = .ok r) : r.Ordered := by
  simp only [parseRepeat, bind_eq_ok] at h
  obtain ⟨entries, -, -, -, freq, -, interval, -, byWeekday, hweekday, byMonthDay, -, byMonth,
    hmonth, bySetPos, -, -, -, -, -, -, -, endDay, -, count, -, h⟩ := h
  cases h
  simp only [parseWeekdays, bind_eq_ok] at hweekday
  simp only [parseMonths, bind_eq_ok] at hmonth
  obtain ⟨listed, -, hweekday⟩ := hweekday
  obtain ⟨listed', -, hmonth⟩ := hmonth
  cases hweekday
  cases hmonth
  exact ⟨List.Pairwise.filter _ List.pairwise_lt_range, List.Pairwise.filter _ List.pairwise_lt_range'⟩

theorem ordered_of_parseTiming {w : When} (h : parseTiming payload = .ok w)
    {r : Repeat} (hr : w.repeat? = some r) : r.Ordered := by
  simp only [parseTiming, bind_eq_ok] at h
  obtain ⟨entries, -, -, -, start, -, finish, -, rep, hrep, exceptions, -, h⟩ := h
  cases h
  obtain rfl : rep = some r := hr
  rw [optional.eq_def] at hrep
  split at hrep
  · cases hrep
  · obtain ⟨r', hr', heq⟩ := map_eq_ok.mp hrep
    cases heq
    exact ordered_of_parseRepeat hr'

theorem parseTiming_of_parseWhen {w : When} (h : parseWhen payload = .ok w) :
    parseTiming payload = .ok w ∧ requireAnOccurrence w = .ok () := by
  simp only [parseWhen, bind_eq_ok] at h
  obtain ⟨w', htiming, ⟨⟩, hfirst, -, -, hret⟩ := h
  cases hret
  exact ⟨htiming, hfirst⟩

theorem not_floatPosition_of_parseWhen {w : When}
    (h : parseWhen payload = .ok w) {r : Repeat} (hr : w.repeat? = some r) : ¬ r.FloatPosition := by
  intro hfloat
  have hescapes := When.escapes_of_float hr hfloat
  rw [(parseTiming_of_parseWhen h).2] at hescapes
  exact escapes_ok () hescapes

namespace Repeat

variable {r : Repeat} {first : Date}

/-! ### The periods before a day -/

/-- No run of periods without a day, before period `k`, is longer than the expansion allows. -/
def Uninterrupted (r : Repeat) (first : Date) (k : ℕ) : Prop :=
  ∀ s, s + r.maxEmptyPeriods < k →
    ∃ i d, s ≤ i ∧ i ≤ s + r.maxEmptyPeriods ∧ r.FallsIn first i d

/-- No run of periods without a day, from period `i` to period `k`, is longer than that. -/
def UninterruptedFrom (r : Repeat) (first : Date) (i k : ℕ) : Prop :=
  ∀ s, i ≤ s → s + r.maxEmptyPeriods < k →
    ∃ j d, s ≤ j ∧ j ≤ s + r.maxEmptyPeriods ∧ r.FallsIn first j d

variable {k n i : ℕ} {d e : Date} {before : List Date}

theorem uninterruptedFrom_zero :
    r.UninterruptedFrom first 0 k ↔ r.Uninterrupted first k :=
  ⟨fun h s => h s (Nat.zero_le s), fun h s _ => h s⟩

/-- The period an expansion starts with. -/
def startsWith (r : Repeat) (first : Date) (skipTo : Option Date) : ℕ :=
  (skipTo.map (r.startIndex first)).getD 0

theorem emptyRun_le_iff (hsorted : r.Ordered) {skipTo : Option Date}
    (hbuilt : ∀ j < n, ∃ days, (r.pager first skipTo).page j = .ok days) :
    (∀ m ≤ n, (r.pager first skipTo).emptyRun m ≤ r.maxEmptyPeriods) ↔
      r.UninterruptedFrom first (r.startsWith first skipTo) (r.startsWith first skipTo + n) := by
  have hspec {j : ℕ} {days : List Date} (h : (r.pager first skipTo).page j = .ok days) :
      ∀ d, d ∈ days ↔ r.FallsIn first (r.startsWith first skipTo + j) d :=
    (candidates_spec hsorted h).2
  refine (Pager.emptyRun_le_iff (p := r.pager first skipTo)).trans ⟨fun h s hi hs => ?_, fun h s hs => ?_⟩
  · have hmax : (r.pager first skipTo).maxEmpty = r.maxEmptyPeriods := rfl
    obtain ⟨j, hsj, hjs, hne⟩ := h (s - r.startsWith first skipTo) (by omega)
    obtain ⟨days, hdays⟩ := hbuilt j (by omega)
    rw [hdays] at hne
    obtain ⟨e, he⟩ := List.exists_mem_of_ne_nil _ hne
    exact ⟨_, e, by omega, by omega, (hspec hdays e).mp he⟩
  · have hmax : (r.pager first skipTo).maxEmpty = r.maxEmptyPeriods := rfl
    obtain ⟨j, e, hsj, hjs, he⟩ := h (r.startsWith first skipTo + s) (by omega) (by omega)
    obtain ⟨i, rfl⟩ := Nat.exists_eq_add_of_le (show r.startsWith first skipTo ≤ j by omega)
    refine ⟨i, by omega, by omega, ?_⟩
    obtain ⟨days, hdays⟩ := hbuilt i (by omega)
    rw [hdays]
    exact List.ne_nil_of_mem ((hspec hdays e).mpr he)

theorem pager_candidates {days : List Date}
    (h : (r.pager first none).page k = .ok days) : r.candidates first k = .ok days := by
  rwa [pager_page] at h

/-- The days of the periods before `n`, all of which can be built. -/
theorem items_spec (hsorted : r.Ordered)
    (hbuilt : ∀ k < n, ∃ days, (r.pager first none).page k = .ok days) (d : Date) :
    d ∈ (r.pager first none).items n ↔ ∃ k < n, r.FallsIn first k d := by
  rw [Pager.mem_items]
  constructor
  · rintro ⟨k, hk, days, hpage, hd⟩
    exact ⟨k, hk, ((candidates_spec hsorted (pager_candidates hpage)).2 d).mp hd⟩
  · rintro ⟨k, hk, hd⟩
    obtain ⟨days, hpage⟩ := hbuilt k hk
    exact ⟨k, hk, days, hpage, ((candidates_spec hsorted (pager_candidates hpage)).2 d).mpr hd⟩

theorem items_ascending (hsorted : r.Ordered) {skipTo : Option Date} (n : ℕ) :
    Ascending ((r.pager first skipTo).items n) := by
  have hcandidates : ∀ {k days}, (r.pager first skipTo).page k = .ok days →
      r.candidates first ((skipTo.map (r.startIndex first)).getD 0 + k) = .ok days := fun h => h
  induction n with
  | zero => exact List.Pairwise.nil
  | succ n ih =>
    rw [Pager.items]
    cases hpage : (r.pager first skipTo).page n with
    | error e => exact ih.append List.Pairwise.nil fun _ _ _ h => absurd h List.not_mem_nil
    | ok days =>
      have hspec := candidates_spec hsorted (hcandidates hpage)
      refine ih.append hspec.1 fun d hd e he => ?_
      obtain ⟨k, hk, days', hpage', hd⟩ := Pager.mem_items.mp hd
      have hd := ((candidates_spec hsorted (hcandidates hpage')).2 d).mp hd
      exact hd.lt ((hspec.2 e).mp he) (Nat.add_lt_add_left hk _)

theorem ends_eq_false {produced : ℕ} : r.ends produced d = false ↔
    (∀ u ∈ r.until?, d.ordinal ≤ u.ordinal) ∧ ∀ c ∈ r.count, produced ≤ c := by
  rw [ends, Bool.or_eq_false_iff]
  cases r.until? <;> cases r.count <;> simp

/-- **The place of a day among the periods** is the number of matching days up to it. -/
theorem ncard_items (hsorted : r.Ordered)
    (hbuilt : ∀ k < n, ∃ days, (r.pager first none).page k = .ok days)
    (hi : ((r.pager first none).items n)[i]? = some e) :
    Set.ncard {x | r.Matches first x ∧ x.ordinal ≤ e.ordinal} = i + 1 := by
  obtain ⟨k, hk, hfalls⟩ := (items_spec hsorted hbuilt e).mp (List.mem_of_getElem? hi)
  rw [← (items_ascending hsorted n).ncard_le hi]
  congr 1
  ext x
  simp only [Set.mem_ofPred_eq, items_spec hsorted hbuilt]
  refine and_congr_left fun hle => ⟨fun ⟨j, hj⟩ => ⟨j, ?_, hj⟩, fun ⟨j, _, hj⟩ => ⟨j, hj⟩⟩
  by_contra hlarge
  have := hfalls.lt hj (by omega)
  omega

/-- The number of a day of page `k` that the expansion counts. -/
theorem ncard_page (hsorted : r.Ordered)
    (hbuilt : ∀ j ≤ k, ∃ days, (r.pager first none).page j = .ok days) {after : List Date}
    (hpage : (r.pager first none).page k = .ok (before ++ d :: after))
    (hi : (before ++ [d])[i]? = some e) :
    Set.ncard {x | r.Matches first x ∧ x.ordinal ≤ e.ordinal} =
      ((r.pager first none).items k).length + i + 1 := by
  apply ncard_items hsorted (n := k + 1) fun j hj => hbuilt j (Nat.le_of_lt_succ hj)
  obtain ⟨hlt, -⟩ := List.getElem?_eq_some_iff.mp hi
  rw [Pager.items_succ hpage, List.getElem?_append_right (Nat.le_add_right _ _),
    Nat.add_sub_cancel_left, ← hi, List.append_cons, List.getElem?_append_left hlt]

/-! ### The expansion and the repeat -/

/-- **What is yielded is denoted**, and nothing stopped the expansion before it. -/
theorem denotes_of_getsTo (hsorted : r.Ordered) (hfloat : ¬ r.FloatPosition)
    (h : (r.pager first none).GetsTo k before d) :
    r.Denotes first d ∧ r.FallsIn first k d ∧ ¬ r.Leaves first k ∧ r.Uninterrupted first k := by
  obtain ⟨⟨after, hpage⟩, hreaches, hgo⟩ := h
  have hcandidates := pager_candidates hpage
  have hfalls : r.FallsIn first k d :=
    ((candidates_spec hsorted hcandidates).2 d).mp (List.mem_append_right _ List.mem_cons_self)
  have hlast : (before ++ [d])[before.length]? = some d := by simp
  have hends := ends_eq_false.mp (hgo before.length d hlast)
  refine ⟨⟨⟨k, hfalls⟩, hends.1, fun c hc => ?_⟩, hfalls,
    (candidates_ok_iff hfloat).mp ⟨_, hcandidates⟩, ?_⟩
  · have hbuilt : ∀ j ≤ k, ∃ days, (r.pager first none).page j = .ok days := by
      intro j hj
      rcases Nat.lt_or_eq_of_le hj with hlt | rfl
      · exact hreaches.built j hlt
      · exact ⟨_, hpage⟩
    rw [ncard_page hsorted hbuilt hpage hlast]
    exact hends.2 c hc
  · have hrun := (emptyRun_le_iff hsorted hreaches.built).mp hreaches.run_le
    rwa [startsWith, Option.map_none, Option.getD_none, Nat.zero_add, uninterruptedFrom_zero] at hrun

theorem not_leaves_of_le {j : ℕ} (h : ¬ r.Leaves first k) (hjk : j ≤ k) : ¬ r.Leaves first j := by
  have hmul := Nat.mul_le_mul_right r.interval hjk
  cases hfreq : r.freq with
  | daily =>
    simp only [Leaves, hfreq] at h ⊢
    omega
  | weekly =>
    simp only [Leaves, hfreq] at h ⊢
    rintro ⟨w, hw, hj⟩
    exact h ⟨w, hw, by omega⟩
  | monthly =>
    simp only [Leaves, hfreq] at h ⊢
    omega
  | yearly =>
    simp only [Leaves, hfreq] at h ⊢
    omega

/-- **A denoted day is got to** where its period is inside the calendar and no run of empty
periods before it is too long. -/
theorem getsTo_of_denotes (hsorted : r.Ordered) (hfloat : ¬ r.FloatPosition)
    (h : r.Denotes first d) (hfalls : r.FallsIn first k d) (hinside : ¬ r.Leaves first k)
    (hrun : r.Uninterrupted first k) : ∃ before, (r.pager first none).GetsTo k before d := by
  have hbuilt : ∀ j ≤ k, ∃ days, (r.pager first none).page j = .ok days := by
    intro j hj
    rw [pager_page]
    exact (candidates_ok_iff hfloat).mpr (not_leaves_of_le hinside hj)
  obtain ⟨days, hpage⟩ := hbuilt k le_rfl
  have hspec := candidates_spec hsorted (pager_candidates hpage)
  obtain ⟨before, after, rfl⟩ := List.append_of_mem ((hspec.2 d).mpr hfalls)
  -- No matching day up to `d` ends the repeat.
  have hgoes : ∀ n e, r.Matches first e → e.ordinal ≤ d.ordinal →
      Set.ncard {x | r.Matches first x ∧ x.ordinal ≤ e.ordinal} = n → r.ends n e = false := by
    rintro n e hmatch hle rfl
    refine ends_eq_false.mpr ⟨fun u hu => hle.trans (h.by_until u hu), fun c hc => ?_⟩
    refine le_trans (Set.ncard_le_ncard ?_ (Set.toFinite _)) (h.by_count c hc)
    intro x hx
    exact ⟨hx.1, hx.2.trans hle⟩
  have hbuilt' : ∀ j < k, ∃ days, (r.pager first none).page j = .ok days :=
    fun j hj => hbuilt j hj.le
  refine ⟨before, ⟨after, hpage⟩, ⟨hbuilt', ?_, ?_⟩, ?_⟩
  · apply (emptyRun_le_iff hsorted hbuilt').mpr
    rwa [startsWith, Option.map_none, Option.getD_none, Nat.zero_add, uninterruptedFrom_zero]
  · intro i e hi
    have hmem := List.mem_of_getElem? hi
    obtain ⟨j, hj, hje⟩ := (items_spec hsorted hbuilt' e).mp hmem
    exact hgoes (i + 1) e ⟨j, hje⟩ (hje.lt hfalls hj).le (ncard_items hsorted hbuilt' hi)
  · intro i e hi
    have hmem : e ∈ before ++ d :: after := by
      rw [List.append_cons]
      exact List.mem_append_left _ (List.mem_of_getElem? hi)
    have hle : e.ordinal ≤ d.ordinal := by
      rcases List.mem_append.mp (List.mem_of_getElem? hi) with hbefore | hd
      · exact ((List.pairwise_append.mp hspec.1).2.2 e hbefore d List.mem_cons_self).le
      · rw [List.mem_singleton.mp hd]
    exact hgoes _ e ⟨k, (hspec.2 e).mp hmem⟩ hle (ncard_page hsorted hbuilt hpage hi)

end Repeat

namespace When

variable {w : When}

/-- The expansion yields exactly the days the timing denotes. -/
def Complete (w : When) : Prop := ∀ d, d ∈ (days w none).yields ↔ w.Denotes d

/-- **Nothing stops the expansion before a denoted day.** -/
def Unstopped (w : When) : Prop :=
  ∀ r ∈ w.repeat?, ∀ d k, r.Denotes w.start.date d → r.FallsIn w.start.date k d →
    ¬ r.Leaves w.start.date k ∧ r.Uninterrupted w.start.date k

theorem ascending_days (hsorted : ∀ r ∈ w.repeat?, r.Ordered) (skipTo : Option Date) :
    Ascending (days w skipTo).yields := by
  cases hr : w.repeat? with
  | none =>
    rw [days, hr]
    exact List.pairwise_singleton _ _
  | some r =>
    simp only [days, hr]
    generalize (if r.count.isNone then skipTo else none) = skipTo'
    obtain ⟨n, hn⟩ :=
      Pager.exists_prefix_items (r.pager w.start.date skipTo') (maxOrdinal + 1) 0 0
    exact List.Pairwise.sublist (List.IsPrefix.sublist hn) (Repeat.items_ascending (hsorted r hr) n)

theorem mem_days_iff {r : Repeat} (hr : w.repeat? = some r) {d : Date} :
    d ∈ (days w none).yields ↔
      ∃ k < maxOrdinal + 1, ∃ before, (r.pager w.start.date none).GetsTo k before d := by
  rw [days_eq hr, Pager.mem_yields_walkAt_iff (Pager.reaches_zero _)]
  simp only [Nat.zero_le, true_and, Nat.zero_add]

theorem denotes_of_mem_days (hsorted : ∀ r ∈ w.repeat?, r.Ordered)
    (hfloat : ∀ r ∈ w.repeat?, ¬ r.FloatPosition) {d : Date} (h : d ∈ (days w none).yields) :
    w.Denotes d := by
  rw [Denotes]
  cases hr : w.repeat? with
  | none =>
    rw [days, hr] at h
    exact List.mem_singleton.mp h
  | some r =>
    obtain ⟨k, -, before, hgets⟩ := (mem_days_iff hr).mp h
    exact (Repeat.denotes_of_getsTo (hsorted r hr) (hfloat r hr) hgets).1

theorem complete_iff (hsorted : ∀ r ∈ w.repeat?, r.Ordered)
    (hfloat : ∀ r ∈ w.repeat?, ¬ r.FloatPosition) : w.Complete ↔ w.Unstopped := by
  constructor
  · intro hcomplete r hr d k hdenotes hfalls
    have hd : w.Denotes d := by
      rw [Denotes, Option.mem_def.mp hr]
      exact hdenotes
    obtain ⟨k', -, before, hgets⟩ := (mem_days_iff hr).mp ((hcomplete d).mpr hd)
    obtain ⟨-, hfalls', hinside, hrun⟩ :=
      Repeat.denotes_of_getsTo (hsorted r hr) (hfloat r hr) hgets
    rw [hfalls.unique hfalls']
    exact ⟨hinside, hrun⟩
  · intro hunstopped d
    refine ⟨denotes_of_mem_days hsorted hfloat, fun h => ?_⟩
    rw [Denotes] at h
    cases hr : w.repeat? with
    | none =>
      rw [hr] at h
      rw [days, hr, h]
      exact List.mem_singleton_self _
    | some r =>
      rw [hr] at h
      obtain ⟨k, hfalls⟩ := h.matching
      obtain ⟨hinside, hrun⟩ := hunstopped r hr d k h hfalls
      have hk : k < maxOrdinal + 1 := by
        by_contra hlarge
        exact hinside (Repeat.leaves_of_le r w.start.date (by omega))
      obtain ⟨before, hgets⟩ :=
        Repeat.getsTo_of_denotes (hsorted r hr) (hfloat r hr) h hfalls hinside hrun
      exact (mem_days_iff hr).mpr ⟨k, hk, before, hgets⟩

end When

/-- **What the expansion of a timing that was read yields**: days the timing denotes, each
once and ascending, and all of them exactly where nothing stops it before one. -/
theorem days_complete_iff {payload : PyValue} {w : When} (h : parseWhen payload = .ok w) :
    Ascending (days w none).yields ∧ (∀ d ∈ (days w none).yields, w.Denotes d) ∧
      (w.Complete ↔ w.Unstopped) := by
  have hsorted : ∀ r ∈ w.repeat?, r.Ordered :=
    fun r hr => ordered_of_parseTiming (parseTiming_of_parseWhen h).1 hr
  have hfloat : ∀ r ∈ w.repeat?, ¬ r.FloatPosition :=
    fun r hr => not_floatPosition_of_parseWhen h hr
  exact ⟨When.ascending_days hsorted none, fun d => When.denotes_of_mem_days hsorted hfloat,
    When.complete_iff hsorted hfloat⟩

/-! ### Leap days of every 25th year -/

def leapDayPayload : PyValue := .dict
  [("start", .str "2000-02-29T06:00"), ("repeat", .dict
    [("freq", .str "yearly"), ("interval", .int 25), ("by_month", .list [.int 2]),
      ("by_month_day", .list [.int 29])])]

def leapDays : Repeat where
  freq := .yearly
  interval := 25
  byWeekday := []
  byMonthDay := [29]
  bySetPos := none
  byMonth := [2]
  until? := none
  count := none
  interval_pos := by decide
  weekday_range := no_weekdays
  monthDay_range := by decide
  month_range := by decide
  setPos_needs := by simp

def leapDayTiming : When where
  start := ⟨730178 * 1440 + 360, by decide⟩
  windowEnd? := none
  repeat? := some leapDays
  exceptions := []
  end_after := by simp

theorem parseWhen_leapDayPayload : parseWhen leapDayPayload = .ok leapDayTiming := by
  decide +kernel

/-- 29 February 2400. -/
def leapDay2400 : Date := ⟨876276, by decide, by decide⟩

theorem fallsIn_leapDay2400 : leapDays.FallsIn leapDayTiming.start.date 16 leapDay2400 where
  unit_eq := by decide
  inMonth := by
    rw [Repeat.InMonth, if_neg (by decide)]
    decide
  onDay := by
    show leapDays.OnMonthDay leapDayTiming.start.date leapDay2400
    rw [Repeat.OnMonthDay, if_pos (by decide)]
    exact .inl (by decide)
  first_le := by decide

theorem denotes_leapDay2400 : leapDayTiming.Denotes leapDay2400 := by
  have h : leapDays.Denotes leapDayTiming.start.date leapDay2400 :=
    ⟨⟨16, fallsIn_leapDay2400⟩, by simp [leapDays], by simp [leapDays]⟩
  exact h

theorem days_complete_iff_leapDays : Ascending (days leapDayTiming none).yields ∧
    (∀ d ∈ (days leapDayTiming none).yields, leapDayTiming.Denotes d) ∧
      (leapDayTiming.Complete ↔ leapDayTiming.Unstopped) :=
  days_complete_iff parseWhen_leapDayPayload

/-- **29 February 2400 is missed**: of the years 2025 to 2375 that the repeat goes through
before it, none has a leap day, and after eleven of them the expansion ends. -/
theorem leapDay2400_missed :
    parseWhen leapDayPayload = .ok leapDayTiming ∧ ¬ leapDayTiming.Complete := by
  refine ⟨parseWhen_leapDayPayload, fun hcomplete => ?_⟩
  have hmem := (hcomplete leapDay2400).mpr denotes_leapDay2400
  have hyields : (days leapDayTiming none).yields = [⟨730179, by decide, by decide⟩] := by
    decide
  rw [hyields] at hmem
  exact absurd hmem (by decide)

end SolarFlowEms.Schedule
