import SolarFlowEms.Schedule.WallWindows

/-!
# Which windows a stream shows

Which windows the stream of a rule shows from a moment on, and whether it raises rather than ends,
said of the rule alone: of the days its repeat denotes, of the runs of empty periods before them,
and of where the calendar ends.

* `mem_wallWindows_iff` - the windows shown are those on the days that `Shows` says.
* `raised?_wallWindows` - the stream raises where `RunsOff` says.
* `windowsInAYear_eq_ok` - the windows of a year are counted where the stream does not run off
  within it, and their number is that of the days.
-/

namespace SolarFlowEms.Schedule

open Python Calendar TimeText Zones Generator Fallible

namespace Repeat

variable {r : Repeat} {first : Date}

variable {d : Date} {n : ℕ}

theorem denotes_iff (hcount : r.count = none) :
    r.Denotes first d ↔ r.Matches first d ∧ ¬ r.PastUntil d := by
  constructor
  · refine fun h => ⟨h.matching, ?_⟩
    rintro ⟨u, hu, hlt⟩
    have := h.by_until u hu
    omega
  · rintro ⟨hmatch, hnot⟩
    refine ⟨hmatch, fun u hu => ?_, fun c hc => ?_⟩
    · by_contra hlt
      exact hnot ⟨u, hu, Nat.lt_of_not_le hlt⟩
    · rw [hcount] at hc
      cases hc

theorem Denotes.of_le {e : Date} (h : r.Denotes first d) (he : r.Matches first e)
    (hle : e.ordinal ≤ d.ordinal) : r.Denotes first e := by
  refine ⟨he, fun u hu => hle.trans (h.by_until u hu), fun c hc => ?_⟩
  refine le_trans (Set.ncard_le_ncard ?_ (Set.toFinite _)) (h.by_count c hc)
  exact fun x hx => ⟨hx.1, hx.2.trans hle⟩

/-- A day of an expansion that starts with period `i`: it is denoted, and in a period inside the
calendar that no long run of empty ones comes before. -/
def GetsTo (r : Repeat) (first : Date) (i : ℕ) (d : Date) : Prop :=
  r.Denotes first d ∧
    ∃ k, i ≤ k ∧ r.FallsIn first k d ∧ ¬ r.Leaves first k ∧ r.UninterruptedFrom first i k

/-- An expansion that starts with period `i` comes to the end of the calendar. -/
def RunsOff (r : Repeat) (first : Date) (i : ℕ) : Prop :=
  ∃ k, i ≤ k ∧ r.Leaves first k ∧ (∀ j, i ≤ j → j < k → ¬ r.Leaves first j) ∧
    r.UninterruptedFrom first i k ∧
      ∀ j d, i ≤ j → j < k → r.FallsIn first j d → r.Denotes first d

variable {skipTo : Option Date}

theorem page_ok_iff (hfloat : ¬ r.FloatPosition) :
    (∃ days, (r.pager first skipTo).page n = .ok days) ↔
      ¬ r.Leaves first (r.startsWith first skipTo + n) :=
  candidates_ok_iff hfloat

theorem mem_page_iff (hsorted : r.Ordered) {days : List Date}
    (hpage : (r.pager first skipTo).page n = .ok days) :
    d ∈ days ↔ r.FallsIn first (r.startsWith first skipTo + n) d :=
  (candidates_spec hsorted hpage).2 d

theorem exists_getsTo_later_iff (hcount : r.count = none) (hsorted : r.Ordered)
    (hfloat : ¬ r.FloatPosition) {skip : Date} :
    (∃ before, (r.pager first (some skip)).GetsTo n before d) ↔
      r.Denotes first d ∧ r.FallsIn first (r.startIndex first skip + n) d ∧
        ¬ r.Leaves first (r.startIndex first skip + n) ∧
          r.UninterruptedFrom first (r.startIndex first skip) (r.startIndex first skip + n) := by
  constructor
  · rintro ⟨before, hgets⟩
    obtain ⟨hfalls, hnot⟩ := When.fallsIn_of_getsTo_later hcount hsorted hgets
    obtain ⟨after, hpage⟩ := hgets.page
    exact ⟨(denotes_iff hcount).mpr ⟨⟨_, hfalls⟩, hnot⟩, hfalls, (page_ok_iff hfloat).mp ⟨_, hpage⟩,
      (emptyRun_le_iff hsorted hgets.reaches.built).mp hgets.reaches.run_le⟩
  · rintro ⟨hdenotes, hfalls, hinside, hrun⟩
    have hbuilt : ∀ j ≤ n, ∃ days, (r.pager first (some skip)).page j = .ok days := by
      intro j hj
      exact (page_ok_iff hfloat).mpr (not_leaves_of_le hinside (Nat.add_le_add_left hj _))
    obtain ⟨days, hpage⟩ := hbuilt n le_rfl
    obtain ⟨before, after, rfl⟩ := List.append_of_mem ((mem_page_iff hsorted hpage).mpr hfalls)
    have hbuilt' : ∀ j < n, ∃ days, (r.pager first (some skip)).page j = .ok days :=
      fun j hj => hbuilt j hj.le
    have hgo : ∀ m e, e.ordinal ≤ d.ordinal → r.ends m e = false := by
      intro m e hle
      rw [Bool.eq_false_iff]
      intro h
      obtain ⟨u, hu, hlt⟩ := (ends_eq hcount m e).mp h
      exact ((denotes_iff hcount).mp hdenotes).2 ⟨u, hu, by omega⟩
    refine ⟨before, ⟨after, hpage⟩, ⟨hbuilt', ?_, fun i e hi => hgo _ e ?_⟩, fun i e hi => hgo _ e ?_⟩
    · exact (emptyRun_le_iff hsorted hbuilt').mpr hrun
    · obtain ⟨j, hj, days, hpage', he⟩ := Pager.mem_items.mp (List.mem_of_getElem? hi)
      exact (((mem_page_iff hsorted hpage').mp he).lt hfalls (Nat.add_lt_add_left hj _)).le
    · rcases List.mem_append.mp (List.mem_of_getElem? hi) with he | he
      · have hasc := (candidates_spec (k := r.startIndex first skip + n) hsorted hpage).1
        exact ((List.pairwise_append.mp hasc).2.2 e he d List.mem_cons_self).le
      · rw [List.mem_singleton.mp he]

theorem exists_getsTo_iff (hskip : skipTo = none ∨ r.count = none) (hsorted : r.Ordered)
    (hfloat : ¬ r.FloatPosition) :
    (∃ before, (r.pager first skipTo).GetsTo n before d) ↔
      r.Denotes first d ∧ r.FallsIn first (r.startsWith first skipTo + n) d ∧
        ¬ r.Leaves first (r.startsWith first skipTo + n) ∧
          r.UninterruptedFrom first (r.startsWith first skipTo) (r.startsWith first skipTo + n) := by
  cases skipTo with
  | none =>
    rw [startsWith, Option.map_none, Option.getD_none, Nat.zero_add, uninterruptedFrom_zero]
    constructor
    · rintro ⟨before, hgets⟩
      exact denotes_of_getsTo hsorted hfloat hgets
    · rintro ⟨hdenotes, hfalls, hinside, hrun⟩
      exact getsTo_of_denotes hsorted hfloat hdenotes hfalls hinside hrun
  | some skip =>
    obtain hnone | hcount := hskip
    · cases hnone
    · exact exists_getsTo_later_iff hcount hsorted hfloat

/-- **An expansion reaches a period** where those before it are inside the calendar, no run of
empty ones is too long, and their days are denoted. -/
theorem reaches_iff (hskip : skipTo = none ∨ r.count = none) (hsorted : r.Ordered)
    (hfloat : ¬ r.FloatPosition) {n : ℕ} : (r.pager first skipTo).Reaches n ↔
      (∀ j < n, ¬ r.Leaves first (r.startsWith first skipTo + j)) ∧
        r.UninterruptedFrom first (r.startsWith first skipTo) (r.startsWith first skipTo + n) ∧
          ∀ j < n, ∀ d, r.FallsIn first (r.startsWith first skipTo + j) d → r.Denotes first d := by
  constructor
  · intro h
    refine ⟨fun j hj => (page_ok_iff hfloat).mp (h.built j hj),
      (emptyRun_le_iff hsorted h.built).mp h.run_le, fun j hj d hd => ?_⟩
    obtain ⟨days, hpage⟩ := h.built j hj
    exact ((exists_getsTo_iff hskip hsorted hfloat).mp
      (h.getsTo hj hpage ((mem_page_iff hsorted hpage).mpr hd))).1
  · rintro ⟨hinside, hrun, hdenotes⟩
    have hbuilt : ∀ j < n, ∃ days, (r.pager first skipTo).page j = .ok days :=
      fun j hj => (page_ok_iff hfloat).mpr (hinside j hj)
    refine ⟨hbuilt, (emptyRun_le_iff hsorted hbuilt).mpr hrun, fun i d hi => ?_⟩
    obtain ⟨j, hj, days, hpage, hd⟩ := Pager.mem_items.mp (List.mem_of_getElem? hi)
    have hd := hdenotes j hj d ((mem_page_iff hsorted hpage).mp hd)
    cases skipTo with
    | none =>
      have hends := ends_eq_false.mpr ⟨hd.by_until, hd.by_count⟩
      rwa [ncard_items hsorted hbuilt hi] at hends
    | some skip =>
      obtain hnone | hcount := hskip
      · cases hnone
      · rw [Bool.eq_false_iff]
        exact fun h => ((denotes_iff hcount).mp hd).2 ((ends_eq hcount _ d).mp h)

end Repeat

/-! ### The days of a stream -/

namespace When

variable {w : When} {since : Moment}

/-- The period that the expansion from a moment on starts with; none where the day it skips to is
before the calendar. -/
def StartsWith (w : When) (r : Repeat) (since : Moment) (i : ℕ) : Prop :=
  ∃ skipTo, w.skipTo (some since) = .ok skipTo ∧ i = r.startsWith w.start.date skipTo

theorem daysFrom_eq {r : Repeat} (hr : w.repeat? = some r) {skipTo : Option Date}
    (hskip : w.skipTo (some since) = .ok skipTo) :
    (skipTo = none ∨ r.count = none) ∧ daysFrom w (some since) =
      (r.pager w.start.date skipTo).walkAt (maxOrdinal + 1) 0 := by
  have heq : daysFrom w (some since) = days w skipTo := by
    rw [daysFrom, hskip]
  rw [heq]
  cases hcount : r.count with
  | none =>
    refine ⟨.inr rfl, ?_⟩
    simp only [days, hr, hcount, Option.isNone_none, if_true]
  | some c =>
    rw [skipTo_eq_none fun r' hr' => ?_] at hskip
    · cases hskip
      exact ⟨.inl rfl, days_eq hr⟩
    · rw [hr] at hr'
      cases hr'
      rw [hcount]
      exact Option.some_ne_none c

theorem daysFrom_of_none (hr : w.repeat? = none) :
    daysFrom w (some since) = .yield w.start.date fun _ => .done := by
  have hskip : w.skipTo (some since) = .ok none := by
    apply skipTo_eq_none
    intro r hr'
    rw [hr] at hr'
    cases hr'
  rw [daysFrom, hskip]
  show days w none = _
  rw [days, hr]

/-- The expansion from a moment on comes to a day. -/
def GetsTo (w : When) (since : Moment) (d : Date) : Prop :=
  w.Denotes d ∧ ∀ r ∈ w.repeat?, ∃ i, w.StartsWith r since i ∧ r.GetsTo w.start.date i d

variable {d : Date} {a : Window} {year : Moment} {n : ℕ}

theorem mem_daysFrom_iff (h : w.IsWindow) :
    d ∈ (daysFrom w (some since)).yields ↔ w.GetsTo since d := by
  cases hr : w.repeat? with
  | none =>
    rw [daysFrom_of_none hr, GetsTo, Denotes, hr]
    simp
  | some r =>
    have hdenotes : w.Denotes d ↔ r.Denotes w.start.date d := by rw [Denotes, hr]
    have hall : w.GetsTo since d ↔ ∃ i, w.StartsWith r since i ∧ r.GetsTo w.start.date i d := by
      rw [GetsTo, hdenotes, hr]
      simp only [Option.mem_def, Option.some.injEq, forall_eq']
      refine ⟨fun h => h.2, fun h => ⟨?_, h⟩⟩
      obtain ⟨i, -, hgets⟩ := h
      exact hgets.1
    rw [hall]
    cases hskip : w.skipTo (some since) with
    | error e =>
      have hfrom : daysFrom w (some since) = .raises e := by
        rw [daysFrom, hskip]
      rw [hfrom]
      refine ⟨fun hmem => absurd hmem List.not_mem_nil, ?_⟩
      rintro ⟨i, ⟨skipTo, hok, -⟩, -⟩
      rw [hskip] at hok
      cases hok
    | ok skipTo =>
      obtain ⟨hnone, hfrom⟩ := daysFrom_eq hr hskip
      rw [hfrom, Pager.mem_yields_walkAt_iff (Pager.reaches_zero _)]
      simp only [Nat.zero_le, true_and, Nat.zero_add,
        Repeat.exists_getsTo_iff hnone (h.ordered r hr) (h.not_float r hr)]
      constructor
      · rintro ⟨n, -, hd, hfalls, hinside, hrun⟩
        exact ⟨_, ⟨skipTo, hskip, rfl⟩, hd, _, Nat.le_add_right _ n, hfalls, hinside, hrun⟩
      · rintro ⟨i, ⟨skipTo', hskip', rfl⟩, hd, k, hk, hfalls, hinside, hrun⟩
        rw [hskip] at hskip'
        cases hskip'
        obtain ⟨n, rfl⟩ := Nat.exists_eq_add_of_le hk
        refine ⟨n, ?_, hd, hfalls, hinside, hrun⟩
        by_contra hlarge
        exact hinside (Repeat.leaves_of_le r w.start.date (by omega))

/-- The expansion from a moment on raises: at the day it skips to, or where the calendar ends. -/
def DaysRunOff (w : When) (since : Moment) : Prop :=
  ∃ r ∈ w.repeat?, (∀ i, ¬ w.StartsWith r since i) ∨
    ∃ i, w.StartsWith r since i ∧ r.RunsOff w.start.date i

theorem raised?_daysFrom (h : w.IsWindow) :
    (daysFrom w (some since)).raised?.isSome ↔ w.DaysRunOff since := by
  cases hr : w.repeat? with
  | none =>
    rw [daysFrom_of_none hr, DaysRunOff, hr]
    simp [Trace.raised?]
  | some r =>
    rw [DaysRunOff, hr]
    simp only [Option.mem_def, Option.some.injEq, exists_eq_left']
    cases hskip : w.skipTo (some since) with
    | error e =>
      have hfrom : daysFrom w (some since) = .raises e := by
        rw [daysFrom, hskip]
      rw [hfrom]
      refine iff_of_true rfl (.inl ?_)
      rintro i ⟨skipTo, hok, -⟩
      rw [hskip] at hok
      cases hok
    | ok skipTo =>
      obtain ⟨hnone, hfrom⟩ := daysFrom_eq hr hskip
      have hfloat := h.not_float r hr
      have hreaches {n : ℕ} := @Repeat.reaches_iff r w.start.date skipTo hnone (h.ordered r hr) hfloat n
      rw [hfrom]
      constructor
      · intro hraised
        obtain ⟨e, he⟩ := Option.isSome_iff_exists.mp hraised
        obtain ⟨n, -, -, hn, hpage⟩ := Pager.reaches_of_raised? (Pager.reaches_zero _) he
        obtain ⟨hinside, hrun, hdenotes⟩ := hreaches.mp hn
        have hleaves : r.Leaves w.start.date (r.startsWith w.start.date skipTo + n) := by
          by_contra hin
          obtain ⟨days, hdays⟩ := (Repeat.page_ok_iff hfloat).mpr hin
          rw [hpage] at hdays
          cases hdays
        refine .inr ⟨_, ⟨skipTo, hskip, rfl⟩, _, Nat.le_add_right _ n, hleaves, ?_, hrun, ?_⟩
        · intro j hij hj
          obtain ⟨m, rfl⟩ := Nat.exists_eq_add_of_le hij
          exact hinside m (by omega)
        · intro j d hij hj hd
          obtain ⟨m, rfl⟩ := Nat.exists_eq_add_of_le hij
          exact hdenotes m (by omega) d hd
      · rintro (hno | ⟨i, ⟨skipTo', hskip', rfl⟩, k, hk, hleaves, hinside, hrun, hdenotes⟩)
        · exact absurd ⟨skipTo, hskip, rfl⟩ (hno _)
        · rw [hskip] at hskip'
          cases hskip'
          obtain ⟨n, rfl⟩ := Nat.exists_eq_add_of_le hk
          have hn := hreaches.mpr ⟨fun j hj => hinside _ (Nat.le_add_right _ j) (by omega), hrun,
            fun j hj d hd => hdenotes _ d (Nat.le_add_right _ j) (by omega) hd⟩
          have hlt : n < maxOrdinal + 1 := by
            by_contra hlarge
            exact hinside _ (Nat.le_add_right _ maxOrdinal) (by omega)
              (Repeat.leaves_of_le r w.start.date (Nat.le_add_left _ _))
          cases hpage : (r.pager w.start.date skipTo).page n with
          | ok days => exact absurd hleaves ((Repeat.page_ok_iff hfloat).mp ⟨days, hpage⟩)
          | error e =>
            rw [Pager.walkAt_zero_raises hlt hn hpage, Trace.raised?_yieldAll]
            rfl

theorem date_onDay (t : LocalTime) (d : Date) : (t.onDay d).date = d := by
  have hminute := t.minuteOfDay_lt
  have hone := d.one_le
  apply Date.ext_ordinal
  show ((d.ordinal - 1) * minutesPerDay + t.minuteOfDay) / minutesPerDay + 1 = d.ordinal
  simp only [minutesPerDay] at hminute ⊢
  omega

/-! ### The windows of a stream -/

/-- **The stream from a moment on shows the window on a day**: the expansion comes to the day, it
is not skipped, and its window is not over before that moment and ends inside the calendar. -/
structure Shows (w : When) (since : Moment) (d : Date) : Prop where
  getsTo : w.GetsTo since d
  kept : d ∉ w.exceptions
  ends : w.EndsFrom since d
  built : w.endMinutes d < maxOrdinal * minutesPerDay

/-- **The stream raises** rather than ends: the expansion does, or it comes to a day whose window
ends behind the calendar. -/
def RunsOff (w : When) (since : Moment) : Prop :=
  w.DaysRunOff since ∨ ∃ d, w.GetsTo since d ∧ maxOrdinal * minutesPerDay ≤ w.endMinutes d

theorem endMinutes_lt (w : When) {e : Date} (h : d.ordinal < e.ordinal) :
    w.endMinutes d < w.endMinutes e := by
  have := w.startMinutes_lt h
  rw [endMinutes, endMinutes]
  omega

theorem exists_isOn (w : When) (h : w.endMinutes d < maxOrdinal * minutesPerDay) :
    ∃ a, w.IsOn a d := ⟨⟨w.start.onDay d, ⟨w.endMinutes d, h⟩⟩, rfl, rfl⟩

theorem mem_wallWindowsOn_of_mem (h : w.IsWindow) {trace : Trace Date PyException}
    (hasc : Ascending trace.yields) (hd : d ∈ trace.yields)
    (hon : w.IsOn a d) (hkept : d ∉ w.exceptions) (hends : w.EndsFrom since d) :
    a ∈ (wallWindowsOn w since trace).yields := by
  have hlt := a.finish.lt
  rw [hon.finish] at hlt
  induction trace with
  | done | raises e => cases hd
  | yield day rest ih =>
    obtain ⟨hafter, hrest⟩ := List.pairwise_cons.mp hasc
    rw [wallWindowsOn]
    split
    · next e hend =>
      have hle : w.endMinutes day ≤ w.endMinutes d := by
        rcases List.mem_cons.mp hd with rfl | hd
        · exact le_rfl
        · exact (w.endMinutes_lt (hafter d hd)).le
      have hends : w.wallEnd day = .ok ⟨w.endMinutes day, by omega⟩ := h.wallEnd_eq_ok.mpr rfl
      rw [hends] at hend
      cases hend
    · next finish hfinish =>
      have hend := h.wallEnd_eq_ok.mp hfinish
      rcases List.mem_cons.mp hd with rfl | hd
      · have hnot : ¬ ((ofLocal finish).micros < since.micros ∨ d ∈ w.exceptions) := by
          rw [not_or, Nat.not_lt]
          refine ⟨?_, hkept⟩
          show since.micros ≤ finish.minutes * microsPerMinute
          rw [hend]
          exact hends
        rw [if_neg hnot]
        have heq : a = ⟨w.start.onDay d, finish⟩ := by
          obtain ⟨start, ⟨minutes, hminutes⟩⟩ := a
          obtain rfl := hon.start
          obtain ⟨minutes', hminutes'⟩ := finish
          have hsame : minutes = minutes' := hon.finish.trans hend.symm
          subst hsame
          rfl
        rw [heq]
        exact List.mem_cons_self
      · have hmem := ih () hrest hd
        split
        · exact hmem
        · exact List.mem_cons_of_mem _ hmem

theorem raised?_wallWindowsOn (h : w.IsWindow) (trace : Trace Date PyException) :
    (wallWindowsOn w since trace).raised?.isSome ↔ trace.raised?.isSome ∨
      ∃ d ∈ trace.yields, maxOrdinal * minutesPerDay ≤ w.endMinutes d := by
  induction trace with
  | done | raises e => simp [wallWindowsOn, Trace.raised?]
  | yield day rest ih =>
    rw [Trace.raised?_yield, Trace.yields_yield, List.exists_mem_cons_iff, wallWindowsOn]
    split
    · next e hend =>
      refine iff_of_true rfl (.inr (.inl ?_))
      by_contra hlt
      have hends : w.wallEnd day = .ok ⟨w.endMinutes day, by omega⟩ := h.wallEnd_eq_ok.mpr rfl
      rw [hends] at hend
      cases hend
    · next finish hfinish =>
      have hlt := finish.lt
      rw [h.wallEnd_eq_ok.mp hfinish] at hlt
      rw [or_iff_right (Nat.not_le.mpr hlt), ← ih ()]
      split
      · rfl
      · rw [Trace.raised?_yield]

/-- **The windows of a stream** are those on the days it shows. -/
theorem mem_wallWindows_iff (h : w.IsWindow) {a : Window} :
    a ∈ (wallWindows w since).yields ↔ ∃ d, w.Shows since d ∧ w.IsOn a d := by
  constructor
  · intro ha
    obtain ⟨d, hd, hon, hkept, hends⟩ := mem_wallWindowsOn h ha
    have hlt := a.finish.lt
    rw [hon.finish] at hlt
    exact ⟨d, ⟨(mem_daysFrom_iff h).mp hd, hkept, hends, hlt⟩, hon⟩
  · rintro ⟨d, hshows, hon⟩
    exact mem_wallWindowsOn_of_mem h (ascending_daysFrom h since)
      ((mem_daysFrom_iff h).mpr hshows.getsTo) hon hshows.kept hshows.ends

theorem raised?_wallWindows (h : w.IsWindow) :
    (wallWindows w since).raised?.isSome ↔ w.RunsOff since := by
  rw [wallWindows, raised?_wallWindowsOn h, RunsOff, raised?_daysFrom h]
  simp only [mem_daysFrom_iff h]

/-- A stream shows a day with `p`, or does not raise. -/
theorem comesTo_wallWindows (h : w.IsWindow) {p : Window → Prop} {q : Date → Prop}
    (hpq : ∀ a d, w.IsOn a d → (p a ↔ q d)) :
    ComesTo p (wallWindows w since) ↔ (w.RunsOff since → ∃ d, w.Shows since d ∧ q d) := by
  have hsome : (∃ a ∈ (wallWindows w since).yields, p a) ↔ ∃ d, w.Shows since d ∧ q d := by
    simp only [mem_wallWindows_iff h]
    constructor
    · rintro ⟨a, ⟨d, hd, hon⟩, ha⟩
      exact ⟨d, hd, (hpq a d hon).mp ha⟩
    · rintro ⟨d, hd, hq⟩
      obtain ⟨a, hon⟩ := w.exists_isOn hd.built
      exact ⟨a, ⟨d, hd, hon⟩, (hpq a d hon).mpr hq⟩
  rw [ComesTo, hsome, ← raised?_wallWindows h, or_comm]
  cases (wallWindows w since).raised? <;> simp

theorem Shows.hasWindow (h : w.Shows since d) : w.HasWindow d := ⟨h.getsTo.1, h.kept⟩

theorem startsWith_le (h : w.IsWindow) {r : Repeat} (hr : w.repeat? = some r) {i k : ℕ}
    (hi : w.StartsWith r since i) (hfalls : r.FallsIn w.start.date k d) (hends : w.EndsFrom since d) :
    i ≤ k := by
  obtain ⟨skipTo, hskip, rfl⟩ := hi
  cases skipTo with
  | none => exact Nat.zero_le k
  | some skip =>
    have hcount : r.count = none := (daysFrom_eq hr hskip).1.resolve_left (Option.some_ne_none skip)
    have hs : w.span + 2 * microsPerDay ≤ since.micros := by
      by_contra hlt
      rw [skipTo_before_calendar hr hcount (Nat.lt_of_not_le hlt)] at hskip
      cases hskip
    obtain ⟨skip', hskip', hover⟩ := skipTo_eq_some hr hcount hs
    rw [hskip] at hskip'
    cases hskip'
    by_contra hlt
    have hbefore := hfalls.lt_skip (Nat.lt_of_not_le hlt)
    have hle := skip_le_of_endsFrom h hends (hover d)
    omega

/-- **The stream of a pattern misses no window** that ends from the moment on: it shows it, or
raises behind earlier ones. -/
theorem shows_or_runsOff (h : w.IsWindow) {p : ℕ} (hp : w.patternDays = some p)
    (hd : w.HasWindow d) (hends : w.EndsFrom since d) :
    w.Shows since d ∨ w.RunsOff since ∧ ∀ e, w.Shows since e → e.ordinal < d.ordinal := by
  obtain ⟨r, hr, hpattern⟩ := hasPattern_of_patternDays hp
  have hdenotes : r.Denotes w.start.date d := by
    have hdenotes := hd.denotes
    rwa [Denotes, hr] at hdenotes
  obtain ⟨k, hfalls⟩ := hdenotes.matching
  have hno := Repeat.noLongRun_of_hasPattern hpattern ⟨d, k, hfalls⟩
  by_cases hstarts : ∃ i, w.StartsWith r since i
  · obtain ⟨i, hi⟩ := hstarts
    have hik := startsWith_le h hr hi hfalls hends
    by_cases hleaves : r.Leaves w.start.date k
    · -- The first period that is not inside the calendar is come to.
      have hex : ∃ n, i ≤ n ∧ r.Leaves w.start.date n := ⟨k, hik, hleaves⟩
      classical
      obtain ⟨hin, hn⟩ := Nat.find_spec hex
      have hmin := fun j (hj : j < Nat.find hex) => Nat.find_min hex hj
      have hnk := Nat.find_min' hex ⟨hik, hleaves⟩
      generalize Nat.find hex = n at hmin hin hn hnk
      have hinside : ∀ j, i ≤ j → j < n → ¬ r.Leaves w.start.date j :=
        fun j hij hj hj' => hmin j hj ⟨hij, hj'⟩
      refine .inr ⟨.inl ⟨r, hr, .inr ⟨i, hi, n, hin, hn, hinside, ?_, ?_⟩⟩, fun e he => ?_⟩
      · exact fun s hs hlt => hno s (hinside _ (by omega) hlt)
      · exact fun j e _ hj he => hdenotes.of_le ⟨j, he⟩ (he.lt hfalls (by omega)).le
      · obtain ⟨-, j, -, hej, hin', -⟩ := (he.getsTo.2 r hr).choose_spec.2
        have hjn : j < n := by
          by_contra hle
          exact Repeat.not_leaves_of_le hin' (Nat.le_of_not_lt hle) hn
        exact hej.lt hfalls (by omega)
    · have hgets : w.GetsTo since d := by
        refine ⟨hd.denotes, fun r' hr' => ?_⟩
        rw [hr] at hr'
        cases hr'
        refine ⟨i, hi, hdenotes, k, hik, hfalls, hleaves, fun s _ hlt => ?_⟩
        exact hno s (Repeat.not_leaves_of_le hleaves hlt.le)
      by_cases hbuilt : w.endMinutes d < maxOrdinal * minutesPerDay
      · exact .inl ⟨hgets, hd.kept, hends, hbuilt⟩
      · refine .inr ⟨.inr ⟨d, hgets, Nat.le_of_not_lt hbuilt⟩, fun e he => ?_⟩
        by_contra hle
        have hbuilt' := he.built
        obtain hlt | heq := (Nat.le_of_not_lt hle).lt_or_eq
        · have := w.endMinutes_lt hlt
          omega
        · rw [Date.ext_ordinal heq] at hbuilt
          exact hbuilt hbuilt'
  · refine .inr ⟨.inl ⟨r, hr, .inl fun i hi => hstarts ⟨i, hi⟩⟩, fun e he => ?_⟩
    obtain ⟨i, hi, -⟩ := he.getsTo.2 r hr
    exact absurd ⟨i, hi⟩ hstarts

/-! ### The windows of a year -/

def startMicros (w : When) (d : Date) : ℕ := w.startMinutes d * microsPerMinute

/-- The windows of a year can be counted. -/
def CountsAYear (w : When) (since : Moment) : Prop :=
  w.RunsOff since → ∃ d, w.Shows since d ∧ since.micros + aYear < w.startMicros d

/-- The number of days of a year that a stream shows. -/
noncomputable def yearCount (w : When) (since : Moment) : ℕ :=
  Set.ncard {d | w.Shows since d ∧ w.startMicros d ≤ since.micros + aYear}

theorem isBehind_iff_startMicros (h : w.IsOn a d) {until_ : Moment} :
    isBehind a.start until_ = true ↔ until_.micros < w.startMicros d := by
  rw [isBehind_iff, h.start_eq, startMicros]

theorem startsInAYear_yield (since : Moment) (a : Window)
    (rest : Unit → Trace Window PyException) :
    startsInAYear since (.yield a rest) = (since.shift aYear >>= fun year =>
      if isBehind a.start year then pure 0
      else startsInAYear since (rest ()) >>= fun m => pure (m + 1)) := by
  rw [startsInAYear]

theorem startsInAYear_eq_ok (hyear : since.shift aYear = .ok year)
    {stream : Trace Window PyException} (hs : InOrder stream.yields) :
    startsInAYear since stream = .ok n ↔ ComesTo (fun a => isBehind a.start year = true) stream ∧
      n = (stream.yields.filter fun a => !isBehind a.start year).length := by
  induction stream generalizing n with
  | done =>
    rw [startsInAYear, and_iff_right (show ComesTo _ Trace.done from .inr rfl)]
    exact ⟨fun h => (Except.ok.inj h).symm, fun h => congrArg Except.ok h.symm⟩
  | raises e =>
    refine ⟨nofun, ?_⟩
    rintro ⟨⟨a, ha, -⟩ | hnone, -⟩
    · cases ha
    · cases hnone
  | yield a rest ih =>
    have hyield : ∀ f : Moment → Except PyException ℕ, (since.shift aYear >>= f) = f year := by
      intro f
      rw [hyear]
      rfl
    rw [startsInAYear_yield, hyield]
    cases hbehind : isBehind a.start year with
    | true =>
      have hall : ∀ c ∈ a :: (rest ()).yields, ¬ (!isBehind c.start year) = true := by
        intro c hc
        simp [isBehind_mono hbehind (hs.head_le hc).1]
      have hcomes : ComesTo (fun a => isBehind a.start year = true) (.yield a rest) :=
        .inl ⟨a, List.mem_cons_self, hbehind⟩
      rw [if_pos rfl, Trace.yields_yield, List.filter_eq_nil_iff.mpr hall, and_iff_right hcomes]
      exact ⟨fun h => (Except.ok.inj h).symm, fun h => congrArg Except.ok h.symm⟩
    | false =>
      rw [if_neg (by decide), comesTo_yield (by rw [hbehind]; decide), Trace.yields_yield,
        List.filter_cons_of_pos (by rw [hbehind]; rfl), List.length_cons]
      constructor
      · intro h
        obtain ⟨m, hm, hret⟩ := bind_eq_ok.mp h
        cases hret
        obtain ⟨hcomes, rfl⟩ := (ih () hs.tail).mp hm
        exact ⟨hcomes, rfl⟩
      · rintro ⟨hcomes, rfl⟩
        exact bind_eq_ok.mpr ⟨_, (ih () hs.tail).mpr ⟨hcomes, rfl⟩, rfl⟩

theorem sublist_wallWindowsOn (trace : Trace Date PyException) :
    ((wallWindowsOn w since trace).yields.map (·.start.date)).Sublist trace.yields := by
  induction trace with
  | done | raises e => exact List.Sublist.slnil
  | yield day rest ih =>
    rw [wallWindowsOn]
    split
    · exact List.nil_sublist _
    · split
      · exact (ih ()).cons _
      · rw [Trace.yields_yield, List.map_cons, date_onDay]
        exact (ih ()).cons_cons _

/-- **The windows of a year are counted** as the days on which they are. -/
theorem windowsInAYear_eq_ok (h : w.IsWindow) (hyear : since.shift aYear = .ok year) :
    windowsInAYear w since = .ok n ↔ w.CountsAYear since ∧ n = w.yearCount since := by
  have hmicros : year.micros = since.micros + aYear := by
    have := Moment.shift_eq_ok.mp hyear
    omega
  have hbehind (a : Window) (d : Date) (hon : w.IsOn a d) :
      isBehind a.start year = true ↔ since.micros + aYear < w.startMicros d := by
    rw [isBehind_iff_startMicros hon, hmicros]
  rw [windowsInAYear, startsInAYear_eq_ok hyear (inOrder_wallWindows h since),
    comesTo_wallWindows h hbehind, CountsAYear]
  have hcount : ((wallWindows w since).yields.filter fun a => !isBehind a.start year).length =
      w.yearCount since := by
    have hnodup : (((wallWindows w since).yields.filter fun a => !isBehind a.start year).map
        (·.start.date)).Nodup := by
      refine List.Nodup.sublist (List.filter_sublist.map _) ?_
      exact (ascending_daysFrom h since).nodup.sublist (sublist_wallWindowsOn _)
    rw [← List.length_map (·.start.date), ← List.toFinset_card_of_nodup hnodup,
      ← Set.ncard_coe_finset, yearCount]
    refine congrArg Set.ncard (Set.ext fun d => ?_)
    rw [List.coe_toFinset, Set.mem_ofPred_eq, Set.mem_ofPred_eq, List.mem_map]
    constructor
    · rintro ⟨a, ha, rfl⟩
      obtain ⟨ha, hnot⟩ := List.mem_filter.mp ha
      obtain ⟨d, hd, hon⟩ := (mem_wallWindows_iff h).mp ha
      rw [show a.start.date = d by rw [hon.start, date_onDay]]
      refine ⟨hd, ?_⟩
      by_contra hlt
      rw [(hbehind a d hon).mpr (Nat.lt_of_not_le hlt)] at hnot
      cases hnot
    · rintro ⟨hd, hle⟩
      obtain ⟨a, hon⟩ := w.exists_isOn hd.built
      refine ⟨a, List.mem_filter.mpr ⟨(mem_wallWindows_iff h).mpr ⟨d, hd, hon⟩, ?_⟩, ?_⟩
      · rw [Bool.not_eq_true', Bool.eq_false_iff]
        exact fun hb => Nat.not_le.mpr ((hbehind a d hon).mp hb) hle
      · rw [hon.start, date_onDay]
  rw [hcount]

end When

end SolarFlowEms.Schedule
