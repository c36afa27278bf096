import SolarFlowEms.Schedule.Denotation

/-!
# The days of a period

What building a period finds: a period that can be built holds exactly the days the repeat
denotes in it, ascending.  The days of a month are shown first, by their numbers, by their
weekdays and at a set position, and then the periods of each frequency.
-/

namespace SolarFlowEms.Schedule

open Python Calendar Fallible

/-! ### Dates of a month -/

variable {year month : ℕ} {d : Date} {numbers : List ℕ} {dates : List Date}

theorem makeDate_eq_ok {day : ℕ} :
    makeDate year month day = .ok d ↔ d.year = year ∧ d.month = month ∧ d.day = day := by
  constructor
  · intro h
    rw [makeDate] at h
    split at h
    · next d' hd =>
      cases h
      exact Date.ymd_of_ofYMD? hd
    · cases h
  · rintro ⟨rfl, rfl, rfl⟩
    rw [makeDate, Date.ofYMD?_ymd]

theorem shiftDate_eq_ok {day : Date} {n : ℤ} :
    shiftDate day n = .ok d ↔ (d.ordinal : ℤ) = day.ordinal + n := by
  refine ⟨Repeat.ordinal_of_shiftDate, fun h => ?_⟩
  rw [shiftDate, Date.addDays?_eq_some.mpr h]

theorem mem_of_mapM_makeDate (h : numbers.mapM (makeDate year month) = .ok dates) :
    d ∈ dates ↔ d.year = year ∧ d.month = month ∧ d.day ∈ numbers := by
  constructor
  · intro hd
    obtain ⟨n, hn, hmake⟩ := exists_item_of_mapM_eq_ok h hd
    obtain ⟨hy, hm, rfl⟩ := makeDate_eq_ok.mp hmake
    exact ⟨hy, hm, hn⟩
  · rintro ⟨hy, hm, hn⟩
    obtain ⟨e, he, hmake⟩ := exists_mem_of_mapM_eq_ok h hn
    obtain ⟨hy', hm', hd'⟩ := makeDate_eq_ok.mp hmake
    rwa [Date.ext_ymd (hy.trans hy'.symm) (hm.trans hm'.symm) hd'.symm]

theorem ascending_of_mapM_makeDate
    (h : numbers.mapM (makeDate year month) = .ok dates) (hnumbers : numbers.Pairwise (· < ·)) :
    Ascending dates := by
  refine pairwise_of_mapM_eq_ok h hnumbers fun n _ n' _ hlt d e hd he => ?_
  obtain ⟨hy, hm, rfl⟩ := makeDate_eq_ok.mp hd
  obtain ⟨hy', hm', rfl⟩ := makeDate_eq_ok.mp he
  exact (Date.ordinal_lt_iff_day_lt (hy.trans hy'.symm) (hm.trans hm'.symm)).mpr hlt

theorem mem_range'_daysInMonth (hy : d.year = year)
    (hm : d.month = month) : d.day ∈ List.range' 1 (daysInMonth year month) := by
  obtain ⟨-, -, -, -, h₁, h₂⟩ := d.valid
  rw [hy, hm] at h₂
  rw [List.mem_range'_1]
  omega

namespace Repeat

variable {r : Repeat} {first : Date}

/-! ### The days of a month -/

variable {matching all : List Date} {year month k : ℕ} {d : Date}

theorem monthMate_iff
    (hmem : ∀ e, e ∈ matching ↔ e.year = year ∧ e.month = month ∧ e.weekday ∈ r.byWeekday)
    (hd : d ∈ matching) (e : Date) : r.MonthMate d e ↔ e ∈ matching := by
  obtain ⟨hy, hm, -⟩ := (hmem d).mp hd
  rw [hmem, MonthMate, hy, hm]

theorem atSetPos_spec {days : List Date} (hasc : Ascending matching)
    (hmem : ∀ e, e ∈ matching ↔ e.year = year ∧ e.month = month ∧ e.weekday ∈ r.byWeekday)
    (h : r.atSetPos matching = .ok days) :
    Ascending days ∧ ∀ d, d ∈ days ↔ d ∈ matching ∧ r.AtPosition d := by
  rw [atSetPos.eq_def] at h
  split at h
  · next hpos =>
    cases h
    refine ⟨hasc, fun d => ⟨fun hd => ⟨hd, ?_⟩, fun hd => hd.1⟩⟩
    intro pos hp
    rw [hpos] at hp
    cases hp
  · next position isFloat hset hpos =>
    have hpick : ∀ d, pyIndex matching (if 0 < position then position - 1 else position) = some d ↔
        d ∈ matching ∧ r.AtPosition d := by
      intro d
      have hat : d ∈ matching → (r.AtPosition d ↔
          if position = -1 then ∀ e ∈ matching, e.ordinal ≤ d.ordinal
          else (Set.ncard {e | e ∈ matching ∧ e.ordinal ≤ d.ordinal} : ℤ) = position) := by
        intro hd
        rw [AtPosition, hpos]
        simp only [Option.mem_some_iff, forall_eq', monthMate_iff hmem hd]
      rw [and_congr_right hat]
      simp only [setPositions, List.mem_cons, List.not_mem_nil, or_false] at hset
      by_cases hlast : position = -1
      · rw [if_neg (by omega), if_pos hlast, ← hasc.getLast?_eq_some_iff,
          List.getLast?_eq_getElem?, hlast, pyIndex, if_pos (by omega)]
        cases hmatching : matching with
        | nil => simp
        | cons e es =>
          rw [if_neg (by rw [List.length_cons]; omega)]
          have hindex : ((((e :: es).length : ℕ) : ℤ) + -1).toNat = (e :: es).length - 1 := by omega
          rw [hindex]
      · have hcard : (∃ n : ℕ, position = n + 1) := ⟨(position - 1).toNat, by omega⟩
        obtain ⟨n, rfl⟩ := hcard
        have hcast : ∀ m : ℕ, (m : ℤ) = n + 1 ↔ m = n + 1 := fun m => by omega
        rw [if_pos (by omega), if_neg hlast, hcast, ← hasc.getElem?_eq_some_iff, pyIndex,
          if_neg (by omega), Int.add_sub_cancel, Int.toNat_natCast]
    dsimp only at h
    split at h
    · next hnone =>
      cases h
      refine ⟨List.Pairwise.nil, fun d => ⟨fun hd => absurd hd List.not_mem_nil, fun hd => ?_⟩⟩
      have := (hpick d).mpr hd
      rw [hnone] at this
      cases this
    · next day hday =>
      split at h
      · cases h
      · cases h
        refine ⟨List.pairwise_singleton _ _, fun d => ?_⟩
        rw [List.mem_singleton, ← hpick, hday, Option.some_inj, eq_comm]

theorem monthDays_spec {days : List Date} (h : r.monthDays first year month = .ok days) :
    Ascending days ∧
      ∀ d, d ∈ days ↔ d.year = year ∧ d.month = month ∧ r.OnMonthDay first d := by
  rw [monthDays] at h
  dsimp only at h
  have hrange : (List.range' 1 (daysInMonth year month)).Pairwise (· < ·) :=
    List.pairwise_lt_range'
  split at h
  · next hlisted =>
    refine ⟨ascending_of_mapM_makeDate h (List.Pairwise.filter _ hrange), fun d => ?_⟩
    rw [mem_of_mapM_makeDate h]
    refine and_congr_right fun hy => and_congr_right fun hm => ?_
    have hone := d.valid.2.2.2.2.1
    rw [OnMonthDay, if_pos hlisted, List.mem_filter, decide_eq_true_iff,
      and_iff_right (mem_range'_daysInMonth hy hm), hy, hm, List.mem_map]
    constructor
    · rintro ⟨value, hvalue, heq⟩
      split at heq
      · next hlast => exact .inr ⟨hlast ▸ hvalue, by omega⟩
      · exact .inl (heq ▸ hvalue)
    · rintro (hday | ⟨hlast, hday⟩)
      · exact ⟨d.day, hday, if_neg (by omega)⟩
      · exact ⟨-1, hlast, by rw [if_pos rfl, hday]⟩
  · next hunlisted =>
    split at h
    · next hweekdays =>
      obtain ⟨dates, hdates, hat⟩ := bind_eq_ok.mp h
      have hmem : ∀ e, e ∈ (dates.filter fun day => decide (day.weekday ∈ r.byWeekday)) ↔
          e.year = year ∧ e.month = month ∧ e.weekday ∈ r.byWeekday := by
        intro e
        rw [List.mem_filter, decide_eq_true_iff, mem_of_mapM_makeDate hdates]
        constructor
        · rintro ⟨⟨hy, hm, -⟩, hw⟩
          exact ⟨hy, hm, hw⟩
        · rintro ⟨hy, hm, hw⟩
          exact ⟨⟨hy, hm, mem_range'_daysInMonth hy hm⟩, hw⟩
      obtain ⟨hasc, hspec⟩ := atSetPos_spec
        ((ascending_of_mapM_makeDate hdates hrange).filter _) hmem hat
      refine ⟨hasc, fun d => ?_⟩
      rw [hspec, hmem, OnMonthDay, if_neg hunlisted, if_pos hweekdays, and_assoc, and_assoc]
    · next hno =>
      have honly : ∀ d, r.OnMonthDay first d ↔ d.day = first.day := by
        intro d
        rw [OnMonthDay, if_neg hunlisted, if_neg hno]
      split at h
      · obtain ⟨e, he, hret⟩ := bind_eq_ok.mp h
        cases hret
        refine ⟨List.pairwise_singleton _ _, fun d => ?_⟩
        rw [List.mem_singleton, honly, ← makeDate_eq_ok, he]
        exact ⟨fun heq => by rw [heq], fun heq => (Except.ok.inj heq).symm⟩
      · next hlong =>
        cases h
        refine ⟨List.Pairwise.nil, fun d => ⟨fun hd => absurd hd List.not_mem_nil, ?_⟩⟩
        rintro ⟨hy, hm, hday⟩
        have hle := d.valid.2.2.2.2.2
        rw [hy, hm, (honly d).mp hday] at hle
        exact absurd hle hlong

/-! ### The periods -/

/-- The weekdays and months of a repeat are in order, as reading leaves them. -/
structure Ordered (r : Repeat) : Prop where
  byWeekday : r.byWeekday.Pairwise (· < ·)
  byMonth : r.byMonth.Pairwise (· < ·)

/-- The filters behind every period. -/
def passes (r : Repeat) (d : Date) : Bool :=
  (r.byMonth = [] ∨ d.month ∈ r.byMonth) ∧
    (r.freq ≠ .daily ∨ r.byWeekday = [] ∨ d.weekday ∈ r.byWeekday)

/-- The days of a period before the filters. -/
def unfiltered (r : Repeat) (first period : Date) : Except PyException (List Date) :=
  match r.freq with
  | .daily => .ok [period]
  | .weekly => (r.weekdays first).mapM fun weekday : ℕ => shiftDate period weekday
  | .monthly => r.monthDays first period.year period.month
  | .yearly =>
    List.flatten <$> (if r.byMonth = [] then [first.month] else r.byMonth).mapM
      (r.monthDays first period.year)

theorem passes_of_freq {r : Repeat} {freq : Freq} (h : r.freq = freq) :
    r.passes = fun d => decide ((r.byMonth = [] ∨ d.month ∈ r.byMonth) ∧
      (freq ≠ .daily ∨ r.byWeekday = [] ∨ d.weekday ∈ r.byWeekday)) := by
  funext d
  simp only [passes, h]

theorem periodDays_eq (r : Repeat) (first period : Date) : r.periodDays first period =
    (do return (← r.unfiltered first period).filter r.passes) := by
  rw [periodDays, unfiltered]
  cases hfreq : r.freq with
  | daily => rw [passes_of_freq hfreq]
  | weekly =>
    rw [passes_of_freq hfreq]
    rfl
  | monthly | yearly => rw [passes_of_freq hfreq]

theorem candidates_eq_ok {days : List Date} (h : r.candidates first k = .ok days) :
    ∃ period all, r.period first k = .ok period ∧ r.unfiltered first period = .ok all ∧
      days = (all.filter r.passes).filter fun d => first.ordinal ≤ d.ordinal := by
  rw [candidates] at h
  obtain ⟨period, hperiod, h⟩ := bind_eq_ok.mp h
  obtain ⟨filtered, hfiltered, h⟩ := bind_eq_ok.mp h
  rw [periodDays_eq] at hfiltered
  obtain ⟨all, hall, hfiltered⟩ := bind_eq_ok.mp hfiltered
  cases h
  cases hfiltered
  exact ⟨period, all, hperiod, hall, rfl⟩

theorem unfiltered_daily (hfreq : r.freq = .daily) {period : Date}
    (hperiod : r.period first k = .ok period) (hall : r.unfiltered first period = .ok all) :
    Ascending all ∧ ∀ d, d ∈ all ↔ d.ordinal = first.ordinal + k * r.interval := by
  simp only [Repeat.period, hfreq] at hperiod
  simp only [unfiltered, hfreq] at hall
  cases hall
  have hordinal := shiftDate_eq_ok.mp hperiod
  refine ⟨List.pairwise_singleton _ _, fun d => ?_⟩
  rw [List.mem_singleton]
  constructor
  · rintro rfl
    omega
  · intro hd
    apply Date.ext_ordinal
    omega

theorem unfiltered_weekly (hsorted : r.Ordered) (hfreq : r.freq = .weekly)
    {period : Date} (hperiod : r.period first k = .ok period)
    (hall : r.unfiltered first period = .ok all) :
    Ascending all ∧ ∀ d, d ∈ all ↔
      d.weekNumber = first.weekNumber + k * r.interval ∧ d.weekday ∈ r.weekdays first := by
  simp only [Repeat.period, hfreq] at hperiod
  simp only [unfiltered, hfreq] at hall
  have hordinal := shiftDate_eq_ok.mp hperiod
  have hfirst := first.ordinal_eq_week
  have hweekdays : (r.weekdays first).Pairwise (· < ·) ∧ ∀ w ∈ r.weekdays first, w < 7 := by
    rw [weekdays]
    split
    · refine ⟨List.pairwise_singleton _ _, fun w hw => ?_⟩
      rw [List.mem_singleton.mp hw]
      exact first.weekday_lt
    · exact ⟨hsorted.byWeekday, r.weekday_range⟩
  -- The period begins on the Monday of its week.
  have hmonday : period.ordinal = 7 * (first.weekNumber + k * r.interval) + 1 := by
    push_cast at hordinal
    omega
  constructor
  · refine pairwise_of_mapM_eq_ok hall hweekdays.1 fun w _ w' _ hlt d e hd he => ?_
    have hd := shiftDate_eq_ok.mp hd
    have he := shiftDate_eq_ok.mp he
    omega
  · intro d
    have hweek := d.ordinal_eq_week
    have hlt := d.weekday_lt
    constructor
    · intro hd
      obtain ⟨w, hw, hshift⟩ := exists_item_of_mapM_eq_ok hall hd
      have hshift := shiftDate_eq_ok.mp hshift
      have hw7 := hweekdays.2 w hw
      have hday : d.weekday = w := by omega
      exact ⟨by omega, hday ▸ hw⟩
    · rintro ⟨hnumber, hday⟩
      obtain ⟨e, he, hshift⟩ := exists_mem_of_mapM_eq_ok hall hday
      have hshift := shiftDate_eq_ok.mp hshift
      have hde : d = e := Date.ext_ordinal (by omega)
      rwa [hde]

theorem unfiltered_monthly (hfreq : r.freq = .monthly) {period : Date}
    (hperiod : r.period first k = .ok period) (hall : r.unfiltered first period = .ok all) :
    Ascending all ∧ ∀ d, d ∈ all ↔
      d.monthNumber = first.monthNumber + k * r.interval ∧ r.OnMonthDay first d := by
  simp only [Repeat.period, hfreq] at hperiod
  simp only [unfiltered, hfreq] at hall
  obtain ⟨hy, hm, -⟩ := makeDate_eq_ok.mp hperiod
  obtain ⟨hasc, hspec⟩ := monthDays_spec hall
  have hnumber : period.monthNumber = first.monthNumber + k * r.interval := by
    have hone := first.valid.2.2.1
    rw [Date.monthNumber, Date.monthNumber, hy, hm]
    omega
  refine ⟨hasc, fun d => ?_⟩
  rw [hspec, ← and_assoc, ← Date.monthNumber_eq_iff, hnumber]

def months (r : Repeat) (first : Date) : List ℕ :=
  if r.byMonth = [] then [first.month] else r.byMonth

theorem unfiltered_yearly (hsorted : r.Ordered) (hfreq : r.freq = .yearly)
    {period : Date} (hperiod : r.period first k = .ok period)
    (hall : r.unfiltered first period = .ok all) :
    Ascending all ∧ ∀ d, d ∈ all ↔ d.year = first.year + k * r.interval ∧
      d.month ∈ r.months first ∧ r.OnMonthDay first d := by
  simp only [Repeat.period, hfreq] at hperiod
  simp only [unfiltered, hfreq] at hall
  obtain ⟨hy, -, -⟩ := makeDate_eq_ok.mp hperiod
  obtain ⟨parts, hparts, rfl⟩ := map_eq_ok.mp hall
  have hmonths : (r.months first).Pairwise (· < ·) := by
    rw [months]
    split
    · exact List.pairwise_singleton _ _
    · exact hsorted.byMonth
  constructor
  · refine List.pairwise_flatten.mpr ⟨fun part hpart => ?_, ?_⟩
    · obtain ⟨m, -, hm⟩ := exists_item_of_mapM_eq_ok hparts hpart
      exact (monthDays_spec hm).1
    · refine pairwise_of_mapM_eq_ok hparts hmonths ?_
      intro m _ m' _ hlt part part' hpart hpart' d hd e he
      obtain ⟨hy₁, hm₁, -⟩ := ((monthDays_spec hpart).2 d).mp hd
      obtain ⟨hy₂, hm₂, -⟩ := ((monthDays_spec hpart').2 e).mp he
      exact Date.ordinal_lt_of_month_lt (hy₁.trans hy₂.symm) (by rwa [hm₁, hm₂])
  · intro d
    rw [List.mem_flatten, ← hy]
    constructor
    · rintro ⟨part, hpart, hd⟩
      obtain ⟨m, hm, hpart⟩ := exists_item_of_mapM_eq_ok hparts hpart
      obtain ⟨hyear, rfl, hday⟩ := ((monthDays_spec hpart).2 d).mp hd
      exact ⟨hyear, hm, hday⟩
    · rintro ⟨hyear, hmonth, hday⟩
      obtain ⟨part, hmem, hpart⟩ := exists_mem_of_mapM_eq_ok hparts hmonth
      exact ⟨part, hmem, ((monthDays_spec hpart).2 d).mpr ⟨hyear, rfl, hday⟩⟩

theorem inMonth_iff (hfreq : r.freq ≠ .yearly) :
    r.InMonth first d ↔ r.byMonth = [] ∨ d.month ∈ r.byMonth := by
  rw [InMonth]
  split
  · next hnone => exact ⟨fun _ => .inl hnone, fun _ hyearly => absurd hyearly hfreq⟩
  · next hsome => rw [or_iff_right hsome]

theorem inMonth_iff_yearly (hfreq : r.freq = .yearly) : r.InMonth first d ↔
    d.month ∈ r.months first ∧ (r.byMonth = [] ∨ d.month ∈ r.byMonth) := by
  rw [InMonth, months]
  split
  · next hnone => simp [hnone, hfreq]
  · next hsome => rw [or_iff_right hsome, and_self]

theorem passes_iff : r.passes d = true ↔ (r.byMonth = [] ∨ d.month ∈ r.byMonth) ∧
    (r.freq ≠ .daily ∨ r.byWeekday = [] ∨ d.weekday ∈ r.byWeekday) := by
  rw [passes, decide_eq_true_iff]

theorem fallsIn_iff : r.FallsIn first k d ↔
    (r.freq.unit d = r.freq.unit first + k * r.interval ∧ r.InMonth first d ∧ r.OnDay first d) ∧
      first.ordinal ≤ d.ordinal :=
  ⟨fun h => ⟨⟨h.unit_eq, h.inMonth, h.onDay⟩, h.first_le⟩, fun h => ⟨h.1.1, h.1.2.1, h.1.2.2, h.2⟩⟩

/-- **A period that can be built holds the days of it that the repeat denotes**, ascending. -/
theorem candidates_spec (hsorted : r.Ordered) {days : List Date}
    (h : r.candidates first k = .ok days) :
    Ascending days ∧ ∀ d, d ∈ days ↔ r.FallsIn first k d := by
  obtain ⟨period, all, hperiod, hall, rfl⟩ := candidates_eq_ok h
  have hspec : Ascending all ∧ ∀ d, d ∈ all ∧ r.passes d = true ↔
      r.freq.unit d = r.freq.unit first + k * r.interval ∧ r.InMonth first d ∧ r.OnDay first d := by
    simp only [passes_iff]
    cases hfreq : r.freq with
    | daily =>
      obtain ⟨hasc, hmem⟩ := unfiltered_daily hfreq hperiod hall
      refine ⟨hasc, fun d => ?_⟩
      rw [hmem, inMonth_iff (by rw [hfreq]; decide), OnDay, hfreq]
      simp [Freq.unit]
    | weekly =>
      obtain ⟨hasc, hmem⟩ := unfiltered_weekly hsorted hfreq hperiod hall
      refine ⟨hasc, fun d => ?_⟩
      rw [hmem, inMonth_iff (by rw [hfreq]; decide), OnDay, hfreq, and_assoc,
        and_comm (a := d.weekday ∈ _)]
      simp [Freq.unit]
    | monthly =>
      obtain ⟨hasc, hmem⟩ := unfiltered_monthly hfreq hperiod hall
      refine ⟨hasc, fun d => ?_⟩
      rw [hmem, inMonth_iff (by rw [hfreq]; decide), OnDay, hfreq, and_assoc,
        and_comm (a := r.OnMonthDay first d)]
      simp [Freq.unit]
    | yearly =>
      obtain ⟨hasc, hmem⟩ := unfiltered_yearly hsorted hfreq hperiod hall
      refine ⟨hasc, fun d => ?_⟩
      rw [hmem, inMonth_iff_yearly hfreq, OnDay, hfreq]
      simp only [Freq.unit, ne_eq, reduceCtorEq, not_false_eq_true, true_or, and_true]
      tauto
  refine ⟨(hspec.1.filter _).filter _, fun d => ?_⟩
  rw [List.mem_filter, List.mem_filter, hspec.2, decide_eq_true_iff, fallsIn_iff]

end Repeat

end SolarFlowEms.Schedule
