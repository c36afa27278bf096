import Mathlib.Data.List.Perm.Subperm
import SolarFlowEms.Schedule.Escapes

/-!
# Where the expansion of a repeat raises

Building a period raises for two reasons only.  A set position that is a float indexes a list
with it, at the first period; every position is one a month has, so the index is always
tried.  Without one, a period can be built as long as it is inside the calendar, which every
repeat without an end leaves at last.
-/

namespace SolarFlowEms.Schedule

open Python Calendar TimeText Generator Fallible Date

/-! ### Dates -/

theorem shiftDate_ok_iff {day : Date} {n : ℤ} (h : 1 ≤ day.ordinal + n) :
    (∃ d, shiftDate day n = .ok d) ↔ day.ordinal + n ≤ maxOrdinal := by
  have hnone := @ofOrdinal?_eq_none (day.ordinal + n)
  rw [shiftDate, addDays?]
  cases hd : ofOrdinal? (day.ordinal + n) with
  | none =>
    have := hnone.mp hd
    constructor
    · rintro ⟨d, hd⟩
      cases hd
    · intro hle
      omega
  | some d =>
    have : ¬ (day.ordinal + n < 1 ∨ (maxOrdinal : ℤ) < day.ordinal + n) := by
      rw [← hnone, hd]
      exact nofun
    exact ⟨fun _ => by omega, fun _ => ⟨d, rfl⟩⟩

variable {year month day : ℕ}

theorem makeDate_ok (h : ValidYMD year month day) :
    ∃ d, makeDate year month day = .ok d ∧ d.year = year ∧ d.month = month ∧
      d.ordinal = daysBeforeYear year + dayOfYear year month day + 1 := by
  obtain ⟨d, hd, hordinal⟩ := ofYMD?_of_valid h
  obtain ⟨hyear, hmonth, -⟩ := ymd_of_ofYMD? hd
  exact ⟨d, by rw [makeDate, hd], hyear, hmonth, hordinal⟩

theorem makeDate_error (h : ¬ ValidYMD year month day) :
    makeDate year month day = .error .valueError := by
  rw [makeDate, ofYMD?, dif_neg h]

theorem makeDate_one_ok_iff {year month : ℕ} (hyear : 1 ≤ year) (h₁ : 1 ≤ month)
    (h₂ : month ≤ 12) : (∃ d, makeDate year month 1 = .ok d) ↔ year ≤ maxYear := by
  constructor
  · rintro ⟨d, hd⟩
    by_contra hlarge
    rw [makeDate_error (fun h => hlarge h.2.1)] at hd
    cases hd
  · intro hle
    obtain ⟨d, hd, -⟩ := makeDate_ok (show ValidYMD year month 1 from
      ⟨hyear, hle, h₁, h₂, le_rfl, (by decide : 1 ≤ 28).trans (twentyEight_le_daysInMonth year month)⟩)
    exact ⟨d, hd⟩

theorem mapM_makeDate_ok {numbers : List ℕ} (h : ∀ n ∈ numbers, ValidYMD year month n) :
    ∃ dates, numbers.mapM (makeDate year month) = .ok dates := by
  cases hdates : numbers.mapM (makeDate year month) with
  | ok dates => exact ⟨dates, rfl⟩
  | error e =>
    obtain ⟨n, hn, he⟩ := exists_of_mapM_eq_error hdates
    obtain ⟨d, hd, -⟩ := makeDate_ok (h n hn)
    rw [hd] at he
    cases he

namespace Repeat

variable {r : Repeat} {first : Date}

def FloatPosition (r : Repeat) : Prop := ∃ pos ∈ r.bySetPos, pos.isFloat = true

/-! ### The days of a month -/

theorem atSetPos_ok (h : ¬ r.FloatPosition) (matching : List Date) :
    ∃ days, r.atSetPos matching = .ok days := by
  rw [atSetPos.eq_def]
  split
  · exact ⟨matching, rfl⟩
  · next position isFloat hmem hpos =>
    dsimp only
    split
    · exact ⟨[], rfl⟩
    · next day _ =>
      have hfloat : isFloat = false := by
        by_contra hne
        exact h ⟨_, hpos, by simpa using hne⟩
      rw [hfloat]
      exact ⟨[day], rfl⟩

variable {year month k : ℕ}

theorem monthDays_ok (first : Date) (h : ¬ r.FloatPosition) (hy₁ : 1 ≤ year)
    (hy₂ : year ≤ maxYear) (hm₁ : 1 ≤ month) (hm₂ : month ≤ 12) :
    ∃ days, r.monthDays first year month = .ok days := by
  have hnumbers : ∀ n ∈ List.range' 1 (daysInMonth year month), ValidYMD year month n := by
    intro n hn
    rw [List.mem_range'_1] at hn
    exact ⟨hy₁, hy₂, hm₁, hm₂, hn.1, by omega⟩
  rw [monthDays]
  split
  · exact mapM_makeDate_ok fun n hn => hnumbers n (List.mem_of_mem_filter hn)
  · split
    · obtain ⟨dates, hdates⟩ := mapM_makeDate_ok hnumbers
      obtain ⟨days, hdays⟩ :=
        atSetPos_ok h (dates.filter fun day => decide (day.weekday ∈ r.byWeekday))
      exact ⟨days, bind_eq_ok.mpr ⟨dates, hdates, hdays⟩⟩
    · split
      · next hday =>
        obtain ⟨d, hd, -⟩ := makeDate_ok (show ValidYMD year month first.day from
          ⟨hy₁, hy₂, hm₁, hm₂, first.valid.2.2.2.2.1, hday⟩)
        exact ⟨[d], bind_eq_ok.mpr ⟨d, hd, rfl⟩⟩
      · exact ⟨[], rfl⟩

theorem four_le_length_matching (hy₁ : 1 ≤ year) (hy₂ : year ≤ maxYear)
    (hm₁ : 1 ≤ month) (hm₂ : month ≤ 12) {weekdays : List ℕ} (hne : weekdays ≠ [])
    (hlt : ∀ d ∈ weekdays, d < 7) {dates : List Date}
    (hdates : (List.range' 1 (daysInMonth year month)).mapM (makeDate year month) = .ok dates) :
    4 ≤ (dates.filter fun day => decide (day.weekday ∈ weekdays)).length := by
  obtain ⟨w, hw⟩ := List.exists_mem_of_ne_nil weekdays hne
  have hw7 := hlt w hw
  have hlength := twentyEight_le_daysInMonth year month
  have hday : ∀ n, 1 ≤ n → n ≤ 28 →
      ∃ d ∈ dates, d.ordinal = daysBeforeYear year + daysBeforeMonth year month + n := by
    intro n h₁ h₂
    have hvalid : ValidYMD year month n := ⟨hy₁, hy₂, hm₁, hm₂, h₁, h₂.trans hlength⟩
    obtain ⟨d, hd, hok⟩ := exists_mem_of_mapM_eq_ok hdates
      (List.mem_range'_1.mpr ⟨h₁, show n < 1 + daysInMonth year month by omega⟩)
    obtain ⟨d', hok', -, -, hordinal⟩ := makeDate_ok hvalid
    rw [hok'] at hok
    cases hok
    refine ⟨d, hd, ?_⟩
    rw [hordinal, dayOfYear]
    omega
  generalize daysBeforeYear year + daysBeforeMonth year month = base at hday
  -- The first day of the month that is such a weekday, and the same day of the next weeks.
  obtain ⟨n, hn₁, hn₂, hn⟩ : ∃ n, 1 ≤ n ∧ n ≤ 7 ∧ (base + n + 6) % 7 = w :=
    ⟨1 + (w + 6 * base) % 7, by omega, by omega, by omega⟩
  obtain ⟨d₀, h₀, e₀⟩ := hday n hn₁ (by omega)
  obtain ⟨d₁, h₁, e₁⟩ := hday (n + 7) (by omega) (by omega)
  obtain ⟨d₂, h₂, e₂⟩ := hday (n + 14) (by omega) (by omega)
  obtain ⟨d₃, h₃, e₃⟩ := hday (n + 21) (by omega) (by omega)
  have hmatch : ∀ d ∈ dates, d.ordinal % 7 = (base + n) % 7 →
      d ∈ dates.filter fun day => decide (day.weekday ∈ weekdays) := by
    intro d hd hmod
    rw [List.mem_filter, decide_eq_true_iff]
    refine ⟨hd, ?_⟩
    have hweekday : d.weekday = w := by
      rw [weekday]
      omega
    rwa [hweekday]
  have hsubset : [d₀, d₁, d₂, d₃] ⊆ dates.filter fun day => decide (day.weekday ∈ weekdays) := by
    intro d hd
    simp only [List.mem_cons, List.not_mem_nil, or_false] at hd
    rcases hd with rfl | rfl | rfl | rfl
    · exact hmatch d h₀ (by omega)
    · exact hmatch d h₁ (by omega)
    · exact hmatch d h₂ (by omega)
    · exact hmatch d h₃ (by omega)
  have hnodup : [d₀, d₁, d₂, d₃].Nodup := by
    have hinj : ∀ {d d' : Date}, d.ordinal ≠ d'.ordinal → d ≠ d' :=
      fun hne heq => hne (congrArg ordinal heq)
    simp only [List.nodup_cons, List.mem_cons, List.not_mem_nil, or_false, not_or]
    exact ⟨⟨hinj (by omega), hinj (by omega), hinj (by omega)⟩,
      ⟨hinj (by omega), hinj (by omega)⟩, hinj (by omega), not_false, List.nodup_nil⟩
  exact (hnodup.subperm hsubset).length_le

theorem isSome_pyIndex {α : Type*} {values : List α} {index : ℤ} (h₁ : -values.length ≤ index)
    (h₂ : index < values.length) : ∃ value, pyIndex values index = some value := by
  rw [pyIndex]
  split
  · rw [if_neg (by omega)]
    exact ⟨_, List.getElem?_eq_getElem (by omega)⟩
  · exact ⟨_, List.getElem?_eq_getElem (by omega)⟩

theorem monthDays_float (h : r.FloatPosition) (hy₁ : 1 ≤ year)
    (hy₂ : year ≤ maxYear) (hm₁ : 1 ≤ month) (hm₂ : month ≤ 12) :
    r.monthDays first year month = .error .typeError := by
  obtain ⟨⟨position, isFloat, hmem⟩, hpos, hfloat⟩ := h
  obtain ⟨-, hweekdays, hmonthDays⟩ := r.setPos_needs (Option.isSome_of_mem hpos)
  have hnumbers : ∀ n ∈ List.range' 1 (daysInMonth year month), ValidYMD year month n := by
    intro n hn
    rw [List.mem_range'_1] at hn
    exact ⟨hy₁, hy₂, hm₁, hm₂, hn.1, by omega⟩
  obtain ⟨dates, hdates⟩ := mapM_makeDate_ok hnumbers
  have hfour := four_le_length_matching hy₁ hy₂ hm₁ hm₂ hweekdays r.weekday_range hdates
  have hindex : ∃ day, pyIndex (dates.filter fun day => decide (day.weekday ∈ r.byWeekday))
      (if 0 < position then position - 1 else position) = some day := by
    simp only [setPositions, List.mem_cons, List.not_mem_nil, or_false] at hmem
    apply isSome_pyIndex
    · split <;> omega
    · split <;> omega
  obtain ⟨day, hday⟩ := hindex
  rw [monthDays, if_neg (not_not.mpr hmonthDays), if_pos hweekdays]
  refine bind_eq_error.mpr (.inr ⟨dates, hdates, ?_⟩)
  rw [atSetPos, Option.mem_def.mp hpos]
  dsimp only at hfloat ⊢
  rw [hday, hfloat]
  rfl

/-! ### The periods -/

/-- **The `k`-th period is not inside the calendar**, or in the calendar's last week a weekday
of the repeat is not. -/
def Leaves (r : Repeat) (first : Date) (k : ℕ) : Prop :=
  match r.freq with
  | .daily => maxOrdinal < first.ordinal + k * r.interval
  | .weekly => ∃ weekday ∈ if r.byWeekday = [] then [first.weekday] else r.byWeekday,
      maxOrdinal + first.weekday < first.ordinal + 7 * (k * r.interval) + weekday
  | .monthly => maxYear < first.year + (first.month - 1 + k * r.interval) / 12
  | .yearly => maxYear < first.year + k * r.interval

theorem candidates_ok_iff_exists : (∃ days, r.candidates first k = .ok days) ↔
    ∃ period, r.period first k = .ok period ∧ ∃ days, r.periodDays first period = .ok days := by
  simp only [candidates, bind_eq_ok]
  constructor
  · rintro ⟨days, period, hperiod, all, hall, -⟩
    exact ⟨period, hperiod, all, hall⟩
  · rintro ⟨period, hperiod, all, hall⟩
    exact ⟨_, period, hperiod, all, hall, rfl⟩

theorem month_range_or {m : ℕ} (h : m ∈ if r.byMonth = [] then [first.month] else r.byMonth) :
    1 ≤ m ∧ m ≤ 12 := by
  split at h
  · rw [List.mem_singleton.mp h]
    exact ⟨first.valid.2.2.1, first.valid.2.2.2.1⟩
  · exact r.month_range m h

theorem weekday_lt_ordinal (d : Date) : d.weekday + 1 ≤ d.ordinal := by
  have hone := d.one_le
  rw [weekday]
  omega

theorem candidates_ok_iff_daily (h : r.freq = .daily) :
    (∃ days, r.candidates first k = .ok days) ↔ ¬ r.Leaves first k := by
  have hone := first.one_le
  rw [candidates_ok_iff_exists]
  simp only [period, periodDays, Leaves, h]
  have hperiod := @shiftDate_ok_iff first (k * r.interval : ℕ) (by omega)
  constructor
  · rintro ⟨period, hok, -⟩
    have := hperiod.mp ⟨period, hok⟩
    omega
  · intro hle
    obtain ⟨period, hok⟩ := hperiod.mpr (by omega)
    exact ⟨period, hok, _, rfl⟩

theorem ordinal_of_shiftDate {day d : Date} {n : ℤ} (h : shiftDate day n = .ok d) :
    (d.ordinal : ℤ) = day.ordinal + n := by
  rw [shiftDate] at h
  split at h
  · next d' hd =>
    cases h
    exact addDays?_eq_some.mp hd
  · cases h

theorem candidates_ok_iff_weekly (h : r.freq = .weekly) :
    (∃ days, r.candidates first k = .ok days) ↔ ¬ r.Leaves first k := by
  have hweekday := weekday_lt_ordinal first
  rw [candidates_ok_iff_exists]
  simp only [period, periodDays, Leaves, h]
  generalize hw : (if r.byWeekday = [] then [first.weekday] else r.byWeekday) = weekdays
  generalize 7 * (k * r.interval) = span
  have hne : ∃ w, w ∈ weekdays := by
    rw [← hw]
    split
    · exact ⟨_, List.mem_singleton_self _⟩
    · next hne => exact List.exists_mem_of_ne_nil _ hne
  have hperiod := @shiftDate_ok_iff first ((span : ℤ) - first.weekday) (by omega)
  have hdays : ∀ period, shiftDate first ((span : ℤ) - first.weekday) = .ok period → ∀ w : ℕ,
      (∃ d, shiftDate period w = .ok d) ↔ first.ordinal + span + w ≤ maxOrdinal + first.weekday := by
    intro period hok w
    have hordinal := ordinal_of_shiftDate hok
    have hone := period.one_le
    rw [shiftDate_ok_iff (by omega)]
    omega
  simp only [not_exists, not_and, Nat.not_lt]
  constructor
  · rintro ⟨period, hok, days, hmap⟩ w hmem
    obtain ⟨dates, hdates, -⟩ := bind_eq_ok.mp hmap
    obtain ⟨d, -, hd⟩ := exists_mem_of_mapM_eq_ok hdates hmem
    exact (hdays period hok w).mp ⟨d, hd⟩
  · intro hle
    obtain ⟨w, hmem⟩ := hne
    have hw := hle w hmem
    obtain ⟨period, hok⟩ := hperiod.mpr (by omega)
    refine ⟨period, hok, ?_⟩
    cases hmap : weekdays.mapM fun weekday : ℕ => shiftDate period weekday with
    | ok dates => exact ⟨_, rfl⟩
    | error e =>
      obtain ⟨w', hmem', he⟩ := exists_of_mapM_eq_error hmap
      obtain ⟨d, hd⟩ := (hdays period hok w').mpr (hle w' hmem')
      rw [he] at hd
      cases hd

theorem candidates_ok_iff_monthly (hfloat : ¬ r.FloatPosition) (h : r.freq = .monthly) :
    (∃ days, r.candidates first k = .ok days) ↔ ¬ r.Leaves first k := by
  have hyear := first.valid.1
  rw [candidates_ok_iff_exists]
  simp only [period, periodDays, Leaves, h, Nat.not_lt]
  generalize htotal : first.month - 1 + k * r.interval = total
  have hperiod := @makeDate_one_ok_iff (first.year + total / 12) (total % 12 + 1) (by omega)
    (by omega) (by omega)
  constructor
  · rintro ⟨period, hok, -⟩
    exact hperiod.mp ⟨period, hok⟩
  · intro hle
    obtain ⟨period, hok⟩ := hperiod.mpr hle
    refine ⟨period, hok, ?_⟩
    obtain ⟨days, hdays⟩ := monthDays_ok first hfloat period.valid.1 period.year_le
      period.valid.2.2.1 period.valid.2.2.2.1
    exact ⟨_, bind_eq_ok.mpr ⟨days, hdays, rfl⟩⟩

theorem candidates_ok_iff_yearly (hfloat : ¬ r.FloatPosition) (h : r.freq = .yearly) :
    (∃ days, r.candidates first k = .ok days) ↔ ¬ r.Leaves first k := by
  have hyear := first.valid.1
  rw [candidates_ok_iff_exists]
  simp only [period, periodDays, Leaves, h, Nat.not_lt]
  have hperiod := @makeDate_one_ok_iff (first.year + k * r.interval) 1 (by omega) le_rfl (by decide)
  constructor
  · rintro ⟨period, hok, -⟩
    exact hperiod.mp ⟨period, hok⟩
  · intro hle
    obtain ⟨period, hok⟩ := hperiod.mpr hle
    refine ⟨period, hok, ?_⟩
    cases hmap : (if r.byMonth = [] then [first.month] else r.byMonth).mapM
        (r.monthDays first period.year) with
    | ok dates => exact ⟨_, rfl⟩
    | error e =>
      obtain ⟨m, hm, he⟩ := exists_of_mapM_eq_error hmap
      obtain ⟨hm₁, hm₂⟩ := month_range_or hm
      obtain ⟨days, hdays⟩ := monthDays_ok first hfloat period.valid.1 period.year_le
        hm₁ hm₂
      rw [he] at hdays
      cases hdays

/-- **Without a float as its set position a repeat can build exactly the periods inside the
calendar.** -/
theorem candidates_ok_iff (hfloat : ¬ r.FloatPosition) :
    (∃ days, r.candidates first k = .ok days) ↔ ¬ r.Leaves first k := by
  cases h : r.freq with
  | daily => exact candidates_ok_iff_daily h
  | weekly => exact candidates_ok_iff_weekly h
  | monthly => exact candidates_ok_iff_monthly hfloat h
  | yearly => exact candidates_ok_iff_yearly hfloat h

theorem candidates_float (h : r.FloatPosition) : r.candidates first 0 = .error .typeError := by
  obtain ⟨pos, hpos, -⟩ := id h
  obtain ⟨hfreq, -⟩ := r.setPos_needs (Option.isSome_of_mem hpos)
  obtain ⟨hy₁, hy₂, hm₁, hm₂, -⟩ := first.valid
  rw [candidates]
  simp only [period, periodDays, Nat.zero_mul, Nat.add_zero]
  rcases hfreq with hfreq | hfreq
  · obtain ⟨d, hd, hyear, hmonth, -⟩ := makeDate_ok (show ValidYMD first.year first.month 1 from
      ⟨hy₁, hy₂, hm₁, hm₂, le_rfl, (by decide : 1 ≤ 28).trans (twentyEight_le_daysInMonth _ _)⟩)
    have hdiv : (first.month - 1) / 12 = 0 := by omega
    have hmod : (first.month - 1) % 12 + 1 = first.month := by omega
    simp only [hfreq, hdiv, hmod, Nat.add_zero]
    refine bind_eq_error.mpr (.inr ⟨d, hd, bind_eq_error.mpr (.inl ?_)⟩)
    rw [hyear, hmonth]
    exact bind_eq_error.mpr (.inl (monthDays_float h hy₁ hy₂ hm₁ hm₂))
  · obtain ⟨d, hd, hyear, -⟩ := makeDate_ok (show ValidYMD first.year 1 1 from
      ⟨hy₁, hy₂, le_rfl, by decide, le_rfl, (by decide : 1 ≤ 28).trans
        (twentyEight_le_daysInMonth _ _)⟩)
    simp only [hfreq]
    refine bind_eq_error.mpr (.inr ⟨d, hd, bind_eq_error.mpr (.inl ?_)⟩)
    refine bind_eq_error.mpr (.inl (map_eq_error.mpr ?_))
    rw [hyear]
    obtain ⟨m, months, hmonths⟩ : ∃ m months,
        (if r.byMonth = [] then [first.month] else r.byMonth) = m :: months := by
      split
      · exact ⟨_, _, rfl⟩
      · next hne => exact List.exists_cons_of_ne_nil hne
    have hm : 1 ≤ m ∧ m ≤ 12 := by
      apply month_range_or
      rw [hmonths]
      exact List.mem_cons_self
    rw [hmonths, List.mapM_cons]
    exact bind_eq_error.mpr (.inl (monthDays_float h hy₁ hy₂ hm.1 hm.2))

/-- **No repeat has as many periods inside the calendar as the calendar has days.** -/
theorem leaves_of_le (r : Repeat) (first : Date) (h : maxOrdinal ≤ k) : r.Leaves first k := by
  have hk : maxOrdinal ≤ k * r.interval := h.trans (Nat.le_mul_of_pos_right k r.interval_pos)
  have hone := weekday_lt_ordinal first
  rw [Leaves.eq_def]
  generalize k * r.interval = span at hk ⊢
  simp only [maxOrdinal, maxYear] at hk ⊢
  cases r.freq with
  | daily =>
    show _ < _
    omega
  | weekly =>
    obtain ⟨w, hw⟩ : ∃ w, w ∈ if r.byWeekday = [] then [first.weekday] else r.byWeekday := by
      split
      · exact ⟨_, List.mem_singleton_self _⟩
      · next hne => exact List.exists_mem_of_ne_nil _ hne
    refine ⟨w, hw, ?_⟩
    omega
  | monthly =>
    show _ < _
    omega
  | yearly =>
    show _ < _
    omega

end Repeat

end SolarFlowEms.Schedule
