import Mathlib.Tactic.IntervalCases

/-!
# The proleptic Gregorian calendar

Days are counted from 1 January of year 1, day 1, and a date is such a count between the
first day and 31 December 9999: an invalid date cannot be built, and arithmetic that leaves
the calendar has no result.  Year, month and day are read off the count, and building a date
from them finds the same count again.
-/

namespace SolarFlowEms.Calendar

/-! ### Years and months -/

def isLeap (year : ℕ) : Bool := year % 4 = 0 && (year % 100 ≠ 0 || year % 400 = 0)

/-- The days of the years before `year`. -/
def daysBeforeYear (year : ℕ) : ℕ :=
  (year - 1) * 365 + (year - 1) / 4 - (year - 1) / 100 + (year - 1) / 400

def daysInYear (year : ℕ) : ℕ := if isLeap year then 366 else 365

/-- The days of a month, of a leap year or not. -/
def monthLength (leap : Bool) (month : ℕ) : ℕ :=
  if month = 2 then (if leap then 29 else 28)
  else if month = 4 ∨ month = 6 ∨ month = 9 ∨ month = 11 then 30
  else 31

/-- The days of the months before `month`. -/
def monthOffset (leap : Bool) : ℕ → ℕ
  | 0 => 0
  | 1 => 0
  | month + 1 => monthOffset leap month + monthLength leap month

def daysInMonth (year month : ℕ) : ℕ := monthLength (isLeap year) month

theorem twentyEight_le_daysInMonth (year month : ℕ) : 28 ≤ daysInMonth year month := by
  rw [daysInMonth, monthLength]
  split
  · split <;> decide
  · split <;> decide

theorem daysInMonth_le (year month : ℕ) : daysInMonth year month ≤ 31 := by
  rw [daysInMonth, monthLength]
  split
  · split <;> decide
  · split <;> decide

def daysBeforeMonth (year month : ℕ) : ℕ := monthOffset (isLeap year) month

theorem daysBeforeYear_cycles (a b c d : ℕ) (hb : b < 4) (hc : c < 25) (hd : d < 4) :
    daysBeforeYear (a * 400 + b * 100 + c * 4 + d + 1) =
      a * 146097 + b * 36524 + c * 1461 + d * 365 := by
  have h4 : (a * 400 + b * 100 + c * 4 + d) / 4 = a * 100 + b * 25 + c := by omega
  have h100 : (a * 400 + b * 100 + c * 4 + d) / 100 = a * 4 + b := by omega
  have h400 : (a * 400 + b * 100 + c * 4 + d) / 400 = a := by omega
  rw [daysBeforeYear, Nat.add_sub_cancel, h4, h100, h400]
  omega

theorem daysBeforeYear_succ {year : ℕ} (h : 1 ≤ year) :
    daysBeforeYear (year + 1) = daysBeforeYear year + daysInYear year := by
  obtain ⟨p, rfl⟩ : ∃ p, year = p + 1 := ⟨year - 1, by omega⟩
  simp only [daysBeforeYear, daysInYear, isLeap, Nat.add_sub_cancel]
  have h4 : (p + 1) / 4 = p / 4 + if (p + 1) % 4 = 0 then 1 else 0 := by split <;> omega
  have h100 : (p + 1) / 100 = p / 100 + if (p + 1) % 100 = 0 then 1 else 0 := by split <;> omega
  have h400 : (p + 1) / 400 = p / 400 + if (p + 1) % 400 = 0 then 1 else 0 := by split <;> omega
  rw [h4, h100, h400]
  by_cases h₁ : (p + 1) % 4 = 0
  · by_cases h₂ : (p + 1) % 100 = 0
    · by_cases h₃ : (p + 1) % 400 = 0 <;> simp [h₁, h₂, h₃] <;> omega
    · have h₃ : (p + 1) % 400 ≠ 0 := by omega
      simp [h₁, h₂, h₃]
      omega
  · have h₂ : (p + 1) % 100 ≠ 0 := by omega
    have h₃ : (p + 1) % 400 ≠ 0 := by omega
    simp [h₁, h₂, h₃]
    omega

theorem daysBeforeYear_mono : Monotone daysBeforeYear := by
  apply monotone_nat_of_le_succ
  intro year
  cases year with
  | zero => decide
  | succ p =>
    rw [daysBeforeYear_succ (Nat.le_add_left 1 p)]
    exact Nat.le_add_right _ _

theorem monthOffset_mono (leap : Bool) : Monotone (monthOffset leap) := by
  apply monotone_nat_of_le_succ
  intro month
  cases month with
  | zero => exact Nat.le_refl 0
  | succ m => exact Nat.le_add_right _ _

theorem monthOffset_add_monthLength_le (leap : Bool) {month : ℕ} (h₁ : 1 ≤ month) (h₂ : month ≤ 12) :
    monthOffset leap month + monthLength leap month ≤ if leap then 366 else 365 := by
  interval_cases month <;> cases leap <;> decide

/-! ### Dates -/

def maxYear : ℕ := 9999

/-- The count of 31 December 9999. -/
def maxOrdinal : ℕ := 3652059

theorem daysBeforeYear_maxYear : daysBeforeYear (maxYear + 1) = maxOrdinal := by decide

/-- A day of the calendar. -/
structure Date where
  ordinal : ℕ
  one_le : 1 ≤ ordinal
  le_max : ordinal ≤ maxOrdinal
deriving DecidableEq

namespace Date

/-- The day with a count, where the calendar has one. -/
def ofOrdinal? (n : ℤ) : Option Date :=
  if h : 1 ≤ n ∧ n.toNat ≤ maxOrdinal then some ⟨n.toNat, by omega, h.2⟩ else none

/-- `date + timedelta(days=n)`. -/
def addDays? (d : Date) (n : ℤ) : Option Date := ofOrdinal? (d.ordinal + n)

variable {d e : Date}

theorem ofOrdinal?_eq_some {n : ℤ} : ofOrdinal? n = some d ↔ (d.ordinal : ℤ) = n := by
  unfold ofOrdinal?
  constructor
  · intro h
    split at h
    · next hn =>
      cases h
      show (n.toNat : ℤ) = n
      omega
    · cases h
  · intro h
    have hd := d.one_le
    have hmax := d.le_max
    rw [dif_pos ⟨by omega, by omega⟩]
    congr
    omega

theorem addDays?_eq_some {n : ℤ} :
    d.addDays? n = some e ↔ (e.ordinal : ℤ) = d.ordinal + n := ofOrdinal?_eq_some

theorem ofOrdinal?_eq_none {n : ℤ} : ofOrdinal? n = none ↔ n < 1 ∨ (maxOrdinal : ℤ) < n := by
  unfold ofOrdinal?
  split
  · next h => exact ⟨nofun, fun hn => by omega⟩
  · next h => exact ⟨fun _ => by omega, fun _ => rfl⟩

/-- Monday is 0. -/
def weekday (d : Date) : ℕ := (d.ordinal + 6) % 7

def ValidYMD (year month day : ℕ) : Prop :=
  1 ≤ year ∧ year ≤ maxYear ∧ 1 ≤ month ∧ month ≤ 12 ∧ 1 ≤ day ∧ day ≤ daysInMonth year month

instance (year month day : ℕ) : Decidable (ValidYMD year month day) :=
  inferInstanceAs (Decidable (_ ∧ _))

def dayOfYear (year month day : ℕ) : ℕ := daysBeforeMonth year month + (day - 1)

theorem dayOfYear_lt {year month day : ℕ} (h : ValidYMD year month day) :
    dayOfYear year month day < daysInYear year := by
  obtain ⟨-, -, h₁, h₂, h₃, h₄⟩ := h
  have hmonth := monthOffset_add_monthLength_le (isLeap year) h₁ h₂
  simp only [dayOfYear, daysBeforeMonth, daysInYear]
  simp only [daysInMonth] at h₄
  omega

theorem ordinal_le_max {year month day : ℕ} (h : ValidYMD year month day) :
    daysBeforeYear year + dayOfYear year month day + 1 ≤ maxOrdinal := by
  have hday := dayOfYear_lt h
  have hnext : daysBeforeYear year + daysInYear year ≤ maxOrdinal := by
    rw [← daysBeforeYear_succ h.1, ← daysBeforeYear_maxYear]
    exact daysBeforeYear_mono (Nat.add_le_add_right h.2.1 1)
  omega

/-- `date(year, month, day)`. -/
def ofYMD? (year month day : ℕ) : Option Date :=
  if h : ValidYMD year month day then
    some ⟨daysBeforeYear year + dayOfYear year month day + 1, Nat.le_add_left 1 _, ordinal_le_max h⟩
  else none

theorem ofYMD?_of_valid {year month day : ℕ} (h : ValidYMD year month day) :
    ∃ d, ofYMD? year month day = some d ∧
      d.ordinal = daysBeforeYear year + dayOfYear year month day + 1 :=
  ⟨_, dif_pos h, rfl⟩

/-! ### Reading a date -/

/-- The year of the day that `n` days of the calendar precede: cycles of 400, 100, 4 and 1
years, the last of a cycle being a day longer. -/
def yearOf (n : ℕ) : ℕ :=
  let n100 := n % 146097 / 36524
  let n1 := n % 146097 % 36524 % 1461 / 365
  let year := n / 146097 * 400 + n100 * 100 + n % 146097 % 36524 / 1461 * 4 + n1 + 1
  if n1 = 4 ∨ n100 = 4 then year - 1 else year

theorem yearOf_spec (n : ℕ) :
    1 ≤ yearOf n ∧ daysBeforeYear (yearOf n) ≤ n ∧ n < daysBeforeYear (yearOf n + 1) := by
  have h₁ : n % 146097 < 146097 := Nat.mod_lt _ (by decide)
  have h₂ : n % 146097 % 36524 < 36524 := Nat.mod_lt _ (by decide)
  have h₃ : n % 146097 % 36524 % 1461 < 1461 := Nat.mod_lt _ (by decide)
  have e₀ := Nat.div_add_mod n 146097
  have e₁ := Nat.div_add_mod (n % 146097) 36524
  have e₂ := Nat.div_add_mod (n % 146097 % 36524) 1461
  have e₃ := Nat.div_add_mod (n % 146097 % 36524 % 1461) 365
  have h₄ : n % 146097 % 36524 % 1461 % 365 < 365 := Nat.mod_lt _ (by decide)
  unfold yearOf
  generalize n % 146097 % 36524 % 1461 % 365 = r at *
  generalize n % 146097 % 36524 % 1461 / 365 = d at *
  generalize n % 146097 % 36524 % 1461 = m₃ at *
  generalize n % 146097 % 36524 / 1461 = c at *
  generalize n % 146097 % 36524 = m₂ at *
  generalize n % 146097 / 36524 = b at *
  generalize n % 146097 = m₁ at *
  generalize n / 146097 = a at *
  have hb : b ≤ 4 := by omega
  have hc : c ≤ 24 := by omega
  have hd : d ≤ 4 := by omega
  dsimp only
  split
  · next hlast =>
    -- The last day of a cycle that is a day longer: its year is the one before.
    obtain ⟨p, hp⟩ : ∃ p, a * 400 + b * 100 + c * 4 + d = p + 1 := by
      refine ⟨a * 400 + b * 100 + c * 4 + d - 1, ?_⟩
      omega
    rw [hp, Nat.add_sub_cancel]
    have hnext : daysBeforeYear (p + 1 + 1) = n + 1 := by
      rcases hlast with hd4 | hb4
      · have hc' : c < 24 := by omega
        by_cases hb4 : b = 4
        · omega
        · rw [show p + 1 + 1 = a * 400 + b * 100 + (c + 1) * 4 + 0 + 1 by omega,
            daysBeforeYear_cycles a b (c + 1) 0 (by omega) (by omega) (by omega)]
          clear hp
          omega
      · rw [show p + 1 + 1 = (a + 1) * 400 + 0 * 100 + 0 * 4 + 0 + 1 by omega,
          daysBeforeYear_cycles (a + 1) 0 0 0 (by omega) (by omega) (by omega)]
        clear hp
        omega
    have hsucc := daysBeforeYear_succ (Nat.le_add_left 1 p)
    have hlength : 365 ≤ daysInYear (p + 1) := by
      unfold daysInYear
      split <;> decide
    exact ⟨by omega, by omega, by omega⟩
  · next hlast =>
    have hcycles : daysBeforeYear (a * 400 + b * 100 + c * 4 + d + 1) =
        a * 146097 + b * 36524 + c * 1461 + d * 365 :=
      daysBeforeYear_cycles a b c d (by omega) (by omega) (by omega)
    have hsucc := daysBeforeYear_succ (Nat.le_add_left 1 (a * 400 + b * 100 + c * 4 + d))
    have hlength : 365 ≤ daysInYear (a * 400 + b * 100 + c * 4 + d + 1) := by
      unfold daysInYear
      split <;> decide
    exact ⟨by omega, by omega, by omega⟩

theorem yearOf_unique {n year : ℕ} (h₁ : daysBeforeYear year ≤ n)
    (h₂ : n < daysBeforeYear (year + 1)) : yearOf n = year := by
  obtain ⟨-, hle, hlt⟩ := yearOf_spec n
  rcases Nat.lt_trichotomy (yearOf n) year with h | h | h
  · have := daysBeforeYear_mono (show yearOf n + 1 ≤ year from h)
    omega
  · exact h
  · have := daysBeforeYear_mono (show year + 1 ≤ yearOf n from h)
    omega

/-- The month of the day that `n` days of its year precede. -/
def monthOf (leap : Bool) (n : ℕ) : ℕ :=
  if n < monthOffset leap 2 then 1
  else if n < monthOffset leap 3 then 2
  else if n < monthOffset leap 4 then 3
  else if n < monthOffset leap 5 then 4
  else if n < monthOffset leap 6 then 5
  else if n < monthOffset leap 7 then 6
  else if n < monthOffset leap 8 then 7
  else if n < monthOffset leap 9 then 8
  else if n < monthOffset leap 10 then 9
  else if n < monthOffset leap 11 then 10
  else if n < monthOffset leap 12 then 11
  else 12

theorem monthOf_spec (leap : Bool) {n : ℕ} (h : n < 366) :
    1 ≤ monthOf leap n ∧ monthOf leap n ≤ 12 ∧ monthOffset leap (monthOf leap n) ≤ n ∧
      (n < 365 ∨ leap = true → n < monthOffset leap (monthOf leap n + 1)) := by
  revert leap n
  decide +kernel

theorem monthOf_unique {leap : Bool} {n month : ℕ} (h₁ : 1 ≤ month) (h₂ : month ≤ 12)
    (h₃ : monthOffset leap month ≤ n) (h₄ : n < monthOffset leap (month + 1)) :
    monthOf leap n = month := by
  have hyear : monthOffset leap (month + 1) ≤ if leap then 366 else 365 := by
    obtain ⟨m, rfl⟩ : ∃ m, month = m + 1 := ⟨month - 1, by omega⟩
    exact monthOffset_add_monthLength_le leap h₁ h₂
  have hlt : n < 366 ∧ (n < 365 ∨ leap = true) := by
    cases leap with
    | true => exact ⟨by simpa using h₄.trans_le hyear, .inr rfl⟩
    | false =>
      have h365 : n < 365 := h₄.trans_le hyear
      exact ⟨by omega, .inl h365⟩
  obtain ⟨-, -, hle, hnext⟩ := monthOf_spec leap hlt.1
  have hnext := hnext hlt.2
  rcases Nat.lt_trichotomy (monthOf leap n) month with h | h | h
  · have hmono := monthOffset_mono leap (show monthOf leap n + 1 ≤ month from h)
    exact absurd (hmono.trans h₃) (not_le.mpr hnext)
  · exact h
  · have hmono := monthOffset_mono leap (show month + 1 ≤ monthOf leap n from h)
    exact absurd (hmono.trans hle) (not_le.mpr h₄)

def year (d : Date) : ℕ := yearOf (d.ordinal - 1)

def month (d : Date) : ℕ :=
  monthOf (isLeap d.year) (d.ordinal - 1 - daysBeforeYear d.year)

def day (d : Date) : ℕ :=
  d.ordinal - 1 - daysBeforeYear d.year - daysBeforeMonth d.year d.month + 1

theorem year_spec (d : Date) : 1 ≤ d.year ∧ daysBeforeYear d.year ≤ d.ordinal - 1 ∧
    d.ordinal - 1 < daysBeforeYear (d.year + 1) := yearOf_spec (d.ordinal - 1)

theorem year_le (d : Date) : d.year ≤ maxYear := by
  obtain ⟨-, hle, -⟩ := d.year_spec
  have hmax := d.le_max
  have hone := d.one_le
  by_contra hyear
  have hmono := daysBeforeYear_mono (Nat.lt_of_not_le hyear)
  rw [Nat.succ_eq_add_one, daysBeforeYear_maxYear] at hmono
  omega

theorem valid (d : Date) : ValidYMD d.year d.month d.day := by
  obtain ⟨hone, hle, hlt⟩ := d.year_spec
  rw [daysBeforeYear_succ hone] at hlt
  have hlength : daysInYear d.year ≤ 366 := by
    rw [daysInYear]
    split <;> decide
  have hyear : d.ordinal - 1 - daysBeforeYear d.year < 366 := by omega
  obtain ⟨h₁, h₂, h₃, h₄⟩ := monthOf_spec (isLeap d.year) hyear
  have hnext : d.ordinal - 1 - daysBeforeYear d.year <
      monthOffset (isLeap d.year) (d.month + 1) := by
    apply h₄
    rw [daysInYear] at hlt
    cases hleap : isLeap d.year with
    | true => exact .inr rfl
    | false =>
      rw [hleap] at hlt
      refine .inl ?_
      have : (if false = true then 366 else 365) = 365 := rfl
      omega
  have hmonth : monthOffset (isLeap d.year) (d.month + 1) =
      monthOffset (isLeap d.year) d.month + monthLength (isLeap d.year) d.month := by
    obtain ⟨m, hm⟩ : ∃ m, d.month = m + 1 := ⟨d.month - 1, by rw [month] at *; omega⟩
    rw [hm]
    rfl
  have hoffset : monthOffset (isLeap d.year) d.month ≤ d.ordinal - 1 - daysBeforeYear d.year := h₃
  refine ⟨hone, d.year_le, h₁, h₂, Nat.le_add_left 1 _, ?_⟩
  rw [day, daysBeforeMonth, daysInMonth]
  rw [hmonth] at hnext
  omega

theorem day_le (d : Date) : d.day ≤ 31 := d.valid.2.2.2.2.2.trans (daysInMonth_le d.year d.month)

/-- **Reading a built date finds what it was built from.** -/
theorem ymd_of_ofYMD? {y m n : ℕ} (h : ofYMD? y m n = some d) :
    d.year = y ∧ d.month = m ∧ d.day = n := by
  have hvalid : ValidYMD y m n := by
    by_contra hnot
    simp [ofYMD?, hnot] at h
  obtain ⟨e, he, hordinal⟩ := ofYMD?_of_valid hvalid
  obtain rfl : d = e := Option.some.inj (h.symm.trans he)
  have hlt := dayOfYear_lt hvalid
  obtain ⟨h₁, -, hm₁, hm₂, hd₁, hd₂⟩ := hvalid
  have hyear : d.year = y := by
    apply yearOf_unique
    · omega
    · rw [daysBeforeYear_succ h₁]
      omega
  have hrest : d.ordinal - 1 - daysBeforeYear y = monthOffset (isLeap y) m + (n - 1) := by
    simp only [dayOfYear, daysBeforeMonth] at hordinal
    omega
  have hmonth : d.month = m := by
    simp only [daysInMonth] at hd₂
    rw [month, hyear, hrest]
    apply monthOf_unique hm₁ hm₂ (Nat.le_add_right _ _)
    obtain ⟨p, rfl⟩ : ∃ p, m = p + 1 := ⟨m - 1, by omega⟩
    show _ < monthOffset (isLeap y) (p + 1) + monthLength (isLeap y) (p + 1)
    omega
  refine ⟨hyear, hmonth, ?_⟩
  rw [day, hmonth, hyear, hrest, daysBeforeMonth]
  omega

/-! ### The order of days -/

theorem ext_ordinal (h : d.ordinal = e.ordinal) : d = e := by
  cases d
  cases e
  congr

/-- **The count of a date is read off its year, month and day.** -/
theorem ordinal_eq (d : Date) :
    d.ordinal = daysBeforeYear d.year + dayOfYear d.year d.month d.day + 1 := by
  obtain ⟨hone, hle, hlt⟩ := d.year_spec
  have hmonth : daysBeforeMonth d.year d.month ≤ d.ordinal - 1 - daysBeforeYear d.year := by
    rw [daysBeforeYear_succ hone] at hlt
    have hlength : daysInYear d.year ≤ 366 := by
      rw [daysInYear]
      split <;> decide
    exact (monthOf_spec (isLeap d.year) (by omega)).2.2.1
  have hpos := d.one_le
  rw [dayOfYear]
  simp only [day]
  omega

theorem ofYMD?_ymd (d : Date) : ofYMD? d.year d.month d.day = some d := by
  obtain ⟨e, he, hordinal⟩ := ofYMD?_of_valid d.valid
  rw [he, ext_ordinal (hordinal.trans d.ordinal_eq.symm)]

theorem ext_ymd (hy : d.year = e.year) (hm : d.month = e.month) (hd : d.day = e.day) : d = e := by
  apply ext_ordinal
  rw [d.ordinal_eq, e.ordinal_eq, hy, hm, hd]

theorem year_mono (h : d.ordinal ≤ e.ordinal) : d.year ≤ e.year := by
  by_contra hlt
  have hnext := daysBeforeYear_mono (Nat.lt_of_not_le hlt)
  have hd := d.year_spec.2.1
  have he := e.year_spec.2.2
  rw [Nat.succ_eq_add_one] at hnext
  omega

theorem ordinal_lt_of_month_lt (hyear : d.year = e.year) (h : d.month < e.month) :
    d.ordinal < e.ordinal := by
  obtain ⟨-, -, hm₁, hm₂, hd₁, hd₂⟩ := d.valid
  have hnext : daysBeforeMonth d.year d.month + daysInMonth d.year d.month ≤
      daysBeforeMonth d.year e.month := by
    obtain ⟨m, hm⟩ : ∃ m, d.month = m + 1 := ⟨d.month - 1, by omega⟩
    rw [hm] at h ⊢
    exact monthOffset_mono (isLeap d.year) (show m + 1 + 1 ≤ e.month from h)
  rw [d.ordinal_eq, e.ordinal_eq, ← hyear, dayOfYear, dayOfYear]
  omega

theorem ordinal_lt_iff_day_lt (hyear : d.year = e.year) (hmonth : d.month = e.month) :
    d.ordinal < e.ordinal ↔ d.day < e.day := by
  have hd := d.valid.2.2.2.2.1
  have he := e.valid.2.2.2.2.1
  rw [d.ordinal_eq, e.ordinal_eq, ← hyear, ← hmonth, dayOfYear, dayOfYear]
  omega

/-- The months of the calendar, counted through the years. -/
def monthNumber (d : Date) : ℕ := d.year * 12 + (d.month - 1)

theorem monthNumber_mono (h : d.ordinal ≤ e.ordinal) :
    d.monthNumber ≤ e.monthNumber := by
  have hd := d.valid.2.2.2.1
  have he := e.valid.2.2.1
  have hd' := d.valid.2.2.1
  rw [monthNumber, monthNumber]
  rcases Nat.lt_or_eq_of_le (year_mono h) with hlt | heq
  · omega
  · have hmonth : d.month ≤ e.month := by
      by_contra hlt
      have := ordinal_lt_of_month_lt heq.symm (Nat.lt_of_not_le hlt)
      omega
    omega

theorem monthNumber_eq_iff :
    d.monthNumber = e.monthNumber ↔ d.year = e.year ∧ d.month = e.month := by
  have hd := d.valid.2.2.2.1
  have he := e.valid.2.2.2.1
  have hd' := d.valid.2.2.1
  have he' := e.valid.2.2.1
  rw [monthNumber, monthNumber]
  omega

/-- The weeks of the calendar, the first of which begins on its first day, a Monday. -/
def weekNumber (d : Date) : ℕ := (d.ordinal - 1) / 7

theorem ordinal_eq_week (d : Date) : d.ordinal = 7 * d.weekNumber + d.weekday + 1 := by
  have hone := d.one_le
  rw [weekNumber, weekday]
  omega

theorem weekday_lt (d : Date) : d.weekday < 7 := Nat.mod_lt _ (by decide)

end Date

end SolarFlowEms.Calendar
