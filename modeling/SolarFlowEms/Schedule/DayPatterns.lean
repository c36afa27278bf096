import SolarFlowEms.Schedule.Clash
import SolarFlowEms.Schedule.SkippedDays

/-!
# Patterns of a whole number of days

A daily or weekly repeat that does not look at months repeats after its period: a day it
matches is matched one period earlier too, as long as that is not before its start.  Such a
repeat that occurs at all has no long run of periods without a day, so that its expansion goes
on to the end of the calendar.
-/

namespace SolarFlowEms.Schedule

open Python Calendar TimeText Zones Generator Fallible

/-- A repeat whose days return after `p` days. -/
structure Repeat.HasPattern (r : Repeat) (p : ℕ) : Prop where
  byMonth : r.byMonth = []
  freq : r.freq = .daily ∧ r.interval ∣ p ∧ (r.byWeekday ≠ [] → 7 ∣ p) ∨
    r.freq = .weekly ∧ 7 * r.interval ∣ p
  pos : 0 < p

theorem hasPattern_of_patternDays {w : When} {p : ℕ} (h : w.patternDays = some p) :
    ∃ r, w.repeat? = some r ∧ r.HasPattern p := by
  rw [When.patternDays.eq_def] at h
  split at h
  · cases h
  · next r hr =>
    refine ⟨r, hr, ?_⟩
    have hpos := r.interval_pos
    split at h
    · cases h
    · next hmonths =>
      rw [not_or] at hmonths
      have hmonth : r.byMonth = [] := not_not.mp hmonths.1
      split at h
      · next hfreq =>
        split at h
        · cases h
          exact ⟨hmonth, .inl ⟨hfreq, Nat.dvd_lcm_left _ _, fun _ => Nat.dvd_lcm_right _ _⟩,
            Nat.lcm_pos hpos (by decide)⟩
        · next hweekday =>
          cases h
          exact ⟨hmonth, .inl ⟨hfreq, dvd_rfl, fun h => absurd h hweekday⟩, hpos⟩
      · next hfreq =>
        cases h
        exact ⟨hmonth, .inr ⟨hfreq, dvd_rfl⟩, by omega⟩
      · cases h
      · cases h

namespace Repeat

variable {r : Repeat} {first : Date} {p : ℕ}

variable {l k s : ℕ} {d e : Date}

theorem HasPattern.of_dvd (h : r.HasPattern p) (hdvd : p ∣ l) (hl : 0 < l) : r.HasPattern l where
  byMonth := h.byMonth
  freq := by
    obtain ⟨hfreq, hinterval, hweek⟩ | ⟨hfreq, hinterval⟩ := h.freq
    · exact .inl ⟨hfreq, hinterval.trans hdvd, fun hne => (hweek hne).trans hdvd⟩
    · exact .inr ⟨hfreq, hinterval.trans hdvd⟩
  pos := hl

theorem weekday_eq_of_dvd (hd : d.ordinal = e.ordinal + l) (h : 7 ∣ l) :
    d.weekday = e.weekday := by
  obtain ⟨n, rfl⟩ := h
  rw [Date.weekday, Date.weekday, hd]
  omega

section

variable (h : r.HasPattern p)
include h

theorem inMonth_of_hasPattern (d : Date) : r.InMonth first d := by
  rw [InMonth, if_pos h.byMonth]
  intro hyear
  obtain ⟨hfreq, -⟩ | ⟨hfreq, -⟩ := h.freq
  · rw [hfreq] at hyear
    cases hyear
  · rw [hfreq] at hyear
    cases hyear

theorem matches_earlier (hd : r.Matches first d)
    (he : d.ordinal = e.ordinal + p) (hle : first.ordinal ≤ e.ordinal) : r.Matches first e := by
  obtain ⟨k, hfalls⟩ := hd
  have hunit := hfalls.unit_eq
  have hon := hfalls.onDay
  obtain ⟨hfreq, ⟨m, rfl⟩, hweek⟩ | ⟨hfreq, ⟨m, rfl⟩⟩ := h.freq
  · simp only [Freq.unit, hfreq] at hunit
    have hmk : m ≤ k := by
      by_contra hlt
      have := Nat.mul_lt_mul_of_pos_right (Nat.lt_of_not_le hlt) r.interval_pos
      have hcomm := Nat.mul_comm r.interval m
      omega
    refine ⟨k - m, ?_, inMonth_of_hasPattern h e, ?_, hle⟩
    · simp only [Freq.unit, hfreq]
      have hcomm := Nat.mul_comm r.interval m
      have hsub := Nat.sub_mul k m r.interval
      have hmul := Nat.mul_le_mul_right r.interval hmk
      omega
    · rw [OnDay] at hon ⊢
      simp only [hfreq] at hon ⊢
      obtain hnone | hmem := hon
      · exact .inl hnone
      · by_cases hnone : r.byWeekday = []
        · exact .inl hnone
        · exact .inr (weekday_eq_of_dvd he (hweek hnone) ▸ hmem)
  · simp only [Freq.unit, hfreq] at hunit
    have hweekday := weekday_eq_of_dvd he (Nat.dvd_mul_right_of_dvd (Nat.dvd_mul_right 7 _) m)
    have hd := d.ordinal_eq_week
    have he' := e.ordinal_eq_week
    have hassoc := Nat.mul_assoc 7 r.interval m
    have hcomm := Nat.mul_comm r.interval m
    have hweeks : d.weekNumber = e.weekNumber + m * r.interval := by omega
    have hfirst : first.weekNumber ≤ e.weekNumber := Nat.div_le_div_right (by omega)
    have hmk : m ≤ k := by
      by_contra hlt
      have := Nat.mul_lt_mul_of_pos_right (Nat.lt_of_not_le hlt) r.interval_pos
      omega
    refine ⟨k - m, ?_, inMonth_of_hasPattern h e, ?_, hle⟩
    · simp only [Freq.unit, hfreq]
      have hsub := Nat.sub_mul k m r.interval
      have hmul := Nat.mul_le_mul_right r.interval hmk
      omega
    · rw [OnDay] at hon ⊢
      simp only [hfreq] at hon ⊢
      rwa [hweekday] at hon

theorem denotes_earlier (hd : r.Denotes first d)
    (he : d.ordinal = e.ordinal + p) (hle : first.ordinal ≤ e.ordinal) : r.Denotes first e where
  matching := matches_earlier h hd.matching he hle
  by_until := fun u hu => by
    have := hd.by_until u hu
    omega
  by_count := by
    intro c hc
    refine le_trans (Set.ncard_le_ncard ?_ (Set.toFinite _)) (hd.by_count c hc)
    intro x hx
    exact ⟨hx.1, hx.2.trans (by omega)⟩

theorem exists_fallsIn_daily (hfreq : r.freq = .daily)
    (hfalls : r.FallsIn first k d) (hs : first.ordinal + (s + 6) * r.interval ≤ maxOrdinal) :
    ∃ i e, s ≤ i ∧ i ≤ s + 6 ∧ r.FallsIn first i e := by
  obtain ⟨i, hsi, his, hmod⟩ : ∃ i, s ≤ i ∧ i ≤ s + 6 ∧ i % 7 = k % 7 :=
    ⟨s + (k + 6 * s) % 7, by omega, by omega, by omega⟩
  have hmul := Nat.mul_le_mul_right r.interval his
  have hone := first.one_le
  obtain ⟨e, he⟩ : ∃ e : Date, e.ordinal = first.ordinal + i * r.interval :=
    ⟨⟨first.ordinal + i * r.interval, by omega, by omega⟩, rfl⟩
  have hunit := hfalls.unit_eq
  have hon := hfalls.onDay
  simp only [Freq.unit, hfreq] at hunit
  have hweekday : d.weekday = e.weekday := by
    have hproduct : k * r.interval % 7 = i * r.interval % 7 := by
      rw [Nat.mul_mod, ← hmod, ← Nat.mul_mod]
    rw [Date.weekday, Date.weekday]
    omega
  refine ⟨i, e, hsi, his, ?_, inMonth_of_hasPattern h e, ?_, by omega⟩
  · simp only [Freq.unit, hfreq]
    exact he
  · rw [OnDay] at hon ⊢
    simp only [hfreq] at hon ⊢
    rwa [hweekday] at hon

theorem exists_fallsIn_weekly (hfreq : r.freq = .weekly)
    (hfalls : r.FallsIn first k d) (hinside : ¬ r.Leaves first (s + 1)) :
    ∃ e, r.FallsIn first (s + 1) e := by
  have hon := hfalls.onDay
  rw [OnDay] at hon
  simp only [hfreq] at hon
  simp only [Leaves, hfreq, not_exists, not_and, Nat.not_lt] at hinside
  have hmax := hinside d.weekday hon
  have hfirst := first.ordinal_eq_week
  have hlt := first.weekday_lt
  have hlt' := d.weekday_lt
  have hstep : r.interval ≤ (s + 1) * r.interval := Nat.le_mul_of_pos_left _ (Nat.succ_pos s)
  have hpos := r.interval_pos
  obtain ⟨e, he⟩ : ∃ e : Date,
      e.ordinal = 7 * (first.weekNumber + (s + 1) * r.interval) + d.weekday + 1 :=
    ⟨⟨_, Nat.le_add_left 1 _, by omega⟩, rfl⟩
  have hweekday : e.weekday = d.weekday := by
    rw [Date.weekday, he]
    omega
  refine ⟨e, ?_, inMonth_of_hasPattern h e, ?_, by omega⟩
  · simp only [Freq.unit, hfreq]
    rw [Date.weekNumber, he]
    omega
  · rw [OnDay]
    simp only [hfreq]
    rwa [hweekday]

theorem noLongRun_of_hasPattern (hoccurs : ∃ d, r.Matches first d) :
    r.NoLongRun first := by
  intro s hinside
  obtain ⟨d, k, hfalls⟩ := hoccurs
  obtain ⟨hfreq, -⟩ | ⟨hfreq, -⟩ := h.freq
  · have hmax : r.maxEmptyPeriods = 400 := by rw [maxEmptyPeriods, hfreq]
    rw [hmax] at hinside ⊢
    simp only [Leaves, hfreq, Nat.not_lt] at hinside
    have hmul := Nat.mul_le_mul_right r.interval (show s + 6 ≤ s + 400 by omega)
    obtain ⟨i, e, hsi, his, he⟩ := exists_fallsIn_daily h hfreq hfalls (s := s) (by omega)
    exact ⟨i, e, hsi, by omega, he⟩
  · have hmax : r.maxEmptyPeriods = 60 := by rw [maxEmptyPeriods, hfreq]
    rw [hmax] at hinside ⊢
    obtain ⟨e, he⟩ := exists_fallsIn_weekly h hfreq hfalls
      (not_leaves_of_le hinside (show s + 1 ≤ s + 60 by omega))
    exact ⟨s + 1, e, by omega, by omega, he⟩

end

end Repeat

end SolarFlowEms.Schedule
