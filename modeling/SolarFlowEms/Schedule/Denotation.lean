import Mathlib.Data.Set.Card
import SolarFlowEms.Schedule.Unexpandable

/-!
# What a repeat denotes

The days a repeat stands for, said of each day by itself.  Counted in the repeat's unit a day
is a whole number of intervals after the first, it is in a listed month, and it is the day of
the week or of the month that the repeat names.  An end by date bounds the day, and an end by
count bounds how many matching days there are up to it.  Nothing here goes through periods.
-/

namespace SolarFlowEms.Schedule

open Calendar Fallible

instance : Finite Date :=
  Finite.of_injective (fun d => (⟨d.ordinal, Nat.lt_succ_of_le d.le_max⟩ : Fin (maxOrdinal + 1)))
    fun _ _ h => Date.ext_ordinal (congrArg Fin.val h)

/-- The number of the unit a day falls into, which a repeat's interval counts. -/
def Freq.unit (freq : Freq) (d : Date) : ℕ :=
  match freq with
  | .daily => d.ordinal
  | .weekly => d.weekNumber
  | .monthly => d.monthNumber
  | .yearly => d.year

theorem Freq.unit_mono (freq : Freq) {d e : Date} (h : d.ordinal ≤ e.ordinal) :
    freq.unit d ≤ freq.unit e := by
  cases freq with
  | daily => exact h
  | weekly => exact Nat.div_le_div_right (Nat.sub_le_sub_right h 1)
  | monthly => exact Date.monthNumber_mono h
  | yearly => exact Date.year_mono h

namespace Repeat

variable (r : Repeat) (first : Date)

/-- A yearly repeat without months stays in the month of its start. -/
def InMonth (d : Date) : Prop :=
  if r.byMonth = [] then r.freq = .yearly → d.month = first.month else d.month ∈ r.byMonth

/-- `e` is in the month of `d`, on a listed weekday. -/
def MonthMate (d e : Date) : Prop :=
  e.year = d.year ∧ e.month = d.month ∧ e.weekday ∈ r.byWeekday

/-- Of the days of its month on listed weekdays, `d` has the set position. -/
def AtPosition (d : Date) : Prop :=
  ∀ pos ∈ r.bySetPos,
    if pos.position = -1 then ∀ e, r.MonthMate d e → e.ordinal ≤ d.ordinal
    else (Set.ncard {e | r.MonthMate d e ∧ e.ordinal ≤ d.ordinal} : ℤ) = pos.position

/-- The day of the month: as listed, a listed weekday at its position, or as the first day. -/
def OnMonthDay (d : Date) : Prop :=
  if r.byMonthDay ≠ [] then
    (d.day : ℤ) ∈ r.byMonthDay ∨ -1 ∈ r.byMonthDay ∧ d.day = daysInMonth d.year d.month
  else if r.byWeekday ≠ [] then d.weekday ∈ r.byWeekday ∧ r.AtPosition d
  else d.day = first.day

def weekdays : List ℕ := if r.byWeekday = [] then [first.weekday] else r.byWeekday

def OnDay (d : Date) : Prop :=
  match r.freq with
  | .daily => r.byWeekday = [] ∨ d.weekday ∈ r.byWeekday
  | .weekly => d.weekday ∈ r.weekdays first
  | .monthly => r.OnMonthDay first d
  | .yearly => r.OnMonthDay first d

/-- **A day of the `k`-th period**, counted from the one the first day is in. -/
structure FallsIn (k : ℕ) (d : Date) : Prop where
  unit_eq : r.freq.unit d = r.freq.unit first + k * r.interval
  inMonth : r.InMonth first d
  onDay : r.OnDay first d
  first_le : first.ordinal ≤ d.ordinal

/-- The repeat without its end. -/
def Matches (d : Date) : Prop := ∃ k, r.FallsIn first k d

/-- **The days a repeat denotes.** -/
structure Denotes (d : Date) : Prop where
  matching : r.Matches first d
  by_until : ∀ u ∈ r.until?, d.ordinal ≤ u.ordinal
  by_count : ∀ c ∈ r.count, Set.ncard {e | r.Matches first e ∧ e.ordinal ≤ d.ordinal} ≤ c

variable {r first}

theorem FallsIn.unique {k k' : ℕ} {d : Date} (h : r.FallsIn first k d)
    (h' : r.FallsIn first k' d) : k = k' := by
  have heq := h.unit_eq.symm.trans h'.unit_eq
  exact Nat.eq_of_mul_eq_mul_right r.interval_pos (Nat.add_left_cancel heq)

theorem FallsIn.lt {k k' : ℕ} {d e : Date} (h : r.FallsIn first k d) (h' : r.FallsIn first k' e)
    (hk : k < k') : d.ordinal < e.ordinal := by
  by_contra hle
  have hmono := r.freq.unit_mono (Nat.le_of_not_lt hle)
  rw [h.unit_eq, h'.unit_eq] at hmono
  have hlt := Nat.mul_lt_mul_of_pos_right hk r.interval_pos
  omega

end Repeat

/-- The days of a rule's occurrences. -/
def When.Denotes (w : When) (d : Date) : Prop :=
  match w.repeat? with
  | none => d = w.start.date
  | some r => r.Denotes w.start.date d

/-! ### Days in their order -/

/-- Days each of which is before the next. -/
def Ascending (days : List Date) : Prop := days.Pairwise fun d e => d.ordinal < e.ordinal

namespace Ascending

variable {days : List Date}

section

variable (h : Ascending days)
include h

theorem nodup : days.Nodup :=
  List.Pairwise.imp (fun hlt heq => absurd (congrArg Date.ordinal heq) (Nat.ne_of_lt hlt)) h

theorem getElem_lt {i j : ℕ} (hi : i < days.length) (hj : j < days.length)
    (hij : i < j) : days[i].ordinal < days[j].ordinal :=
  List.pairwise_iff_getElem.mp h i j hi hj hij

/-- **The place of a day is the number of days up to it.** -/
theorem ncard_le {i : ℕ} {d : Date} (hi : days[i]? = some d) :
    Set.ncard {e | e ∈ days ∧ e.ordinal ≤ d.ordinal} = i + 1 := by
  obtain ⟨hlt, rfl⟩ := List.getElem?_eq_some_iff.mp hi
  have hset : {e | e ∈ days ∧ e.ordinal ≤ days[i].ordinal} = ↑(days.take (i + 1)).toFinset := by
    ext e
    rw [Set.mem_ofPred_eq, Finset.mem_coe, List.mem_toFinset, List.mem_take_iff_getElem]
    constructor
    · rintro ⟨hmem, hle⟩
      obtain ⟨j, hj, rfl⟩ := List.getElem_of_mem hmem
      have hji : j ≤ i := by
        by_contra hgt
        have := h.getElem_lt hlt hj (Nat.lt_of_not_le hgt)
        omega
      exact ⟨j, by omega, rfl⟩
    · rintro ⟨j, hj, rfl⟩
      refine ⟨List.getElem_mem _, ?_⟩
      rcases Nat.lt_or_ge j i with hji | hji
      · exact (h.getElem_lt (by omega) hlt hji).le
      · have : j = i := by omega
        subst this
        exact le_rfl
  rw [hset, Set.ncard_coe_finset, List.toFinset_card_of_nodup (h.nodup.sublist (List.take_sublist _ _)),
    List.length_take]
  omega

theorem filter (p : Date → Bool) : Ascending (days.filter p) :=
  List.Pairwise.filter p h

theorem append {days' : List Date} (h' : Ascending days')
    (hlt : ∀ d ∈ days, ∀ e ∈ days', d.ordinal < e.ordinal) : Ascending (days ++ days') :=
  List.pairwise_append.mpr ⟨h, h', hlt⟩

theorem getElem?_eq_some_iff {i : ℕ} {d : Date} : days[i]? = some d ↔
    d ∈ days ∧ Set.ncard {e | e ∈ days ∧ e.ordinal ≤ d.ordinal} = i + 1 := by
  constructor
  · intro hi
    exact ⟨List.mem_of_getElem? hi, h.ncard_le hi⟩
  · rintro ⟨hmem, hcard⟩
    obtain ⟨j, hj⟩ := List.mem_iff_getElem?.mp hmem
    have hji : j + 1 = i + 1 := (h.ncard_le hj).symm.trans hcard
    rwa [← Nat.succ.inj hji]

theorem getLast?_eq_some_iff {d : Date} : days.getLast? = some d ↔
    d ∈ days ∧ ∀ e ∈ days, e.ordinal ≤ d.ordinal := by
  rw [List.getLast?_eq_getElem?]
  constructor
  · intro hd
    obtain ⟨hlast, rfl⟩ := List.getElem?_eq_some_iff.mp hd
    refine ⟨List.getElem_mem _, fun e he => ?_⟩
    obtain ⟨j, hj, rfl⟩ := List.getElem_of_mem he
    rcases Nat.lt_or_ge j (days.length - 1) with hlt | hge
    · exact (h.getElem_lt hj hlast hlt).le
    · have : j = days.length - 1 := by omega
      subst this
      exact le_rfl
  · rintro ⟨hmem, hle⟩
    obtain ⟨j, hj, rfl⟩ := List.getElem_of_mem hmem
    have hlast : days.length - 1 < days.length := by omega
    rcases Nat.lt_or_ge j (days.length - 1) with hlt | hge
    · have := h.getElem_lt hj hlast hlt
      have := hle _ (List.getElem_mem hlast)
      omega
    · have : days.length - 1 = j := by omega
      rw [this]
      exact List.getElem?_eq_getElem hj

end

end Ascending

end SolarFlowEms.Schedule
