import SolarFlowEms.Library.TimeFormat
import SolarFlowEms.Schedule.DayPatterns
import SolarFlowEms.Schedule.SincePath
import SolarFlowEms.Schedule.StreamSearch

/-!
# The windows of a rule on the wall clock

A rule's windows are on the days its timing denotes, less the ones it skips.  What the stream of
a rule yields are such windows that are not over before the moment asked for, each after the one
before it.
-/

namespace SolarFlowEms.Schedule

open Python Calendar TimeText Zones Generator Fallible

theorem addMinutes_eq_ok {t t' : LocalTime} {n : ℕ} :
    addMinutes t n = .ok t' ↔ t'.minutes = t.minutes + n := by
  have hsome := @ofMinutes?_eq_some (t.minutes + n : ℤ) t'
  rw [addMinutes, LocalTime.add?]
  cases hadd : LocalTime.ofMinutes? ((t.minutes : ℤ) + n) with
  | none =>
    rw [hadd] at hsome
    refine ⟨fun h => (by cases h), fun h => ?_⟩
    cases hsome.mpr (by omega)
  | some t'' =>
    rw [hadd] at hsome
    constructor
    · intro h
      cases h
      have := hsome.mp rfl
      omega
    · intro h
      rw [Option.some.inj (hsome.mpr (by omega))]

namespace When

/-- A timing that was read, and is a window. -/
structure IsWindow (w : When) : Prop where
  accepted : ∃ payload, parseWhen payload = .ok w
  window : w.windowEnd?.isSome

def startMinutes (w : When) (d : Date) : ℕ := (w.start.onDay d).minutes

/-- The minute the window on a day ends, which the calendar may not have. -/
def endMinutes (w : When) (d : Date) : ℕ := w.startMinutes d + w.length.getD 0

/-- **A rule has a window on a day.** -/
structure HasWindow (w : When) (d : Date) : Prop where
  denotes : w.Denotes d
  kept : d ∉ w.exceptions

def EndsFrom (w : When) (since : Moment) (d : Date) : Prop :=
  since.micros ≤ w.endMinutes d * microsPerMinute

variable {w : When} {since : Moment}

theorem startMinutes_eq (w : When) (d : Date) :
    w.startMinutes d = (d.ordinal - 1) * minutesPerDay + w.start.minuteOfDay := rfl

variable {d : Date} {a : Window} {trace : Trace Date PyException}

theorem startMinutes_lt (w : When) {e : Date} (h : d.ordinal < e.ordinal) :
    w.startMinutes d < w.startMinutes e := by
  have hone := d.one_le
  rw [startMinutes_eq, startMinutes_eq]
  simp only [minutesPerDay]
  omega

namespace IsWindow

theorem ordered (h : w.IsWindow) : ∀ r ∈ w.repeat?, r.Ordered := by
  obtain ⟨payload, hparse⟩ := h.accepted
  exact fun r hr => ordered_of_parseTiming (parseTiming_of_parseWhen hparse).1 hr

theorem not_float (h : w.IsWindow) : ∀ r ∈ w.repeat?, ¬ r.FloatPosition := by
  obtain ⟨payload, hparse⟩ := h.accepted
  exact fun r hr => not_floatPosition_of_parseWhen hparse hr

theorem length_eq (h : w.IsWindow) : ∃ n, w.length = some n ∧ 0 < n := by
  obtain ⟨t, ht⟩ := Option.isSome_iff_exists.mp h.window
  have hafter := w.end_after t ht
  refine ⟨t.minutes - w.start.minutes, ?_, by omega⟩
  rw [length, ht]
  rfl

theorem start_lt_end (h : w.IsWindow) (d : Date) : w.startMinutes d < w.endMinutes d := by
  obtain ⟨n, hn, hpos⟩ := h.length_eq
  rw [endMinutes, hn]
  exact Nat.lt_add_of_pos_right hpos

theorem wallEnd_eq_ok (h : w.IsWindow) {d : Date} {finish : LocalTime} :
    w.wallEnd d = .ok finish ↔ finish.minutes = w.endMinutes d := by
  obtain ⟨n, hn, -⟩ := h.length_eq
  rw [wallEnd, endMinutes, hn, startMinutes]
  exact addMinutes_eq_ok

end IsWindow

/-! ### What a stream yields -/

/-- A window of a stream is the one on a day. -/
structure IsOn (w : When) (a : Window) (d : Date) : Prop where
  start : a.start = w.start.onDay d
  finish : a.finish.minutes = w.endMinutes d

theorem IsOn.start_eq (h : w.IsOn a d) :
    a.start.minutes = w.startMinutes d := by
  rw [h.start]
  rfl

theorem mem_wallWindowsOn (h : w.IsWindow)
    (ha : a ∈ (wallWindowsOn w since trace).yields) : ∃ d ∈ trace.yields,
      w.IsOn a d ∧ d ∉ w.exceptions ∧ w.EndsFrom since d := by
  induction trace with
  | done | raises e => cases ha
  | yield day rest ih =>
    rw [wallWindowsOn] at ha
    split at ha
    · cases ha
    · next finish hfinish =>
      have hend := h.wallEnd_eq_ok.mp hfinish
      split at ha
      · obtain ⟨d, hd, hrest⟩ := ih () ha
        exact ⟨d, List.mem_cons_of_mem _ hd, hrest⟩
      · next hkept =>
        rw [not_or, Nat.not_lt] at hkept
        obtain rfl | ha := List.mem_cons.mp ha
        · refine ⟨day, List.mem_cons_self, ⟨rfl, hend⟩, hkept.2, ?_⟩
          rw [EndsFrom, ← hend]
          exact hkept.1
        · obtain ⟨d, hd, hrest⟩ := ih () ha
          exact ⟨d, List.mem_cons_of_mem _ hd, hrest⟩

theorem inOrder_wallWindowsOn (h : w.IsWindow)
    (hasc : Ascending trace.yields) : InOrder (wallWindowsOn w since trace).yields := by
  refine ⟨?_, fun a ha => ?_⟩
  · induction trace with
    | done | raises e => exact List.Pairwise.nil
    | yield day rest ih =>
      obtain ⟨hlt, hrest⟩ := List.pairwise_cons.mp hasc
      rw [wallWindowsOn]
      split
      · exact List.Pairwise.nil
      · next finish hfinish =>
        split
        · exact ih () hrest
        · refine List.pairwise_cons.mpr ⟨fun b hb => ?_, ih () hrest⟩
          obtain ⟨d, hd, hon, -⟩ := mem_wallWindowsOn h hb
          have hend := h.wallEnd_eq_ok.mp hfinish
          have hstart := (w.startMinutes_lt (hlt d hd)).le
          rw [hon.start_eq, hon.finish, hend, endMinutes, endMinutes]
          exact ⟨hstart, Nat.add_le_add_right hstart _⟩
  · obtain ⟨d, -, hon, -⟩ := mem_wallWindowsOn h ha
    rw [hon.start_eq, hon.finish]
    exact h.start_lt_end d

theorem ascending_daysFrom (h : w.IsWindow) (since : Moment) :
    Ascending (daysFrom w (some since)).yields := by
  rw [daysFrom]
  split
  · exact List.Pairwise.nil
  · exact ascending_days h.ordered _

theorem inOrder_wallWindows (h : w.IsWindow) (since : Moment) :
    InOrder (wallWindows w since).yields :=
  inOrder_wallWindowsOn h (ascending_daysFrom h since)

theorem skip_le_of_endsFrom (h : w.IsWindow) {skip : Date} (hends : w.EndsFrom since d)
    (hover : d.ordinal < skip.ordinal → w.overBy d + microsPerDay ≤ since.micros) :
    skip.ordinal ≤ d.ordinal := by
  by_contra hlt
  have hle := hover (Nat.lt_of_not_le hlt)
  obtain ⟨n, hn, -⟩ := h.length_eq
  have hminute := w.start.minuteOfDay_lt
  have hone := d.one_le
  rw [EndsFrom, endMinutes, startMinutes_eq] at hends
  rw [overBy, span, hn] at hle
  rw [hn] at hends
  simp only [minutesPerDay, microsPerDay, microsPerMinute, Option.getD_some] at *
  omega

end When

end SolarFlowEms.Schedule
