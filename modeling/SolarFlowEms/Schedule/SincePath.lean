import SolarFlowEms.Schedule.SkippedDays

/-!
# Occurrences from a moment on

Asking for the occurrences from a moment on finds those of the expansion from the start that
end at or after it.  The days left out are two days and a window's length before the moment,
and no zone is two days from UTC, so their occurrences are over by then.

* `yields_occurrences_since_iff` - both ways yield the same exactly where the day skipped to is
  inside the calendar and every day left out has its times, or nothing is still to come.
* `occurrences_before_calendar` - where that day is before the calendar the later way raises.
* `raised?_occurrences_since` - what both ways raise is the same where the later one goes on.
-/

namespace SolarFlowEms.Schedule

open Python Calendar TimeText Zones Generator Fallible Trace

/-! ### Traces of occurrences -/

section Occurrences

variable {w : When} {zone : Zone} {since till : Option Moment}

theorem yields_occurrencesOn (w : When) (zone : Zone) (since till : Option Moment)
    (trace : Trace Date PyException) : (occurrencesOn w zone since till trace).yields =
      (occurrencesOn w zone since till (.yieldAll trace.yields .done)).yields := by
  induction trace with
  | done | raises e => rfl
  | yield day rest ih =>
    rw [yields_yield, yieldAll_cons, occurrencesOn, occurrencesOn]
    cases w.startOn zone day with
    | error e => rfl
    | ok start =>
      dsimp only
      split
      · rfl
      · cases w.occurrenceOn zone day start with
        | error e => rfl
        | ok o =>
          dsimp only
          split
          · exact ih ()
          · rw [yields_yield, yields_yield, ih ()]

end Occurrences

namespace When

variable {w : When} {zone : Zone}

/-! ### Times of the days -/

theorem micros_onDay (w : When) (d : Date) : (ofLocal (w.start.onDay d)).micros =
    (d.ordinal - 1) * microsPerDay + w.start.minuteOfDay * microsPerMinute := by
  show ((d.ordinal - 1) * minutesPerDay + w.start.minuteOfDay) * microsPerMinute = _
  simp only [minutesPerDay, microsPerDay, microsPerMinute]
  omega

variable {d : Date} {o : Occurrence} {s : Moment} {trace : Trace Date PyException}
  {left : List Date} {r : Repeat}

theorem startOn_mono {d' : Date} {start start' : Moment} (h : w.startOn zone d = .ok start)
    (h' : w.startOn zone d' = .ok start') (hlt : d.ordinal < d'.ordinal) :
    start.micros ≤ start'.micros := by
  have hmicros := Zone.micros_of_localize h
  have hmicros' := Zone.micros_of_localize h'
  have hone := d.one_le
  have hlater := zone.later (w.start.onDay d) (w.start.onDay d') (by
    show (d.ordinal - 1) * minutesPerDay + _ + minutesPerDay ≤ (d'.ordinal - 1) * minutesPerDay + _
    simp only [minutesPerDay]
    omega)
  omega

/-- The times a day needs: those of its occurrence, or none where it starts after the end that
is asked for. -/
def HasTimes (w : When) (zone : Zone) (till : Option Moment) (d : Date) : Prop :=
  ∃ start, w.startOn zone d = .ok start ∧
    (till.any (·.micros < start.micros) = true ∨ ∃ o, w.occurrenceOn zone d start = .ok o)

def overBy (w : When) (d : Date) : ℕ := d.ordinal * microsPerDay + w.span + microsPerDay

theorem micros_onDay_lt (w : When) (d : Date) :
    (ofLocal (w.start.onDay d)).micros < d.ordinal * microsPerDay := by
  have hminute := w.start.minuteOfDay_lt
  have hone := d.one_le
  rw [micros_onDay]
  simp only [minutesPerDay] at hminute
  simp only [microsPerDay, microsPerMinute]
  omega

theorem start_lt_of_startOn {start : Moment} (h : w.startOn zone d = .ok start) :
    start.micros < d.ordinal * microsPerDay + microsPerDay := by
  have hmicros := Zone.micros_of_localize h
  have hlocal := w.micros_onDay_lt d
  have hoff := abs_lt.mp (zone.offset_lt (w.start.onDay d))
  omega

theorem micros_of_addMinutes {length : ℕ} {localEnd : LocalTime} (hlength : w.length = some length)
    (h : addMinutes (w.start.onDay d) length = .ok localEnd) :
    (ofLocal localEnd).micros = (ofLocal (w.start.onDay d)).micros + w.span := by
  rw [addMinutes] at h
  cases hadd : (w.start.onDay d).add? length with
  | none =>
    rw [hadd] at h
    cases h
  | some t =>
    rw [hadd] at h
    cases h
    have := LocalTime.add?_eq_some hadd
    rw [span, hlength, Option.getD_some]
    show localEnd.minutes * microsPerMinute =
      (w.start.onDay d).minutes * microsPerMinute + length * microsPerMinute
    rw [← Nat.add_mul]
    congr 1
    omega

/-- **An occurrence is over** a day and its window's length after its day. -/
theorem last_lt_overBy {start : Moment}
    (hstart : w.startOn zone d = .ok start) (h : w.occurrenceOn zone d start = .ok o) :
    o.last.micros < w.overBy d := by
  have hlt := start_lt_of_startOn hstart
  obtain ⟨finish, hfinish, rfl⟩ := map_eq_ok.mp h
  rw [overBy]
  cases hlength : w.length with
  | none =>
    rw [finishOn, hlength] at hfinish
    cases hfinish
    show start.micros < _
    omega
  | some length =>
    rw [finishOn, hlength] at hfinish
    obtain ⟨m, hm, rfl⟩ := map_eq_ok.mp hfinish
    obtain ⟨localEnd, hadd, hm⟩ := bind_eq_ok.mp hm
    obtain ⟨finish, hlocal, hm⟩ := bind_eq_ok.mp hm
    have hend := micros_of_addMinutes hlength hadd
    have hmicros := Zone.micros_of_localize hlocal
    have hoff := abs_lt.mp (zone.offset_lt localEnd)
    have hday := w.micros_onDay_lt d
    have hspan : w.span = length * microsPerMinute := by rw [span, hlength]; rfl
    show m.micros < _
    split at hm
    · cases hm
      omega
    · have := Moment.shift_eq_ok.mp hm
      omega

/-- **A day has its times** where it is none of the calendar's first two and its window is over
a day before the calendar's end. -/
theorem hasTimes_of_three_le (h₁ : 3 ≤ d.ordinal)
    (h₂ : w.overBy d + microsPerDay ≤ maxOrdinal * microsPerDay) (till : Option Moment) :
    w.HasTimes zone till d := by
  have hlocal := w.micros_onDay_lt d
  have hlow : 2 * microsPerDay ≤ (ofLocal (w.start.onDay d)).micros := by
    rw [micros_onDay]
    simp only [microsPerDay]
    omega
  rw [overBy] at h₂
  obtain ⟨start, hstart⟩ : ∃ start, zone.localize (w.start.onDay d) = .ok start :=
    Zone.exists_localize hlow (by omega)
  have hlt := start_lt_of_startOn hstart
  refine ⟨start, hstart, .inr ?_⟩
  cases hlength : w.length with
  | none =>
    refine ⟨⟨d, start, none⟩, ?_⟩
    rw [occurrenceOn, finishOn, hlength]
    rfl
  | some length =>
    have hspan : w.span = length * microsPerMinute := by rw [span, hlength]; rfl
    obtain ⟨localEnd, hadd⟩ : ∃ t, addMinutes (w.start.onDay d) length = .ok t := by
      rw [addMinutes]
      cases hadd : (w.start.onDay d).add? length with
      | some t => exact ⟨t, rfl⟩
      | none =>
        have hpast := LocalTime.add?_eq_none.mp hadd
        have hm : (ofLocal (w.start.onDay d)).micros =
          (w.start.onDay d).minutes * microsPerMinute := rfl
        simp only [minutesPerDay, microsPerMinute, microsPerDay] at *
        omega
    have hend := micros_of_addMinutes hlength hadd
    obtain ⟨finish, hfinish⟩ : ∃ finish, zone.localize localEnd = .ok finish :=
      Zone.exists_localize (by omega) (by omega)
    obtain ⟨kept, hkept⟩ : ∃ kept, w.windowEndOn zone d start length = .ok kept := by
      rw [windowEndOn]
      by_cases hgap : start.micros < finish.micros
      · exact ⟨finish, bind_eq_ok.mpr ⟨localEnd, hadd, bind_eq_ok.mpr
          ⟨finish, hfinish, if_pos hgap⟩⟩⟩
      · obtain ⟨kept, hkept⟩ := Moment.exists_ofMicros?
          (n := start.micros + (length * microsPerMinute : ℕ)) (by omega) (by omega)
        refine ⟨kept, bind_eq_ok.mpr ⟨localEnd, hadd, bind_eq_ok.mpr ⟨finish, hfinish, ?_⟩⟩⟩
        rw [if_neg hgap]
        exact Moment.shift_eq_ok.mpr (Moment.ofMicros?_eq_some.mp hkept)
    refine ⟨⟨d, start, some kept⟩, ?_⟩
    rw [occurrenceOn, finishOn, hlength]
    show _ <$> (some <$> w.windowEndOn zone d start length) = _
    rw [hkept]
    rfl

/-! ### Leaving days out -/

theorem leavesOut_some (w : When) (s : Moment) (o : Occurrence) :
    w.leavesOut (some s) o = (!o.endsFrom s || w.leavesOut none o) := by
  have hover : decide (o.last.micros < s.micros) = !o.endsFrom s := by
    rw [Occurrence.endsFrom, ← decide_not, decide_eq_decide, Nat.not_le]
  rw [leavesOut, leavesOut, Option.any_some, Option.any_none, Bool.false_or, hover]

theorem occurrencesOn_since (s : Moment) (till : Option Moment) (trace : Trace Date PyException) :
    (occurrencesOn w zone (some s) till trace).yields =
        (occurrencesOn w zone none till trace).yields.filter (Occurrence.endsFrom s) ∧
      (occurrencesOn w zone (some s) till trace).raised? =
        (occurrencesOn w zone none till trace).raised? := by
  induction trace with
  | done | raises e => exact ⟨rfl, rfl⟩
  | yield day rest ih =>
    obtain ⟨ihy, ihr⟩ := ih ()
    rw [occurrencesOn, occurrencesOn]
    cases w.startOn zone day with
    | error e => exact ⟨rfl, rfl⟩
    | ok start =>
      dsimp only
      split
      · exact ⟨rfl, rfl⟩
      · cases w.occurrenceOn zone day start with
        | error e => exact ⟨rfl, rfl⟩
        | ok o =>
          dsimp only
          rw [leavesOut_some]
          cases hends : o.endsFrom s with
          | false =>
            rw [if_pos (by simp)]
            split
            · exact ⟨ihy, ihr⟩
            · rw [yields_yield, Trace.raised?_yield, List.filter_cons_of_neg (by simp [hends])]
              exact ⟨ihy, ihr⟩
          | true =>
            rw [Bool.not_true, Bool.false_or]
            split
            · exact ⟨ihy, ihr⟩
            · rw [yields_yield, yields_yield, Trace.raised?_yield, Trace.raised?_yield,
                List.filter_cons_of_pos hends, ihy]
              exact ⟨rfl, ihr⟩

/-- A day that is left out: it has its times, and they are over a day before `s`. -/
structure LeftOut (w : When) (zone : Zone) (till : Option Moment) (s : Moment) (d : Date) :
    Prop where
  times : w.HasTimes zone till d
  isOver : w.overBy d + microsPerDay ≤ s.micros

theorem endsFrom_eq_false {start : Moment}
    (hover : w.overBy d + microsPerDay ≤ s.micros) (hstart : w.startOn zone d = .ok start)
    (h : w.occurrenceOn zone d start = .ok o) : o.endsFrom s = false := by
  have hlast := last_lt_overBy hstart h
  exact decide_eq_false (by omega)

theorem yields_of_stopped {since till : Option Moment} {start : Moment}
    (hstart : w.startOn zone d = .ok start) (hstop : till.any (·.micros < start.micros) = true)
    (hlt : ∀ d' ∈ trace.yields, d.ordinal < d'.ordinal) :
    (occurrencesOn w zone since till trace).yields = [] := by
  cases trace with
  | done | raises e => rfl
  | yield d' rest =>
    rw [occurrencesOn]
    cases hstart' : w.startOn zone d' with
    | error e => rfl
    | ok start' =>
      have hle := startOn_mono hstart hstart' (hlt d' List.mem_cons_self)
      have hstop' : till.any (·.micros < start'.micros) = true := by
        cases till with
        | none => cases hstop
        | some t =>
          have ht : t.micros < start.micros := of_decide_eq_true hstop
          exact decide_eq_true (ht.trans_le hle)
      dsimp only
      rw [if_pos hstop']
      rfl

/-- **Days left out change nothing**: what the expansion from the start yields of them ends
before `s`. -/
theorem yields_occurrencesOn_yieldAll {till : Option Moment}
    (hleft : ∀ d ∈ left, w.LeftOut zone till s d)
    (hlt : ∀ d ∈ left, ∀ d' ∈ trace.yields, d.ordinal < d'.ordinal) :
    (occurrencesOn w zone (some s) till trace).yields =
      (occurrencesOn w zone none till (.yieldAll left trace)).yields.filter
        (Occurrence.endsFrom s) := by
  induction left with
  | nil => exact (occurrencesOn_since s till trace).1
  | cons d left ih =>
    have ih := ih (fun d' hd' => hleft d' (List.mem_cons_of_mem d hd'))
      (fun d' hd' => hlt d' (List.mem_cons_of_mem d hd'))
    obtain ⟨⟨start, hstart, hlast⟩, hover⟩ := hleft d List.mem_cons_self
    rw [yieldAll_cons, occurrencesOn.eq_def w zone none]
    dsimp only
    rw [hstart]
    dsimp only
    split
    · next hstop => rw [yields_of_stopped hstart hstop (hlt d List.mem_cons_self)]; rfl
    · next hgo =>
      obtain ⟨o, ho⟩ := hlast.resolve_left hgo
      have hends := endsFrom_eq_false hover hstart ho
      rw [ho]
      dsimp only
      split
      · exact ih
      · rw [yields_yield, List.filter_cons_of_neg (by simp [hends])]
        exact ih

/-- **Both ways end alike** where no day left out starts after the end that is asked for, or
the later expansion is over or its first day has a start. -/
theorem raised?_occurrencesOn_yieldAll {till : Option Moment}
    (hleft : ∀ d ∈ left, w.LeftOut zone till s d)
    (hlt : ∀ d ∈ left, ∀ d' ∈ trace.yields, d.ordinal < d'.ordinal)
    (hhead : (∃ d ∈ left, ∃ start, w.startOn zone d = .ok start ∧
        till.any (·.micros < start.micros) = true) →
      trace = .done ∨ ∃ d' rest start, trace = .yield d' rest ∧ w.startOn zone d' = .ok start) :
    (occurrencesOn w zone (some s) till trace).raised? =
      (occurrencesOn w zone none till (.yieldAll left trace)).raised? := by
  induction left with
  | nil => exact (occurrencesOn_since s till trace).2
  | cons d left ih =>
    have ih := ih (fun d' hd' => hleft d' (List.mem_cons_of_mem d hd'))
      (fun d' hd' => hlt d' (List.mem_cons_of_mem d hd'))
      (fun ⟨d', hd', hstops⟩ => hhead ⟨d', List.mem_cons_of_mem d hd', hstops⟩)
    obtain ⟨⟨start, hstart, hlast⟩, -⟩ := hleft d List.mem_cons_self
    rw [yieldAll_cons, occurrencesOn.eq_def w zone none]
    dsimp only
    rw [hstart]
    dsimp only
    split
    · next hstop =>
      obtain rfl | ⟨d', rest, start', rfl, hstart'⟩ :=
        hhead ⟨d, List.mem_cons_self, start, hstart, hstop⟩
      · rfl
      · have hle := startOn_mono hstart hstart' (hlt d List.mem_cons_self d' List.mem_cons_self)
        have hstop' : till.any (·.micros < start'.micros) = true := by
          cases till with
          | none => cases hstop
          | some t =>
            have ht : t.micros < start.micros := of_decide_eq_true hstop
            exact decide_eq_true (ht.trans_le hle)
        rw [occurrencesOn, hstart']
        dsimp only
        rw [if_pos hstop']
    · next hgo =>
      obtain ⟨o, ho⟩ := hlast.resolve_left hgo
      rw [ho]
      dsimp only
      split
      · exact ih
      · rw [Trace.raised?_yield]
        exact ih

/-! ### Which occurrences are yielded -/

/-- **An occurrence is yielded** where its day is among the days and its own, it starts by the
end that is asked for, it is not left out and each day before it has its times. -/
theorem mem_yields_occurrencesOn {since till : Option Moment} (hasc : Ascending trace.yields) :
    o ∈ (occurrencesOn w zone since till trace).yields ↔ o.day ∈ trace.yields ∧
      w.startOn zone o.day = .ok o.start ∧ till.any (·.micros < o.start.micros) = false ∧
        w.occurrenceOn zone o.day o.start = .ok o ∧ w.leavesOut since o = false ∧
          ∀ e ∈ trace.yields, e.ordinal < o.day.ordinal → w.HasTimes zone till e := by
  induction trace with
  | done | raises e => exact ⟨nofun, fun h => absurd h.1 List.not_mem_nil⟩
  | yield day rest ih =>
    rw [yields_yield] at hasc ⊢
    have hafter := fun e => @List.rel_of_pairwise_cons _ _ _ _ hasc e
    have ih := ih () hasc.of_cons
    rw [occurrencesOn]
    cases hstart : w.startOn zone day with
    | error e =>
      refine ⟨nofun, ?_⟩
      rintro ⟨hday, hown, -, -, -, hbefore⟩
      rcases List.mem_cons.mp hday with heq | hrest
      · rw [heq, hstart] at hown
        cases hown
      · obtain ⟨start, hok, -⟩ := hbefore day List.mem_cons_self (hafter _ hrest)
        rw [hstart] at hok
        cases hok
    | ok start =>
      dsimp only
      split
      · next hstop =>
        refine ⟨nofun, ?_⟩
        rintro ⟨hday, hown, hby, -⟩
        have hle : start.micros ≤ o.start.micros := by
          rcases List.mem_cons.mp hday with heq | hrest
          · rw [heq, hstart] at hown
            cases hown
            exact le_rfl
          · exact startOn_mono hstart hown (hafter _ hrest)
        cases till with
        | none => cases hstop
        | some t =>
          have ht : t.micros < start.micros := of_decide_eq_true hstop
          have hnot : ¬ t.micros < o.start.micros := of_decide_eq_false hby
          omega
      · next hgo =>
        cases ho : w.occurrenceOn zone day start with
        | error e =>
          refine ⟨nofun, ?_⟩
          rintro ⟨hday, hown, -, hocc, -, hbefore⟩
          rcases List.mem_cons.mp hday with heq | hrest
          · rw [heq, hstart] at hown
            cases hown
            rw [heq, ho] at hocc
            cases hocc
          · obtain ⟨start', hok, hlast⟩ := hbefore day List.mem_cons_self (hafter _ hrest)
            rw [hstart] at hok
            cases hok
            obtain ⟨o', ho'⟩ := hlast.resolve_left hgo
            rw [ho] at ho'
            cases ho'
        | ok o' =>
          have hday' : o'.day = day ∧ o'.start = start := by
            obtain ⟨finish, -, rfl⟩ := map_eq_ok.mp ho
            exact ⟨rfl, rfl⟩
          have htimes : w.HasTimes zone till day := ⟨start, hstart, .inr ⟨o', ho⟩⟩
          have hrest : o ∈ (occurrencesOn w zone since till (rest ())).yields ↔
              o.day ∈ (rest ()).yields ∧ w.startOn zone o.day = .ok o.start ∧
                till.any (·.micros < o.start.micros) = false ∧
                  w.occurrenceOn zone o.day o.start = .ok o ∧ w.leavesOut since o = false ∧
                    ∀ e ∈ day :: (rest ()).yields, e.ordinal < o.day.ordinal →
                      w.HasTimes zone till e := by
            rw [ih]
            simp only [List.forall_mem_cons, htimes, implies_true, true_and]
          have hfirst : o.day = day → w.occurrenceOn zone o.day o.start = .ok o →
              w.startOn zone o.day = .ok o.start → o = o' := by
            intro heq hocc hown
            rw [heq, hstart] at hown
            cases hown
            rw [heq, ho] at hocc
            cases hocc
            rfl
          dsimp only
          split
          · next hout =>
            rw [hrest]
            refine ⟨fun ⟨hday, h⟩ => ⟨List.mem_cons_of_mem day hday, h⟩, fun ⟨hday, h⟩ => ?_⟩
            rcases List.mem_cons.mp hday with heq | hlater
            · cases hfirst heq h.2.2.1 h.1
              rw [hout] at h
              exact absurd h.2.2.2.1 (by decide)
            · exact ⟨hlater, h⟩
          · next hin =>
            rw [yields_yield, List.mem_cons, hrest]
            constructor
            · rintro (rfl | ⟨hday, h⟩)
              · obtain ⟨hd, hs⟩ := hday'
                rw [hd, hs]
                refine ⟨List.mem_cons_self, hstart, Bool.eq_false_iff.mpr hgo, ho,
                  Bool.eq_false_iff.mpr hin, fun e he hlt => ?_⟩
                rcases List.mem_cons.mp he with rfl | he
                · exact htimes
                · have := hafter e he
                  omega
              · exact ⟨List.mem_cons_of_mem day hday, h⟩
            · rintro ⟨hday, h⟩
              rcases List.mem_cons.mp hday with heq | hlater
              · exact .inl (hfirst heq h.2.2.1 h.1)
              · exact .inr ⟨hlater, h⟩

/-! ### The two ways -/

/-- The day skipped to is inside the calendar, and every day left out has its times. -/
def SkipsInside (w : When) (zone : Zone) (till : Option Moment) (s : Moment) : Prop :=
  ∀ r ∈ w.repeat?, r.count = none → w.span + 2 * microsPerDay ≤ s.micros ∧
    ∀ skip, w.skipTo (some s) = .ok (some skip) →
      ∀ d, r.LeavesOut w.start.date skip d → w.HasTimes zone till d

/-- An occurrence from `s` on is still to come, on a day from the `i`-th period on before which
every day has its times. -/
def StillToCome (w : When) (r : Repeat) (zone : Zone) (till : Option Moment) (s : Moment)
    (i : ℕ) : Prop :=
  ∃ o : Occurrence, r.ComesFrom w.start.date i o.day ∧
    w.startOn zone o.day = .ok o.start ∧ till.any (·.micros < o.start.micros) = false ∧
      w.occurrenceOn zone o.day o.start = .ok o ∧ o.endsFrom s = true ∧ o.day ∉ w.exceptions ∧
        ∀ e, r.ComesFrom w.start.date i e → e.ordinal < o.day.ordinal → w.HasTimes zone till e

/-- Nothing is still to come: of all the days where the day skipped to is before the calendar,
of those from the period skipped to on where it is inside. -/
def NothingToCome (w : When) (zone : Zone) (till : Option Moment) (s : Moment) : Prop :=
  ∀ r ∈ w.repeat?, r.count = none →
    (s.micros < w.span + 2 * microsPerDay → ¬ w.StillToCome r zone till s 0) ∧
      ∀ skip, w.skipTo (some s) = .ok (some skip) →
        ¬ w.StillToCome r zone till s (r.startIndex w.start.date skip)

def NoLongRun (w : When) : Prop := ∀ r ∈ w.repeat?, r.NoLongRun w.start.date

/-- The later expansion ends where the one from the start does: it has a day where that one
has ended before it, and comes to one without missing a start where that one stops before it. -/
def GoesOn (w : When) (zone : Zone) (till : Option Moment) (s : Moment) : Prop :=
  ∀ r ∈ w.repeat?, r.count = none → ∀ skip, w.skipTo (some s) = .ok (some skip) →
    (r.EndsBefore w.start.date skip → ∃ d, r.GoesOn w.start.date skip d) ∧
      ((∃ d, r.LeavesOut w.start.date skip d ∧ ∃ start, w.startOn zone d = .ok start ∧
          till.any (·.micros < start.micros) = true) →
        ∃ d, r.GoesOn w.start.date skip d ∧
          ∀ e, r.ComesFrom w.start.date (r.startIndex w.start.date skip) e →
            e.ordinal ≤ d.ordinal → ∃ start, w.startOn zone e = .ok start)

theorem skipTo_eq_none (h : ∀ r ∈ w.repeat?, r.count ≠ none) (s : Moment) :
    w.skipTo (some s) = .ok none := by
  rw [skipTo.eq_def]
  cases hr : w.repeat? with
  | none => rfl
  | some r =>
    have hcount : r.count.isNone = false := by
      cases hc : r.count with
      | none => exact absurd hc (h r hr)
      | some c => rfl
    dsimp only
    rw [hcount]
    rfl

theorem skipTo_eq_some {r : Repeat} (hr : w.repeat? = some r) (hcount : r.count = none)
    {s : Moment} (hs : w.span + 2 * microsPerDay ≤ s.micros) :
    ∃ skip, w.skipTo (some s) = .ok (some skip) ∧
      ∀ d : Date, d.ordinal < skip.ordinal → w.overBy d + microsPerDay ≤ s.micros := by
  have hlt := s.lt
  obtain ⟨moment, hmoment⟩ := Moment.exists_ofMicros?
    (n := s.micros + -(w.span + 2 * microsPerDay : ℕ)) (by omega) (by omega)
  have hm := Moment.ofMicros?_eq_some.mp hmoment
  refine ⟨moment.date, ?_, fun d hd => ?_⟩
  · have hshift := Moment.shift_eq_ok.mpr hm
    rw [skipTo.eq_def, hr]
    dsimp only
    rw [if_pos (by rw [hcount]; rfl), hshift]
    rfl
  · have hday : d.ordinal < moment.micros / microsPerDay + 1 := hd
    rw [overBy]
    simp only [microsPerDay] at *
    omega

theorem skipTo_before_calendar (hr : w.repeat? = some r) (hcount : r.count = none)
    (hs : s.micros < w.span + 2 * microsPerDay) :
    w.skipTo (some s) = .error .overflowError := by
  have hnone : Moment.ofMicros? (s.micros + -(w.span + 2 * microsPerDay : ℕ)) = none :=
    Moment.ofMicros?_eq_none.mpr (by omega)
  rw [skipTo.eq_def, hr]
  dsimp only
  rw [if_pos (by rw [hcount]; rfl), Moment.shift, hnone]
  rfl

/-- **Where the day skipped to is before the calendar**, asking from the moment on raises. -/
theorem occurrences_before_calendar (hr : w.repeat? = some r) (hcount : r.count = none)
    (hs : s.micros < w.span + 2 * microsPerDay) (till : Option Moment) :
    occurrences w zone (some s) till = .raises .overflowError := by
  rw [occurrences, daysFrom, skipTo_before_calendar hr hcount hs]
  rfl

theorem daysFrom_none (w : When) : daysFrom w none = days w none := by
  rw [daysFrom, skipTo.eq_def]

section

variable {till : Option Moment} (hsorted : ∀ r ∈ w.repeat?, r.Ordered)
  (hfloat : ∀ r ∈ w.repeat?, ¬ r.FloatPosition) (hno : w.NoLongRun) (hin : w.SkipsInside zone till s)
include hsorted hfloat hno hin

theorem daysFrom_split : ∃ left, (∀ d ∈ left, w.LeftOut zone till s d) ∧
      (days w none).yields = left ++ (daysFrom w (some s)).yields ∧
        (w.GoesOn zone till s → days w none = .yieldAll left (daysFrom w (some s)) ∧
          ((∃ d ∈ left, ∃ start, w.startOn zone d = .ok start ∧
              till.any (·.micros < start.micros) = true) →
            daysFrom w (some s) = .done ∨ ∃ d' rest start,
              daysFrom w (some s) = .yield d' rest ∧ w.startOn zone d' = .ok start)) := by
  by_cases hplain : ∀ r ∈ w.repeat?, r.count ≠ none
  · have hfrom : daysFrom w (some s) = days w none := by
      rw [daysFrom, skipTo_eq_none hplain]
    refine ⟨[], fun d hd => absurd hd List.not_mem_nil, ?_, fun _ => ⟨?_, ?_⟩⟩
    · rw [hfrom, List.nil_append]
    · rw [hfrom, yieldAll_nil]
    · rintro ⟨d, hd, -⟩
      exact absurd hd List.not_mem_nil
  · simp only [not_forall, not_not] at hplain
    obtain ⟨r, hr, hcount⟩ := hplain
    obtain ⟨hs, htimes⟩ := hin r hr hcount
    obtain ⟨skip, hskip, hover⟩ := skipTo_eq_some hr hcount hs
    have hfrom : daysFrom w (some s) = days w (some skip) := by
      rw [daysFrom, hskip]
    obtain ⟨left, hleft, hyields, hends⟩ :=
      days_split hr hcount (hsorted r hr) (hfloat r hr) (hno r hr) skip
    refine ⟨left, fun d hd => ⟨htimes skip hskip d (hleft d hd), ?_⟩, by rw [hfrom, hyields],
      fun hon => ?_⟩
    · obtain ⟨k, hk, hfalls, -⟩ := hleft d hd
      exact hover d (hfalls.lt_skip hk)
    · obtain ⟨hended, hstops⟩ := hon r hr hcount skip hskip
      rw [hfrom]
      refine ⟨hends hended, ?_⟩
      rintro ⟨d, hd, hstop⟩
      obtain ⟨x, hx, hstarts⟩ := hstops ⟨d, hleft d hd, hstop⟩
      obtain hdone | ⟨d', rest, hyield, hle⟩ :=
        days_skip_head hr hcount (hsorted r hr) (hfloat r hr) hx
      · exact .inl hdone
      · have hmem : d' ∈ (days w (some skip)).yields := by
          rw [hyield]
          exact List.mem_cons_self
        obtain ⟨start, hstart⟩ := hstarts d'
          (comesFrom_of_mem_days_skip hr hcount (hsorted r hr) (hfloat r hr) hmem) hle
        exact .inr ⟨d', rest, start, hyield, hstart⟩

/-- **The occurrences from a moment on** are those of the expansion from the start that end at
or after it. -/
theorem yields_occurrences_since :
    (occurrences w zone (some s) till).yields =
      (occurrences w zone none till).yields.filter (Occurrence.endsFrom s) := by
  obtain ⟨left, hleft, hyields, -⟩ := daysFrom_split hsorted hfloat hno hin
  have hasc := ascending_days hsorted none
  rw [hyields] at hasc
  rw [occurrences, occurrences, daysFrom_none, yields_occurrencesOn w zone none, hyields,
    yieldAll_append, yields_occurrencesOn w zone (some s)]
  apply yields_occurrencesOn_yieldAll hleft
  intro d hd d' hd'
  rw [yields_yieldAll, yields_done, List.append_nil] at hd'
  exact (List.pairwise_append.mp hasc).2.2 d hd d' hd'

theorem raised?_occurrences_since (hon : w.GoesOn zone till s) :
    (occurrences w zone (some s) till).raised? = (occurrences w zone none till).raised? := by
  obtain ⟨left, hleft, hyields, hends⟩ := daysFrom_split hsorted hfloat hno hin
  obtain ⟨heq, hhead⟩ := hends hon
  have hasc := ascending_days hsorted none
  rw [hyields] at hasc
  rw [occurrences, occurrences, daysFrom_none, heq]
  refine raised?_occurrencesOn_yieldAll hleft (fun d hd d' hd' => ?_) hhead
  exact (List.pairwise_append.mp hasc).2.2 d hd d' hd'

/-! ### Where the two ways differ -/

end

theorem exists_mem_iff_stillToCome {r : Repeat} {s : Moment} {since till : Option Moment} {i : ℕ}
    {trace : Trace Date PyException} (hasc : Ascending trace.yields)
    (hdays : ∀ d, d ∈ trace.yields ↔ r.ComesFrom w.start.date i d)
    (hsince : ∀ t ∈ since, t = s) :
    (∃ o ∈ (occurrencesOn w zone since till trace).yields, o.endsFrom s = true) ↔
      w.StillToCome r zone till s i := by
  constructor
  · rintro ⟨o, ho, hends⟩
    obtain ⟨hday, hstart, hby, hocc, hout, hbefore⟩ := (mem_yields_occurrencesOn hasc).mp ho
    refine ⟨o, (hdays _).mp hday, hstart, hby, hocc, hends, fun hskipped => ?_,
      fun e he => hbefore e ((hdays e).mpr he)⟩
    rw [leavesOut, decide_eq_true hskipped, Bool.or_true] at hout
    cases hout
  · rintro ⟨o, hday, hstart, hby, hocc, hends, hskipped, hbefore⟩
    refine ⟨o, (mem_yields_occurrencesOn hasc).mpr ⟨(hdays _).mpr hday, hstart, hby, hocc, ?_,
      fun e he => hbefore e ((hdays e).mp he)⟩, hends⟩
    rw [leavesOut, decide_eq_false hskipped, Bool.or_false]
    cases since with
    | none => rfl
    | some t =>
      rw [hsince t rfl, Option.any_some, decide_eq_false_iff_not, Nat.not_lt]
      exact of_decide_eq_true hends

/-- **Where a day left out has no times** the expansion from the start raises at it, with
nothing from the moment on before it. -/
theorem filter_eq_nil_of_leavesOut (hsorted : ∀ r ∈ w.repeat?, r.Ordered)
    (hr : w.repeat? = some r) (hcount : r.count = none) (hfloat : ¬ r.FloatPosition)
    (hno : r.NoLongRun w.start.date) {till : Option Moment}
    (hs : w.span + 2 * microsPerDay ≤ s.micros) {skip : Date}
    (hskip : w.skipTo (some s) = .ok (some skip)) (hd : r.LeavesOut w.start.date skip d)
    (hnone : ¬ w.HasTimes zone till d) :
    (occurrences w zone none till).yields.filter (Occurrence.endsFrom s) = [] := by
  rw [List.filter_eq_nil_iff]
  intro o ho hends
  rw [occurrences, daysFrom_none] at ho
  obtain ⟨-, hstart, -, hocc, -, hbefore⟩ :=
    (mem_yields_occurrencesOn (ascending_days hsorted none)).mp ho
  obtain ⟨skip', hskip', hover⟩ := skipTo_eq_some hr hcount hs
  rw [hskip] at hskip'
  cases hskip'
  obtain ⟨k, hk, hfalls, hnot⟩ := hd
  have hcomes : d ∈ (days w none).yields :=
    (mem_days_none_iff hr hcount (hsorted r hr) hfloat hno).mpr
      ⟨k, Nat.zero_le k, hfalls, Repeat.not_leaves_of_lt_startIndex hk, hnot⟩
  have hlt := hfalls.lt_skip hk
  apply hnone
  apply hbefore d hcomes
  by_contra hle
  rw [endsFrom_eq_false (hover o.day (by omega)) hstart hocc] at hends
  cases hends

/-- **Both ways yield the same exactly** where the day skipped to is inside the calendar and
every day left out has its times, or nothing is still to come. -/
theorem yields_occurrences_since_iff (hsorted : ∀ r ∈ w.repeat?, r.Ordered)
    (hfloat : ∀ r ∈ w.repeat?, ¬ r.FloatPosition) (hno : w.NoLongRun)
    {till : Option Moment} :
    (occurrences w zone (some s) till).yields =
        (occurrences w zone none till).yields.filter (Occurrence.endsFrom s) ↔
      w.SkipsInside zone till s ∨ w.NothingToCome zone till s := by
  by_cases hin : w.SkipsInside zone till s
  · exact iff_of_true (yields_occurrences_since hsorted hfloat hno hin) (.inl hin)
  · rw [or_iff_right hin]
    simp only [SkipsInside, not_forall] at hin
    obtain ⟨r, hr, hcount, hin⟩ := hin
    have hplain := @exists_mem_iff_stillToCome w zone r s none till 0 (days w none)
      (ascending_days hsorted none)
      (fun d => mem_days_none_iff hr hcount (hsorted r hr) (hfloat r hr) (hno r hr)) nofun
    have hto : w.NothingToCome zone till s ↔
        (s.micros < w.span + 2 * microsPerDay → ¬ w.StillToCome r zone till s 0) ∧
          ∀ skip, w.skipTo (some s) = .ok (some skip) →
            ¬ w.StillToCome r zone till s (r.startIndex w.start.date skip) := by
      refine ⟨fun h => h r hr hcount, fun h r' hr' _ => ?_⟩
      cases Option.some.inj (hr.symm.trans hr')
      exact h
    rw [hto]
    by_cases hs : w.span + 2 * microsPerDay ≤ s.micros
    · obtain ⟨skip, hskip, -⟩ := @skipTo_eq_some w r hr hcount s hs
      have hlater := @exists_mem_iff_stillToCome w zone r s (some s) till _ (days w (some skip))
        (ascending_days hsorted (some skip))
        (fun d => mem_days_some_iff hr hcount (hsorted r hr) (hfloat r hr) (hno r hr))
        (by rintro t ⟨⟩; rfl)
      have hfrom : daysFrom w (some s) = days w (some skip) := by
        rw [daysFrom, hskip]
      rw [not_and] at hin
      simp only [not_forall] at hin
      obtain ⟨skip', hskip', d, hd, hnone⟩ := hin hs
      rw [filter_eq_nil_of_leavesOut hsorted hr hcount (hfloat r hr) (hno r hr) hs hskip' hd hnone,
        List.eq_nil_iff_forall_not_mem, occurrences, hfrom]
      constructor
      · refine fun h => ⟨fun hlt => absurd hs (Nat.not_le.mpr hlt), fun skip'' hskip'' => ?_⟩
        rw [hskip] at hskip''
        cases hskip''
        intro hcome
        obtain ⟨o, ho, -⟩ := hlater.mpr hcome
        exact h o ho
      · intro h o ho
        refine h.2 skip hskip (hlater.mp ⟨o, ho, ?_⟩)
        obtain ⟨-, -, -, -, hout, -⟩ :=
          (mem_yields_occurrencesOn (ascending_days hsorted (some skip))).mp ho
        rw [leavesOut_some] at hout
        cases hends : o.endsFrom s with
        | true => rfl
        | false => simp [hends] at hout
    · have hlt := Nat.lt_of_not_le hs
      rw [occurrences_before_calendar hr hcount hlt, yields_raises, eq_comm,
        List.filter_eq_nil_iff, occurrences, daysFrom_none]
      constructor
      · refine fun h => ⟨fun _ hcome => ?_, fun skip hskip => ?_⟩
        · obtain ⟨o, ho, hends⟩ := hplain.mpr hcome
          exact h o ho hends
        · rw [skipTo_before_calendar hr hcount hlt] at hskip
          cases hskip
      · intro h o ho hends
        exact h.1 hlt (hplain.mp ⟨o, ho, hends⟩)

end When

end SolarFlowEms.Schedule
