import SolarFlowEms.Schedule.Expansion

/-!
# Timings whose expansion raises

A timing is expanded when it is read: to its first day, and a repeating window to the day its
horizon ends on.  The exceptions of that are of five kinds, each read off the timing: it
starts in the last years of the calendar, its set position is a float, its repeat comes to
the end of the calendar without a day of its own, its first window runs past the calendar
while the next one starts, or its windows come to the end of the calendar before the horizon.
-/

namespace SolarFlowEms.Schedule

open Python Calendar TimeText Generator Fallible

namespace Repeat

variable (r : Repeat) (first : Date)

/-- The expansion comes to the end of the calendar with period `n`. -/
structure RunsOut (n : ℕ) : Prop where
  leaves : r.Leaves first n
  reaches : (r.pager first none).Reaches n

variable {r first}

theorem pager_page (k : ℕ) : (r.pager first none).page k = r.candidates first k :=
  congrArg (r.candidates first) (Nat.zero_add k)

theorem exists_page_error {k : ℕ} (hfloat : ¬ r.FloatPosition) (h : r.Leaves first k) :
    ∃ e, (r.pager first none).page k = .error e := by
  rw [pager_page]
  cases hk : r.candidates first k with
  | error e => exact ⟨e, rfl⟩
  | ok days => exact absurd h ((candidates_ok_iff hfloat).mp ⟨days, hk⟩)

theorem RunsOut.lt {n : ℕ} (hfloat : ¬ r.FloatPosition) (h : r.RunsOut first n) :
    n < maxOrdinal + 1 := by
  by_contra hlarge
  obtain ⟨days, hdays⟩ := h.reaches.built maxOrdinal (by omega)
  obtain ⟨e, he⟩ := exists_page_error hfloat (leaves_of_le r first le_rfl)
  rw [hdays] at he
  cases he

end Repeat

namespace When

variable {w : When} {r : Repeat}

theorem days_eq (hr : w.repeat? = some r) :
    days w none = (r.pager w.start.date none).walkAt (maxOrdinal + 1) 0 := by
  simp only [days, hr, ite_self]

theorem days_float (hr : w.repeat? = some r) (h : r.FloatPosition) :
    days w none = .raises .typeError := by
  rw [days_eq hr]
  apply Pager.walkAt_error
  rw [Repeat.pager_page, Repeat.candidates_float h]

/-- **An expansion that comes to the end of the calendar raises there**, having yielded the
days of the periods before. -/
theorem days_of_runsOut (hr : w.repeat? = some r) (hfloat : ¬ r.FloatPosition) {n : ℕ}
    (h : r.RunsOut w.start.date n) :
    ∃ e, days w none = .yieldAll ((r.pager w.start.date none).items n) (.raises e) := by
  obtain ⟨e, he⟩ := Repeat.exists_page_error hfloat h.leaves
  rw [days_eq hr]
  exact ⟨e, Pager.walkAt_zero_raises (h.lt hfloat) h.reaches he⟩

variable {e : PyException} {d d' : Date} {rest : Unit → Trace Date PyException}

/-- **An expansion without a float raises only at the end of the calendar.** -/
theorem runsOut_of_raised? (hfloat : ∀ r ∈ w.repeat?, ¬ r.FloatPosition)
    (h : (days w none).raised? = some e) :
    ∃ r ∈ w.repeat?, ∃ n, r.RunsOut w.start.date n ∧
      (days w none).yields = (r.pager w.start.date none).items n := by
  cases hr : w.repeat? with
  | none =>
    rw [days, hr] at h
    cases h
  | some r =>
    have hno := hfloat r hr
    rw [days_eq hr] at h
    obtain ⟨n, -, hn, hreaches, hpage⟩ := Pager.reaches_of_raised? (Pager.reaches_zero _) h
    have hleaves : r.Leaves w.start.date n := by
      by_contra hin
      obtain ⟨days, hdays⟩ := (Repeat.candidates_ok_iff hno).mpr hin
      rw [Repeat.pager_page, hdays] at hpage
      cases hpage
    refine ⟨r, rfl, n, ⟨hleaves, hreaches⟩, ?_⟩
    rw [days_eq hr, Pager.walkAt_zero_raises (by omega) hreaches hpage]
    simp

theorem start_le_of_mem_days (h : d ∈ (days w none).yields) :
    w.start.date.ordinal ≤ d.ordinal := by
  cases hr : w.repeat? with
  | none =>
    rw [days, hr] at h
    rw [List.mem_singleton.mp h]
  | some r =>
    rw [days_eq hr] at h
    obtain ⟨n, values, hpage, hmem⟩ := Pager.mem_yields_walk h
    rw [Repeat.pager_page, Repeat.candidates] at hpage
    obtain ⟨period, -, hpage⟩ := bind_eq_ok.mp hpage
    obtain ⟨all, -, hpage⟩ := bind_eq_ok.mp hpage
    cases hpage
    exact of_decide_eq_true (List.mem_filter.mp hmem).2

/-! ### Windows that follow one another -/

/-- The window on `d` is over when the one on `d'` starts. -/
def Apart (w : When) (length : ℕ) (d d' : Date) : Prop :=
  (w.start.onDay d).minutes + length ≤ (w.start.onDay d').minutes

/-- The window on `d` ends past the calendar. -/
def PastCalendar (w : When) (length : ℕ) (d : Date) : Prop :=
  maxOrdinal * minutesPerDay ≤ (w.start.onDay d).minutes + length

variable {length : ℕ} {horizon : Date}

theorem add?_eq_none_iff :
    (w.start.onDay d).add? length = none ↔ w.PastCalendar length d := LocalTime.add?_eq_none

theorem escapes_refuseEarlyStart :
    Escapes (refuseEarlyStart length (some (w.start.onDay d)) (w.start.onDay d')) ↔
      w.PastCalendar length d := by
  rw [← add?_eq_none_iff, refuseEarlyStart]
  cases hadd : (w.start.onDay d).add? length with
  | none => exact ⟨fun _ => rfl, fun _ => escapes_escape _⟩
  | some t => exact ⟨fun h => absurd h (escapes_require _ _), nofun⟩

theorem refuseEarlyStart_ok_iff :
    refuseEarlyStart length (some (w.start.onDay d)) (w.start.onDay d') = .ok () ↔
      w.Apart length d d' := by
  rw [refuseEarlyStart]
  have hlt := (w.start.onDay d').lt
  cases hadd : (w.start.onDay d).add? length with
  | none =>
    have hpast : _ ≤ _ := add?_eq_none_iff.mp hadd
    constructor
    · intro h
      cases h
    · intro hapart
      exact absurd (hpast.trans hapart) (Nat.not_le.mpr hlt)
  | some t =>
    have ht : t.minutes = (w.start.onDay d).minutes + length := by
      exact_mod_cast LocalTime.add?_eq_some hadd
    dsimp only
    rw [require, ht, Apart]
    split
    · next hle => exact ⟨fun _ => hle, fun _ => rfl⟩
    · next hnot =>
      constructor
      · intro h
        cases h
      · intro h
        exact absurd h hnot

theorem refuseOverlap_yield (d d' : Date) (rest : Unit → Trace Date PyException) :
    Escapes (refuseOverlap w length horizon (some (w.start.onDay d)) (.yield d' rest)) ↔
      d'.ordinal ≤ horizon.ordinal ∧ (w.PastCalendar length d ∨ w.Apart length d d' ∧
        Escapes (refuseOverlap w length horizon (some (w.start.onDay d')) (rest ()))) := by
  rw [refuseOverlap]
  split
  · next hover => exact ⟨fun h => absurd h (escapes_ok _), fun h => absurd h.1 (by omega)⟩
  · next hhorizon =>
    rw [escapes_bind, escapes_refuseEarlyStart]
    simp only [← refuseEarlyStart_ok_iff, Nat.not_lt.mp hhorizon, true_and]
    exact or_congr_right ⟨fun ⟨_, h⟩ => h, fun h => ⟨(), h⟩⟩

theorem refuseOverlap_short (hshort : ∀ d : Date, d.ordinal ≤ horizon.ordinal →
      ¬ w.PastCalendar length d) (hd : d.ordinal ≤ horizon.ordinal)
    (trace : Trace Date PyException) :
    Escapes (refuseOverlap w length horizon (some (w.start.onDay d)) trace) ↔
      (∃ e, trace.raised? = some e) ∧ (d :: trace.yields).IsChain (w.Apart length) ∧
        ∀ d' ∈ trace.yields, d'.ordinal ≤ horizon.ordinal := by
  induction trace generalizing d with
  | done =>
    constructor
    · intro h
      exact absurd h (escapes_ok _)
    · rintro ⟨⟨e, he⟩, -⟩
      cases he
  | raises e =>
    constructor
    · intro _
      exact ⟨⟨e, rfl⟩, List.IsChain.singleton d, nofun⟩
    · intro _
      exact escapes_escape e
  | yield d' rest ih =>
    rw [refuseOverlap_yield, Trace.raised?_yield, Trace.yields_yield, List.isChain_cons_cons]
    constructor
    · rintro ⟨hle, hpast | ⟨hapart, h⟩⟩
      · exact absurd hpast (hshort d hd)
      · obtain ⟨hraised, hchain, hall⟩ := (ih () hle).mp h
        refine ⟨hraised, ⟨hapart, hchain⟩, ?_⟩
        intro x hx
        rcases List.mem_cons.mp hx with rfl | hx
        · exact hle
        · exact hall x hx
    · rintro ⟨hraised, ⟨hapart, hchain⟩, hall⟩
      have hle := hall d' List.mem_cons_self
      exact ⟨hle, .inr ⟨hapart, (ih () hle).mpr
        ⟨hraised, hchain, fun x hx => hall x (List.mem_cons_of_mem d' hx)⟩⟩⟩

/-- The start is at least eight years before the end of the calendar. -/
def StartsEarly (w : When) : Prop :=
  w.start.date.ordinal + 366 * firstOccurrenceHorizonYears + 1 ≤ maxOrdinal + w.start.date.day

theorem firstHorizon_eq_none_iff : w.firstHorizon = none ↔ ¬ w.StartsEarly := by
  have hone := w.start.date.one_le
  have hday : w.start.date.day ≤ w.start.date.ordinal := by
    rw [Date.day]
    omega
  rw [firstHorizon, Date.addDays?, Date.ofOrdinal?_eq_none, StartsEarly]
  simp only [firstOccurrenceHorizonYears]
  omega

theorem firstHorizon_eq_some {horizon : Date} (h : w.firstHorizon = some horizon) :
    horizon.ordinal + w.start.date.day = w.start.date.ordinal + 366 * 8 + 1 := by
  have hadd := Date.addDays?_eq_some.mp h
  simp only [firstOccurrenceHorizonYears] at hadd
  omega

/-- The last day that is looked at for windows that run into one another. -/
def overlapHorizon (w : When) (d : Date) : Prop :=
  d.ordinal ≤ w.start.date.ordinal + selfOverlapHorizonDays

/-- **The timings whose expansion raises.** -/
inductive Unexpandable (w : When) : Prop where
  /-- The horizon of its first occurrence is past the calendar. -/
  | late (h : ¬ w.StartsEarly)
  /-- Its set position is a float. -/
  | float {r : Repeat} (hr : r ∈ w.repeat?) (h : r.FloatPosition)
  /-- Its repeat comes to the end of the calendar without a day. -/
  | empty {r : Repeat} {n : ℕ} (hr : r ∈ w.repeat?) (h : r.RunsOut w.start.date n)
      (hitems : (r.pager w.start.date none).items n = [])
  /-- Its second window starts within the horizon, and its first ends past the calendar. -/
  | window {r : Repeat} {length : ℕ} {d d' : Date} {rest : List Date} (hr : r ∈ w.repeat?)
      (hlength : length ∈ w.length) (hdays : (days w none).yields = d :: d' :: rest)
      (hwithin : w.overlapHorizon d ∧ w.overlapHorizon d') (hpast : w.PastCalendar length d)
  /-- Its windows, each over when the next one starts, come to the end of the calendar within
  the horizon. -/
  | runsOut {r : Repeat} {length n : ℕ} (hr : r ∈ w.repeat?) (hlength : length ∈ w.length)
      (h : r.RunsOut w.start.date n)
      (hapart : ((r.pager w.start.date none).items n).IsChain (w.Apart length))
      (hwithin : ∀ d ∈ (r.pager w.start.date none).items n, w.overlapHorizon d)

/-! ### The two expansions -/

theorem escapes_requireAnOccurrence :
    Escapes (requireAnOccurrence w) ↔ ¬ w.StartsEarly ∨ ∃ e, days w none = .raises e := by
  rw [← firstHorizon_eq_none_iff, requireAnOccurrence]
  cases w.firstHorizon with
  | none => exact ⟨fun _ => .inl rfl, fun _ => escapes_escape _⟩
  | some horizon =>
    dsimp only
    cases days w none with
    | done => simp
    | raises e => simp
    | yield d rest =>
      dsimp only
      split <;> simp

theorem not_pastCalendar_of_apart (hearly : w.StartsEarly)
    (hd : w.start.date.ordinal ≤ d.ordinal) (hd' : w.overlapHorizon d')
    (hapart : w.Apart length d d') {x : Date} (hx : w.overlapHorizon x) :
    ¬ w.PastCalendar length x := by
  have hday := w.start.date.day_le
  have hone := d.one_le
  have hone' := d'.one_le
  have hminute := w.start.minuteOfDay_lt
  simp only [overlapHorizon, selfOverlapHorizonDays] at hd' hx
  simp only [StartsEarly, firstOccurrenceHorizonYears] at hearly
  simp only [Apart, LocalTime.onDay, minutesPerDay] at hapart hminute
  simp only [PastCalendar, LocalTime.onDay, minutesPerDay]
  omega

theorem refuseOverlap_first :
    Escapes (refuseOverlap w length horizon none (.yield d rest)) ↔ d.ordinal ≤ horizon.ordinal ∧
      Escapes (refuseOverlap w length horizon (some (w.start.onDay d)) (rest ())) := by
  rw [refuseOverlap]
  split
  · next hover => exact ⟨fun h => absurd h (escapes_ok _), fun h => absurd h.1 (by omega)⟩
  · next hhorizon => exact ⟨fun h => ⟨Nat.not_lt.mp hhorizon, h⟩, fun h => h.2⟩

/-- **The loop over the windows of a rule that starts early** raises in two ways. -/
theorem escapes_refuseOverlap (hearly : w.StartsEarly) {horizon : Date}
    (hhorizon : ∀ d : Date, w.overlapHorizon d ↔ d.ordinal ≤ horizon.ordinal)
    {trace : Trace Date PyException}
    (hstart : ∀ d ∈ trace.yields, w.start.date.ordinal ≤ d.ordinal) :
    Escapes (refuseOverlap w length horizon none trace) ↔
      (∃ d d' rest, trace.yields = d :: d' :: rest ∧
        (w.overlapHorizon d ∧ w.overlapHorizon d') ∧ w.PastCalendar length d) ∨
      (∃ e, trace.raised? = some e) ∧ trace.yields.IsChain (w.Apart length) ∧
        ∀ d ∈ trace.yields, w.overlapHorizon d := by
  simp only [hhorizon]
  cases trace with
  | done =>
    constructor
    · intro h
      exact absurd h (escapes_ok _)
    · rintro (⟨d, d', rest, h, -⟩ | ⟨⟨e, he⟩, -⟩)
      · cases h
      · cases he
  | raises e =>
    constructor
    · intro _
      exact .inr ⟨⟨e, rfl⟩, .nil, nofun⟩
    · intro _
      exact escapes_escape e
  | yield d rest =>
    rw [refuseOverlap_first, Trace.yields_yield, Trace.raised?_yield]
    have hd := hstart d List.mem_cons_self
    cases hrest : rest () with
    | done =>
      constructor
      · rintro ⟨-, h⟩
        exact absurd h (escapes_ok _)
      · rintro (⟨_, _, _, h, -⟩ | ⟨⟨e, he⟩, -⟩)
        · cases h
        · cases he
    | raises e =>
      constructor
      · rintro ⟨hle, -⟩
        refine .inr ⟨⟨e, rfl⟩, .singleton d, ?_⟩
        intro x hx
        rwa [List.mem_singleton.mp hx]
      · rintro (⟨_, _, _, h, -⟩ | ⟨-, -, hall⟩)
        · cases h
        · exact ⟨hall d List.mem_cons_self, escapes_escape e⟩
    | yield d' rest' =>
      rw [refuseOverlap_yield, Trace.yields_yield, Trace.raised?_yield, List.isChain_cons_cons]
      have hshort : w.Apart length d d' → d'.ordinal ≤ horizon.ordinal →
          ∀ x : Date, x.ordinal ≤ horizon.ordinal → ¬ w.PastCalendar length x :=
        fun hapart hd' x hx =>
          not_pastCalendar_of_apart hearly hd ((hhorizon d').mpr hd') hapart ((hhorizon x).mpr hx)
      constructor
      · rintro ⟨hle, hle', hpast | ⟨hapart, h⟩⟩
        · exact .inl ⟨d, d', _, rfl, ⟨hle, hle'⟩, hpast⟩
        · obtain ⟨hraised, hchain, hall⟩ :=
            (refuseOverlap_short (hshort hapart hle') hle' _).mp h
          refine .inr ⟨hraised, ⟨hapart, hchain⟩, ?_⟩
          intro x hx
          rcases List.mem_cons.mp hx with rfl | hx
          · exact hle
          · rcases List.mem_cons.mp hx with rfl | hx
            · exact hle'
            · exact hall x hx
      · rintro (⟨_, _, _, h, ⟨hle, hle'⟩, hpast⟩ | ⟨hraised, ⟨hapart, hchain⟩, hall⟩)
        · cases h
          exact ⟨hle, hle', .inl hpast⟩
        · have hle := hall d List.mem_cons_self
          have hle' := hall d' (List.mem_cons_of_mem d List.mem_cons_self)
          refine ⟨hle, hle', .inr ⟨hapart, ?_⟩⟩
          apply (refuseOverlap_short (hshort hapart hle') hle' _).mpr
          exact ⟨hraised, hchain, fun x hx =>
            hall x (List.mem_cons_of_mem d (List.mem_cons_of_mem d' hx))⟩

theorem requireAnOccurrence_of_within (hearly : w.StartsEarly) (hdays : days w none = .yield d rest)
    (hwithin : w.overlapHorizon d) : requireAnOccurrence w = .ok () := by
  have hday := w.start.date.day_le
  rw [requireAnOccurrence]
  cases hfirst : w.firstHorizon with
  | none => exact absurd hearly (firstHorizon_eq_none_iff.mp hfirst)
  | some horizon =>
    have hhorizon := firstHorizon_eq_some hfirst
    simp only [overlapHorizon, selfOverlapHorizonDays] at hwithin
    rw [hdays]
    dsimp only
    rw [if_neg (by omega)]

theorem escapes_refuseSelfOverlap (hearly : w.StartsEarly) :
    Escapes (refuseSelfOverlap w) ↔ ∃ length ∈ w.length, ∃ r, r ∈ w.repeat? ∧
      ((∃ d d' rest, (days w none).yields = d :: d' :: rest ∧
        (w.overlapHorizon d ∧ w.overlapHorizon d') ∧ w.PastCalendar length d) ∨
      (∃ e, (days w none).raised? = some e) ∧ (days w none).yields.IsChain (w.Apart length) ∧
        ∀ d ∈ (days w none).yields, w.overlapHorizon d) := by
  have hday := w.start.date.day_le
  have hone := w.start.date.one_le
  rw [refuseSelfOverlap.eq_def]
  cases hlength : w.length with
  | none => simp
  | some length =>
    cases hr : w.repeat? with
    | none => simp
    | some r =>
      cases hadd : w.start.date.addDays? selfOverlapHorizonDays with
      | none =>
        rw [Date.addDays?, Date.ofOrdinal?_eq_none] at hadd
        simp only [selfOverlapHorizonDays] at hadd
        simp only [StartsEarly, firstOccurrenceHorizonYears] at hearly
        omega
      | some horizon =>
        have hhorizon := Date.addDays?_eq_some.mp hadd
        have hiff : ∀ d : Date, w.overlapHorizon d ↔ d.ordinal ≤ horizon.ordinal := by
          intro d
          rw [overlapHorizon]
          omega
        simp only [Option.mem_some_iff, exists_eq_left']
        exact escapes_refuseOverlap hearly hiff fun d hd => start_le_of_mem_days hd

theorem float_or_runsOut (h : (days w none).raised? = some e) :
    (∃ r ∈ w.repeat?, r.FloatPosition) ∨ ∃ r ∈ w.repeat?, ∃ n, r.RunsOut w.start.date n ∧
      (days w none).yields = (r.pager w.start.date none).items n := by
  by_cases hfloat : ∃ r ∈ w.repeat?, r.FloatPosition
  · exact .inl hfloat
  · exact .inr (runsOut_of_raised? (fun r hr h => hfloat ⟨r, hr, h⟩) h)

theorem unexpandable_of_escapes (hearly : w.StartsEarly)
    (h : Escapes (requireAnOccurrence w) ∨ Escapes (refuseSelfOverlap w)) : w.Unexpandable := by
  rcases h with h | h
  · obtain ⟨e, he⟩ := (escapes_requireAnOccurrence.mp h).resolve_left (not_not.mpr hearly)
    rcases float_or_runsOut (congrArg Trace.raised? he) with ⟨r, hr, hfloat⟩ | ⟨r, hr, n, hn, hy⟩
    · exact .float hr hfloat
    · rw [he] at hy
      exact .empty hr hn hy.symm
  · obtain ⟨length, hlength, r, hr, h⟩ := (escapes_refuseSelfOverlap hearly).mp h
    rcases h with ⟨d, d', rest, hdays, hwithin, hpast⟩ | ⟨⟨e, he⟩, hapart, hwithin⟩
    · exact .window hr hlength hdays hwithin hpast
    · rcases float_or_runsOut he with ⟨r, hr, hfloat⟩ | ⟨r, hr, n, hn, hy⟩
      · exact .float hr hfloat
      · rw [hy] at hapart hwithin
        exact .runsOut hr hlength hn hapart hwithin

theorem escapes_of_float (hr : w.repeat? = some r) (h : r.FloatPosition) :
    Escapes (requireAnOccurrence w) :=
  escapes_requireAnOccurrence.mpr (.inr ⟨_, days_float hr h⟩)

theorem escapes_expand_of_overlap (hearly : w.StartsEarly) (hdays : days w none = .yield d rest)
    (hwithin : w.overlapHorizon d) (h : Escapes (refuseSelfOverlap w)) :
    Escapes (requireAnOccurrence w >>= fun _ => refuseSelfOverlap w) :=
  escapes_bind.mpr (.inr ⟨(), requireAnOccurrence_of_within hearly hdays hwithin, h⟩)

theorem escapes_of_unexpandable (hearly : w.StartsEarly) (h : w.Unexpandable) :
    Escapes (requireAnOccurrence w >>= fun _ => refuseSelfOverlap w) := by
  cases h with
  | late h => exact absurd hearly h
  | float hr h => exact escapes_bind.mpr (.inl (escapes_of_float hr h))
  | @empty r n hr h hitems =>
    by_cases hfloat : r.FloatPosition
    · exact escapes_bind.mpr (.inl (escapes_of_float hr hfloat))
    · obtain ⟨e, he⟩ := days_of_runsOut hr hfloat h
      rw [hitems] at he
      exact escapes_bind.mpr (.inl (escapes_requireAnOccurrence.mpr (.inr ⟨e, he⟩)))
  | @window r length d d' rest hr hlength hdays hwithin hpast =>
    have hself := (escapes_refuseSelfOverlap hearly).mpr
      ⟨length, hlength, r, hr, .inl ⟨d, d', rest, hdays, hwithin, hpast⟩⟩
    cases htrace : days w none with
    | done =>
      rw [htrace] at hdays
      cases hdays
    | raises e =>
      rw [htrace] at hdays
      cases hdays
    | yield x more =>
      rw [htrace] at hdays
      obtain ⟨rfl, -⟩ := List.cons.inj hdays
      exact escapes_expand_of_overlap hearly htrace hwithin.1 hself
  | @runsOut r length n hr hlength h hapart hwithin =>
    by_cases hfloat : r.FloatPosition
    · exact escapes_bind.mpr (.inl (escapes_of_float hr hfloat))
    · obtain ⟨e, he⟩ := days_of_runsOut hr hfloat h
      cases hitems : (r.pager w.start.date none).items n with
      | nil =>
        rw [hitems] at he
        exact escapes_bind.mpr (.inl (escapes_requireAnOccurrence.mpr (.inr ⟨e, he⟩)))
      | cons d rest =>
        have hyields : (days w none).yields = (r.pager w.start.date none).items n := by
          rw [he, Trace.yields_yieldAll]
          exact List.append_nil _
        have hself := (escapes_refuseSelfOverlap hearly).mpr ⟨length, hlength, r, hr, .inr
          ⟨⟨e, by rw [he, Trace.raised?_yieldAll]; rfl⟩, hyields ▸ hapart, hyields ▸ hwithin⟩⟩
        rw [hitems] at he hwithin
        exact escapes_expand_of_overlap hearly he (hwithin d List.mem_cons_self) hself

/-- **A timing's expansion raises exactly in the listed ways.** -/
theorem escapes_expand_iff :
    Escapes (requireAnOccurrence w >>= fun _ => refuseSelfOverlap w) ↔ w.Unexpandable := by
  by_cases hearly : w.StartsEarly
  · refine ⟨fun h => ?_, escapes_of_unexpandable hearly⟩
    apply unexpandable_of_escapes hearly
    exact (escapes_bind.mp h).imp_right fun ⟨_, _, h⟩ => h
  · exact ⟨fun _ => .late hearly, fun _ =>
      escapes_bind.mpr (.inl (escapes_requireAnOccurrence.mpr (.inl hearly)))⟩

end When

/-- **Reading a timing raises exactly where its fields can be read and it cannot be
expanded.** -/
theorem escapes_parseWhen {payload : PyValue} :
    Escapes (parseWhen payload) ↔ ∃ w, parseTiming payload = .ok w ∧ w.Unexpandable := by
  rw [parseWhen, escapes_bind, or_iff_right (escapes_parseTiming payload)]
  apply exists_congr
  intro w
  rw [← When.escapes_expand_iff]
  simp only [escapes_bind, escapes_pure, and_false, exists_false, or_false]

end SolarFlowEms.Schedule
