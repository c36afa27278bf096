import SolarFlowEms.Schedule.FirstOverlap

/-!
# When the first overlap is the right one

When `_first_overlap` answers rightly, said of the two rules.  The merge of two patterns gives up
where a rule whose stream raises has shown its last window while the other one goes on, and the
search of any other pair where a window cannot be looked up, where the sparser stream raises before
the horizon, or where no overlap is shown although there is one.

* `firstOverlap_right_iff` - the comparison is exact, or sound up to the horizon, exactly where
  neither is so.
* `longWindows_raise` - a window longer than the years before it is compared with nothing.
-/

namespace SolarFlowEms.Schedule

open Python Calendar TimeText Zones Generator Fallible When

variable {first second w other sparse dense : When} {since until_ : Moment}

/-! ### The bound of two patterns -/

/-- A common period and a window's length behind everything that shifts the two patterns. -/
def patternsEnd (first second : When) (p q : ℕ) (since : Moment) : ℕ :=
  ((first.exceptions ++ second.exceptions).map fun day => day.ordinal * microsPerDay).foldl max
      (max (max since.micros (ofLocal first.start).micros) (ofLocal second.start).micros) +
    (p.lcm q * microsPerDay + max first.span second.span)

/-- No skipped date is the calendar's last. -/
def SkipsInside (first second : When) : Prop :=
  ∀ day ∈ first.exceptions ++ second.exceptions, day.ordinal < maxOrdinal

theorem micros_later (s t : Moment) : (later s t).micros = max s.micros t.micros := by
  rw [later]
  split <;> omega

theorem micros_foldl_later (times : List Moment) (t : Moment) :
    (times.foldl later t).micros = (times.map (·.micros)).foldl max t.micros := by
  induction times generalizing t with
  | nil => rfl
  | cons s times ih => rw [List.foldl_cons, ih, micros_later, List.map_cons, List.foldl_cons]

theorem midnight_next {day : Date} {t : Moment} (h : (midnight <$> shiftDate day 1) = .ok t) :
    day.ordinal < maxOrdinal ∧ t.micros = day.ordinal * microsPerDay := by
  obtain ⟨next, hnext, rfl⟩ := map_eq_ok.mp h
  have hordinal := Repeat.ordinal_of_shiftDate hnext
  have hle := next.le_max
  refine ⟨by omega, ?_⟩
  show (next.ordinal - 1) * microsPerDay = _
  rw [show next.ordinal - 1 = day.ordinal by omega]

theorem micros_midnights {days : List Date} {times : List Moment}
    (h : days.mapM (fun day => midnight <$> shiftDate day 1) = .ok times) :
    times.map (·.micros) = days.map fun day => day.ordinal * microsPerDay := by
  induction mapM_eq_ok.mp h with
  | nil => rfl
  | cons hday _ ih =>
    rw [List.map_cons, List.map_cons, (midnight_next hday).2, ih (mapM_eq_ok.mpr ‹_›)]

theorem patternsBegin_eq_ok {begins : Moment} (h : patternsBegin first second since = .ok begins) :
    SkipsInside first second ∧ begins.micros =
      ((first.exceptions ++ second.exceptions).map fun day => day.ordinal * microsPerDay).foldl max
        (max (max since.micros (ofLocal first.start).micros) (ofLocal second.start).micros) := by
  obtain ⟨skipped, hskipped, hret⟩ := bind_eq_ok.mp h
  cases hret
  refine ⟨fun day hday => ?_, ?_⟩
  · obtain ⟨t, -, hok⟩ := exists_mem_of_mapM_eq_ok hskipped hday
    exact (midnight_next hok).1
  · rw [micros_foldl_later, micros_midnights hskipped, micros_later, micros_later]

theorem exists_patternsBegin (h : SkipsInside first second) :
    ∃ begins, patternsBegin first second since = .ok begins := by
  cases hskipped : (first.exceptions ++ second.exceptions).mapM
      (fun day => midnight <$> shiftDate day 1) with
  | error e =>
    obtain ⟨day, hday, e', hraises⟩ := exists_mapM_eq_error_iff.mp ⟨e, hskipped⟩
    have hlt := h day hday
    obtain ⟨next, hnext⟩ := (@shiftDate_ok_iff day 1 (by omega)).mpr (by omega)
    rw [hnext] at hraises
    cases hraises
  | ok skipped => exact ⟨_, bind_eq_ok.mpr ⟨skipped, hskipped, rfl⟩⟩

variable {p q : ℕ} {a b : Window} {d e : Date}

/-- **The bound of two patterns** is there where it is inside the calendar. -/
theorem patternsBound_eq_ok : patternsBound first second p q since = .ok until_ ↔
    SkipsInside first second ∧ until_.micros = patternsEnd first second p q since := by
  rw [patternsBound, bind_eq_ok, patternsEnd]
  constructor
  · rintro ⟨begins, hbegins, hshift⟩
    obtain ⟨hskips, hmicros⟩ := patternsBegin_eq_ok hbegins
    have := Moment.shift_eq_ok.mp hshift
    exact ⟨hskips, by omega⟩
  · rintro ⟨hskips, hmicros⟩
    obtain ⟨begins, hbegins⟩ := exists_patternsBegin hskips
    refine ⟨begins, hbegins, Moment.shift_eq_ok.mpr ?_⟩
    have := (patternsBegin_eq_ok hbegins).2
    omega

/-! ### The merge of two patterns -/

/-- Windows of two rules that share a time, whatever their rules are. -/
def Meet (w other : When) (d e : Date) : Prop :=
  other.startMinutes e < w.endMinutes d ∧ w.startMinutes d < other.endMinutes e

/-- The last day whose window the stream shows. -/
def ShowsLast (w : When) (since : Moment) (d : Date) : Prop :=
  w.Shows since d ∧ ∀ e, w.Shows since e → e.ordinal ≤ d.ordinal

/-- **A rule's stream is cut short**: it raises, and shows no window, or no window of the two meets
and its last one by the bound is over before the other stream's last. -/
inductive CutShort (bound : ℕ) (w other : When) (since : Moment) : Prop where
  | nothing (h : w.RunsOff since) (hnone : ∀ d, ¬ w.Shows since d)
  | behind (h : w.RunsOff since)
      (hapart : ∀ d e, w.Shows since d → other.Shows since e → ¬ Meet w other d e) (d e : Date)
      (hd : ShowsLast w since d) (he : ShowsLast other since e) (hstart : w.startMicros d ≤ bound)
      (hover : w.endMinutes d ≤ other.startMinutes e)

theorem meets_iff (ha : w.IsOn a d) (hb : other.IsOn b e) :
    a.Meets b ↔ Meet w other d e := by
  rw [Window.Meets, Meet, ha.start_eq, hb.start_eq, ha.finish, hb.finish]

theorem isOn_unique (ha : w.IsOn a d) (hb : w.IsOn b d) : a = b := by
  obtain ⟨start, ⟨minutes, hminutes⟩⟩ := a
  obtain ⟨start', ⟨minutes', hminutes'⟩⟩ := b
  obtain rfl := ha.start.trans hb.start.symm
  have hsame : minutes = minutes' := ha.finish.trans hb.finish.symm
  subst hsame
  rfl

theorem date_of_isOn (h : w.IsOn a d) : a.start.date = d := by
  rw [h.start, date_onDay]

theorem ascending_dates (h : w.IsWindow) (since : Moment) :
    Ascending ((wallWindows w since).yields.map (·.start.date)) :=
  List.Pairwise.sublist (sublist_wallWindowsOn _) (ascending_daysFrom h since)

theorem getLast?_wallWindows (h : w.IsWindow) :
    (wallWindows w since).yields.getLast? = some a ↔ ∃ d, ShowsLast w since d ∧ w.IsOn a d := by
  have hshows : ∀ d, d ∈ (wallWindows w since).yields.map (·.start.date) ↔ w.Shows since d := by
    intro d
    rw [List.mem_map]
    constructor
    · rintro ⟨b, hb, rfl⟩
      obtain ⟨e, he, hon⟩ := (mem_wallWindows_iff h).mp hb
      rwa [date_of_isOn hon]
    · intro hd
      obtain ⟨b, hon⟩ := w.exists_isOn hd.built
      exact ⟨b, (mem_wallWindows_iff h).mpr ⟨d, hd, hon⟩, date_of_isOn hon⟩
  have hlast {d : Date} := (ascending_dates h since).getLast?_eq_some_iff (d := d)
  rw [List.getLast?_map] at hlast
  constructor
  · intro ha
    obtain ⟨d, hd, hon⟩ := (mem_wallWindows_iff h).mp (List.mem_of_getLast? ha)
    have := (@hlast d).mp (by rw [ha, Option.map_some, date_of_isOn hon])
    exact ⟨d, ⟨hd, fun e he => this.2 e ((hshows e).mpr he)⟩, hon⟩
  · rintro ⟨d, ⟨hd, hle⟩, hon⟩
    have := (@hlast d).mpr ⟨(hshows d).mpr hd, fun e he => hle e ((hshows e).mp he)⟩
    obtain ⟨b, hb, hdate⟩ := Option.map_eq_some_iff.mp this
    obtain ⟨e, -, hon'⟩ := (mem_wallWindows_iff h).mp (List.mem_of_getLast? hb)
    obtain rfl : e = d := (date_of_isOn hon').symm.trans hdate
    rw [hb, isOn_unique hon hon']

theorem yields_eq_nil_iff (h : w.IsWindow) :
    (wallWindows w since).yields = [] ↔ ∀ d, ¬ w.Shows since d := by
  rw [List.eq_nil_iff_forall_not_mem]
  simp only [mem_wallWindows_iff h]
  constructor
  · intro hnone d hd
    obtain ⟨a, hon⟩ := w.exists_isOn hd.built
    exact hnone a ⟨d, hd, hon⟩
  · rintro hnone a ⟨d, hd, -⟩
    exact hnone d hd

theorem apart_iff (h : w.IsWindow) (h' : other.IsWindow) :
    (∀ a ∈ (wallWindows w since).yields, ∀ b ∈ (wallWindows other since).yields, ¬ a.Meets b) ↔
      ∀ d e, w.Shows since d → other.Shows since e → ¬ Meet w other d e := by
  simp only [mem_wallWindows_iff h, mem_wallWindows_iff h']
  constructor
  · intro hapart d e hd he
    obtain ⟨a, ha⟩ := w.exists_isOn hd.built
    obtain ⟨b, hb⟩ := other.exists_isOn he.built
    rw [← meets_iff ha hb]
    exact hapart a ⟨d, hd, ha⟩ b ⟨e, he, hb⟩
  · rintro hapart a ⟨d, hd, ha⟩ b ⟨e, he, hb⟩
    rw [meets_iff ha hb]
    exact hapart d e hd he

theorem runsShort_iff (h : w.IsWindow) (h' : other.IsWindow) :
    RunsShort until_ (wallWindows w since) (wallWindows other since) ↔ w.RunsOff since ∧
      ∃ d e, ShowsLast w since d ∧ ShowsLast other since e ∧ w.startMicros d ≤ until_.micros ∧
        w.endMinutes d ≤ other.startMinutes e := by
  rw [RunsShort, raised?_wallWindows h]
  refine and_congr_right fun _ => ?_
  simp only [getLast?_wallWindows h, getLast?_wallWindows h']
  have hbehind {a : Window} {d : Date} (hon : w.IsOn a d) :
      isBehind a.start until_ = false ↔ w.startMicros d ≤ until_.micros := by
    rw [Bool.eq_false_iff, ne_eq, isBehind_iff_startMicros hon, Nat.not_lt]
  constructor
  · rintro ⟨a, b, ⟨d, hd, ha⟩, ⟨e, he, hb⟩, hstart, hover⟩
    rw [ha.finish, hb.start_eq] at hover
    exact ⟨d, e, hd, he, (hbehind ha).mp hstart, hover⟩
  · rintro ⟨d, e, hd, he, hstart, hover⟩
    obtain ⟨a, ha⟩ := w.exists_isOn hd.1.built
    obtain ⟨b, hb⟩ := other.exists_isOn he.1.built
    refine ⟨a, b, ⟨d, hd, ha⟩, ⟨e, he, hb⟩, (hbehind ha).mpr hstart, ?_⟩
    rwa [ha.finish, hb.start_eq]

/-- **The merge of two streams is stuck** exactly where one of them is cut short. -/
theorem stuck_iff (h₁ : first.IsWindow) (h₂ : second.IsWindow) :
    Stuck until_ (wallWindows first since) (wallWindows second since) ↔
      CutShort until_.micros first second since ∨ CutShort until_.micros second first since := by
  have hsymm : (∀ d e, first.Shows since d → second.Shows since e → ¬ Meet first second d e) ↔
      ∀ e d, second.Shows since e → first.Shows since d → ¬ Meet second first e d :=
    ⟨fun h e d he hd hmeet => h d e hd he hmeet.symm, fun h d e hd he hmeet => h e d he hd hmeet.symm⟩
  constructor
  · intro h
    cases h with
    | first h hnone =>
      exact .inl (.nothing ((raised?_wallWindows h₁).mp h) ((yields_eq_nil_iff h₁).mp hnone))
    | second h hnone =>
      exact .inr (.nothing ((raised?_wallWindows h₂).mp h) ((yields_eq_nil_iff h₂).mp hnone))
    | mine hapart h =>
      obtain ⟨hoff, d, e, hd, he, hstart, hover⟩ := (runsShort_iff h₁ h₂).mp h
      exact .inl (.behind hoff ((apart_iff h₁ h₂).mp hapart) d e hd he hstart hover)
    | theirs hapart h =>
      obtain ⟨hoff, e, d, he, hd, hstart, hover⟩ := (runsShort_iff h₂ h₁).mp h
      exact .inr (.behind hoff (hsymm.mp ((apart_iff h₁ h₂).mp hapart)) e d he hd hstart hover)
  · rintro (h | h)
    · cases h with
      | nothing h hnone =>
        exact .first ((raised?_wallWindows h₁).mpr h) ((yields_eq_nil_iff h₁).mpr hnone)
      | behind h hapart d e hd he hstart hover =>
        exact .mine ((apart_iff h₁ h₂).mpr hapart)
          ((runsShort_iff h₁ h₂).mpr ⟨h, d, e, hd, he, hstart, hover⟩)
    · cases h with
      | nothing h hnone =>
        exact .second ((raised?_wallWindows h₂).mpr h) ((yields_eq_nil_iff h₂).mpr hnone)
      | behind h hapart e d he hd hstart hover =>
        exact .theirs ((apart_iff h₁ h₂).mpr (hsymm.mpr hapart))
          ((runsShort_iff h₂ h₁).mpr ⟨h, e, d, he, hd, hstart, hover⟩)

/-- **Two patterns can be compared**: their bound is inside the calendar, and neither stream is cut
short of it. -/
def MergesInside (first second : When) (since : Moment) : Prop :=
  ∃ p ∈ first.patternDays, ∃ q ∈ second.patternDays, SkipsInside first second ∧
    patternsEnd first second p q since < maxOrdinal * microsPerDay ∧
      ¬ CutShort (patternsEnd first second p q since) first second since ∧
        ¬ CutShort (patternsEnd first second p q since) second first since

theorem mergesInside_iff (h₁ : first.IsWindow) (h₂ : second.IsWindow)
    (hp : first.patternDays = some p) (hq : second.patternDays = some q) :
    (∃ until_, patternsBound first second p q since = .ok until_ ∧
      ¬ Stuck until_ (wallWindows first since) (wallWindows second since)) ↔
        MergesInside first second since := by
  simp only [MergesInside, hp, hq, Option.mem_def, Option.some.injEq, exists_eq_left']
  constructor
  · rintro ⟨until_, hbound, hstuck⟩
    obtain ⟨hskips, hmicros⟩ := patternsBound_eq_ok.mp hbound
    rw [stuck_iff h₁ h₂, not_or, hmicros] at hstuck
    exact ⟨hskips, hmicros ▸ until_.lt, hstuck⟩
  · rintro ⟨hskips, hlt, hstuck⟩
    refine ⟨⟨_, hlt⟩, patternsBound_eq_ok.mpr ⟨hskips, rfl⟩, ?_⟩
    rw [stuck_iff h₁ h₂, not_or]
    exact hstuck

/-! ### The search of any other pair -/

/-- A window of the dense rule, looked up from the start of one of the sparse rule's on, meets it. -/
def MeetsOn (sparse dense : When) (d : Date) : Prop :=
  ∃ e, dense.Shows (ofLocal (sparse.start.onDay d)) e ∧ Meet sparse dense d e

/-- **The search around the sparse rule's windows goes on**: up to the first that meets one of the
dense rule, each finds a window that ends behind its start, or none to come; where none meets, one
is shown behind the bound, or none to come. -/
structure SearchGoesOn (bound : ℕ) (sparse dense : When) (since : Moment) : Prop where
  answers : ∀ d, sparse.Shows since d → sparse.startMicros d ≤ bound →
    (∀ c, sparse.Shows since c → c.ordinal < d.ordinal → ¬ MeetsOn sparse dense c) →
      dense.RunsOff (ofLocal (sparse.start.onDay d)) →
        ∃ e, dense.Shows (ofLocal (sparse.start.onDay d)) e ∧
          sparse.startMinutes d < dense.endMinutes e
  comesTo : sparse.RunsOff since →
    (∀ d, sparse.Shows since d → sparse.startMicros d ≤ bound → ¬ MeetsOn sparse dense d) →
      ∃ d, sparse.Shows since d ∧ bound < sparse.startMicros d

/-- **The search goes through**: it goes on, and the days of an overlap by the horizon are shown. -/
def LooksThrough (bound : ℕ) (sparse dense : When) (since : Moment) : Prop :=
  SearchGoesOn bound sparse dense since ∧ ((∃ d e, OverlapWithin since sparse dense d e) →
    ∃ d, sparse.Shows since d ∧ sparse.startMicros d ≤ bound ∧ MeetsOn sparse dense d)

/-- **Any other pair can be compared**: the horizon is inside the calendar, the windows of a year
can be counted, and the search around those of the rule with fewer goes through. -/
def SearchesThrough (first second : When) (since : Moment) : Prop :=
  since.micros + clashHorizon < maxOrdinal * microsPerDay ∧
    first.CountsAYear since ∧ second.CountsAYear since ∧
      if second.yearCount since < first.yearCount since then
        LooksThrough (since.micros + clashHorizon) second first since
      else LooksThrough (since.micros + clashHorizon) first second since

theorem meetsAround_iff (h : dense.IsWindow) (hon : sparse.IsOn a d) :
    MeetsAround dense a ↔ MeetsOn sparse dense d := by
  rw [MeetsAround, MeetsOn, hon.start]
  simp only [mem_wallWindows_iff h]
  constructor
  · rintro ⟨b, ⟨e, he, hon'⟩, hmeets⟩
    exact ⟨e, he, (meets_iff hon hon').mp hmeets⟩
  · rintro ⟨e, he, hmeet⟩
    obtain ⟨b, hon'⟩ := dense.exists_isOn he.built
    exact ⟨b, ⟨e, he, hon'⟩, (meets_iff hon hon').mpr hmeet⟩

theorem answers_iff (h : dense.IsWindow) (hon : sparse.IsOn a d) :
    Answers dense a ↔ (dense.RunsOff (ofLocal (sparse.start.onDay d)) →
      ∃ e, dense.Shows (ofLocal (sparse.start.onDay d)) e ∧
        sparse.startMinutes d < dense.endMinutes e) := by
  rw [Answers, hon.start]
  refine comesTo_wallWindows h fun b e hon' => ?_
  rw [hon'.finish, ← hon.start, hon.start_eq]

theorem notBehind_iff (hon : w.IsOn a d) :
    isBehind a.start until_ = false ↔ w.startMicros d ≤ until_.micros := by
  rw [Bool.eq_false_iff, ne_eq, isBehind_iff_startMicros hon, Nat.not_lt]

/-- The windows before one of a stream are those on the earlier days. -/
theorem mem_before_iff (h : w.IsWindow) {before after : List Window} {c : Window}
    (heq : (wallWindows w since).yields = before ++ a :: after) (hon : w.IsOn a d)
    (hon' : w.IsOn c e) (hc : c ∈ (wallWindows w since).yields) :
    c ∈ before ↔ e.ordinal < d.ordinal := by
  have hasc := ascending_dates h since
  rw [heq, List.map_append, List.map_cons, date_of_isOn hon] at hasc
  obtain ⟨-, hrest, hcross⟩ := List.pairwise_append.mp hasc
  constructor
  · intro hmem
    have := hcross _ (List.mem_map_of_mem hmem) d List.mem_cons_self
    rwa [date_of_isOn hon'] at this
  · intro hlt
    rw [heq] at hc
    obtain hc | hc := List.mem_append.mp hc
    · exact hc
    · rcases List.mem_cons.mp hc with rfl | hc
      · rw [date_of_isOn hon |>.symm.trans (date_of_isOn hon')] at hlt
        omega
      · have := (List.pairwise_cons.mp hrest).1 _ (List.mem_map_of_mem hc)
        rw [date_of_isOn hon'] at this
        omega

theorem searchEnds_iff (hs : sparse.IsWindow) (hd : dense.IsWindow) :
    SearchEnds dense until_ (wallWindows sparse since) ↔
      SearchGoesOn until_.micros sparse dense since := by
  have hmem {a : Window} := @mem_wallWindows_iff sparse since hs a
  have hcomes := @comesTo_wallWindows sparse since hs
    (fun a => isBehind a.start until_ = true) (fun d => until_.micros < sparse.startMicros d)
    fun a d hon => isBehind_iff_startMicros hon
  have hnone : (∀ a ∈ (wallWindows sparse since).yields, isBehind a.start until_ = false →
      ¬ MeetsAround dense a) ↔ ∀ d, sparse.Shows since d →
        sparse.startMicros d ≤ until_.micros → ¬ MeetsOn sparse dense d := by
    constructor
    · intro h d hshows hle
      obtain ⟨a, hon⟩ := sparse.exists_isOn hshows.built
      rw [← meetsAround_iff hd hon]
      exact h a (hmem.mpr ⟨d, hshows, hon⟩) ((notBehind_iff hon).mpr hle)
    · intro h a ha hle
      obtain ⟨d, hshows, hon⟩ := hmem.mp ha
      rw [meetsAround_iff hd hon]
      exact h d hshows ((notBehind_iff hon).mp hle)
  constructor
  · intro h
    refine ⟨fun d hshows hle hearlier => ?_, fun hoff hapart => ?_⟩
    · obtain ⟨a, hon⟩ := sparse.exists_isOn hshows.built
      obtain ⟨before, after, heq⟩ := List.append_of_mem (hmem.mpr ⟨d, hshows, hon⟩)
      refine (answers_iff hd hon).mp (h.answers before a after heq ((notBehind_iff hon).mpr hle) ?_)
      intro c hc
      have hc' : c ∈ (wallWindows sparse since).yields := heq ▸ List.mem_append_left _ hc
      obtain ⟨e, hshows', hon'⟩ := hmem.mp hc'
      rw [meetsAround_iff hd hon']
      exact hearlier e hshows' ((mem_before_iff hs heq hon hon' hc').mp hc)
    · exact hcomes.mp (h.comesTo (hnone.mpr hapart)) hoff
  · intro h
    refine ⟨fun before a after heq hle hearlier => ?_, fun hapart => ?_⟩
    · have ha : a ∈ (wallWindows sparse since).yields :=
        heq ▸ List.mem_append_right _ List.mem_cons_self
      obtain ⟨d, hshows, hon⟩ := hmem.mp ha
      refine (answers_iff hd hon).mpr (h.answers d hshows ((notBehind_iff hon).mp hle) ?_)
      intro e hshows' hlt
      obtain ⟨c, hon'⟩ := sparse.exists_isOn hshows'.built
      have hc := hmem.mpr ⟨e, hshows', hon'⟩
      rw [← meetsAround_iff hd hon']
      exact hearlier c ((mem_before_iff hs heq hon hon' hc).mpr hlt)
    · exact hcomes.mpr fun hoff => h.comesTo hoff (hnone.mp hapart)

theorem looksThrough_iff (hs : sparse.IsWindow) (hd : dense.IsWindow) :
    (SearchEnds dense until_ (wallWindows sparse since) ∧
      ((∃ d e, OverlapWithin since sparse dense d e) →
        ∃ a ∈ (wallWindows sparse since).yields, isBehind a.start until_ = false ∧
          MeetsAround dense a)) ↔ LooksThrough until_.micros sparse dense since := by
  have hshown : (∃ a ∈ (wallWindows sparse since).yields, isBehind a.start until_ = false ∧
      MeetsAround dense a) ↔ ∃ d, sparse.Shows since d ∧ sparse.startMicros d ≤ until_.micros ∧
        MeetsOn sparse dense d := by
    constructor
    · rintro ⟨a, ha, hle, hmeets⟩
      obtain ⟨d, hshows, hon⟩ := (mem_wallWindows_iff hs).mp ha
      exact ⟨d, hshows, (notBehind_iff hon).mp hle, (meetsAround_iff hd hon).mp hmeets⟩
    · rintro ⟨d, hshows, hle, hmeets⟩
      obtain ⟨a, hon⟩ := sparse.exists_isOn hshows.built
      exact ⟨a, (mem_wallWindows_iff hs).mpr ⟨d, hshows, hon⟩, (notBehind_iff hon).mpr hle,
        (meetsAround_iff hd hon).mpr hmeets⟩
  rw [searchEnds_iff hs hd, hshown, LooksThrough]

theorem overlapWithin_symm : (∃ d e, OverlapWithin since first second d e) ↔
    ∃ e d, OverlapWithin since second first e d := by
  have hsymm {w other : When} (h : ∃ d e, OverlapWithin since w other d e) :
      ∃ e d, OverlapWithin since other w e d := by
    obtain ⟨d, e, hoverlap, hstart⟩ := h
    exact ⟨e, d, ⟨hoverlap.symm, hoverlap.second_ends, hoverlap.first_ends⟩,
      by rwa [overlapStart_comm]⟩
  exact ⟨hsymm, hsymm⟩

theorem sparseFirst_eq_ok_iff (h₁ : first.IsWindow) (h₂ : second.IsWindow)
    {year : Moment} (hyear : since.shift aYear = .ok year) :
    sparseFirst first second since = .ok (sparse, dense) ↔
      first.CountsAYear since ∧ second.CountsAYear since ∧
        if second.yearCount since < first.yearCount since then sparse = second ∧ dense = first
        else sparse = first ∧ dense = second := by
  rw [sparseFirst, bind_eq_ok]
  simp only [bind_eq_ok, windowsInAYear_eq_ok h₁ hyear, windowsInAYear_eq_ok h₂ hyear]
  constructor
  · rintro ⟨n, ⟨hcounts, rfl⟩, m, ⟨hcounts', rfl⟩, hret⟩
    refine ⟨hcounts, hcounts', ?_⟩
    have hpair := Except.ok.inj hret
    split at hpair <;> rename_i hlt
    · rw [if_pos hlt]
      cases hpair
      exact ⟨rfl, rfl⟩
    · rw [if_neg hlt]
      cases hpair
      exact ⟨rfl, rfl⟩
  · rintro ⟨hcounts, hcounts', hpair⟩
    refine ⟨_, ⟨hcounts, rfl⟩, _, ⟨hcounts', rfl⟩, ?_⟩
    split at hpair <;> rename_i hlt
    · obtain ⟨rfl, rfl⟩ := hpair
      rw [if_pos hlt]
      rfl
    · obtain ⟨rfl, rfl⟩ := hpair
      rw [if_neg hlt]
      rfl

theorem searchesStreams_iff (h₁ : first.IsWindow) (h₂ : second.IsWindow) :
    SearchesStreams first second since ↔ SearchesThrough first second since := by
  have hlooks {sparse dense : When} {until_ : Moment} (hs : sparse.IsWindow) (hd : dense.IsWindow)
      (hsame : (∃ d e, OverlapWithin since first second d e) ↔
        ∃ d e, OverlapWithin since sparse dense d e) := by
    have hiff := @looksThrough_iff sparse dense since until_ hs hd
    rwa [← hsame] at hiff
  have hyear : since.micros + clashHorizon < maxOrdinal * microsPerDay →
      ∃ year, since.shift aYear = .ok year := by
    intro hlt
    have hle : aYear ≤ clashHorizon := Nat.mul_le_mul_right _ (by decide)
    exact ⟨⟨since.micros + aYear, by omega⟩, Moment.shift_eq_ok.mpr (by push_cast; rfl)⟩
  constructor
  · rintro ⟨until_, sparse, dense, huntil, hpair, hsearch⟩
    have hmicros : until_.micros = since.micros + clashHorizon := by
      have := Moment.shift_eq_ok.mp huntil
      omega
    have hlt := hmicros ▸ until_.lt
    obtain ⟨year, hyear⟩ := hyear hlt
    obtain ⟨hcounts, hcounts', hpair⟩ := (sparseFirst_eq_ok_iff h₁ h₂ hyear).mp hpair
    refine ⟨hlt, hcounts, hcounts', ?_⟩
    rw [← hmicros]
    split at hpair <;> rename_i hfewer <;> obtain ⟨rfl, rfl⟩ := hpair
    · rw [if_pos hfewer]
      exact (hlooks h₂ h₁ overlapWithin_symm).mp hsearch
    · rw [if_neg hfewer]
      exact (hlooks h₁ h₂ Iff.rfl).mp hsearch
  · rintro ⟨hlt, hcounts, hcounts', hthrough⟩
    obtain ⟨year, hyear⟩ := hyear hlt
    have huntil : since.shift clashHorizon = .ok ⟨since.micros + clashHorizon, hlt⟩ :=
      Moment.shift_eq_ok.mpr (by push_cast; rfl)
    split at hthrough <;> rename_i hfewer
    · refine ⟨_, second, first, huntil, (sparseFirst_eq_ok_iff h₁ h₂ hyear).mpr
        ⟨hcounts, hcounts', ?_⟩, (hlooks h₂ h₁ overlapWithin_symm).mpr hthrough⟩
      rw [if_pos hfewer]
      exact ⟨rfl, rfl⟩
    · refine ⟨_, first, second, huntil, (sparseFirst_eq_ok_iff h₁ h₂ hyear).mpr
        ⟨hcounts, hcounts', ?_⟩, (hlooks h₁ h₂ Iff.rfl).mpr hthrough⟩
      rw [if_neg hfewer]
      exact ⟨rfl, rfl⟩

/-- **The first overlap of two accepted windows.**  For two patterns of whole days the comparison
is exact, and for any other pair it is sound and finds what starts before the horizon, exactly
where it does not have to leave the calendar and, for the latter, the rules show the days of an
overlap where there is one. -/
theorem firstOverlap_right_iff (h₁ : first.IsWindow) (h₂ : second.IsWindow) (since : Moment) :
    (first.patternDays.isSome ∧ second.patternDays.isSome →
      (ExactOverlap first second since ↔ MergesInside first second since)) ∧
    (¬ (first.patternDays.isSome ∧ second.patternDays.isSome) →
      (SoundOverlap first second since ↔ SearchesThrough first second since)) := by
  constructor
  · rintro ⟨hp, hq⟩
    obtain ⟨p, hp⟩ := Option.isSome_iff_exists.mp hp
    obtain ⟨q, hq⟩ := Option.isSome_iff_exists.mp hq
    rw [exactOverlap_iff h₁ h₂ hp hq, mergesInside_iff h₁ h₂ hp hq]
  · intro hnot
    rw [not_and_or, Option.not_isSome_iff_eq_none, Option.not_isSome_iff_eq_none] at hnot
    rw [soundOverlap_iff h₁ h₂ hnot, searchesStreams_iff h₁ h₂]

/-! ### Evenings, Tuesdays and firsts of the month -/

/-- Every second day from Monday 5 January 2026, six to eight in the evening. -/
def eveningPayload : PyValue := .dict
  [("start", .str "2026-01-05T18:00"), ("end", .str "2026-01-05T20:00"),
    ("repeat", .dict [("freq", .str "daily"), ("interval", .int 2)])]

/-- Tuesdays, seven to nine in the evening. -/
def tuesdayPayload : PyValue := .dict
  [("start", .str "2026-01-06T19:00"), ("end", .str "2026-01-06T21:00"),
    ("repeat", .dict [("freq", .str "weekly")])]

/-- The first of each month, from noon to midnight. -/
def monthlyPayload : PyValue := .dict
  [("start", .str "2026-02-01T12:00"), ("end", .str "2026-02-02T00:00"),
    ("repeat", .dict [("freq", .str "monthly")])]

theorem exists_isWindow {payload : PyValue} {test : When → Bool}
    (h : (parseWhen payload).toOption.any (fun w => w.windowEnd?.isSome && test w) = true) :
    ∃ w, parseWhen payload = .ok w ∧ w.IsWindow ∧ test w = true := by
  cases hparse : parseWhen payload with
  | error e =>
    rw [hparse] at h
    cases h
  | ok w =>
    rw [hparse] at h
    obtain ⟨hwindow, htest⟩ := Bool.and_eq_true_iff.mp h
    exact ⟨w, rfl, ⟨⟨payload, hparse⟩, hwindow⟩, htest⟩

/-- The evenings with the Tuesdays, and with the firsts of the month. -/
theorem firstOverlap_right_iff_evenings : ∃ evenings tuesdays monthly,
    parseWhen eveningPayload = .ok evenings ∧ parseWhen tuesdayPayload = .ok tuesdays ∧
    parseWhen monthlyPayload = .ok monthly ∧
    (ExactOverlap evenings tuesdays summerNoon ↔ MergesInside evenings tuesdays summerNoon) ∧
    (SoundOverlap evenings monthly summerNoon ↔ SearchesThrough evenings monthly summerNoon) := by
  obtain ⟨evenings, hparse₁, h₁, hp⟩ := @exists_isWindow eveningPayload (fun w => w.patternDays.isSome)
    (by decide +kernel)
  obtain ⟨tuesdays, hparse₂, h₂, hq⟩ := @exists_isWindow tuesdayPayload (fun w => w.patternDays.isSome)
    (by decide +kernel)
  obtain ⟨monthly, hparse₃, h₃, hnot⟩ := @exists_isWindow monthlyPayload (fun w => w.patternDays.isNone)
    (by decide)
  refine ⟨evenings, tuesdays, monthly, hparse₁, hparse₂, hparse₃,
    (firstOverlap_right_iff h₁ h₂ summerNoon).1 ⟨hp, hq⟩,
    (firstOverlap_right_iff h₁ h₃ summerNoon).2 fun h => ?_⟩
  rw [Option.isNone_iff_eq_none] at hnot
  rw [hnot] at h
  exact absurd h.2 (by decide)

/-- **A window of two thousand years is compared with nothing**: the day its stream would skip to
is before the calendar. -/
theorem longWindows_raise : ∃ evenings, parseWhen longPayload = .ok longTiming ∧
    parseWhen eveningPayload = .ok evenings ∧ longTiming.IsWindow ∧ evenings.IsWindow ∧
    longTiming.patternDays.isSome ∧ evenings.patternDays.isSome ∧
    ¬ ExactOverlap longTiming evenings summerNoon := by
  have hlong : parseWhen longPayload = .ok longTiming := by decide +kernel
  obtain ⟨evenings, hparse, hwindow, htest⟩ := @exists_isWindow eveningPayload
    (fun w => w.patternDays.isSome && !(firstOverlap longTiming w summerNoon).isOk) (by decide +kernel)
  obtain ⟨hpattern, hraises⟩ := Bool.and_eq_true_iff.mp htest
  refine ⟨evenings, hlong, hparse, ⟨⟨longPayload, hlong⟩, rfl⟩, hwindow, rfl, hpattern, ?_⟩
  rintro ⟨r, hr, -⟩
  rw [hr] at hraises
  cases hraises

end SolarFlowEms.Schedule
