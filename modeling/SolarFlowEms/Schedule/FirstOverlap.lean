import SolarFlowEms.Schedule.DuePoints
import SolarFlowEms.Schedule.ShownWindows

/-!
# What the comparison of two streams finds

Two patterns of whole days overlap at all only where they do so by a bound: an overlap behind it
is there one common period earlier too.  What the merge up to the bound returns is then exact,
and it returns except where it is stuck.  For any other pair what is returned is an overlap, and
one that starts before the horizon is found where the streams have one.

* `exactOverlap_iff`, `soundOverlap_iff` - both, over the two streams.
-/

namespace SolarFlowEms.Schedule

open Python Calendar TimeText Zones Generator Fallible When

/-! ### Overlaps -/

/-- Windows of two rules on days `d` and `e` that share a time. -/
structure Overlap (first second : When) (d e : Date) : Prop where
  onFirst : first.HasWindow d
  onSecond : second.HasWindow e
  before : second.startMinutes e < first.endMinutes d
  after : first.startMinutes d < second.endMinutes e

variable {d e : Date} {w sparse dense : When} {p q s s' f' : ℕ} {a b : Window}

theorem Overlap.symm {first second : When} (h : Overlap first second d e) :
    Overlap second first e d := ⟨h.onSecond, h.onFirst, h.after, h.before⟩

/-- The minute at which two overlapping windows start to share a time. -/
def overlapStart (first second : When) (d e : Date) : ℕ :=
  max (first.startMinutes d) (second.startMinutes e)

theorem overlapStart_comm (first second : When) (d e : Date) :
    overlapStart first second d e = overlapStart second first e d := max_comm _ _

/-- Overlapping windows neither of which is over before a moment. -/
structure OverlapFrom (since : Moment) (first second : When) (d e : Date) : Prop extends
    Overlap first second d e where
  first_ends : first.EndsFrom since d
  second_ends : second.EndsFrom since e

/-- **The comparison of two rules is exact**: it returns none exactly where no windows overlap from
the moment on, and else the start of such an overlap. -/
def ExactOverlap (first second : When) (since : Moment) : Prop :=
  ∃ r, firstOverlap first second since = .ok r ∧
    (r = none ↔ ∀ d e, ¬ OverlapFrom since first second d e) ∧
    ∀ t ∈ r, ∃ d e, OverlapFrom since first second d e ∧ t.minutes = overlapStart first second d e

/-- **The comparison of two rules is sound**, and finds every overlap that starts before the
horizon. -/
def SoundOverlap (first second : When) (since : Moment) : Prop :=
  ∃ r, firstOverlap first second since = .ok r ∧
    (∀ t ∈ r, ∃ d e, Overlap first second d e ∧ t.minutes = overlapStart first second d e) ∧
    ∀ d e, OverlapFrom since first second d e →
      overlapStart first second d e * microsPerMinute < since.micros + clashHorizon → r ≠ none

variable {first second : When} {since until_ : Moment}

/-! ### One common period earlier -/

theorem le_later (s t : Moment) : s.micros ≤ (later s t).micros ∧ t.micros ≤ (later s t).micros := by
  rw [later]
  split
  · exact ⟨by omega, le_rfl⟩
  · exact ⟨le_rfl, by omega⟩

theorem le_foldl_later (times : List Moment) (t : Moment) :
    t.micros ≤ (times.foldl later t).micros ∧
      ∀ s ∈ times, s.micros ≤ (times.foldl later t).micros := by
  induction times generalizing t with
  | nil => exact ⟨le_rfl, fun s hs => absurd hs List.not_mem_nil⟩
  | cons s times ih =>
    obtain ⟨hinit, hmem⟩ := ih (later t s)
    have hle := le_later t s
    refine ⟨hle.1.trans hinit, fun s' hs' => ?_⟩
    obtain rfl | hs' := List.mem_cons.mp hs'
    · exact hle.2.trans hinit
    · exact hmem s' hs'

/-- A time from which a pattern runs undisturbed. -/
structure Undisturbed (w : When) (begins : ℕ) : Prop where
  start_le : w.start.minutes * microsPerMinute ≤ begins
  skipped_le : ∀ x ∈ w.exceptions, x.ordinal * microsPerDay ≤ begins

theorem undisturbed_of_patternsBegin {begins : Moment}
    (h : patternsBegin first second since = .ok begins) :
    since.micros ≤ begins.micros ∧ Undisturbed first begins.micros ∧
      Undisturbed second begins.micros := by
  obtain ⟨skipped, hskipped, hret⟩ := bind_eq_ok.mp h
  cases hret
  obtain ⟨hinit, hmem⟩ := le_foldl_later skipped
    (later (later since (ofLocal first.start)) (ofLocal second.start))
  have hstart := le_later since (ofLocal first.start)
  have hstarts := le_later (later since (ofLocal first.start)) (ofLocal second.start)
  have hexception : ∀ x ∈ first.exceptions ++ second.exceptions, x.ordinal * microsPerDay ≤
      (skipped.foldl later (later (later since (ofLocal first.start)) (ofLocal second.start))).micros := by
    intro x hx
    obtain ⟨m, hm, hok⟩ := exists_mem_of_mapM_eq_ok hskipped hx
    obtain ⟨next, hnext, rfl⟩ := map_eq_ok.mp hok
    have hordinal := Repeat.ordinal_of_shiftDate hnext
    refine le_trans (le_of_eq ?_) (hmem _ hm)
    show x.ordinal * microsPerDay = (next.ordinal - 1) * microsPerDay
    rw [show next.ordinal - 1 = x.ordinal by omega]
  exact ⟨(hstart.1.trans hstarts.1).trans hinit,
    ⟨(hstart.2.trans hstarts.1).trans hinit, fun x hx => hexception x (List.mem_append_left _ hx)⟩,
    ⟨hstarts.2.trans hinit, fun x hx => hexception x (List.mem_append_right _ hx)⟩⟩

/-- **A window far enough behind has its like a period earlier.** -/
theorem hasWindow_earlier {l : ℕ} (hp : w.patternDays = some p) (hdvd : p ∣ l)
    (hl : 0 < l) {begins : ℕ} (hbegins : Undisturbed w begins) (hd : w.HasWindow d)
    (hlate : begins + l * microsPerDay < w.startMinutes d * microsPerMinute) :
    ∃ d', w.HasWindow d' ∧ w.startMinutes d = w.startMinutes d' + l * minutesPerDay := by
  obtain ⟨r, hr, hpattern⟩ := hasPattern_of_patternDays hp
  have hminute := w.start.minuteOfDay_lt
  have hone := d.one_le
  have hmax := d.le_max
  have hstart := hbegins.start_le
  have hfirst : w.start.minutes = (w.start.date.ordinal - 1) * minutesPerDay + w.start.minuteOfDay := by
    have hminutes := minutes_eq w.start
    have hsplit := Nat.div_add_mod' w.start.minuteOfDay 60
    omega
  have hdate := w.start.date.one_le
  rw [startMinutes_eq] at hlate
  rw [hfirst] at hstart
  simp only [minutesPerDay, microsPerDay, microsPerMinute] at hminute hstart hlate
  obtain ⟨d', hd'⟩ : ∃ d' : Date, d.ordinal = d'.ordinal + l :=
    ⟨⟨d.ordinal - l, by omega, by omega⟩, (Nat.sub_add_cancel (by omega)).symm⟩
  have hdenotes : r.Denotes w.start.date d := by
    have hdenotes := hd.denotes
    rwa [Denotes, hr] at hdenotes
  have hearlier := Repeat.denotes_earlier (hpattern.of_dvd hdvd hl) hdenotes hd' (by omega)
  refine ⟨d', ⟨?_, fun hskipped => ?_⟩, ?_⟩
  · rw [Denotes, hr]
    exact hearlier
  · have hle := hbegins.skipped_le d' hskipped
    simp only [microsPerDay] at hle
    have hone' := d'.one_le
    omega
  · rw [startMinutes_eq, startMinutes_eq, hd']
    have hone' := d'.one_le
    simp only [minutesPerDay]
    omega

theorem exists_overlap_by_bound (hp : first.patternDays = some p)
    (hq : second.patternDays = some q) (h₁ : first.IsWindow) (h₂ : second.IsWindow)
    (hbound : patternsBound first second p q since = .ok until_)
    (hex : ∃ d e, OverlapFrom since first second d e) :
    ∃ d e, OverlapFrom since first second d e ∧
      overlapStart first second d e * microsPerMinute ≤ until_.micros := by
  obtain ⟨begins, hbegins, hshift⟩ := bind_eq_ok.mp hbound
  obtain ⟨hsince, hfirst, hsecond⟩ := undisturbed_of_patternsBegin hbegins
  have huntil := Moment.shift_eq_ok.mp hshift
  obtain ⟨r, -, hpattern⟩ := hasPattern_of_patternDays hp
  obtain ⟨r', -, hpattern'⟩ := hasPattern_of_patternDays hq
  have hpos : 0 < p.lcm q := Nat.lcm_pos hpattern.pos hpattern'.pos
  obtain ⟨n, hn, -⟩ := h₁.length_eq
  obtain ⟨m, hm, -⟩ := h₂.length_eq
  have hspan : first.span = n * microsPerMinute := by rw [span, hn]; rfl
  have hspan' : second.span = m * microsPerMinute := by rw [span, hm]; rfl
  -- The first start of an overlap is not behind the bound: it would be there a period earlier.
  have hstarts : ∃ start, ∃ d e, OverlapFrom since first second d e ∧
      overlapStart first second d e = start := by
    obtain ⟨d, e, h⟩ := hex
    exact ⟨_, d, e, h, rfl⟩
  classical
  obtain ⟨d, e, hoverlap, hstart⟩ := Nat.find_spec hstarts
  have hmin := fun start (hlt : start < Nat.find hstarts) => Nat.find_min hstarts hlt
  refine ⟨d, e, hoverlap, ?_⟩
  by_contra hlate
  have hbefore := hoverlap.before
  have hafter := hoverlap.after
  rw [endMinutes, hn] at hbefore
  rw [endMinutes, hm] at hafter
  rw [overlapStart] at hlate hstart
  rw [hspan, hspan'] at huntil
  simp only [Option.getD_some, microsPerMinute] at hbefore hafter hlate huntil
  obtain ⟨d', hd', hdd'⟩ := hasWindow_earlier hp (Nat.dvd_lcm_left p q) hpos hfirst hoverlap.onFirst
    (by simp only [microsPerMinute]; omega)
  obtain ⟨e', he', hee'⟩ := hasWindow_earlier hq (Nat.dvd_lcm_right p q) hpos hsecond hoverlap.onSecond
    (by simp only [microsPerMinute]; omega)
  have hdays : 0 < p.lcm q * minutesPerDay := Nat.mul_pos hpos (by decide)
  refine hmin (overlapStart first second d' e') (by rw [overlapStart]; omega) ⟨d', e', ?_, rfl⟩
  have hlcm : p.lcm q * microsPerDay = p.lcm q * minutesPerDay * microsPerMinute := by
    rw [Nat.mul_assoc]
    rfl
  rw [hlcm] at huntil
  simp only [microsPerMinute] at huntil
  refine ⟨⟨hd', he', ?_, ?_⟩, ?_, ?_⟩
  · rw [endMinutes, hn, Option.getD_some]
    omega
  · rw [endMinutes, hm, Option.getD_some]
    omega
  · rw [EndsFrom, endMinutes, hn, Option.getD_some]
    simp only [microsPerMinute]
    omega
  · rw [EndsFrom, endMinutes, hm, Option.getD_some]
    simp only [microsPerMinute]
    omega

/-! ### What a merge misses -/

/-- A stream has a window of these minutes, or raises behind earlier ones. -/
def Covers (stream : Trace Window PyException) (start finish : ℕ) : Prop :=
  (∃ a ∈ stream.yields, a.start.minutes = start ∧ a.finish.minutes = finish) ∨
    stream.raised?.isSome ∧ ∀ a ∈ stream.yields, a.start.minutes < start

theorem covers_wallWindows (h : w.IsWindow) (hp : w.patternDays = some p)
    (hd : w.HasWindow d) (hends : w.EndsFrom since d) :
    Covers (wallWindows w since) (w.startMinutes d) (w.endMinutes d) := by
  obtain hshows | ⟨hoff, hbefore⟩ := shows_or_runsOff h hp hd hends
  · obtain ⟨a, hon⟩ := w.exists_isOn hshows.built
    exact .inl ⟨a, (mem_wallWindows_iff h).mpr ⟨d, hshows, hon⟩, hon.start_eq, hon.finish⟩
  · refine .inr ⟨(raised?_wallWindows h).mpr hoff, fun a ha => ?_⟩
    obtain ⟨e, he, hon⟩ := (mem_wallWindows_iff h).mp ha
    rw [hon.start_eq]
    exact w.startMinutes_lt (hbefore e he)

variable {mine theirs : Trace Window PyException}

theorem exists_last {stream : Trace Window PyException} (hs : InOrder stream.yields)
    (hne : stream.yields ≠ []) : ∃ a, stream.yields.getLast? = some a ∧ a ∈ stream.yields ∧
      ∀ c ∈ stream.yields, c.start.minutes ≤ a.start.minutes ∧ c.finish.minutes ≤ a.finish.minutes := by
  obtain ⟨init, a, heq⟩ := List.eq_nil_or_concat' stream.yields |>.resolve_left hne
  have hpair := hs.pairwise
  rw [heq] at hpair ⊢
  refine ⟨a, by simp, by simp, fun c hc => ?_⟩
  obtain hc | hc := List.mem_append.mp hc
  · exact (List.pairwise_append.mp hpair).2.2 c hc a (List.mem_singleton_self a)
  · rw [List.mem_singleton.mp hc]
    exact ⟨le_rfl, le_rfl⟩

section

variable (ha : InOrder mine.yields) (hb : InOrder theirs.yields)
  (hnone : ∀ a ∈ mine.yields, ∀ b ∈ theirs.yields, a.Meets b → isBehind (laterStart a b) until_ = true)
include ha hb hnone

theorem stuck_of_missed (hafter : s < f') (hbound : max s s' * microsPerMinute ≤ until_.micros)
    (hraises : mine.raised?.isSome) (hmissed : ∀ a ∈ mine.yields, a.start.minutes < s)
    (hcovers : Covers theirs s' f') : Stuck until_ mine theirs := by
  have hmicros : ∀ {t : LocalTime}, t.minutes ≤ max s s' → isBehind t until_ = false := by
    intro t ht
    rw [Bool.eq_false_iff, ne_eq, isBehind_iff, Nat.not_lt]
    exact (Nat.mul_le_mul_right _ ht).trans hbound
  by_cases hnil : mine.yields = []
  · exact .first hraises hnil
  obtain ⟨a, hlast, hamem, hmax⟩ := exists_last ha hnil
  have hastart := hmissed a hamem
  obtain ⟨b, hbmem, hbs, hbf⟩ | ⟨hraises', hmissed'⟩ := hcovers
  · -- The last window of mine is over before the other of the overlap starts.
    have hover : a.finish.minutes ≤ b.start.minutes := by
      by_contra hlt
      have hbehind := hnone a hamem b hbmem ⟨by omega, by omega⟩
      rw [hmicros (by rw [laterStart_minutes]; omega)] at hbehind
      cases hbehind
    obtain ⟨c, hclast, hcmem, hcmax⟩ := exists_last hb (List.ne_nil_of_mem hbmem)
    have hle := (hcmax b hbmem).1
    refine .mine (fun x hx y hy hmeets => ?_) ⟨hraises, a, c, hlast, hclast, hmicros (by omega), by omega⟩
    have hxa := hmax x hx
    have hlt := hmeets.1
    have hbehind := hnone x hx y hy hmeets
    rw [hmicros (by rw [laterStart_minutes]; omega)] at hbehind
    cases hbehind
  · by_cases hnil' : theirs.yields = []
    · exact .second hraises' hnil'
    obtain ⟨b, hlast', hbmem, hmax'⟩ := exists_last hb hnil'
    have hbstart := hmissed' b hbmem
    have hapart : ∀ x ∈ mine.yields, ∀ y ∈ theirs.yields, ¬ x.Meets y := by
      intro x hx y hy hmeets
      have hxs := hmissed x hx
      have hys := hmissed' y hy
      have hbehind := hnone x hx y hy hmeets
      rw [hmicros (by rw [laterStart_minutes]; omega)] at hbehind
      cases hbehind
    rcases Nat.lt_or_ge b.start.minutes a.finish.minutes with hlt | hover
    · refine .theirs hapart ⟨hraises', b, a, hlast', hlast, hmicros (by omega), ?_⟩
      by_contra hlate
      exact hapart a hamem b hbmem ⟨hlt, by omega⟩
    · exact .mine hapart ⟨hraises, a, b, hlast, hlast', hmicros (by omega), hover⟩

/-- **A merge that finds nothing has missed nothing**, where it is not stuck. -/
theorem not_covers_of_none (hstuck : ¬ Stuck until_ mine theirs)
    {f : ℕ} (hbefore : s' < f) (hafter : s < f')
    (hbound : max s s' * microsPerMinute ≤ until_.micros) (hcovers : Covers mine s f) :
    ¬ Covers theirs s' f' := by
  intro hcovers'
  obtain ⟨a, hamem, has, haf⟩ | ⟨hraises, hmissed⟩ := hcovers
  · obtain ⟨b, hbmem, hbs, hbf⟩ | ⟨hraises', hmissed'⟩ := hcovers'
    · have hbehind := hnone a hamem b hbmem ⟨by omega, by omega⟩
      rw [isBehind_iff, laterStart_minutes, has, hbs] at hbehind
      omega
    · refine hstuck (Stuck.symm (stuck_of_missed hb ha (fun y hy x hx hmeets => ?_) hbefore
        (by rwa [max_comm]) hraises' hmissed' (.inl ⟨a, hamem, has, haf⟩)))
      rw [laterStart_comm]
      exact hnone x hx y hy hmeets.symm
  · exact hstuck (stuck_of_missed ha hb hnone hafter hbound hraises hmissed hcovers')

end

/-! ### Two patterns -/

theorem overlap_of_meets (hd : first.HasWindow d) (he : second.HasWindow e)
    (ha : first.IsOn a d) (hb : second.IsOn b e) (hmeets : a.Meets b) :
    Overlap first second d e ∧ (laterStart a b).minutes = overlapStart first second d e := by
  have hbefore := hmeets.1
  have hafter := hmeets.2
  rw [hb.start_eq, ha.finish] at hbefore
  rw [ha.start_eq, hb.finish] at hafter
  refine ⟨⟨hd, he, hbefore, hafter⟩, ?_⟩
  rw [laterStart_minutes, ha.start_eq, hb.start_eq, overlapStart]

theorem firstOverlap_patterns (hp : first.patternDays = some p)
    (hq : second.patternDays = some q) : firstOverlap first second since = (do
      let until_ ← patternsBound first second p q since
      overlapInOrder until_ (wallWindows first since) (wallWindows second since)) := by
  rw [firstOverlap, hp, hq]

/-- **The comparison of two patterns is exact exactly where it returns**: the bound is inside the
calendar, and the merge of the streams is not stuck. -/
theorem exactOverlap_iff (h₁ : first.IsWindow) (h₂ : second.IsWindow)
    (hp : first.patternDays = some p) (hq : second.patternDays = some q) :
    ExactOverlap first second since ↔ ∃ until_, patternsBound first second p q since = .ok until_ ∧
      ¬ Stuck until_ (wallWindows first since) (wallWindows second since) := by
  have hin₁ := inOrder_wallWindows h₁ since
  have hin₂ := inOrder_wallWindows h₂ since
  constructor
  · rintro ⟨r, hr, -⟩
    rw [firstOverlap_patterns hp hq] at hr
    obtain ⟨until_, huntil, hr⟩ := bind_eq_ok.mp hr
    exact ⟨until_, huntil, (merges_overlapInOrder hin₁ hin₂).returns.mp ⟨r, hr⟩⟩
  · rintro ⟨until_, huntil, hstuck⟩
    have hmerges : Merges until_ (wallWindows first since) (wallWindows second since) _ :=
      merges_overlapInOrder hin₁ hin₂
    obtain ⟨r, hr⟩ := hmerges.returns.mpr hstuck
    have hsound : ∀ t ∈ r, ∃ d e, OverlapFrom since first second d e ∧
        t.minutes = overlapStart first second d e := by
      rintro t ht
      obtain rfl : r = some t := ht
      obtain ⟨a, ha, b, hb, hmeets, rfl⟩ := hmerges.sound t hr
      obtain ⟨d, hd, hon⟩ := (mem_wallWindows_iff h₁).mp ha
      obtain ⟨e, he, hon'⟩ := (mem_wallWindows_iff h₂).mp hb
      obtain ⟨hoverlap, hstart⟩ := overlap_of_meets hd.hasWindow he.hasWindow hon hon' hmeets
      exact ⟨d, e, ⟨hoverlap, hd.ends, he.ends⟩, hstart⟩
    refine ⟨r, ?_, ⟨?_, ?_⟩, hsound⟩
    · rw [firstOverlap_patterns hp hq, huntil]
      exact hr
    · rintro rfl d e hoverlap
      obtain ⟨d, e, hoverlap, hbound⟩ :=
        exists_overlap_by_bound hp hq h₁ h₂ huntil ⟨d, e, hoverlap⟩
      have hcovers := covers_wallWindows h₁ hp hoverlap.onFirst hoverlap.first_ends
      have hcovers' := covers_wallWindows h₂ hq hoverlap.onSecond hoverlap.second_ends
      exact not_covers_of_none hin₁ hin₂ (hmerges.complete hr) hstuck hoverlap.before hoverlap.after
        hbound hcovers hcovers'
    · intro hno
      cases r with
      | none => rfl
      | some t =>
        obtain ⟨d, e, hoverlap, -⟩ := hsound t rfl
        exact absurd hoverlap (hno d e)

/-! ### Any other pair -/

/-- An overlap of two rules that starts before the horizon. -/
def OverlapWithin (since : Moment) (first second : When) (d e : Date) : Prop :=
  OverlapFrom since first second d e ∧
    overlapStart first second d e * microsPerMinute < since.micros + clashHorizon

/-- The search of a pair ends, and its streams have an overlap where there is one. -/
def SearchesStreams (first second : When) (since : Moment) : Prop :=
  ∃ until_ sparse dense, since.shift clashHorizon = .ok until_ ∧
    sparseFirst first second since = .ok (sparse, dense) ∧
    SearchEnds dense until_ (wallWindows sparse since) ∧
    ((∃ d e, OverlapWithin since first second d e) →
      ∃ a ∈ (wallWindows sparse since).yields, isBehind a.start until_ = false ∧ MeetsAround dense a)

theorem sparseFirst_eq_ok (h : sparseFirst first second since = .ok (sparse, dense)) :
    sparse = first ∧ dense = second ∨ sparse = second ∧ dense = first := by
  obtain ⟨n, -, h⟩ := bind_eq_ok.mp h
  obtain ⟨m, -, hret⟩ := bind_eq_ok.mp h
  have hpair := Except.ok.inj hret
  split at hpair
  · cases hpair
    exact .inr ⟨rfl, rfl⟩
  · cases hpair
    exact .inl ⟨rfl, rfl⟩

theorem firstOverlap_search (h : first.patternDays = none ∨ second.patternDays = none) :
    firstOverlap first second since = (do
      let until_ ← since.shift clashHorizon
      let (sparse, dense) ← sparseFirst first second since
      searchAround dense until_ (wallWindows sparse since)) := by
  rw [firstOverlap]
  obtain hnone | hnone := h
  · rw [hnone]
  · rw [hnone]
    cases first.patternDays with
    | none => rfl
    | some p => rfl

theorem overlap_of_search (h₁ : first.IsWindow) (h₂ : second.IsWindow)
    (horder : sparse = first ∧ dense = second ∨ sparse = second ∧ dense = first)
    (ha : a ∈ (wallWindows sparse since).yields)
    (hb : b ∈ (wallWindows dense (ofLocal a.start)).yields) (hmeets : a.Meets b) :
    ∃ d e, Overlap first second d e ∧ (laterStart a b).minutes = overlapStart first second d e := by
  obtain ⟨rfl, rfl⟩ | ⟨rfl, rfl⟩ := horder
  · obtain ⟨d, hd, hon⟩ := (mem_wallWindows_iff h₁).mp ha
    obtain ⟨e, he, hon'⟩ := (mem_wallWindows_iff h₂).mp hb
    exact ⟨d, e, overlap_of_meets hd.hasWindow he.hasWindow hon hon' hmeets⟩
  · obtain ⟨e, he, hon⟩ := (mem_wallWindows_iff h₂).mp ha
    obtain ⟨d, hd, hon'⟩ := (mem_wallWindows_iff h₁).mp hb
    obtain ⟨hoverlap, hstart⟩ := overlap_of_meets he.hasWindow hd.hasWindow hon hon' hmeets
    exact ⟨d, e, hoverlap.symm, hstart.trans (overlapStart_comm _ _ _ _)⟩

/-- **The comparison of any other pair is sound and finds what starts before the horizon exactly
where its search goes through.** -/
theorem soundOverlap_iff (h₁ : first.IsWindow) (h₂ : second.IsWindow)
    (hnot : first.patternDays = none ∨ second.patternDays = none) :
    SoundOverlap first second since ↔ SearchesStreams first second since := by
  have hin : ∀ {sparse dense : When}, sparse = first ∧ dense = second ∨
      sparse = second ∧ dense = first → ∀ until_,
      Searches dense until_ (wallWindows sparse since)
        (searchAround dense until_ (wallWindows sparse since)) := by
    rintro sparse dense (⟨rfl, rfl⟩ | ⟨rfl, rfl⟩) until_
    · exact searches_searchAround (inOrder_wallWindows h₂) (inOrder_wallWindows h₁ since)
    · exact searches_searchAround (inOrder_wallWindows h₁) (inOrder_wallWindows h₂ since)
  constructor
  · rintro ⟨r, hr, -, hfinds⟩
    rw [firstOverlap_search hnot] at hr
    obtain ⟨until_, huntil, hr⟩ := bind_eq_ok.mp hr
    obtain ⟨⟨sparse, dense⟩, hpair, hr⟩ := bind_eq_ok.mp hr
    have hsearches := hin (sparseFirst_eq_ok hpair) until_
    refine ⟨until_, sparse, dense, huntil, hpair, hsearches.returns.mp ⟨r, hr⟩, ?_⟩
    rintro ⟨d, e, hoverlap, hstart⟩
    obtain ⟨t, rfl⟩ := Option.ne_none_iff_exists'.mp (hfinds d e hoverlap hstart)
    obtain ⟨a, ha, hbound, b, hb, hmeets, -⟩ := hsearches.sound t hr
    exact ⟨a, ha, hbound, b, hb, hmeets⟩
  · rintro ⟨until_, sparse, dense, huntil, hpair, hends, hreaches⟩
    have horder := sparseFirst_eq_ok hpair
    have hsearches := hin horder until_
    obtain ⟨r, hr⟩ := hsearches.returns.mpr hends
    refine ⟨r, ?_, ?_, ?_⟩
    · rw [firstOverlap_search hnot, huntil]
      exact bind_eq_ok.mpr ⟨until_, rfl, bind_eq_ok.mpr ⟨(sparse, dense), hpair, hr⟩⟩
    · rintro t ht
      obtain rfl : r = some t := ht
      obtain ⟨a, ha, -, b, hb, hmeets, rfl⟩ := hsearches.sound t hr
      exact overlap_of_search h₁ h₂ horder ha hb hmeets
    · rintro d e hoverlap hstart rfl
      obtain ⟨a, ha, hbound, hmeets⟩ := hreaches ⟨d, e, hoverlap, hstart⟩
      exact hsearches.complete hr a ha hbound hmeets

end SolarFlowEms.Schedule
