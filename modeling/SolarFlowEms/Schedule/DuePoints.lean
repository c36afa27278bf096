import SolarFlowEms.Schedule.ParseTotal
import SolarFlowEms.Schedule.SincePath

/-!
# The switch points that are due

Per slot the scheduler fires the latest switch point that has come and was not applied: each
rule's occurrences are looked at from the moment before which none of its switch points fire.
The same loop over every occurrence from the start is what it is compared with.
-/

namespace SolarFlowEms.Schedule

open Python Calendar TimeText Zones Generator Fallible

/-! ### Switch points -/

structure SwitchPoint where
  moment : Moment
  slot : String
  rule : ScheduleRule
  value : PyValue
  isStart : Bool
  rank : ℕ
  endsAt : Option Moment

/-- `order() > other.order()`: later wins; at one instant a start beats an end, then the higher
rule. -/
def SwitchPoint.beats (p q : SwitchPoint) : Bool :=
  q.moment.micros < p.moment.micros ||
    (q.moment.micros = p.moment.micros &&
      ((p.isStart && !q.isStart) || (p.isStart = q.isStart && p.rank < q.rank)))

def slotOf (rule : ScheduleRule) : String := actionSlot rule.action (rule.device.getD "")

/-- `after < moment <= until`. -/
def isWithin (after till moment : Moment) : Bool :=
  after.micros < moment.micros && moment.micros ≤ till.micros

/-- The switch points of one occurrence. -/
def pointsOf (rule : ScheduleRule) (after till : Moment) (rank : ℕ) (o : Occurrence) :
    List SwitchPoint :=
  (if isWithin after till o.start then
    [{ moment := o.start, slot := slotOf rule, rule, value := rule.value, isStart := true, rank,
       endsAt := o.finish }]
  else []) ++
  (o.finish.toList.filter (isWithin after till)).map fun finish =>
    { moment := finish, slot := slotOf rule, rule, value := rule.endValue, isStart := false, rank,
      endsAt := none }

/-- `switch_points`, drained, over the occurrences from `since` on. -/
def switchPoints (rule : ScheduleRule) (zone : Zone) (since : Option Moment) (after till : Moment)
    (rank : ℕ) : Except PyException (List SwitchPoint) :=
  List.flatMap (pointsOf rule after till rank) <$>
    (occurrences rule.timing zone since (some till)).drained

/-! ### What is due -/

/-- 1 January 1970. -/
def never : Moment := ⟨719162 * microsPerDay, by decide⟩

def futureTolerance : ℕ := microsPerDay

/-- The rules that are valid and switched on, with their ranks. -/
def validRules (b : ScheduleBook) : List (ℕ × ScheduleRule) :=
  b.rules.zipIdx.filterMap fun entry =>
    match entry.1 with
    | .valid rule => if rule.enabled then some (entry.2, rule) else none
    | .broken _ => none

/-- The latest of some moments. -/
def latestOf (moments : List Moment) : Moment :=
  match moments with
  | [] => never
  | first :: rest => rest.foldl (fun held m => if held.micros < m.micros then m else held) first

def appliedAt (b : ScheduleBook) (slot : String) : Moment :=
  ((b.applied.lookup slot).map fun record => ofUtc record.firedAt).getD never

/-- `_bound`: the moment before which none of the rule's switch points fire. -/
def boundOf (rule : ScheduleRule) (b : ScheduleBook) (now : Moment) : Except PyException Moment :=
  (fun latest => latestOf ([ofUtc rule.updatedAt, appliedAt b (slotOf rule),
    (b.resumedAt.map ofUtc).getD never].filter fun bound => bound.micros ≤ latest.micros)) <$>
      now.shift futureTolerance

/-- The switch point that wins its slot. -/
def winner (due : List (String × SwitchPoint)) (point : SwitchPoint) : List (String × SwitchPoint) :=
  match due.lookup point.slot with
  | none => dictSet due point.slot point
  | some held => if point.beats held then dictSet due point.slot point else due

/-- The loop over the rules, with the expansion of a rule's switch points from a bound. -/
def dueBy (expand : ScheduleRule → Moment → ℕ → Except PyException (List SwitchPoint))
    (b : ScheduleBook) (now : Moment) : Except PyException (List (String × SwitchPoint)) :=
  if b.enabled then
    (validRules b).foldlM (fun due entry => do
      let after ← boundOf entry.2 b now
      let points ← expand entry.2 after entry.1
      return points.foldl winner due) []
  else .ok []

def dueSwitchPoints (b : ScheduleBook) (zone : Zone) (now : Moment) :
    Except PyException (List (String × SwitchPoint)) :=
  dueBy (fun rule after rank => switchPoints rule zone (some after) after now rank) b now

/-- What is due when every occurrence is expanded from the start. -/
def dueFromStart (b : ScheduleBook) (zone : Zone) (now : Moment) :
    Except PyException (List (String × SwitchPoint)) :=
  dueBy (fun rule after rank => switchPoints rule zone none after now rank) b now

/-! ### Rules that were read -/

variable {texts : ValueTexts} {rule : ScheduleRule} {stored : ScheduleData} {b : ScheduleBook}
  {rank : ℕ} {w : When} {zone : Zone} {o : Occurrence} {till after : Moment}

theorem parseWhen_of_parseRule {payload : PyValue}
    (h : parseRule texts payload = .ok rule) : ∃ timing, parseWhen timing = .ok rule.timing := by
  rw [parseRule] at h
  obtain ⟨entries, -, h⟩ := bind_eq_ok.mp h
  obtain ⟨stamp, -, h⟩ := bind_eq_ok.mp h
  obtain ⟨fields, hfields, h⟩ := bind_eq_ok.mp h
  rw [parseEditable] at hfields
  obtain ⟨inner, -, hfields⟩ := bind_eq_ok.mp hfields
  obtain ⟨known, -, hfields⟩ := bind_eq_ok.mp hfields
  obtain ⟨name, -, hfields⟩ := bind_eq_ok.mp hfields
  obtain ⟨enabled, -, hfields⟩ := bind_eq_ok.mp hfields
  obtain ⟨timing, htiming, hfields⟩ := bind_eq_ok.mp hfields
  obtain ⟨⟨action, value, endValue⟩, -, hfields⟩ := bind_eq_ok.mp hfields
  obtain ⟨⟨device, identity⟩, -, hfields⟩ := bind_eq_ok.mp hfields
  cases hfields
  cases h
  exact ⟨_, htiming⟩

theorem parseWhen_of_mem_validRules (h : book texts stored = .ok b)
    (hrule : (rank, rule) ∈ validRules b) : ∃ timing, parseWhen timing = .ok rule.timing := by
  obtain ⟨rules, hrules, h⟩ := bind_eq_ok.mp h
  obtain ⟨applied, -, h⟩ := bind_eq_ok.mp h
  cases h
  obtain ⟨⟨entry, i⟩, hmem, hsome⟩ := List.mem_filterMap.mp hrule
  have hentry : entry ∈ rules := (List.mem_zipIdx hmem).2.2 ▸ List.getElem_mem _
  obtain ⟨payload, -, hbook⟩ := exists_item_of_mapM_eq_ok hrules hentry
  cases entry with
  | broken entry => cases hsome
  | valid rule' =>
    have hrule' : rule' = rule := by
      dsimp only at hsome
      split at hsome
      · cases hsome
        rfl
      · cases hsome
    rw [hrule', bookRule.eq_def] at hbook
    split at hbook
    · next rule'' hparse =>
      cases hbook
      exact parseWhen_of_parseRule hparse
    · obtain ⟨_, -, hret⟩ := bind_eq_ok.mp hbook
      cases hret
    · cases hbook

/-! ### The points of occurrences that are over -/

theorem start_le_last {d : Date} {start : Moment}
    (h : w.occurrenceOn zone d start = .ok o) : o.start.micros ≤ o.last.micros := by
  obtain ⟨finish, hfinish, rfl⟩ := map_eq_ok.mp h
  rw [When.finishOn.eq_def] at hfinish
  split at hfinish
  · cases hfinish
    exact le_rfl
  · obtain ⟨m, hm, rfl⟩ := map_eq_ok.mp hfinish
    obtain ⟨localEnd, -, hm⟩ := bind_eq_ok.mp hm
    obtain ⟨finish, -, hm⟩ := bind_eq_ok.mp hm
    show start.micros ≤ m.micros
    split at hm
    · next hlt =>
      cases hm
      exact hlt.le
    · have := Moment.shift_eq_ok.mp hm
      omega

theorem start_le_last_of_mem {since till : Option Moment} {trace : Trace Date PyException}
    (h : o ∈ (occurrencesOn w zone since till trace).yields) : o.start.micros ≤ o.last.micros := by
  induction trace with
  | done => cases h
  | raises e => cases h
  | yield day rest ih =>
    rw [occurrencesOn] at h
    cases hstart : w.startOn zone day with
    | error e =>
      rw [hstart] at h
      cases h
    | ok start =>
      rw [hstart] at h
      dsimp only at h
      split at h
      · cases h
      · cases ho : w.occurrenceOn zone day start with
        | error e =>
          rw [ho] at h
          cases h
        | ok o' =>
          rw [ho] at h
          dsimp only at h
          split at h
          · exact ih () h
          · rcases List.mem_cons.mp h with rfl | hrest
            · exact start_le_last ho
            · exact ih () hrest

theorem pointsOf_eq_nil (hle : o.start.micros ≤ o.last.micros) (hends : o.endsFrom after = false) :
    pointsOf rule after till rank o = [] := by
  have hlast : o.last.micros < after.micros := by
    rw [Occurrence.endsFrom, decide_eq_false_iff_not] at hends
    omega
  have hout : ∀ m : Moment, m.micros ≤ o.last.micros → isWithin after till m = false := by
    intro m hm
    rw [isWithin, decide_eq_false (by omega), Bool.false_and]
  rw [pointsOf, hout o.start hle, if_neg (by decide), List.nil_append]
  cases hfinish : o.finish with
  | none => rfl
  | some finish =>
    have hfin : o.last = finish := by
      rw [Occurrence.last, hfinish]
      rfl
    rw [Option.toList_some, List.filter_cons_of_neg (by rw [hout finish (by rw [hfin])]; decide)]
    rfl

theorem flatMap_pointsOf
    {occurrences : List Occurrence} (h : ∀ o ∈ occurrences, o.start.micros ≤ o.last.micros) :
    (occurrences.filter (Occurrence.endsFrom after)).flatMap (pointsOf rule after till rank) =
      occurrences.flatMap (pointsOf rule after till rank) := by
  induction occurrences with
  | nil => rfl
  | cons o rest ih =>
    have ih := ih fun o' ho' => h o' (List.mem_cons_of_mem o ho')
    cases hends : o.endsFrom after with
    | true => rw [List.filter_cons_of_pos hends, List.flatMap_cons, List.flatMap_cons, ih]
    | false =>
      rw [List.filter_cons_of_neg (by rw [hends]; decide), List.flatMap_cons,
        pointsOf_eq_nil (h o List.mem_cons_self) hends, List.nil_append, ih]

/-! ### Both ways -/

/-- What a timing needs for both ways to agree from a moment on. -/
structure When.Steady (w : When) (zone : Zone) (till s : Moment) : Prop where
  noLongRun : w.NoLongRun
  skipsInside : w.SkipsInside zone (some till) s
  goesOn : w.GoesOn zone (some till) s

theorem switchPoints_since {timing : PyValue} (h : parseWhen timing = .ok rule.timing)
    (hsteady : rule.timing.Steady zone till after) (rank : ℕ) :
    switchPoints rule zone (some after) after till rank =
      switchPoints rule zone none after till rank := by
  have hsorted : ∀ r ∈ rule.timing.repeat?, r.Ordered :=
    fun r hr => ordered_of_parseTiming (parseTiming_of_parseWhen h).1 hr
  have hfloat : ∀ r ∈ rule.timing.repeat?, ¬ r.FloatPosition :=
    fun r hr => not_floatPosition_of_parseWhen h hr
  have hyields : (occurrences rule.timing zone (some after) (some till)).yields = _ :=
    When.yields_occurrences_since hsorted hfloat hsteady.noLongRun hsteady.skipsInside
  have hraised : (occurrences rule.timing zone (some after) (some till)).raised? = _ :=
    When.raised?_occurrences_since hsorted hfloat hsteady.noLongRun hsteady.skipsInside
      hsteady.goesOn
  rw [switchPoints, switchPoints, Trace.drained, Trace.drained, hraised]
  cases (occurrences rule.timing zone none (some till)).raised? with
  | some e => rfl
  | none =>
    show Except.ok _ = Except.ok _
    rw [hyields]
    exact congrArg Except.ok (flatMap_pointsOf fun o ho => start_le_last_of_mem ho)

/-- A rule that the loop comes to, with its bound: the book is not paused, and no rule before
it raises. -/
structure LoopComesTo (b : ScheduleBook) (zone : Zone) (now : Moment) (rule : ScheduleRule)
    (after : Moment) : Prop where
  enabled : b.enabled = true
  bound : boundOf rule b now = .ok after
  among : ∃ earlier rank later, validRules b = earlier ++ (rank, rule) :: later ∧
    ∀ e ∈ earlier, ∃ bound points, boundOf e.2 b now = .ok bound ∧
      switchPoints e.2 zone none bound now e.1 = .ok points

theorem dueSwitchPoints_eq (h : book texts stored = .ok b) {now : Moment}
    (hsteady : ∀ rule after, LoopComesTo b zone now rule after →
      rule.timing.Steady zone now after) : dueSwitchPoints b zone now = dueFromStart b zone now := by
  rw [dueSwitchPoints, dueFromStart, dueBy, dueBy]
  by_cases henabled : b.enabled = true
  · rw [if_pos henabled, if_pos henabled]
    apply foldlM_congr_until (fun e => ∃ bound points, boundOf e.2 b now = .ok bound ∧
      switchPoints e.2 zone none bound now e.1 = .ok points)
    · rintro ⟨rank, rule⟩ due due' hok
      obtain ⟨bound, hbound, hok⟩ := bind_eq_ok.mp hok
      obtain ⟨points, hpoints, -⟩ := bind_eq_ok.mp hok
      exact ⟨bound, points, hbound, hpoints⟩
    · rintro earlier ⟨rank, rule⟩ later hrules hearlier due
      have hmem : (rank, rule) ∈ validRules b :=
        hrules ▸ List.mem_append_right _ List.mem_cons_self
      obtain ⟨timing, htiming⟩ := parseWhen_of_mem_validRules h hmem
      cases hbound : boundOf rule b now with
      | error e => rfl
      | ok after =>
        have hcomes : LoopComesTo b zone now rule after :=
          ⟨henabled, hbound, earlier, rank, later, hrules, hearlier⟩
        show (switchPoints rule zone (some after) after now rank >>= fun points =>
          pure (points.foldl winner due)) = _
        rw [switchPoints_since htiming (hsteady rule after hcomes)]
        rfl
  · rw [if_neg henabled, if_neg henabled]

def When.SkipsBefore (w : When) (s : Moment) : Prop :=
  ∃ r ∈ w.repeat?, r.count = none ∧ s.micros < w.span + 2 * microsPerDay

/-- **Asking from a moment on agrees with expanding every occurrence from the start**, for a
timing that was read and no run of whose empty periods is too long, exactly where the day
skipped to is inside the calendar and every day left out has its times, or nothing is still to
come.  What is due is the same where that day is inside for each rule the loop comes to and the
later expansion ends as the other does.  Where the day is before the calendar, asking from the
moment on raises. -/
theorem since_agrees (texts : ValueTexts) (zone : Zone) :
    (∀ payload w, parseWhen payload = .ok w → w.NoLongRun → ∀ s till,
      ((occurrences w zone (some s) till).yields =
          (occurrences w zone none till).yields.filter (Occurrence.endsFrom s) ↔
        w.SkipsInside zone till s ∨ w.NothingToCome zone till s)) ∧
    (∀ stored b now, book texts stored = .ok b →
      (∀ rule after, LoopComesTo b zone now rule after → rule.timing.Steady zone now after) →
        dueSwitchPoints b zone now = dueFromStart b zone now) ∧
    ∀ (w : When) s till, w.SkipsBefore s →
      occurrences w zone (some s) till = .raises .overflowError := by
  refine ⟨fun payload w h hno s till => ?_, fun stored b now h hsteady => ?_, ?_⟩
  · have hsorted : ∀ r ∈ w.repeat?, r.Ordered :=
      fun r hr => ordered_of_parseTiming (parseTiming_of_parseWhen h).1 hr
    have hfloat : ∀ r ∈ w.repeat?, ¬ r.FloatPosition :=
      fun r hr => not_floatPosition_of_parseWhen h hr
    exact When.yields_occurrences_since_iff hsorted hfloat hno
  · exact dueSwitchPoints_eq h hsteady
  · rintro w s till ⟨r, hr, hcount, hs⟩
    exact When.occurrences_before_calendar hr hcount hs till

/-! ### A daily rule -/

def daily : Repeat where
  freq := .daily
  interval := 1
  byWeekday := []
  byMonthDay := []
  bySetPos := none
  byMonth := []
  until? := none
  count := none
  interval_pos := by decide
  weekday_range := no_weekdays
  monthDay_range := by simp
  month_range := by simp
  setPos_needs := by simp

/-- Every day at six from 1 January 2026. -/
def dailyTiming : When where
  start := ⟨739616 * 1440 + 360, by decide⟩
  windowEnd? := none
  repeat? := some daily
  exceptions := []
  end_after := by simp

def dailyPayload : PyValue := .dict
  [("start", .str "2026-01-01T06:00"), ("repeat", .dict [("freq", .str "daily")])]

def dailyRule : PyValue := .dict
  [("id", .str "r_0123abcd"), ("revision", .int 1), ("name", .str "Mornings"),
    ("target", .dict [("scope", .str "system")]),
    ("action", .dict [("id", .str "ems_control"), ("value", .bool false)]),
    ("when", dailyPayload), ("updated_at", .str "2026-01-11T00:00:00Z"),
    ("updated_by", .str "emsctl")]

def dailyStored : ScheduleData :=
  { enabled := true, rules := [dailyRule], applied := [], resumedAt := .none }

theorem parseWhen_dailyPayload : parseWhen dailyPayload = .ok dailyTiming := by decide +kernel

theorem inMonth_daily (first d : Date) : daily.InMonth first d := by
  rw [Repeat.InMonth, if_pos (show daily.byMonth = [] from rfl)]
  intro hyearly
  cases hyearly

theorem noLongRun_dailyTiming : dailyTiming.NoLongRun := by
  rintro r ⟨⟩ s hs
  have hle : dailyTiming.start.date.ordinal + (s + 400) * 1 ≤ maxOrdinal := Nat.not_lt.mp hs
  have hfirst : dailyTiming.start.date.ordinal = 739617 := by decide
  refine ⟨s, ⟨dailyTiming.start.date.ordinal + s, by omega, by omega⟩, le_rfl, by omega,
    ⟨?_, inMonth_daily _ _, .inl rfl, Nat.le_add_right _ _⟩⟩
  show dailyTiming.start.date.ordinal + s = dailyTiming.start.date.ordinal + s * 1
  omega

/-- The moment the rule was saved, ten days after its first occurrence. -/
def dailySaved : Moment := ⟨739626 * microsPerDay, by decide⟩

theorem skipTo_dailyTiming {skip : Date} (h : dailyTiming.skipTo (some dailySaved) = .ok (some skip)) :
    skip.ordinal = 739625 := by
  have hday : dailyTiming.skipTo (some dailySaved) =
      .ok (some ⟨739625, by decide, by decide⟩) := by decide
  rw [hday] at h
  cases h
  rfl

theorem skipsInside_dailyTiming {till : Option Moment} :
    dailyTiming.SkipsInside utc till dailySaved := by
  rintro r ⟨⟩ -
  refine ⟨by decide, fun skip hskip d hd => ?_⟩
  obtain ⟨k, hk, hfalls, -⟩ := hd
  have hfirst : 739617 ≤ d.ordinal := hfalls.first_le
  have hlt := hfalls.lt_skip hk
  rw [skipTo_dailyTiming hskip] at hlt
  have hspan : dailyTiming.span = 0 := by decide
  have hover : dailyTiming.overBy d + microsPerDay ≤ maxOrdinal * microsPerDay := by
    rw [When.overBy, hspan]
    simp only [microsPerDay, maxOrdinal]
    omega
  exact When.hasTimes_of_three_le (by omega) hover till

theorem steady_dailyTiming : dailyTiming.Steady utc dailySaved dailySaved where
  noLongRun := noLongRun_dailyTiming
  skipsInside := skipsInside_dailyTiming
  goesOn := by
    rintro r ⟨⟩ - skip hskip
    refine ⟨?_, ?_⟩
    · rintro ⟨k, -, d, -, u, hu, -⟩
      cases hu
    · rintro ⟨d, ⟨k, hk, hfalls, -⟩, start, hstart, hlater⟩
      have hlt := hfalls.lt_skip hk
      rw [skipTo_dailyTiming hskip] at hlt
      have hover := When.start_lt_of_startOn hstart
      have hafter : dailySaved.micros < start.micros := of_decide_eq_true hlater
      have hsaved : dailySaved.micros = 739626 * microsPerDay := rfl
      simp only [microsPerDay] at hover hsaved
      omega

/-- Texts that no valid rule asks for. -/
def silentTexts : ValueTexts := { repr := fun _ => .ok "", contentHash := fun _ => .ok "" }

theorem book_dailyStored : ∃ rule b, book silentTexts dailyStored = .ok b ∧
    validRules b = [(0, rule)] ∧ boundOf rule b dailySaved = .ok dailySaved ∧
      rule.timing = dailyTiming := by
  have hread : (parseRule silentTexts dailyRule).toOption.map
      (fun rule => (rule.timing, rule.updatedAt, rule.enabled)) =
        some (dailyTiming, ⟨739626 * 86400, by decide⟩, true) := by
    decide +kernel
  cases hrule : parseRule silentTexts dailyRule with
  | error raised =>
    rw [hrule] at hread
    cases hread
  | ok rule =>
    rw [hrule] at hread
    obtain ⟨htiming, hrest⟩ := Prod.mk.inj (Option.some.inj hread)
    obtain ⟨hupdated, henabled⟩ := Prod.mk.inj hrest
    refine ⟨rule, { enabled := true, rules := [.valid rule], applied := [], resumedAt := none },
      ?_, ?_, ?_, htiming⟩
    · refine bind_eq_ok.mpr ⟨[.valid rule], ?_, rfl⟩
      refine mapM_eq_ok.mpr (.cons ?_ .nil)
      rw [bookRule, hrule]
    · simp [validRules, henabled]
    · simp only [boundOf, appliedAt, hupdated, List.lookup_nil]
      decide

theorem since_agrees_daily :
    (occurrences dailyTiming utc (some dailySaved) none).yields =
        (occurrences dailyTiming utc none none).yields.filter (Occurrence.endsFrom dailySaved) ∧
      ∃ b, book silentTexts dailyStored = .ok b ∧
        dueSwitchPoints b utc dailySaved = dueFromStart b utc dailySaved := by
  obtain ⟨rule, b, hbook, hrules, hbound, htiming⟩ := book_dailyStored
  refine ⟨((since_agrees silentTexts utc).1 dailyPayload dailyTiming parseWhen_dailyPayload
    noLongRun_dailyTiming dailySaved none).mpr (.inl skipsInside_dailyTiming), b, hbook, ?_⟩
  apply (since_agrees silentTexts utc).2.1 dailyStored b dailySaved hbook
  rintro rule' after ⟨-, hafter, earlier, rank, later, hmem, -⟩
  have hmem : (rank, rule') ∈ validRules b := hmem ▸ List.mem_append_right _ List.mem_cons_self
  rw [hrules] at hmem
  cases List.mem_singleton.mp hmem
  rw [hbound] at hafter
  cases hafter
  rw [htiming]
  exact steady_dailyTiming

/-! ### A window of two thousand years -/

def rareMondays : Repeat :=
  { daily with
    freq := .weekly
    interval := 366
    interval_pos := by decide
    setPos_needs := nofun }

/-- From Monday 5 January 2026 to 5 January 4060, and every 366 weeks. -/
def longTiming : When where
  start := ⟨739620 * 1440, by decide⟩
  windowEnd? := some ⟨1482523 * 1440, by decide⟩
  repeat? := some rareMondays
  exceptions := []
  end_after := by simp

def longPayload : PyValue := .dict
  [("start", .str "2026-01-05T00:00"), ("end", .str "4060-01-05T00:00"),
    ("repeat", .dict [("freq", .str "weekly"), ("interval", .int 366)])]

theorem noLongRun_longTiming : longTiming.NoLongRun := by
  rintro r ⟨⟩ s hs
  have hfirst : longTiming.start.date.ordinal = 739621 := by decide
  have hle : longTiming.start.date.ordinal + 7 * ((s + 60) * 366) ≤ maxOrdinal := by
    by_contra hlarge
    refine hs ⟨longTiming.start.date.weekday, List.mem_singleton_self _, ?_⟩
    show _ < longTiming.start.date.ordinal + 7 * ((s + 60) * 366) + _
    omega
  obtain ⟨d, hd⟩ : ∃ d : Date, d.ordinal = longTiming.start.date.ordinal + 7 * (s * 366) :=
    ⟨⟨_, Nat.le_add_right_of_le longTiming.start.date.one_le, le_trans (Nat.add_le_add_left
      (Nat.mul_le_mul_left 7 (Nat.mul_le_mul_right 366 (Nat.le_add_right s 60))) _) hle⟩, rfl⟩
  have hle : longTiming.start.date.ordinal ≤ d.ordinal := by
    rw [hd]
    exact Nat.le_add_right _ _
  have hfalls : rareMondays.FallsIn longTiming.start.date s d := by
    refine ⟨?_, ?_, ?_, hle⟩
    · show d.weekNumber = longTiming.start.date.weekNumber + s * 366
      rw [Date.weekNumber, Date.weekNumber, hd]
      omega
    · rw [Repeat.InMonth, if_pos (show rareMondays.byMonth = [] from rfl)]
      intro hyearly
      cases hyearly
    · show d.weekday ∈ [longTiming.start.date.weekday]
      rw [List.mem_singleton, Date.weekday, Date.weekday, hd]
      omega
  exact ⟨s, d, le_rfl, Nat.le_add_right _ _, hfalls⟩

/-- 27 July 2026, noon. -/
def summerNoon : Moment := ⟨739823 * microsPerDay + 43200000000, by decide⟩

def longWindow : Occurrence :=
  ⟨⟨739621, by decide, by decide⟩, ⟨739620 * microsPerDay, by decide⟩,
    some ⟨1482523 * microsPerDay, by decide⟩⟩

/-- **A window longer than the years before it** is open at that moment, and asking from the
moment on raises before it yields anything. -/
theorem longTiming_raises : parseWhen longPayload = .ok longTiming ∧
    (∀ r ∈ longTiming.repeat?, r.count = none) ∧ longTiming.NoLongRun ∧
      (occurrences longTiming utc (some summerNoon) none).yields ≠
        (occurrences longTiming utc none none).yields.filter (Occurrence.endsFrom summerNoon) := by
  refine ⟨by decide +kernel, by rintro r ⟨⟩; rfl, noLongRun_longTiming, fun heq => ?_⟩
  have hraises : occurrences longTiming utc (some summerNoon) none = .raises .overflowError :=
    When.occurrences_before_calendar rfl rfl (by decide) none
  rw [hraises] at heq
  have hhead : (occurrences longTiming utc none none).yields.head? = some longWindow := by
    decide
  have hends : longWindow.endsFrom summerNoon = true := by decide
  have hmem : longWindow ∈ (occurrences longTiming utc none none).yields.filter
      (Occurrence.endsFrom summerNoon) := List.mem_filter.mpr ⟨List.mem_of_mem_head? hhead, hends⟩
  rw [← heq] at hmem
  exact absurd hmem List.not_mem_nil

end SolarFlowEms.Schedule
