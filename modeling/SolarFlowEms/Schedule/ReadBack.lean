import Mathlib.Data.Set.Finite.List
import SolarFlowEms.Library.TimeFormat
import SolarFlowEms.Schedule.Completeness
import SolarFlowEms.Schedule.ParseTotal

/-!
# A timing that was written is read back

Reading a timing leaves its fields in one form: the lists of a repeat are filters of their
ranges, its numbers are in theirs, and it has one end at most.  Each field in that form is
written as a value that is read as the field.  The skipped dates are written sorted and once
each, and the expansions that follow do not see them.
-/

namespace SolarFlowEms.Schedule

open Python Calendar TimeText Fallible

/-! ### What reading a repeat leaves -/

/-- The form the parser leaves a repeat in. -/
structure Repeat.Read (r : Repeat) (start : LocalTime) : Prop where
  interval_le : r.interval ≤ maxInterval
  weekdays : ∃ p : ℕ → Bool, r.byWeekday = (List.range 7).filter p
  monthDays : ∃ p : ℤ → Bool, r.byMonthDay = monthDayRange.filter p
  months : ∃ p : ℕ → Bool, r.byMonth = (List.range' 1 12).filter p
  monthDays_freq : r.byMonthDay = [] ∨ r.freq = .monthly ∨ r.freq = .yearly
  monthDays_weekdays : r.byMonthDay = [] ∨ r.byWeekday = []
  oneEnd : r.until? = none ∨ r.count = none
  until_ge : ∀ d ∈ r.until?, start.date.ordinal ≤ d.ordinal
  count_range : ∀ n ∈ r.count, 1 ≤ n ∧ n ≤ maxCount

variable {α β : Type} {value payload : PyValue} {start : LocalTime} {r : Repeat}
  {write : α → PyValue} {f : α → β} {l : List ℕ} {dates : List Date} {w : When}

theorem optional_eq_ok {α : Type*} {parse : PyValue → Parsed α} {read : Option α} :
    optional value parse = .ok read ↔
      value = .none ∧ read = none ∨
        value.isNone = false ∧ ∃ a, parse value = .ok a ∧ read = some a := by
  cases value with
  | none =>
    constructor
    · intro h
      cases h
      exact .inl ⟨rfl, rfl⟩
    · rintro (⟨-, rfl⟩ | ⟨h, -⟩)
      · rfl
      · cases h
  | _ =>
    rw [optional, map_eq_ok]
    · constructor
      · rintro ⟨a, ha, rfl⟩
        exact .inr ⟨rfl, a, ha, rfl⟩
      · rintro (⟨h, -⟩ | ⟨-, a, ha, rfl⟩)
        · cases h
        · exact ⟨a, ha, rfl⟩
    · intro h
      cases h

theorem isNone_eq_true : value.isNone = true ↔ value = .none := by
  cases value with
  | none | _ => simp [PyValue.isNone]

theorem read_of_parseRepeat (h : parseRepeat start payload = .ok r) : r.Read start := by
  simp only [parseRepeat, bind_eq_ok] at h
  obtain ⟨entries, -, -, -, freq, -, interval, -, byWeekday, hweekday, byMonthDay, hmonthDay,
    byMonth, hmonth, bySetPos, -, _, hfreq, _, hdays, _, hends, endDay, huntil, count, hcount, h⟩ := h
  cases h
  simp only [parseWeekdays, bind_eq_ok] at hweekday
  simp only [parseMonthDays, bind_eq_ok] at hmonthDay
  simp only [parseMonths, bind_eq_ok] at hmonth
  obtain ⟨listed, -, hweekday⟩ := hweekday
  obtain ⟨listed', -, hmonthDay⟩ := hmonthDay
  obtain ⟨listed'', -, hmonth⟩ := hmonth
  cases hweekday
  cases hmonthDay
  cases hmonth
  rw [require_eq_ok] at hfreq hdays hends
  refine ⟨interval.2.2, ⟨fun d => d ∈ listed, rfl⟩, ⟨fun n => n ∈ listed', rfl⟩,
    ⟨fun m => (m : ℤ) ∈ listed'', rfl⟩, hfreq, hdays, ?_, ?_, ?_⟩
  · rcases hends with hnone | hnone
    · rw [isNone_eq_true.mp hnone] at huntil
      cases huntil
      exact .inl rfl
    · rw [isNone_eq_true.mp hnone] at hcount
      cases hcount
      exact .inr rfl
  · intro d hd
    obtain ⟨-, rfl⟩ | ⟨-, day, hday, rfl⟩ := optional_eq_ok.mp huntil
    · cases hd
    · cases hd
      simp only [parseUntil, bind_eq_ok] at hday
      obtain ⟨day', -, _, hle, hret⟩ := hday
      cases hret
      exact require_eq_ok.mp hle
  · intro n hn
    obtain ⟨m, hm, rfl⟩ := Option.map_eq_some_iff.mp hn
    exact m.2

/-! ### Each field is read back -/

theorem whole_int {n minimum maximum : ℕ} (h : minimum ≤ n ∧ n ≤ maximum) (field : String) :
    whole (.int n) field minimum maximum = .ok ⟨n, h⟩ := by
  have hrange : (minimum : ℤ) ≤ n ∧ (n : ℤ) ≤ maximum := by omega
  rw [whole, dif_pos hrange]
  rfl

theorem parseFreq_name (freq : Freq) : parseFreq (.str freq.name) = .ok freq := by
  cases freq with
  | _ => rfl

theorem mapM_map_eq_some {item? : PyValue → Option β}
    {as : List α} (h : ∀ a ∈ as, item? (write a) = some (f a)) :
    (as.map write).mapM item? = some (as.map f) := by
  induction as with
  | nil => rfl
  | cons a as ih =>
    rw [List.map_cons, List.mapM_cons, h a List.mem_cons_self,
      ih fun a ha => h a (List.mem_cons_of_mem _ ha)]
    rfl

theorem filter_mem_filter [DecidableEq α] (range : List α) (p : α → Bool) :
    (range.filter fun a => decide (a ∈ range.filter p)) = range.filter p := by
  apply List.filter_congr
  intro a ha
  simp [List.mem_filter, ha]

theorem parseWeekdays_payload (hrange : ∀ d ∈ l, d < 7)
    (h : ∃ p : ℕ → Bool, l = (List.range 7).filter p) :
    parseWeekdays (.list (l.map fun day => .str (weekdayNames.getD day ""))) = .ok ⟨l, hrange⟩ := by
  have hread : (l.map fun day => PyValue.str (weekdayNames.getD day "")).mapM weekday? = some l := by
    have hname : ∀ d < 7, weekday? (.str (weekdayNames.getD d "")) = some d := by decide
    rw [mapM_map_eq_some (f := id) fun d hd => hname d (hrange d hd), List.map_id]
  obtain ⟨p, hp⟩ := h
  rw [parseWeekdays, listOf, hread]
  exact congrArg Except.ok (Subtype.ext (by simp only [hp]; exact filter_mem_filter _ p))

theorem parseMonthDays_payload {l : List ℤ} (hrange : ∀ n ∈ l, n = -1 ∨ 1 ≤ n ∧ n ≤ 31)
    (h : ∃ p : ℤ → Bool, l = monthDayRange.filter p) :
    parseMonthDays (.list (l.map .int)) = .ok ⟨l, hrange⟩ := by
  have hread : (l.map PyValue.int).mapM
      (fun day => day.int?.filter fun n => n = -1 ∨ (1 ≤ n ∧ n ≤ 31)) = some l := by
    rw [mapM_map_eq_some (f := id), List.map_id]
    intro n hn
    simp [Option.filter, hrange n hn]
  obtain ⟨p, hp⟩ := h
  rw [parseMonthDays, listOf, hread]
  exact congrArg Except.ok (Subtype.ext (by simp only [hp]; exact filter_mem_filter _ p))

theorem parseMonths_payload (hrange : ∀ m ∈ l, 1 ≤ m ∧ m ≤ 12)
    (h : ∃ p : ℕ → Bool, l = (List.range' 1 12).filter p) :
    parseMonths (.list ((l.map Int.ofNat).map .int)) = .ok ⟨l, hrange⟩ := by
  have hread : ((l.map Int.ofNat).map PyValue.int).mapM
      (fun month => month.int?.filter fun n => 1 ≤ n ∧ n ≤ 12) = some (l.map Int.ofNat) := by
    rw [mapM_map_eq_some (f := id), List.map_id]
    intro n hn
    obtain ⟨m, hm, rfl⟩ := List.mem_map.mp hn
    have hcast : (1 : ℤ) ≤ Int.ofNat m ∧ Int.ofNat m ≤ 12 :=
      ⟨Int.ofNat_le.mpr (hrange m hm).1, Int.ofNat_le.mpr (hrange m hm).2⟩
    exact Option.filter_eq_some_iff.mpr ⟨rfl, decide_eq_true hcast⟩
  obtain ⟨p, hp⟩ := h
  have hlist : ((List.range' 1 12).filter fun m : ℕ => (m : ℤ) ∈ l.map Int.ofNat) = l := by
    conv_rhs => rw [hp, ← filter_mem_filter, ← hp]
    apply List.filter_congr
    intro m hm
    simp
  rw [parseMonths, listOf, hread]
  exact congrArg Except.ok (Subtype.ext hlist)

theorem setPos?_payload (pos : SetPos) : setPos? pos.payload = some pos := by
  obtain ⟨position, isFloat, hmem⟩ := pos
  cases isFloat with
  | false | true => simp [SetPos.payload, setPos?, hmem]

theorem parseSetPos_payload {freq : Freq} {byWeekday : List ℕ} {byMonthDay : List ℤ}
    {pos : Option SetPos} (hneeds : pos.isSome → (freq = .monthly ∨ freq = .yearly) ∧
      byWeekday ≠ [] ∧ byMonthDay = []) :
    parseSetPos (orNull pos SetPos.payload) freq byWeekday byMonthDay = .ok ⟨pos, hneeds⟩ := by
  cases pos with
  | none => rfl
  | some pos =>
    obtain ⟨hfreq, hweekdays, hdays⟩ := hneeds rfl
    rw [show orNull (some pos) SetPos.payload = pos.payload from rfl, parseSetPos,
      setPos?_payload]
    · dsimp only
      rw [dif_pos ⟨hfreq, hweekdays⟩, dif_pos hdays]
    · intro hnone
      rw [SetPos.payload] at hnone
      split at hnone
      · cases hnone
      · cases hnone

theorem parseDay_isoformat (day : Date) (field : String) :
    parseDay (.str (isoformat day)) field = .ok day := by
  simp only [parseDay, pyStrip_isoformat, fromisoformat_isoformat]

theorem parseLocal_formatLocal (t : LocalTime) (field : String) :
    parseLocal (.str (formatLocal t)) field = .ok t := by
  simp only [parseLocal, pyStrip_formatLocal, strptimeLocal_formatLocal]

theorem optional_orNull {value : Option α}
    {parse : PyValue → Parsed β} (hnone : ∀ a, (write a).isNone = false)
    (h : ∀ a ∈ value, parse (write a) = .ok (f a)) :
    optional (orNull value write) parse = .ok (value.map f) := by
  cases value with
  | none => rfl
  | some a => exact optional_eq_ok.mpr (.inr ⟨hnone a, f a, h a rfl, rfl⟩)

theorem coe_months (l : List ℕ) : (do let m ← l; pure (m : ℤ)) = l.map Int.ofNat := by
  induction l with
  | nil => rfl
  | cons m l ih => exact congrArg (List.cons (m : ℤ)) ih

theorem parseRepeat_repeatPayload (h : r.Read start) :
    parseRepeat start (repeatPayload r) = .ok r := by
  have huntil : optional (orNull r.until? fun day => .str (isoformat day)) (parseUntil · start) =
      .ok (r.until?.map id) := by
    apply optional_orNull
    · intro d
      rfl
    · intro d hd
      rw [parseUntil, parseDay_isoformat]
      exact bind_eq_ok.mpr ⟨d, rfl, bind_eq_ok.mpr ⟨(), require_eq_ok.mpr (h.until_ge d hd), rfl⟩⟩
  have hcount : ∃ read : Option {n : ℕ // 1 ≤ n ∧ n ≤ maxCount},
      optional (orNull r.count fun count => .int count) (whole · "count" 1 maxCount) = .ok read ∧
        read.map (·.1) = r.count := by
    cases hc : r.count with
    | none => exact ⟨none, rfl, rfl⟩
    | some n =>
      have hn := h.count_range n hc
      exact ⟨some ⟨n, hn⟩, optional_eq_ok.mpr (.inr ⟨rfl, _, whole_int hn _, rfl⟩), rfl⟩
  obtain ⟨count, hcount, hvalue⟩ := hcount
  have hends : (orNull r.until? fun day => PyValue.str (isoformat day)).isNone ∨
      (orNull r.count fun count => PyValue.int count).isNone := by
    rcases h.oneEnd with hnone | hnone
    · rw [hnone]
      exact .inl rfl
    · rw [hnone]
      exact .inr rfl
  rw [Option.map_id] at huntil
  simp only [parseRepeat, bind_eq_ok]
  refine ⟨_, rfl, (), rfl, r.freq, parseFreq_name r.freq, ⟨r.interval, r.interval_pos, h.interval_le⟩,
    whole_int _ _, ⟨r.byWeekday, r.weekday_range⟩, parseWeekdays_payload _ h.weekdays,
    ⟨r.byMonthDay, r.monthDay_range⟩, parseMonthDays_payload _ h.monthDays,
    ⟨r.byMonth, r.month_range⟩, ?_, ⟨r.bySetPos, r.setPos_needs⟩, parseSetPos_payload _, (),
    require_eq_ok.mpr h.monthDays_freq, (), require_eq_ok.mpr h.monthDays_weekdays, (),
    require_eq_ok.mpr hends, r.until?, huntil, count, hcount, ?_⟩
  · rw [show getValue _ "by_month" = PyValue.list ((do let m ← r.byMonth; pure (m : ℤ)).map .int) from rfl,
      coe_months]
    exact parseMonths_payload r.month_range h.months
  · simp only [hvalue]
    rfl

/-! ### The dates a timing skips -/

theorem isoformat_injective : Function.Injective isoformat := by
  intro d d' h
  have hread := fromisoformat_isoformat d
  rw [h, fromisoformat_isoformat] at hread
  exact (Option.some.inj hread).symm

theorem mem_sortedTexts {texts : List String} {text : String} :
    text ∈ sortedTexts texts ↔ text ∈ texts := by
  rw [sortedTexts, (List.perm_insertionSort _ _).mem_iff, List.mem_dedup]

theorem length_sortedTexts (texts : List String) : (sortedTexts texts).length ≤ texts.length := by
  rw [sortedTexts, (List.perm_insertionSort _ _).length_eq]
  exact (List.dedup_sublist texts).length_le

theorem exists_skipped (w : When) : ∃ dates : List Date, w.skippedTexts = dates.map isoformat ∧
    (∀ d, d ∈ dates ↔ d ∈ w.exceptions) ∧ dates.length ≤ w.exceptions.length := by
  have hrange : ∀ text ∈ w.skippedTexts, text ∈ Set.range isoformat := by
    intro text htext
    obtain ⟨d, -, rfl⟩ := List.mem_map.mp (mem_sortedTexts.mp htext)
    exact ⟨d, rfl⟩
  obtain ⟨dates, hdates⟩ : w.skippedTexts ∈ Set.range (List.map isoformat) :=
    Set.range_list_map isoformat ▸ hrange
  refine ⟨dates, hdates.symm, ?_, ?_⟩
  · intro d
    rw [← List.mem_map_of_injective isoformat_injective, hdates, When.skippedTexts,
      mem_sortedTexts, List.mem_map_of_injective isoformat_injective]
  · rw [← List.length_map isoformat, hdates]
    exact (length_sortedTexts _).trans (List.length_map isoformat).le

theorem length_of_parseExceptions
    (h : parseExceptions value = .ok dates) : dates.length ≤ maxExceptions := by
  rw [parseExceptions.eq_def] at h
  split at h
  · cases h
    exact Nat.zero_le _
  · obtain ⟨_, hlength, h⟩ := bind_eq_ok.mp h
    rw [← (mapM_eq_ok.mp h).length_eq]
    exact require_eq_ok.mp hlength
  · cases h

theorem parseExceptions_payload (h : dates.length ≤ maxExceptions) :
    parseExceptions (.list ((dates.map isoformat).map .str)) = .ok dates := by
  refine bind_eq_ok.mpr ⟨(), require_eq_ok.mpr ?_, mapM_eq_ok.mpr ?_⟩
  · rw [List.length_map, List.length_map]
    exact h
  · rw [List.map_map, List.forall₂_map_left_iff, List.forall₂_same]
    intro d _
    exact parseDay_isoformat d _

/-! ### Timings -/

/-- Two timings that the source holds equal: it keeps the skipped dates as a set. -/
structure When.Same (w w' : When) : Prop where
  start : w.start = w'.start
  windowEnd? : w.windowEnd? = w'.windowEnd?
  repeat? : w.repeat? = w'.repeat?
  exceptions : ∀ d, d ∈ w.exceptions ↔ d ∈ w'.exceptions

/-- The form the parser leaves a timing in. -/
structure When.Read (w : When) : Prop where
  repeat_read : ∀ r ∈ w.repeat?, r.Read w.start
  exceptions_length : w.exceptions.length ≤ maxExceptions

theorem read_of_parseTiming (h : parseTiming payload = .ok w) :
    w.Read := by
  simp only [parseTiming, bind_eq_ok] at h
  obtain ⟨entries, -, _, -, start, -, finish, -, rep, hrep, exceptions, hexceptions, h⟩ := h
  cases h
  refine ⟨?_, length_of_parseExceptions hexceptions⟩
  intro r hr
  obtain ⟨-, rfl⟩ | ⟨-, r', hr', rfl⟩ := optional_eq_ok.mp hrep
  · cases hr
  · cases hr
    exact read_of_parseRepeat hr'

theorem parseEnd_payload {finish : Option LocalTime}
    (h : ∀ t ∈ finish, start.minutes + 1 ≤ t.minutes) :
    parseEnd start (orNull finish fun time => .str (formatLocal time)) = .ok ⟨finish, h⟩ := by
  cases finish with
  | none => rfl
  | some t =>
    refine bind_eq_ok.mpr ⟨some t, optional_eq_ok.mpr (.inr ⟨rfl, t, parseLocal_formatLocal t _, rfl⟩), ?_⟩
    dsimp only
    rw [dif_pos (h t rfl)]
    rfl

theorem getValue_whenFields (w : When) (skipped : List String) :
    knownFields (whenFields w skipped) ["start", "end", "repeat", "exceptions"] "when" = .ok () ∧
      getValue (whenFields w skipped) "start" = .str (formatLocal w.start) ∧
      getValue (whenFields w skipped) "end" =
        orNull w.windowEnd? (fun time => .str (formatLocal time)) ∧
      getValue (whenFields w skipped) "repeat" = orNull w.repeat? repeatPayload ∧
      getValue (whenFields w skipped) "exceptions" =
        if skipped = [] then .none else .list (skipped.map .str) := by
  rw [whenFields]
  cases w.windowEnd? <;> cases w.repeat? <;> by_cases h : skipped = [] <;>
    simp [h, fieldOf, orNull, getValue, dictGet, knownFields, firstUnknown, List.lookup_cons]

/-- **A timing that was written is read back**, with its skipped dates in another order. -/
theorem parseTiming_whenPayload (h : w.Read)
    (hdates : w.skippedTexts = dates.map isoformat) (hlength : dates.length ≤ maxExceptions) :
    parseTiming (whenPayload w) = .ok { w with exceptions := dates } := by
  obtain ⟨hknown, hstart, hend, hrepeat, hexceptions⟩ := getValue_whenFields w w.skippedTexts
  simp only [parseTiming, bind_eq_ok]
  refine ⟨_, rfl, (), hknown, w.start, ?_, ⟨w.windowEnd?, w.end_after⟩, ?_, w.repeat?, ?_, dates, ?_, rfl⟩
  · rw [hstart, parseLocal_formatLocal]
  · rw [hend, parseEnd_payload]
  · rw [hrepeat, optional_orNull (f := id), Option.map_id]
    · rfl
    · intro r
      rfl
    · intro r hr
      exact parseRepeat_repeatPayload (h.repeat_read r hr)
  · rw [hexceptions, hdates]
    split
    · next hnil =>
      rw [List.map_eq_nil_iff.mp hnil]
      rfl
    · exact parseExceptions_payload hlength

theorem refuseOverlap_exceptions (w : When) (dates : List Date) (length : ℕ) (horizon : Date)
    (previous : Option LocalTime) (trace : Generator.Trace Date PyException) :
    refuseOverlap { w with exceptions := dates } length horizon previous trace =
      refuseOverlap w length horizon previous trace := by
  induction trace generalizing previous with
  | done | raises e => rfl
  | yield day rest ih =>
    rw [refuseOverlap, refuseOverlap]
    split
    · rfl
    · exact bind_congr fun _ => ih () _

theorem refuseSelfOverlap_exceptions (w : When) (dates : List Date) :
    refuseSelfOverlap { w with exceptions := dates } = refuseSelfOverlap w := by
  rw [refuseSelfOverlap.eq_def, refuseSelfOverlap.eq_def]
  dsimp only [When.length]
  split
  · split
    · rfl
    · exact refuseOverlap_exceptions w dates _ _ _ _
  · rfl

/-- **Every timing that is accepted is read back from what is written of it.** -/
theorem parseWhen_whenPayload (h : parseWhen payload = .ok w) :
    ∃ dates, parseWhen (whenPayload w) = .ok { w with exceptions := dates } ∧
      ∀ d, d ∈ dates ↔ d ∈ w.exceptions := by
  simp only [parseWhen, bind_eq_ok] at h
  obtain ⟨w', htiming, _, hfirst, _, hoverlap, hret⟩ := h
  cases hret
  have hread := read_of_parseTiming htiming
  obtain ⟨dates, hdates, hmem, hlength⟩ := exists_skipped w
  refine ⟨dates, ?_, hmem⟩
  simp only [parseWhen, bind_eq_ok]
  refine ⟨_, parseTiming_whenPayload hread hdates (hlength.trans hread.exceptions_length), (), hfirst,
    (), ?_, rfl⟩
  rw [refuseSelfOverlap_exceptions]
  exact hoverlap

end SolarFlowEms.Schedule
