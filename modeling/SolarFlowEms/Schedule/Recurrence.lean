import Mathlib.Data.List.Dedup
import Mathlib.Data.List.Sort
import SolarFlowEms.Library.Generator
import SolarFlowEms.Library.TimeText

/-!
# When a rule's switch points fall

The timing of a schedule rule in local wall-clock time: its first occurrence, how it repeats
and the dates it skips.  The days of a repeat are a generator that goes through periods, and
arithmetic in it that leaves the calendar raises.  Reading a timing checks its fields, and
then expands the repeat twice: once to see that it occurs at all, and once to see that no
window of it runs into its own next start.
-/

namespace SolarFlowEms.Schedule

open Python Calendar TimeText Generator

/-! ### Refusals -/

/-- How a reader of a rule ends when it returns nothing: with a refusal, the
`ScheduleTimeError`, `ScheduleActionError` or `ScheduleRuleError` its callers handle and
whose text they keep, or with an exception that none of them names. -/
inductive Raised where
  | refused (message : String)
  | escaped (exception : PyException)
deriving DecidableEq

abbrev Parsed (α : Type*) := Except Raised α

def refuse {α : Type*} (message : String) : Parsed α := .error (.refused message)

def escape {α : Type*} (exception : PyException) : Parsed α := .error (.escaped exception)

/-- A check: refuses where `p` fails. -/
def require (p : Prop) [Decidable p] (message : String) : Parsed Unit :=
  if p then .ok () else refuse message

/-- A value that must be an object. -/
def asDict (value : PyValue) (message : String) : Parsed (List (String × PyValue)) :=
  match value with
  | .dict entries => .ok entries
  | _ => refuse message

/-- An object that must hold no field but the known ones. -/
def knownFields (entries : List (String × PyValue)) (known : List String) (what : String) :
    Parsed Unit :=
  match firstUnknown known entries with
  | none => .ok ()
  | some field => refuse s!"unknown {what} field: {field}"

/-- A field that may be None. -/
def optional {α : Type*} (value : PyValue) (parse : PyValue → Parsed α) : Parsed (Option α) :=
  match value with
  | .none => .ok none
  | value => some <$> parse value

/-! ### Timings -/

def weekdayNames : List String := ["mo", "tu", "we", "th", "fr", "sa", "su"]

inductive Freq where
  | daily
  | weekly
  | monthly
  | yearly
deriving DecidableEq

def Freq.names : List (String × Freq) :=
  [("daily", .daily), ("weekly", .weekly), ("monthly", .monthly), ("yearly", .yearly)]

def setPositions : List ℤ := [1, 2, 3, 4, -1]
def maxInterval : ℕ := 366
def maxCount : ℕ := 1000
def maxExceptions : ℕ := 50
def firstOccurrenceHorizonYears : ℕ := 8
def selfOverlapHorizonDays : ℕ := 800

/-- The n-th weekday of a month.  A float that equals a position passes the check of the
positions and is kept as it is. -/
structure SetPos where
  position : ℤ
  isFloat : Bool
  mem : position ∈ setPositions
deriving DecidableEq

/-- A repeat, with the ranges its fields are checked for. -/
structure Repeat where
  freq : Freq
  interval : ℕ
  byWeekday : List ℕ
  byMonthDay : List ℤ
  bySetPos : Option SetPos
  byMonth : List ℕ
  until? : Option Date
  count : Option ℕ
  interval_pos : 0 < interval
  weekday_range : ∀ d ∈ byWeekday, d < 7
  monthDay_range : ∀ n ∈ byMonthDay, n = -1 ∨ 1 ≤ n ∧ n ≤ 31
  month_range : ∀ m ∈ byMonth, 1 ≤ m ∧ m ≤ 12
  setPos_needs : bySetPos.isSome → (freq = .monthly ∨ freq = .yearly) ∧ byWeekday ≠ [] ∧
    byMonthDay = []
deriving DecidableEq

theorem no_weekdays : ∀ d ∈ ([] : List ℕ), d < 7 := by simp

/-- A rule's first occurrence, how it repeats, and what it skips.  Without an end it is a
single switch point. -/
structure When where
  start : LocalTime
  windowEnd? : Option LocalTime
  repeat? : Option Repeat
  exceptions : List Date
  end_after : ∀ t ∈ windowEnd?, start.minutes + 1 ≤ t.minutes
deriving DecidableEq

def When.length (w : When) : Option ℕ := w.windowEnd?.map (·.minutes - w.start.minutes)

/-! ### The days of a repeat -/

/-- `date(year, month, day)`. -/
def makeDate (year month day : ℕ) : Except PyException Date :=
  match Date.ofYMD? year month day with
  | some date => .ok date
  | none => .error .valueError

/-- `day + timedelta(days=n)`. -/
def shiftDate (day : Date) (n : ℤ) : Except PyException Date :=
  match day.addDays? n with
  | some date => .ok date
  | none => .error .overflowError

/-- `values[index]` for an index of either sign; nothing where it is out of range. -/
def pyIndex {α : Type*} (values : List α) (index : ℤ) : Option α :=
  if index < 0 then
    if values.length + index < 0 then none else values[(values.length + index).toNat]?
  else values[index.toNat]?

namespace Repeat

variable (r : Repeat) (first : Date)

def maxEmptyPeriods : ℕ :=
  match r.freq with
  | .daily => 400
  | .weekly => 60
  | .monthly => 100
  | .yearly => 10

/-- The start date of the `k`-th period from the one `first` is in. -/
def period (k : ℕ) : Except PyException Date :=
  match r.freq with
  | .daily => shiftDate first (k * r.interval : ℕ)
  | .weekly => shiftDate first ((7 * (k * r.interval) : ℕ) - first.weekday)
  | .monthly =>
    let total := first.month - 1 + k * r.interval
    makeDate (first.year + total / 12) (total % 12 + 1) 1
  | .yearly => makeDate (first.year + k * r.interval) 1 1

/-- The matching days of a month, or the one of them at the set position, which raises for a
float as an index. -/
def atSetPos (matching : List Date) : Except PyException (List Date) :=
  match r.bySetPos with
  | none => .ok matching
  | some ⟨position, isFloat, _⟩ =>
    let index := if 0 < position then position - 1 else position
    match pyIndex matching index with
    | none => .ok []
    | some day => if isFloat then .error .typeError else .ok [day]

/-- The days of a month.  The sorted set of the month days is read off the month. -/
def monthDays (year month : ℕ) : Except PyException (List Date) := do
  let length := daysInMonth year month
  let numbers := List.range' 1 length
  if r.byMonthDay ≠ [] then
    let listed := r.byMonthDay.map fun value => if value = -1 then (length : ℤ) else value
    (numbers.filter fun number : ℕ => (number : ℤ) ∈ listed).mapM (makeDate year month)
  else if r.byWeekday ≠ [] then
    let days ← numbers.mapM (makeDate year month)
    r.atSetPos (days.filter fun day => day.weekday ∈ r.byWeekday)
  else if first.day ≤ length then return [← makeDate year month first.day]
  else return []

/-- The days of the period that starts on `period`, ascending. -/
def periodDays (period : Date) : Except PyException (List Date) := do
  let days ← match r.freq with
    | .daily => .ok [period]
    | .weekly =>
      let weekdays := if r.byWeekday = [] then [first.weekday] else r.byWeekday
      weekdays.mapM fun weekday : ℕ => shiftDate period weekday
    | .monthly => r.monthDays first period.year period.month
    | .yearly =>
      let months := if r.byMonth = [] then [first.month] else r.byMonth
      List.flatten <$> months.mapM (r.monthDays first period.year)
  return days.filter fun day =>
    (r.byMonth = [] ∨ day.month ∈ r.byMonth) ∧
      (r.freq ≠ .daily ∨ r.byWeekday = [] ∨ day.weekday ∈ r.byWeekday)

/-- The days of the `k`-th period that are not before the first. -/
def candidates (k : ℕ) : Except PyException (List Date) := do
  let period ← r.period first k
  return (← r.periodDays first period).filter fun day => first.ordinal ≤ day.ordinal

/-- Whether the repeat is over at a day that would be its `produced`-th. -/
def ends (produced : ℕ) (day : Date) : Bool :=
  r.until?.any (·.ordinal < day.ordinal) || r.count.any (· < produced)

/-- The index of the period the expansion starts with. -/
def startIndex (skipTo : Date) : ℕ :=
  match r.freq with
  | .daily => (((skipTo.ordinal : ℤ) - first.ordinal) / r.interval).toNat
  | .weekly => (((skipTo.ordinal : ℤ) - (first.ordinal - first.weekday)) / 7 / r.interval).toNat
  | .monthly =>
    ((((skipTo.year : ℤ) - first.year) * 12 + skipTo.month - first.month) / r.interval).toNat
  | .yearly => (((skipTo.year : ℤ) - first.year) / r.interval).toNat

/-- The periods from the one that `skipTo` falls into. -/
def pager (skipTo : Option Date) : Pager Date PyException where
  page := fun k => r.candidates first ((skipTo.map (r.startIndex first)).getD 0 + k)
  maxEmpty := r.maxEmptyPeriods
  ends := r.ends

end Repeat

/-- The days of a rule's occurrences, from about `skipTo` on, which a count ignores.  The
calendar has no more periods than days. -/
def days (w : When) (skipTo : Option Date) : Trace Date PyException :=
  match w.repeat? with
  | none => .yield w.start.date fun _ => .done
  | some r =>
    let skipTo := if r.count.isNone then skipTo else none
    (r.pager w.start.date skipTo).walkAt (maxOrdinal + 1) 0

/-! ### Reading the fields -/

def parseLocal (value : PyValue) (field : String) : Parsed LocalTime :=
  match value with
  | .str text =>
    match strptimeLocal (pyStrip text) with
    | some time => .ok time
    | none => refuse s!"{field} must be a local time like 2026-10-19T18:00"
  | _ => refuse s!"{field} must be a local time like 2026-10-19T18:00"

def parseDay (value : PyValue) (field : String) : Parsed Date :=
  match value with
  | .str text =>
    match fromisoformat (pyStrip text) with
    | some day => .ok day
    | none => refuse s!"{field} must be a date like 2027-03-31"
  | _ => refuse s!"{field} must be a date like 2027-03-31"

theorem toNat_range {minimum maximum : ℕ} {z : ℤ} (h : (minimum : ℤ) ≤ z ∧ z ≤ maximum) :
    minimum ≤ z.toNat ∧ z.toNat ≤ maximum := by
  omega

/-- A whole number in a range, which `True` is not. -/
def whole (value : PyValue) (field : String) (minimum maximum : ℕ) :
    Parsed {n : ℕ // minimum ≤ n ∧ n ≤ maximum} :=
  match value with
  | .int z =>
    if h : (minimum : ℤ) ≤ z ∧ z ≤ maximum then .ok ⟨z.toNat, toNat_range h⟩
    else refuse s!"{field} must be a whole number from {minimum} to {maximum}"
  | _ => refuse s!"{field} must be a whole number from {minimum} to {maximum}"

/-- A list whose every item is read by `item?`. -/
def listOf {α : Type*} (value : PyValue) (item? : PyValue → Option α) (message : String) :
    Parsed (List α) :=
  match value with
  | .none => .ok []
  | .list items =>
    match items.mapM item? with
    | some read => .ok read
    | none => refuse message
  | _ => refuse message

def weekday? (value : PyValue) : Option ℕ := weekdayNames.findIdx? fun name => value.eqStr name

/-- The weekdays listed, in order and once each. -/
def parseWeekdays (value : PyValue) : Parsed {l : List ℕ // ∀ d ∈ l, d < 7} := do
  let listed ← listOf value weekday?
    ("by_weekday must list days from: " ++ ", ".intercalate weekdayNames)
  return ⟨(List.range 7).filter (· ∈ listed), fun _ hd =>
    List.mem_range.mp (List.mem_of_mem_filter hd)⟩

/-- The days of a month that can be named, the last of them first. -/
def monthDayRange : List ℤ := -1 :: (List.range' 1 31).map Int.ofNat

def parseMonthDays (value : PyValue) :
    Parsed {l : List ℤ // ∀ n ∈ l, n = -1 ∨ 1 ≤ n ∧ n ≤ 31} := do
  let listed ← listOf value (fun day => day.int?.filter fun n => n = -1 ∨ (1 ≤ n ∧ n ≤ 31))
    "by_month_day must list days from 1 to 31, or -1 for the last"
  return ⟨monthDayRange.filter (· ∈ listed), fun n hn =>
    (show ∀ n ∈ monthDayRange, n = -1 ∨ 1 ≤ n ∧ n ≤ 31 by decide) n (List.mem_of_mem_filter hn)⟩

def parseMonths (value : PyValue) : Parsed {l : List ℕ // ∀ m ∈ l, 1 ≤ m ∧ m ≤ 12} := do
  let listed ← listOf value (fun month => month.int?.filter fun n => 1 ≤ n ∧ n ≤ 12)
    "by_month must list months from 1 to 12"
  return ⟨(List.range' 1 12).filter fun m : ℕ => (m : ℤ) ∈ listed, fun m hm =>
    (show ∀ m ∈ List.range' 1 12, 1 ≤ m ∧ m ≤ 12 by decide) m (List.mem_of_mem_filter hm)⟩

/-- `value in SET_POSITIONS` and no bool. -/
def setPos? : PyValue → Option SetPos
  | .int z => if h : z ∈ setPositions then some ⟨z, false, h⟩ else none
  | .float (.finite x) =>
    if h : x.num ∈ setPositions then if x.den = 1 then some ⟨x.num, true, h⟩ else none else none
  | _ => none

def parseSetPos (value : PyValue) (freq : Freq) (byWeekday : List ℕ) (byMonthDay : List ℤ) :
    Parsed {pos : Option SetPos // pos.isSome → (freq = .monthly ∨ freq = .yearly) ∧
      byWeekday ≠ [] ∧ byMonthDay = []} :=
  match value with
  | .none => .ok ⟨none, nofun⟩
  | value =>
    match setPos? value with
    | none => refuse "by_set_pos must be 1, 2, 3, 4 or -1"
    | some pos =>
      if hfreq : (freq = .monthly ∨ freq = .yearly) ∧ byWeekday ≠ [] then
        if hdays : byMonthDay = [] then .ok ⟨some pos, fun _ => ⟨hfreq.1, hfreq.2, hdays⟩⟩
        else refuse "by_set_pos and by_month_day cannot be combined"
      else refuse "by_set_pos needs a monthly or yearly repeat with weekdays"

def parseFreq (value : PyValue) : Parsed Freq :=
  match Freq.names.find? fun entry => value.eqStr entry.1 with
  | some (_, freq) => .ok freq
  | none =>
    refuse ("repeat freq must be one of: " ++ ", ".intercalate (Freq.names.map Prod.fst))

def repeatFields : List String :=
  ["freq", "interval", "by_weekday", "by_month_day", "by_set_pos", "by_month", "until", "count"]

def parseUntil (value : PyValue) (start : LocalTime) : Parsed Date := do
  let day ← parseDay value "until"
  require (start.date.ordinal ≤ day.ordinal) "until must not be before the start date"
  return day

def parseRepeat (start : LocalTime) (payload : PyValue) : Parsed Repeat := do
  let entries ← asDict payload "repeat must be an object"
  knownFields entries repeatFields "repeat"
  let freq ← parseFreq (getValue entries "freq")
  let interval ← whole ((dictGet entries "interval").getD (.int 1)) "interval" 1 maxInterval
  let byWeekday ← parseWeekdays (getValue entries "by_weekday")
  let byMonthDay ← parseMonthDays (getValue entries "by_month_day")
  let byMonth ← parseMonths (getValue entries "by_month")
  let bySetPos ← parseSetPos (getValue entries "by_set_pos") freq byWeekday.1 byMonthDay.1
  require (byMonthDay.1 = [] ∨ freq = .monthly ∨ freq = .yearly)
    "by_month_day needs a monthly or yearly repeat"
  require (byMonthDay.1 = [] ∨ byWeekday.1 = []) "by_month_day and by_weekday cannot be combined"
  let endDay := getValue entries "until"
  let count := getValue entries "count"
  require (endDay.isNone ∨ count.isNone) "a repeat ends by until or by count, not both"
  let endDay ← optional endDay (parseUntil · start)
  let count ← optional count (whole · "count" 1 maxCount)
  return {
    freq, interval := interval.1, byWeekday := byWeekday.1, byMonthDay := byMonthDay.1,
    bySetPos := bySetPos.1, byMonth := byMonth.1, until? := endDay, count := count.map (·.1),
    interval_pos := interval.2.1, weekday_range := byWeekday.2,
    monthDay_range := byMonthDay.2, month_range := byMonth.2, setPos_needs := bySetPos.2 }

def parseExceptions (value : PyValue) : Parsed (List Date) :=
  match value with
  | .none => .ok []
  | .list items => do
    require (items.length ≤ maxExceptions) s!"at most {maxExceptions} exceptions"
    items.mapM (parseDay · "exception")
  | _ => refuse "exceptions must be a list of dates"

/-- The end of the first occurrence, at least the shortest window after its start. -/
def parseEnd (start : LocalTime) (value : PyValue) :
    Parsed {finish : Option LocalTime // ∀ t ∈ finish, start.minutes + 1 ≤ t.minutes} := do
  match ← optional value (parseLocal · "end") with
  | none => return ⟨none, nofun⟩
  | some time =>
    if h : start.minutes + 1 ≤ time.minutes then
      return ⟨some time, fun _ ht => Option.mem_some.mp ht ▸ h⟩
    else refuse "end must be at least one minute after start"

/-- `parse_when` up to the expansions: the fields of a timing. -/
def parseTiming (payload : PyValue) : Parsed When := do
  let entries ← asDict payload "when must be an object"
  knownFields entries ["start", "end", "repeat", "exceptions"] "when"
  let start ← parseLocal (getValue entries "start") "start"
  let finish ← parseEnd start (getValue entries "end")
  let rep ← optional (getValue entries "repeat") (parseRepeat start)
  let exceptions ← parseExceptions (getValue entries "exceptions")
  return {
    start, windowEnd? := finish.1, repeat? := rep, exceptions, end_after := finish.2 }

/-! ### The expansions -/

def When.firstHorizon (w : When) : Option Date :=
  w.start.date.addDays?
    ((366 * firstOccurrenceHorizonYears : ℕ) - ((w.start.date.day : ℤ) - 1))

def requireAnOccurrence (w : When) : Parsed Unit :=
  match w.firstHorizon with
  | none => escape .overflowError
  | some horizon =>
    match days w none with
    | .done => refuse "this repeat never occurs"
    | .raises exception => escape exception
    | .yield day _ =>
      if horizon.ordinal < day.ordinal then refuse "this repeat never occurs" else .ok ()

/-- Refuses a window that starts before the one of `previous` ends. -/
def refuseEarlyStart (length : ℕ) (previous : Option LocalTime) (start : LocalTime) :
    Parsed Unit :=
  match previous with
  | none => .ok ()
  | some previous =>
    match previous.add? length with
    | none => escape .overflowError
    | some previousEnd =>
      require (previousEnd.minutes ≤ start.minutes)
        ("the window ends after its next start (" ++ formatLocal start ++ ")")

/-- The loop over the days up to `horizon`, with the start of the window before. -/
def refuseOverlap (w : When) (length : ℕ) (horizon : Date) :
    Option LocalTime → Trace Date PyException → Parsed Unit
  | _, .done => .ok ()
  | _, .raises exception => escape exception
  | previous, .yield day rest =>
    if horizon.ordinal < day.ordinal then .ok ()
    else do
      refuseEarlyStart length previous (w.start.onDay day)
      refuseOverlap w length horizon (some (w.start.onDay day)) (rest ())

def refuseSelfOverlap (w : When) : Parsed Unit :=
  match w.length, w.repeat? with
  | some length, some _ =>
    match w.start.date.addDays? selfOverlapHorizonDays with
    | none => escape .overflowError
    | some horizon => refuseOverlap w length horizon none (days w none)
  | _, _ => .ok ()

/-- A validated timing from its JSON form. -/
def parseWhen (payload : PyValue) : Parsed When := do
  let w ← parseTiming payload
  requireAnOccurrence w
  refuseSelfOverlap w
  return w

/-! ### Writing -/

def sortedTexts (texts : List String) : List String := texts.dedup.insertionSort (· ≤ ·)

def Freq.name : Freq → String
  | .daily => "daily"
  | .weekly => "weekly"
  | .monthly => "monthly"
  | .yearly => "yearly"

def orNull {α : Type*} (value : Option α) (write : α → PyValue) : PyValue :=
  (value.map write).getD .none

def SetPos.payload (pos : SetPos) : PyValue :=
  if pos.isFloat then .float (.finite pos.position) else .int pos.position

def repeatPayload (r : Repeat) : PyValue := .dict
  [("freq", .str r.freq.name), ("interval", .int r.interval),
    ("by_weekday", .list (r.byWeekday.map fun day => .str (weekdayNames.getD day ""))),
    ("by_month_day", .list (r.byMonthDay.map .int)), ("by_set_pos", orNull r.bySetPos SetPos.payload),
    ("by_month", .list (r.byMonth.map fun month => .int month)),
    ("until", orNull r.until? fun day => .str (isoformat day)),
    ("count", orNull r.count fun count => .int count)]

def fieldOf {α : Type*} (key : String) (value : Option α) (write : α → PyValue) :
    List (String × PyValue) :=
  value.toList.map fun value => (key, write value)

/-- The JSON form of a timing, with the texts of its skipped dates. -/
def whenFields (w : When) (skipped : List String) : List (String × PyValue) :=
  [("start", .str (formatLocal w.start))] ++
    fieldOf "end" w.windowEnd? (fun time => .str (formatLocal time)) ++
    fieldOf "repeat" w.repeat? repeatPayload ++
    if skipped = [] then [] else [("exceptions", .list (skipped.map .str))]

def When.skippedTexts (w : When) : List String := sortedTexts (w.exceptions.map isoformat)

def whenPayload (w : When) : PyValue := .dict (whenFields w w.skippedTexts)

end SolarFlowEms.Schedule
