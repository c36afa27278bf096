import Mathlib.Algebra.GCDMonoid.Nat
import SolarFlowEms.Schedule.Occurrences

/-!
# Where the windows of two rules overlap

Windows are compared on the wall clock.  Two daily or weekly patterns repeat together after the
least common multiple of their periods, so that two streams of windows are merged up to a bound
that far behind everything that shifts them.  Any other pair is compared over 28 years, going
through the windows of the sparser rule and looking the other rule up around each of them.
-/

namespace SolarFlowEms.Schedule

open Python Calendar TimeText Zones Generator

/-- A window on the wall clock. -/
structure Window where
  start : LocalTime
  finish : LocalTime
deriving DecidableEq

/-- `max(start, other_start)`. -/
def laterStart (a b : Window) : LocalTime :=
  if a.start.minutes < b.start.minutes then b.start else a.start

def isBehind (t : LocalTime) (until_ : Moment) : Bool := until_.micros < (ofLocal t).micros

/-! ### The windows of a rule -/

/-- `start + when.length`, which a single switch point does not have. -/
def When.wallEnd (w : When) (day : Date) : Except PyException LocalTime :=
  match w.length with
  | none => .error .typeError
  | some length => addMinutes (w.start.onDay day) length

/-- The loop over the days: windows that are over before `since` and skipped ones are left out. -/
def wallWindowsOn (w : When) (since : Moment) : Trace Date PyException → Trace Window PyException
  | .done => .done
  | .raises exception => .raises exception
  | .yield day rest =>
    match w.wallEnd day with
    | .error exception => .raises exception
    | .ok finish =>
      if (ofLocal finish).micros < since.micros ∨ day ∈ w.exceptions then
        wallWindowsOn w since (rest ())
      else .yield { start := w.start.onDay day, finish } fun _ => wallWindowsOn w since (rest ())

/-- `wall_windows(when, since)`. -/
def wallWindows (w : When) (since : Moment) : Trace Window PyException :=
  wallWindowsOn w since (daysFrom w (some since))

/-- `_period_days`: the days after which a rule's windows repeat, where they do not follow the
months or the years of the calendar. -/
def When.patternDays (w : When) : Option ℕ :=
  match w.repeat? with
  | none => none
  | some r =>
    if r.byMonth ≠ [] ∨ r.byMonthDay ≠ [] ∨ r.bySetPos.isSome then none
    else
      match r.freq with
      | .daily => if r.byWeekday ≠ [] then some (r.interval.lcm 7) else some r.interval
      | .weekly => some (7 * r.interval)
      | .monthly => none
      | .yearly => none

/-! ### Two patterns -/

/-- `datetime.combine(day, datetime.min.time())`. -/
def midnight (day : Date) : Moment where
  micros := (day.ordinal - 1) * microsPerDay
  lt := by
    have hone := day.one_le
    have hmax := day.le_max
    exact Nat.mul_lt_mul_of_pos_right (by omega) (by decide)

def later (s t : Moment) : Moment := if s.micros < t.micros then t else s

/-- The time from which both patterns run undisturbed: both have begun, and the last date that one
of them skips has passed. -/
def patternsBegin (first second : When) (since : Moment) : Except PyException Moment := do
  let skipped ← (first.exceptions ++ second.exceptions).mapM fun day => midnight <$> shiftDate day 1
  return skipped.foldl later (later (later since (ofLocal first.start)) (ofLocal second.start))

def patternsBound (first second : When) (p q : ℕ) (since : Moment) : Except PyException Moment := do
  let begins ← patternsBegin first second since
  begins.shift (p.lcm q * microsPerDay + max first.span second.span : ℕ)

/-- `_overlap_in_order`, with a window of the first rule that is compared with those of the
second.  `next` goes on behind it. -/
def againstWindow (until_ : Moment) (a : Window)
    (next : Trace Window PyException → Except PyException (Option LocalTime)) :
    Trace Window PyException → Except PyException (Option LocalTime)
  | .done => .ok none
  | .raises exception => .error exception
  | .yield b rest =>
    if isBehind a.start until_ ∧ isBehind b.start until_ then .ok none
    else if a.finish.minutes ≤ b.start.minutes then next (.yield b rest)
    else if b.finish.minutes ≤ a.start.minutes then againstWindow until_ a next (rest ())
    else .ok (if isBehind (laterStart a b) until_ then none else some (laterStart a b))

/-- `_overlap_in_order`.  Both streams are asked for their first window before any is
compared. -/
def overlapInOrder (until_ : Moment) : Trace Window PyException → Trace Window PyException →
    Except PyException (Option LocalTime)
  | .raises exception => fun _ => .error exception
  | .done => fun theirs =>
    match theirs with
    | .raises exception => .error exception
    | _ => .ok none
  | .yield a rest => againstWindow until_ a (overlapInOrder until_ (rest ()))

/-! ### Any other pair -/

/-- `timedelta(days=366)`. -/
def aYear : ℕ := 366 * microsPerDay

/-- The windows of a stream that start within 366 days. -/
def startsInAYear (since : Moment) : Trace Window PyException → Except PyException ℕ
  | .done => .ok 0
  | .raises exception => .error exception
  | .yield a rest => do
    if isBehind a.start (← since.shift aYear) then return 0
    else return (← startsInAYear since (rest ())) + 1

def windowsInAYear (w : When) (since : Moment) : Except PyException ℕ :=
  startsInAYear since (wallWindows w since)

/-- The window of a stream that overlaps `a`: the first that is not over where `a` starts, or
none. -/
def lookUp (a : Window) : Trace Window PyException → Except PyException (Option LocalTime)
  | .done => .ok none
  | .raises exception => .error exception
  | .yield b rest =>
    if b.finish.minutes ≤ a.start.minutes then lookUp a (rest ())
    else if b.start.minutes < a.finish.minutes then .ok (some (laterStart a b))
    else .ok none

/-- The loop over the windows of the sparser rule. -/
def searchAround (dense : When) (until_ : Moment) :
    Trace Window PyException → Except PyException (Option LocalTime)
  | .done => .ok none
  | .raises exception => .error exception
  | .yield a rest =>
    if isBehind a.start until_ then .ok none
    else
      match lookUp a (wallWindows dense (ofLocal a.start)) with
      | .error exception => .error exception
      | .ok (some start) => .ok (some start)
      | .ok none => searchAround dense until_ (rest ())

def clashHorizon : ℕ := 366 * 28 * microsPerDay

/-- The two rules in the order of their windows in a year, which keeps equal ones. -/
def sparseFirst (first second : When) (since : Moment) : Except PyException (When × When) := do
  let n ← windowsInAYear first since
  let m ← windowsInAYear second since
  return if m < n then (second, first) else (first, second)

def firstOverlap (first second : When) (since : Moment) : Except PyException (Option LocalTime) :=
  match first.patternDays, second.patternDays with
  | some p, some q => do
    let until_ ← patternsBound first second p q since
    overlapInOrder until_ (wallWindows first since) (wallWindows second since)
  | _, _ => do
    let until_ ← since.shift clashHorizon
    let (sparse, dense) ← sparseFirst first second since
    searchAround dense until_ (wallWindows sparse since)

end SolarFlowEms.Schedule
