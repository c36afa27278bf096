import SolarFlowEms.Library.Zone
import SolarFlowEms.Schedule.Completeness

/-!
# The occurrences of a timing

The days of a timing as moments of a zone.  The days are expanded from the start, or, where
only those that end at or after a moment are asked for, from about there: from the period of
the day two days and a window's length before that moment.
-/

namespace SolarFlowEms.Schedule

open Python Calendar TimeText Zones Generator

/-! ### The days from a moment on -/

/-- The length of a window in microseconds, none for a single switch point. -/
def When.span (w : When) : ℕ := w.length.getD 0 * microsPerMinute

/-- The day the expansion may skip to.  A count is counted from the start. -/
def When.skipTo (w : When) (since : Option Moment) : Except PyException (Option Date) :=
  match since, w.repeat? with
  | some since, some r =>
    if r.count.isNone then
      (fun moment => some moment.date) <$> since.shift (-(w.span + 2 * microsPerDay : ℕ))
    else .ok none
  | _, _ => .ok none

/-- `_days(when, since)`. -/
def daysFrom (w : When) (since : Option Moment) : Trace Date PyException :=
  match w.skipTo since with
  | .error exception => .raises exception
  | .ok skipTo => days w skipTo

/-! ### Occurrences -/

/-- An occurrence: its day and its switch points. -/
structure Occurrence where
  day : Date
  start : Moment
  finish : Option Moment
deriving DecidableEq

def Occurrence.last (o : Occurrence) : Moment := o.finish.getD o.start

def Occurrence.endsFrom (s : Moment) (o : Occurrence) : Bool := s.micros ≤ o.last.micros

def When.startOn (w : When) (zone : Zone) (day : Date) : Except PyException Moment :=
  zone.localize (w.start.onDay day)

/-- The end of a window.  One whose start the spring-forward gap moves past its end keeps its
length. -/
def When.windowEndOn (w : When) (zone : Zone) (day : Date) (start : Moment) (length : ℕ) :
    Except PyException Moment := do
  let localEnd ← addMinutes (w.start.onDay day) length
  let finish ← zone.localize localEnd
  if start.micros < finish.micros then .ok finish
  else start.shift (length * microsPerMinute : ℕ)

def When.finishOn (w : When) (zone : Zone) (day : Date) (start : Moment) :
    Except PyException (Option Moment) :=
  match w.length with
  | none => .ok none
  | some length => some <$> w.windowEndOn zone day start length

def When.occurrenceOn (w : When) (zone : Zone) (day : Date) (start : Moment) :
    Except PyException Occurrence :=
  (fun finish => { day, start, finish }) <$> w.finishOn zone day start

/-- An occurrence that is left out: it is over before `since`, or its day is skipped. -/
def When.leavesOut (w : When) (since : Option Moment) (o : Occurrence) : Bool :=
  since.any (o.last.micros < ·.micros) || o.day ∈ w.exceptions

/-- The loop over the days. -/
def occurrencesOn (w : When) (zone : Zone) (since till : Option Moment) :
    Trace Date PyException → Trace Occurrence PyException
  | .done => .done
  | .raises exception => .raises exception
  | .yield day rest =>
    match w.startOn zone day with
    | .error exception => .raises exception
    | .ok start =>
      if till.any (·.micros < start.micros) then .done
      else
        match w.occurrenceOn zone day start with
        | .error exception => .raises exception
        | .ok occurrence =>
          if w.leavesOut since occurrence then occurrencesOn w zone since till (rest ())
          else .yield occurrence fun _ => occurrencesOn w zone since till (rest ())

/-- `occurrences(when, zone, since=since, until=till)`. -/
def occurrences (w : When) (zone : Zone) (since till : Option Moment) :
    Trace Occurrence PyException :=
  occurrencesOn w zone since till (daysFrom w since)

end SolarFlowEms.Schedule
