import SolarFlowEms.Library.Calendar
import SolarFlowEms.Library.PyValue

/-!
# Times as text

What Python reads as a time: `datetime.strptime` for a format of numbers and separators, and
`date.fromisoformat`.  A number field takes any decimal digit of any script where the
format's regular expression says a digit, and the letters of a format match either case.
Writing uses four-digit years and two-digit fields.
-/

namespace SolarFlowEms.TimeText

open Calendar Python

/-! ### Local times -/

def minutesPerDay : ℕ := 1440

/-- A wall-clock time to the minute, counted from the first minute of the calendar. -/
structure LocalTime where
  minutes : ℕ
  lt : minutes < maxOrdinal * minutesPerDay
deriving DecidableEq

namespace LocalTime

def ofMinutes? (n : ℤ) : Option LocalTime :=
  if h : 0 ≤ n ∧ n.toNat < maxOrdinal * minutesPerDay then some ⟨n.toNat, h.2⟩ else none

/-- `datetime + timedelta(minutes=n)`. -/
def add? (t : LocalTime) (n : ℤ) : Option LocalTime := ofMinutes? (t.minutes + n)

theorem add?_eq_some {t t' : LocalTime} {n : ℤ} (h : t.add? n = some t') :
    (t'.minutes : ℤ) = t.minutes + n := by
  rw [add?, ofMinutes?] at h
  split at h
  · next hn =>
    cases h
    exact Int.toNat_of_nonneg hn.1
  · cases h

theorem add?_eq_none {t : LocalTime} {n : ℕ} :
    t.add? n = none ↔ maxOrdinal * minutesPerDay ≤ t.minutes + n := by
  rw [add?, ofMinutes?]
  split
  · next h => exact ⟨nofun, fun hle => by omega⟩
  · next h => exact ⟨fun _ => by omega, fun _ => rfl⟩

def date (t : LocalTime) : Date where
  ordinal := t.minutes / minutesPerDay + 1
  one_le := Nat.le_add_left 1 _
  le_max := Nat.div_lt_of_lt_mul (Nat.mul_comm maxOrdinal minutesPerDay ▸ t.lt)

def minuteOfDay (t : LocalTime) : ℕ := t.minutes % minutesPerDay

theorem minuteOfDay_lt (t : LocalTime) : t.minuteOfDay < minutesPerDay := Nat.mod_lt _ (by decide)

/-- `datetime.combine(day, t.time())`. -/
def onDay (t : LocalTime) (day : Date) : LocalTime where
  minutes := (day.ordinal - 1) * minutesPerDay + t.minuteOfDay
  lt := by
    have h₁ := t.minuteOfDay_lt
    have h₂ := day.one_le
    have h₃ := day.le_max
    simp only [minutesPerDay] at h₁ ⊢
    omega

end LocalTime

/-! ### Times of UTC -/

def secondsPerDay : ℕ := 86400

/-- A time of UTC to the second, counted from the first second of the calendar. -/
structure UtcTime where
  seconds : ℕ
  lt : seconds < maxOrdinal * secondsPerDay
deriving DecidableEq

namespace UtcTime

def ofSeconds? (n : ℕ) : Option UtcTime :=
  if h : n < maxOrdinal * secondsPerDay then some ⟨n, h⟩ else none

def date (t : UtcTime) : Date where
  ordinal := t.seconds / secondsPerDay + 1
  one_le := Nat.le_add_left 1 _
  le_max := Nat.div_lt_of_lt_mul (Nat.mul_comm maxOrdinal secondsPerDay ▸ t.lt)

def secondOfDay (t : UtcTime) : ℕ := t.seconds % secondsPerDay

end UtcTime

/-! ### Fields -/

/-- The zeros of the decimal digits: each script's ten digits follow its zero. -/
def decimalZeros : List ℕ :=
  [0x30, 0x660, 0x6f0, 0x7c0, 0x966, 0x9e6, 0xa66, 0xae6, 0xb66, 0xbe6, 0xc66, 0xce6, 0xd66,
    0xde6, 0xe50, 0xed0, 0xf20, 0x1040, 0x1090, 0x17e0, 0x1810, 0x1946, 0x19d0, 0x1a80, 0x1a90,
    0x1b50, 0x1bb0, 0x1c40, 0x1c50, 0xa620, 0xa8d0, 0xa900, 0xa9d0, 0xa9f0, 0xaa50, 0xabf0,
    0xff10, 0x104a0, 0x10d30, 0x11066, 0x110f0, 0x11136, 0x111d0, 0x112f0, 0x11450, 0x114d0,
    0x11650, 0x116c0, 0x11730, 0x118e0, 0x11950, 0x11c50, 0x11d50, 0x11da0, 0x16a60, 0x16ac0,
    0x16b50, 0x1d7ce, 0x1d7d8, 0x1d7e2, 0x1d7ec, 0x1d7f6, 0x1e140, 0x1e2f0, 0x1e950, 0x1fbf0]

/-- The value of a `\d`. -/
def digit? (c : Char) : Option ℕ :=
  (decimalZeros.find? fun base => base ≤ c.toNat && c.toNat < base + 10).map (c.toNat - ·)

/-- The value of an ASCII digit from `low` to `high`, a `[low-high]`. -/
def asciiDigit? (low high : ℕ) (c : Char) : Option ℕ :=
  if 0x30 + low ≤ c.toNat ∧ c.toNat ≤ 0x30 + high then some (c.toNat - 0x30) else none

def twoDigits (tens units : Option ℕ) : Option ℕ := do
  return 10 * (← tens) + (← units)

/-- `%Y`: four digits. -/
def yearField : List Char → Option ℕ
  | [a, b, c, d] => do
    return 1000 * (← digit? a) + 100 * (← digit? b) + 10 * (← digit? c) + (← digit? d)
  | _ => none

/-- `%m`: `1[0-2]|0[1-9]|[1-9]`. -/
def monthField : List Char → Option ℕ
  | [a, b] => twoDigits (asciiDigit? 1 1 a) (asciiDigit? 0 2 b) <|>
      twoDigits (asciiDigit? 0 0 a) (asciiDigit? 1 9 b)
  | [a] => asciiDigit? 1 9 a
  | _ => none

/-- `%d`: `3[0-1]|[1-2]\d|0[1-9]|[1-9]| [1-9]`. -/
def dayField : List Char → Option ℕ
  | [a, b] => twoDigits (asciiDigit? 3 3 a) (asciiDigit? 0 1 b) <|>
      twoDigits (asciiDigit? 1 2 a) (digit? b) <|> twoDigits (asciiDigit? 0 0 a) (asciiDigit? 1 9 b) <|>
      if a = ' ' then asciiDigit? 1 9 b else none
  | [a] => asciiDigit? 1 9 a
  | _ => none

/-- `%H`: `2[0-3]|[0-1]\d|\d`. -/
def hourField : List Char → Option ℕ
  | [a, b] => twoDigits (asciiDigit? 2 2 a) (asciiDigit? 0 3 b) <|>
      twoDigits (asciiDigit? 0 1 a) (digit? b)
  | [a] => digit? a
  | _ => none

/-- `%M`, and `%S` but for the leap seconds no time has: `[0-5]\d|\d`. -/
def minuteField : List Char → Option ℕ
  | [a, b] => twoDigits (asciiDigit? 0 5 a) (digit? b)
  | [a] => digit? a
  | _ => none

/-- The text up to a separator, and the text behind it. -/
def splitAt? (separators : List Char) (text : List Char) : Option (List Char × List Char) :=
  let (field, rest) := text.span (· ∉ separators)
  match rest with
  | [] => none
  | _ :: rest => some (field, rest)

/-- `%Y-%m-%dT%H:`, and the text behind it. -/
def dateHour? (text : List Char) : Option (Date × ℕ × List Char) := do
  let (year, rest) ← splitAt? ['-'] text
  let (month, rest) ← splitAt? ['-'] rest
  let (day, rest) ← splitAt? ['T', 't'] rest
  let (hour, rest) ← splitAt? [':'] rest
  let date ← Date.ofYMD? (← yearField year) (← monthField month) (← dayField day)
  return (date, ← hourField hour, rest)

/-- `datetime.strptime(text, "%Y-%m-%dT%H:%M")`. -/
def strptimeLocal (text : String) : Option LocalTime := do
  let (date, hour, rest) ← dateHour? text.toList
  LocalTime.ofMinutes? ((date.ordinal - 1) * minutesPerDay + hour * 60 + (← minuteField rest))

/-- `datetime.strptime(text, "%Y-%m-%dT%H:%M:%SZ")` in UTC. -/
def strptimeUtc (text : String) : Option UtcTime := do
  let (date, hour, rest) ← dateHour? text.toList
  let (minute, rest) ← splitAt? [':'] rest
  let (second, rest) ← splitAt? ['Z', 'z'] rest
  if rest ≠ [] then none
  else UtcTime.ofSeconds? ((date.ordinal - 1) * secondsPerDay + hour * 3600 +
    (← minuteField minute) * 60 + (← minuteField second))

/-! ### ISO dates -/

def isoDigits (text : List Char) : Option ℕ :=
  text.foldlM (fun value c => (asciiDigit? 0 9 c).map (10 * value + ·)) 0

/-- The first Monday of an ISO year: that of the week its first Thursday is in. -/
def isoWeek1Monday (year : ℕ) : ℤ :=
  let first : ℤ := daysBeforeYear year + 1
  let weekday := (first + 6) % 7
  first - weekday + if 3 < weekday then 7 else 0

def isoWeekExists (year week : ℕ) : Bool :=
  let weekday := (daysBeforeYear year + 7) % 7
  (1 ≤ week && week ≤ 52) ||
    (week = 53 && (weekday = 3 || (weekday = 2 && isLeap year)))

def ofIsoWeek? (year week day : ℕ) : Option Date :=
  if 1 ≤ year ∧ year ≤ maxYear ∧ isoWeekExists year week ∧ 1 ≤ day ∧ day ≤ 7 then
    Date.ofOrdinal? (isoWeek1Monday year + (week - 1) * 7 + (day - 1))
  else none

/-- `date.fromisoformat` on a text of 7, 8 or 10 bytes: a calendar or a week date, separated
or not.  What follows an unseparated date is not read. -/
def fromisoformat (text : String) : Option Date := do
  if text.utf8ByteSize ∉ [7, 8, 10] then none
  let year ← isoDigits (text.toList.take 4)
  let rest := text.toList.drop 4
  let separated := rest.head? = some '-'
  let rest := if separated then rest.drop 1 else rest
  if rest.head? = some 'W' then
    let week ← isoDigits (rest.drop 1 |>.take 2)
    if (rest.drop 1 |>.take 2).length ≠ 2 then none
    let rest := rest.drop 3
    if rest = [] then ofIsoWeek? year week 1
    else
      if separated ∧ rest.head? ≠ some '-' then none
      let rest := if separated then rest.drop 1 else rest
      if rest = [] then none
      ofIsoWeek? year week (← isoDigits (rest.take 1))
  else
    let month ← isoDigits (rest.take 2)
    let rest := rest.drop 2
    if separated ∧ rest.head? ≠ some '-' then none
    let rest := if separated then rest.drop 1 else rest
    if (rest.take 2).length ≠ 2 then none
    Date.ofYMD? year month (← isoDigits (rest.take 2))

/-! ### Writing -/

def padded (width n : ℕ) : String :=
  let digits := toString n
  String.ofList (List.replicate (width - digits.length) '0') ++ digits

/-- `day.isoformat()`. -/
def isoformat (day : Date) : String :=
  padded 4 day.year ++ "-" ++ padded 2 day.month ++ "-" ++ padded 2 day.day

/-- `strftime("%Y-%m-%dT%H:%M")`. -/
def formatLocal (t : LocalTime) : String :=
  isoformat t.date ++ "T" ++ padded 2 (t.minuteOfDay / 60) ++ ":" ++ padded 2 (t.minuteOfDay % 60)

/-- `strftime("%Y-%m-%dT%H:%M:%SZ")`. -/
def formatUtc (t : UtcTime) : String :=
  isoformat t.date ++ "T" ++ padded 2 (t.secondOfDay / 3600) ++ ":" ++
    padded 2 (t.secondOfDay / 60 % 60) ++ ":" ++ padded 2 (t.secondOfDay % 60) ++ "Z"

end SolarFlowEms.TimeText
