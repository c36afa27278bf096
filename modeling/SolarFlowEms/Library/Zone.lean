import SolarFlowEms.Library.Fallible
import SolarFlowEms.Library.TimeText

/-!
# Moments and zones

Times to the microsecond, as moments of UTC or as times on a wall clock, and the zones that
lead from one to the other.  Arithmetic that leaves the calendar has no result.  A zone is
given by its offsets: of a wall-clock time, whose first pass is meant where the clock shows it
twice, and of a moment.
-/

namespace SolarFlowEms.Zones

open Calendar Python TimeText Fallible

def microsPerMinute : ℕ := 60000000
def microsPerSecond : ℕ := 1000000
def microsPerDay : ℕ := 86400000000

/-- A time to the microsecond, counted from the first of the calendar. -/
structure Moment where
  micros : ℕ
  lt : micros < maxOrdinal * microsPerDay
deriving DecidableEq

namespace Moment

def ofMicros? (n : ℤ) : Option Moment :=
  if h : 0 ≤ n ∧ n.toNat < maxOrdinal * microsPerDay then some ⟨n.toNat, h.2⟩ else none

theorem ofMicros?_eq_some {n : ℤ} {t : Moment} : ofMicros? n = some t ↔ (t.micros : ℤ) = n := by
  rw [ofMicros?]
  constructor
  · intro h
    split at h
    · next hn =>
      cases h
      exact Int.toNat_of_nonneg hn.1
    · cases h
  · rintro rfl
    rw [dif_pos ⟨Int.natCast_nonneg _, by rw [Int.toNat_natCast]; exact t.lt⟩]
    rfl

theorem exists_ofMicros? {n : ℤ} (h₁ : 0 ≤ n) (h₂ : n < (maxOrdinal * microsPerDay : ℕ)) :
    ∃ t, ofMicros? n = some t :=
  ⟨_, dif_pos ⟨h₁, by omega⟩⟩

theorem ofMicros?_eq_none {n : ℤ} :
    ofMicros? n = none ↔ n < 0 ∨ (maxOrdinal * microsPerDay : ℕ) ≤ n := by
  rw [ofMicros?]
  split
  · next h => exact ⟨nofun, fun hn => by omega⟩
  · next h => exact ⟨fun _ => by omega, fun _ => rfl⟩

/-- `moment + timedelta(microseconds=n)`. -/
def shift (t : Moment) (n : ℤ) : Except PyException Moment :=
  match ofMicros? (t.micros + n) with
  | some t' => .ok t'
  | none => .error .overflowError

theorem shift_eq_ok {t t' : Moment} {n : ℤ} :
    t.shift n = .ok t' ↔ (t'.micros : ℤ) = t.micros + n := by
  rw [← ofMicros?_eq_some, shift]
  cases ofMicros? (t.micros + n) <;> simp

def date (t : Moment) : Date where
  ordinal := t.micros / microsPerDay + 1
  one_le := Nat.le_add_left 1 _
  le_max := Nat.div_lt_of_lt_mul (Nat.mul_comm maxOrdinal microsPerDay ▸ t.lt)

end Moment

/-- A wall-clock time to the microsecond. -/
def ofLocal (t : LocalTime) : Moment where
  micros := t.minutes * microsPerMinute
  lt := by
    have h := t.lt
    simp only [minutesPerDay, microsPerMinute, microsPerDay] at h ⊢
    omega

/-- A stored time. -/
def ofUtc (t : UtcTime) : Moment where
  micros := t.seconds * microsPerSecond
  lt := by
    have h := t.lt
    simp only [secondsPerDay, microsPerSecond, microsPerDay] at h ⊢
    omega

/-- `local + timedelta(minutes=n)`. -/
def addMinutes (t : LocalTime) (n : ℕ) : Except PyException LocalTime :=
  match t.add? n with
  | some t' => .ok t'
  | none => .error .overflowError

/-- A zone: what it takes off a wall-clock time to find the moment, the first one where the
clock shows it twice, and what it adds to a moment to find the time on the clock.  Offsets are
shorter than a day, and no change of the clock sets a time a day later before this one. -/
structure Zone where
  offset : LocalTime → ℤ
  offsetAt : Moment → ℤ
  offset_lt : ∀ t, |offset t| < microsPerDay
  offsetAt_lt : ∀ t, |offsetAt t| < microsPerDay
  later : ∀ t t' : LocalTime, t.minutes + minutesPerDay ≤ t'.minutes →
    ((ofLocal t).micros : ℤ) - offset t ≤ (ofLocal t').micros - offset t'

/-- UTC itself. -/
def utc : Zone where
  offset := fun _ => 0
  offsetAt := fun _ => 0
  offset_lt := fun _ => by decide
  offsetAt_lt := fun _ => by decide
  later := by
    intro t t' h
    have h' : (ofLocal t).micros ≤ (ofLocal t').micros :=
      Nat.mul_le_mul_right _ ((Nat.le_add_right _ _).trans h)
    omega

namespace Zone

variable (zone : Zone)

/-- The moment of a wall-clock time.  It is found by way of its own time on the clock, which
must be inside the calendar too. -/
def localize (t : LocalTime) : Except PyException Moment := do
  let moment ← (ofLocal t).shift (-zone.offset t)
  let _ ← moment.shift (zone.offsetAt moment)
  return moment

variable {zone}

theorem micros_of_localize {t : LocalTime} {moment : Moment} (h : zone.localize t = .ok moment) :
    (moment.micros : ℤ) = (ofLocal t).micros - zone.offset t := by
  rw [localize] at h
  obtain ⟨m, hm, h⟩ := bind_eq_ok.mp h
  obtain ⟨-, -, h⟩ := bind_eq_ok.mp h
  cases h
  have hmicros := Moment.shift_eq_ok.mp hm
  omega

theorem exists_localize {t : LocalTime} (h₁ : 2 * microsPerDay ≤ (ofLocal t).micros)
    (h₂ : (ofLocal t).micros + 2 * microsPerDay ≤ maxOrdinal * microsPerDay) :
    ∃ moment, zone.localize t = .ok moment := by
  have hoffset := abs_lt.mp (zone.offset_lt t)
  obtain ⟨m, hm⟩ := Moment.exists_ofMicros? (n := (ofLocal t).micros + -zone.offset t)
    (by omega) (by omega)
  have hmicros := Moment.ofMicros?_eq_some.mp hm
  have hback := abs_lt.mp (zone.offsetAt_lt m)
  obtain ⟨m', hm'⟩ := Moment.exists_ofMicros? (n := m.micros + zone.offsetAt m)
    (by omega) (by omega)
  exact ⟨m, bind_eq_ok.mpr ⟨m, Moment.shift_eq_ok.mpr hmicros, bind_eq_ok.mpr
    ⟨m', Moment.shift_eq_ok.mpr (Moment.ofMicros?_eq_some.mp hm'), rfl⟩⟩⟩

end Zone

end SolarFlowEms.Zones
