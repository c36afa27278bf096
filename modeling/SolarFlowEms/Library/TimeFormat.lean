import Mathlib.Data.List.TakeDrop
import SolarFlowEms.Library.StrippedText
import SolarFlowEms.Library.TimeText

/-!
# Written times are read back

A time is written in fields of a fixed width, each with its leading zeros, so that its text is
a list of digits and separators.  Reading splits such a text at the separators and finds the
fields, and from them the time.
-/

namespace SolarFlowEms.TimeText

open Calendar Python

/-! ### Padded numbers -/

theorem toList_padded (w n : ℕ) : (padded w n).toList =
    List.replicate (w - (Nat.toDigits 10 n).length) '0' ++ Nat.toDigits 10 n := by
  rw [padded]
  simp only [String.toList_append, String.toList_ofList, Nat.toString_eq_ofList_toDigits,
    String.length_ofList]

theorem toList_padded_succ {w : ℕ} (hw : 0 < w) (n : ℕ) :
    (padded (w + 1) n).toList = (padded w (n / 10)).toList ++ [Nat.digitChar (n % 10)] := by
  rw [toList_padded, toList_padded]
  rcases Nat.lt_or_ge n 10 with h | h
  · have hdiv : n / 10 = 0 := by omega
    have hmod : n % 10 = n := by omega
    rw [Nat.toDigits_of_lt_base h, hdiv, hmod, Nat.toDigits_zero]
    simp only [List.length_singleton, Nat.add_sub_cancel]
    obtain ⟨v, rfl⟩ : ∃ v, w = v + 1 := ⟨w - 1, by omega⟩
    rw [Nat.add_sub_cancel, List.replicate_succ']
  · rw [Nat.toDigits_of_base_le (by decide) h, List.length_append, List.length_singleton,
      Nat.add_sub_add_right, List.append_assoc]

variable {n : ℕ}

theorem toList_padded_one (h : n < 10) : (padded 1 n).toList = [Nat.digitChar n] := by
  rw [toList_padded, Nat.toDigits_of_lt_base h]
  rfl

theorem toList_padded_two (h : n < 100) :
    (padded 2 n).toList = [Nat.digitChar (n / 10), Nat.digitChar (n % 10)] := by
  rw [toList_padded_succ (by decide), toList_padded_one (by omega)]
  rfl

theorem toList_padded_four (h : n < 10000) : (padded 4 n).toList =
    [Nat.digitChar (n / 1000), Nat.digitChar (n / 100 % 10), Nat.digitChar (n / 10 % 10),
      Nat.digitChar (n % 10)] := by
  rw [toList_padded_succ (by decide), toList_padded_succ (by decide), toList_padded_two (by omega)]
  simp only [List.cons_append, List.nil_append, Nat.div_div_eq_div_mul]

/-! ### Digits -/

/-- What a digit is to the readers: its value, one byte, no space and no separator. -/
structure IsDigitOf (c : Char) (n : ℕ) : Prop where
  lt : n < 10
  ascii : asciiDigit? 0 9 c = some n
  decimal : digit? c = some n
  size : c.utf8Size = 1
  notSpace : isPySpace c = false
  notDash : c ≠ '-'
  notWeek : c ≠ 'W'
  notT : c ≠ 'T' ∧ c ≠ 't'
  notColon : c ≠ ':'
  notZ : c ≠ 'Z' ∧ c ≠ 'z'
  toNat_eq : c.toNat = 48 + n

theorem isDigitOf_digitChar (h : n < 10) : IsDigitOf (Nat.digitChar n) n := by
  have hall : ∀ n < 10, asciiDigit? 0 9 (Nat.digitChar n) = some n ∧
      digit? (Nat.digitChar n) = some n ∧ (Nat.digitChar n).utf8Size = 1 ∧
      isPySpace (Nat.digitChar n) = false ∧ Nat.digitChar n ≠ '-' ∧ Nat.digitChar n ≠ 'W' ∧
      (Nat.digitChar n ≠ 'T' ∧ Nat.digitChar n ≠ 't') ∧ Nat.digitChar n ≠ ':' ∧
      (Nat.digitChar n ≠ 'Z' ∧ Nat.digitChar n ≠ 'z') ∧ (Nat.digitChar n).toNat = 48 + n := by
    decide
  obtain ⟨h₁, h₂, h₃, h₄, h₅, h₆, h₇, h₈, h₉, h₁₀⟩ := hall n h
  exact ⟨h, h₁, h₂, h₃, h₄, h₅, h₆, h₇, h₈, h₉, h₁₀⟩

/-! ### Dates -/

theorem utf8ByteSize_eq_sum (s : String) : s.utf8ByteSize = (s.toList.map Char.utf8Size).sum := by
  have h : ∀ l : List Char, (String.ofList l).utf8ByteSize = (l.map Char.utf8Size).sum := by
    intro l
    induction l with
    | nil => rfl
    | cons c l ih =>
      rw [String.ofList_cons, String.utf8ByteSize_append, String.utf8ByteSize_singleton, ih,
        List.map_cons, List.sum_cons]
  rw [← h, String.ofList_toList]

theorem exists_digits (day : Date) : ∃ y₁ y₂ y₃ y₄ m₁ m₂ d₁ d₂ : Char,
    (isoformat day).toList = [y₁, y₂, y₃, y₄, '-', m₁, m₂, '-', d₁, d₂] ∧
    (∃ a b c d, IsDigitOf y₁ a ∧ IsDigitOf y₂ b ∧ IsDigitOf y₃ c ∧ IsDigitOf y₄ d ∧
      day.year = 1000 * a + 100 * b + 10 * c + d) ∧
    (∃ a b, IsDigitOf m₁ a ∧ IsDigitOf m₂ b ∧ day.month = 10 * a + b) ∧
    (∃ a b, IsDigitOf d₁ a ∧ IsDigitOf d₂ b ∧ day.day = 10 * a + b) := by
  obtain ⟨-, hy, hm₁, hm₂, hd₁, hd₂⟩ := day.valid
  have hyear : day.year < 10000 := Nat.lt_succ_of_le hy
  have hday := day.day_le
  refine ⟨_, _, _, _, _, _, _, _, ?_, ⟨day.year / 1000, day.year / 100 % 10, day.year / 10 % 10,
    day.year % 10, isDigitOf_digitChar (by omega), isDigitOf_digitChar (by omega),
    isDigitOf_digitChar (by omega), isDigitOf_digitChar (by omega), by omega⟩,
    ⟨day.month / 10, day.month % 10, isDigitOf_digitChar (by omega),
      isDigitOf_digitChar (by omega), by omega⟩,
    ⟨day.day / 10, day.day % 10, isDigitOf_digitChar (by omega),
      isDigitOf_digitChar (by omega), by omega⟩⟩
  rw [isoformat]
  simp only [String.toList_append, toList_padded_four hyear, toList_padded_two (n := day.month) (by omega),
    toList_padded_two (n := day.day) (by omega)]
  rfl

theorem fromisoformat_isoformat (day : Date) : fromisoformat (isoformat day) = some day := by
  obtain ⟨y₁, y₂, y₃, y₄, m₁, m₂, d₁, d₂, hlist, ⟨a, b, c, d, ha, hb, hc, hd, hyear⟩,
    ⟨e, f, he, hf, hmonth⟩, ⟨g, i, hg, hi, hday⟩⟩ := exists_digits day
  have hsize : (isoformat day).utf8ByteSize = 10 := by
    rw [utf8ByteSize_eq_sum, hlist]
    simp only [List.map_cons, List.map_nil, List.sum_cons, List.sum_nil, ha.size, hb.size, hc.size,
      hd.size, he.size, hf.size, hg.size, hi.size]
    rfl
  have hymd := day.ofYMD?_ymd
  rw [hyear, hmonth, hday] at hymd
  have hyear4 : isoDigits [y₁, y₂, y₃, y₄] = some (1000 * a + 100 * b + 10 * c + d) := by
    simp [isoDigits, ha.ascii, hb.ascii, hc.ascii, hd.ascii]
    omega
  have hmonth2 : isoDigits [m₁, m₂] = some (10 * e + f) := by
    simp [isoDigits, he.ascii, hf.ascii]
  have hday2 : isoDigits [d₁, d₂] = some (10 * g + i) := by
    simp [isoDigits, hg.ascii, hi.ascii]
  rw [fromisoformat, hsize, hlist]
  simp [hyear4, hmonth2, hday2, hymd, he.notWeek]

theorem isoformat_chars (day : Date) : ∀ c ∈ (isoformat day).toList, isPySpace c = false := by
  obtain ⟨y₁, y₂, y₃, y₄, m₁, m₂, d₁, d₂, hlist, ⟨a, b, c, d, ha, hb, hc, hd, -⟩,
    ⟨e, f, he, hf, -⟩, ⟨g, i, hg, hi, -⟩⟩ := exists_digits day
  have hdash : isPySpace '-' = false := by decide
  rw [hlist]
  simp [ha.notSpace, hb.notSpace, hc.notSpace, hd.notSpace, he.notSpace, hf.notSpace, hg.notSpace,
    hi.notSpace, hdash]

theorem pyStrip_of_chars {s : String} (h : ∀ c ∈ s.toList, isPySpace c = false) : pyStrip s = s :=
  pyStrip_eq_self (fun c hc => h c (List.mem_of_mem_head? hc))
    fun c hc => h c (List.mem_of_mem_getLast? hc)

/-! ### Fields of two digits -/

theorem asciiDigit?_of_digit {c : Char} (h : IsDigitOf c n) (low high : ℕ) :
    asciiDigit? low high c = if low ≤ n ∧ n ≤ high then some n else none := by
  rw [asciiDigit?, h.toNat_eq]
  simp only [Nat.add_le_add_iff_left, Nat.add_sub_cancel_left]

section Fields

variable {c c' : Char} {a b : ℕ} (h : IsDigitOf c a) (h' : IsDigitOf c' b)

include h h'

theorem monthField_digits (h₁ : 1 ≤ 10 * a + b) (h₂ : 10 * a + b ≤ 12) :
    monthField [c, c'] = some (10 * a + b) := by
  have hb := h'.lt
  rw [monthField]
  simp only [asciiDigit?_of_digit h, asciiDigit?_of_digit h', twoDigits]
  obtain rfl | rfl : a = 0 ∨ a = 1 := by omega
  · simp [show 1 ≤ b ∧ b ≤ 9 by omega]
  · simp [show b ≤ 2 by omega]

theorem dayField_digits (h₁ : 1 ≤ 10 * a + b) (h₂ : 10 * a + b ≤ 31) :
    dayField [c, c'] = some (10 * a + b) := by
  have hb := h'.lt
  rw [dayField]
  simp only [asciiDigit?_of_digit h, asciiDigit?_of_digit h', twoDigits, h'.decimal]
  obtain rfl | rfl | rfl | rfl : a = 0 ∨ a = 1 ∨ a = 2 ∨ a = 3 := by omega
  · simp [show 1 ≤ b ∧ b ≤ 9 by omega]
  · simp
  · simp
  · simp [show b ≤ 1 by omega]

theorem hourField_digits (h₂ : 10 * a + b ≤ 23) : hourField [c, c'] = some (10 * a + b) := by
  have hb := h'.lt
  rw [hourField]
  simp only [asciiDigit?_of_digit h, asciiDigit?_of_digit h', twoDigits, h'.decimal]
  obtain rfl | rfl | rfl : a = 0 ∨ a = 1 ∨ a = 2 := by omega
  · simp
  · simp
  · simp [show b ≤ 3 by omega]

theorem minuteField_digits (h₂ : 10 * a + b ≤ 59) : minuteField [c, c'] = some (10 * a + b) := by
  have ha : a ≤ 5 := by omega
  rw [minuteField]
  simp [asciiDigit?_of_digit h, twoDigits, h'.decimal, ha]

end Fields

theorem splitAt?_append {separators field rest : List Char} {sep : Char}
    (hfield : ∀ c ∈ field, c ∉ separators) (hsep : sep ∈ separators) :
    splitAt? separators (field ++ sep :: rest) = some (field, rest) := by
  have hspan : (field ++ sep :: rest).span (fun c => decide (c ∉ separators)) =
      (field, sep :: rest) := by
    rw [List.span_eq_takeWhile_dropWhile, List.takeWhile_append_of_pos, List.dropWhile_append_of_pos,
      List.takeWhile_cons_of_neg (by simpa using hsep), List.dropWhile_cons_of_neg (by simpa using hsep),
      List.append_nil]
    · simpa using hfield
    · simpa using hfield
  rw [splitAt?, hspan]

/-! ### Times -/

theorem exists_two_digits (h : n < 100) : ∃ c c' a b, (padded 2 n).toList = [c, c'] ∧
    IsDigitOf c a ∧ IsDigitOf c' b ∧ n = 10 * a + b :=
  ⟨_, _, n / 10, n % 10, toList_padded_two h, isDigitOf_digitChar (by omega),
    isDigitOf_digitChar (by omega), by omega⟩

/-- **A date and an hour are read**, and the text behind them is left. -/
theorem dateHour?_written (day : Date) {hour : ℕ} (hhour : hour < 24) (rest : List Char) :
    dateHour? ((isoformat day).toList ++ 'T' :: ((padded 2 hour).toList ++ ':' :: rest)) =
      some (day, hour, rest) := by
  obtain ⟨y₁, y₂, y₃, y₄, m₁, m₂, d₁, d₂, hlist, ⟨a, b, c, d, ha, hb, hc, hd, hyear⟩,
    ⟨e, f, he, hf, hmonth⟩, ⟨g, i, hg, hi, hday⟩⟩ := exists_digits day
  obtain ⟨h₁, h₂, j, k, hh, hj, hk, rfl⟩ := exists_two_digits (show hour < 100 by omega)
  have hvalid := day.valid
  have hymd := day.ofYMD?_ymd
  have hdayle := day.day_le
  obtain ⟨-, -, hm₁, hm₂, hd₁, -⟩ := hvalid
  rw [hmonth] at hm₁ hm₂
  rw [hday] at hd₁ hdayle
  rw [hyear, hmonth, hday] at hymd
  have hyearField : yearField [y₁, y₂, y₃, y₄] = some (1000 * a + 100 * b + 10 * c + d) := by
    simp [yearField, ha.decimal, hb.decimal, hc.decimal, hd.decimal]
  have hsplit₁ : splitAt? ['-'] ([y₁, y₂, y₃, y₄] ++ '-' :: ([m₁, m₂] ++ '-' :: ([d₁, d₂] ++
      'T' :: ([h₁, h₂] ++ ':' :: rest)))) = some ([y₁, y₂, y₃, y₄], [m₁, m₂] ++ '-' :: ([d₁, d₂] ++
      'T' :: ([h₁, h₂] ++ ':' :: rest))) :=
    splitAt?_append (by simp [ha.notDash, hb.notDash, hc.notDash, hd.notDash]) (by simp)
  have hsplit₂ : splitAt? ['-'] ([m₁, m₂] ++ '-' :: ([d₁, d₂] ++ 'T' :: ([h₁, h₂] ++ ':' :: rest))) =
      some ([m₁, m₂], [d₁, d₂] ++ 'T' :: ([h₁, h₂] ++ ':' :: rest)) :=
    splitAt?_append (by simp [he.notDash, hf.notDash]) (by simp)
  have hsplit₃ : splitAt? ['T', 't'] ([d₁, d₂] ++ 'T' :: ([h₁, h₂] ++ ':' :: rest)) =
      some ([d₁, d₂], [h₁, h₂] ++ ':' :: rest) :=
    splitAt?_append (by simp [hg.notT, hi.notT]) (by simp)
  have hsplit₄ : splitAt? [':'] ([h₁, h₂] ++ ':' :: rest) = some ([h₁, h₂], rest) :=
    splitAt?_append (by simp [hj.notColon, hk.notColon]) (by simp)
  rw [hlist, hh]
  show dateHour? ([y₁, y₂, y₃, y₄] ++ '-' :: ([m₁, m₂] ++ '-' :: ([d₁, d₂] ++
      'T' :: ([h₁, h₂] ++ ':' :: rest)))) = _
  rw [dateHour?, hsplit₁]
  simp only [Option.bind_eq_bind, Option.bind_some, hsplit₂, hsplit₃, hsplit₄, hyearField,
    monthField_digits he hf hm₁ hm₂, dayField_digits hg hi hd₁ hdayle, hymd,
    hourField_digits hj hk (by omega)]
  rfl

theorem ofMinutes?_eq_some {n : ℤ} {t : LocalTime} :
    LocalTime.ofMinutes? n = some t ↔ (t.minutes : ℤ) = n := by
  rw [LocalTime.ofMinutes?]
  constructor
  · intro h
    split at h
    · next hn =>
      cases h
      exact Int.toNat_of_nonneg hn.1
    · cases h
  · rintro rfl
    rw [dif_pos ⟨Int.natCast_nonneg _, by rw [Int.toNat_natCast]; exact t.lt⟩]
    rfl

theorem toList_T : "T".toList = ['T'] := rfl

theorem toList_Z : "Z".toList = ['Z'] := rfl

theorem toList_colon : ":".toList = [':'] := rfl

theorem minutes_eq (t : LocalTime) : t.minutes =
    (t.date.ordinal - 1) * minutesPerDay + t.minuteOfDay / 60 * 60 + t.minuteOfDay % 60 := by
  have hdate : t.date.ordinal - 1 = t.minutes / minutesPerDay := Nat.add_sub_cancel _ 1
  have hday : t.minuteOfDay = t.minutes % minutesPerDay := rfl
  have hsplit := Nat.div_add_mod t.minutes minutesPerDay
  rw [hdate, Nat.add_assoc, Nat.div_add_mod' t.minuteOfDay 60, hday, Nat.mul_comm]
  exact hsplit.symm

theorem strptimeLocal_formatLocal (t : LocalTime) : strptimeLocal (formatLocal t) = some t := by
  have hminute := t.minuteOfDay_lt
  rw [show minutesPerDay = 1440 from rfl] at hminute
  have hlist : (formatLocal t).toList = (isoformat t.date).toList ++
      'T' :: ((padded 2 (t.minuteOfDay / 60)).toList ++
        ':' :: (padded 2 (t.minuteOfDay % 60)).toList) := by
    rw [formatLocal]
    simp only [String.toList_append, List.append_assoc, toList_T, toList_colon, List.cons_append,
      List.nil_append]
  obtain ⟨c, c', a, b, hm, hc, hc', hval⟩ := exists_two_digits (show t.minuteOfDay % 60 < 100 by omega)
  have hminutes := minutes_eq t
  rw [strptimeLocal, hlist, dateHour?_written t.date (by omega), hm]
  simp only [Option.bind_eq_bind, Option.bind_some, minuteField_digits hc hc' (by omega)]
  rw [ofMinutes?_eq_some, hminutes, hval]
  push_cast [Nat.cast_sub t.date.one_le]
  rfl

theorem padded_two_chars (h : n < 100) :
    ∀ c ∈ (padded 2 n).toList, isPySpace c = false := by
  obtain ⟨c, c', a, b, hlist, hc, hc', -⟩ := exists_two_digits h
  rw [hlist]
  simp [hc.notSpace, hc'.notSpace]

theorem pyStrip_isoformat (day : Date) : pyStrip (isoformat day) = isoformat day :=
  pyStrip_of_chars (isoformat_chars day)

theorem pyStrip_formatLocal (t : LocalTime) : pyStrip (formatLocal t) = formatLocal t := by
  have hminute := t.minuteOfDay_lt
  rw [show minutesPerDay = 1440 from rfl] at hminute
  have hT : isPySpace 'T' = false := by decide
  have hcolon : isPySpace ':' = false := by decide
  apply pyStrip_of_chars
  intro c hc
  rw [formatLocal] at hc
  simp only [String.toList_append, List.mem_append, toList_T, toList_colon, List.mem_singleton] at hc
  rcases hc with (((hc | rfl) | hc) | rfl) | hc
  · exact isoformat_chars t.date c hc
  · exact hT
  · exact padded_two_chars (by omega) c hc
  · exact hcolon
  · exact padded_two_chars (by omega) c hc

theorem ofSeconds?_eq_some {t : UtcTime} : UtcTime.ofSeconds? n = some t ↔ t.seconds = n := by
  rw [UtcTime.ofSeconds?]
  constructor
  · intro h
    split at h
    · cases h
      rfl
    · cases h
  · rintro rfl
    rw [dif_pos t.lt]

theorem seconds_eq (t : UtcTime) : t.seconds = (t.date.ordinal - 1) * secondsPerDay +
    t.secondOfDay / 3600 * 3600 + t.secondOfDay / 60 % 60 * 60 + t.secondOfDay % 60 := by
  have hdate : t.date.ordinal - 1 = t.seconds / secondsPerDay := Nat.add_sub_cancel _ 1
  have hday : t.secondOfDay = t.seconds % secondsPerDay := rfl
  have hsplit := Nat.div_add_mod t.seconds secondsPerDay
  rw [← hday, ← hdate, Nat.mul_comm] at hsplit
  generalize (t.date.ordinal - 1) * secondsPerDay = days at *
  omega

theorem strptimeUtc_formatUtc (t : UtcTime) : strptimeUtc (formatUtc t) = some t := by
  have hsecond : t.secondOfDay < 86400 := Nat.mod_lt _ (by decide)
  have hlist : (formatUtc t).toList = (isoformat t.date).toList ++
      'T' :: ((padded 2 (t.secondOfDay / 3600)).toList ++
        ':' :: ((padded 2 (t.secondOfDay / 60 % 60)).toList ++
          ':' :: ((padded 2 (t.secondOfDay % 60)).toList ++ 'Z' :: []))) := by
    rw [formatUtc]
    simp only [String.toList_append, List.append_assoc, toList_T, toList_colon, toList_Z,
      List.cons_append, List.nil_append]
  obtain ⟨c, c', a, b, hm, hc, hc', hval⟩ :=
    exists_two_digits (show t.secondOfDay / 60 % 60 < 100 by omega)
  obtain ⟨e, e', f, g, hs, he, he', hval'⟩ :=
    exists_two_digits (show t.secondOfDay % 60 < 100 by omega)
  have hseconds := seconds_eq t
  have hsplit₁ : splitAt? [':'] ([c, c'] ++ ':' :: ([e, e'] ++ 'Z' :: [])) =
      some ([c, c'], [e, e'] ++ 'Z' :: []) :=
    splitAt?_append (by simp [hc.notColon, hc'.notColon]) (by simp)
  have hsplit₂ : splitAt? ['Z', 'z'] ([e, e'] ++ 'Z' :: []) = some ([e, e'], []) :=
    splitAt?_append (by simp [he.notZ, he'.notZ]) (by simp)
  rw [strptimeUtc, hlist, dateHour?_written t.date (by omega), hm, hs]
  simp only [Option.bind_eq_bind, Option.bind_some, hsplit₁, hsplit₂,
    minuteField_digits hc hc' (by omega), minuteField_digits he he' (by omega), ne_eq,
    not_true_eq_false, if_false]
  rw [ofSeconds?_eq_some, hseconds, hval, hval']

end SolarFlowEms.TimeText
