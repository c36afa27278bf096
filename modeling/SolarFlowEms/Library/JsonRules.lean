import Mathlib.Data.List.TakeWhile
import SolarFlowEms.Library.JsonText

/-!
# What a JSON text denotes

A text denotes a value where the reader returns that value and stops behind the text, at whatever
token follows.  There is a rule for each kind of value; those of lists and objects ask the same of
the items and leave the whitespace between them free.
-/

namespace SolarFlowEms.Json

open Python Documents

/-! ### Numbers -/

section

variable {text digits integer fraction exponent rest : List Char}

def IsDigits (digits : List Char) : Prop := digits ≠ [] ∧ ∀ c ∈ digits, c.isDigit = true

def NoDigit (rest : List Char) : Prop := ∀ c ∈ rest.head?, c.isDigit = false

/-- The digits of an integer: they start with 0 only where there is nothing else. -/
def IsWhole (digits : List Char) : Prop :=
  digits = ['0'] ∨ IsDigits digits ∧ digits.head? ≠ some '0'

def IsInteger (text : List Char) : Prop :=
  ∃ digits, IsWhole digits ∧ (text = digits ∨ text = '-' :: digits)

def IsFraction (text : List Char) : Prop := text = [] ∨ ∃ digits, IsDigits digits ∧ text = '.' :: digits

def IsExponent (text : List Char) : Prop :=
  text = [] ∨ ∃ mark sign digits, IsExponentMark mark ∧ (sign = [] ∨ sign = ['+'] ∨ sign = ['-']) ∧
    IsDigits digits ∧ text = mark :: sign ++ digits

theorem takeWhile_of_noDigit (h : NoDigit rest) : rest.takeWhile Char.isDigit = [] := by
  cases rest with
  | nil => rfl
  | cons c rest => rw [List.takeWhile_cons, h c rfl, if_neg Bool.false_ne_true]

theorem dropWhile_of_noDigit (h : NoDigit rest) : rest.dropWhile Char.isDigit = rest := by
  cases rest with
  | nil => rfl
  | cons c rest => rw [List.dropWhile_cons, h c rfl, if_neg Bool.false_ne_true]

theorem takeWhile_digits (h : IsDigits digits) (hrest : NoDigit rest) :
    (digits ++ rest).takeWhile Char.isDigit = digits := by
  rw [List.takeWhile_append_of_pos h.2, takeWhile_of_noDigit hrest, List.append_nil]

theorem dropWhile_digits (h : IsDigits digits) (hrest : NoDigit rest) :
    (digits ++ rest).dropWhile Char.isDigit = rest := by
  rw [List.dropWhile_append_of_pos h.2, dropWhile_of_noDigit hrest]

theorem IsDigits.exists_cons (h : IsDigits digits) :
    ∃ c tail, digits = c :: tail ∧ c.isDigit = true := by
  cases digits with
  | nil => exact absurd rfl h.1
  | cons c tail => exact ⟨c, tail, rfl, h.2 c List.mem_cons_self⟩

theorem IsWhole.isDigits (h : IsWhole digits) : IsDigits digits := by
  rcases h with rfl | h
  · exact ⟨List.cons_ne_nil _ _, fun c hc => by rw [List.mem_singleton.mp hc]; rfl⟩
  · exact h.1

theorem readDigits_append (h : IsWhole digits) (hrest : NoDigit rest) :
    readDigits (digits ++ rest) = some (digits, rest) := by
  rcases h with rfl | ⟨hdigits, hhead⟩
  · rfl
  · obtain ⟨c, tail, rfl, -⟩ := hdigits.exists_cons
    have hc : c ≠ '0' := fun h => hhead (congrArg some h)
    rw [readDigits.eq_def]
    split
    · rename_i htext
      exact absurd (List.cons.inj htext).1 hc
    · rw [takeWhile_digits hdigits hrest, dropWhile_digits hdigits hrest,
        if_neg (List.cons_ne_nil c tail)]

theorem readInteger_append (h : IsInteger integer) (hrest : NoDigit rest) :
    readInteger (integer ++ rest) = some (integer, rest) := by
  obtain ⟨digits, hwhole, rfl | rfl⟩ := h
  · obtain ⟨c, tail, rfl, hc⟩ := hwhole.isDigits.exists_cons
    rw [readInteger.eq_def]
    split
    · rename_i htext
      rw [(List.cons.inj htext).1] at hc
      cases hc
    · exact readDigits_append hwhole hrest
  · rw [List.cons_append, readInteger, readDigits_append hwhole hrest]
    rfl

theorem readFraction_append (h : IsFraction fraction) (hrest : NoDigit rest)
    (hpoint : rest.head? ≠ some '.') : readFraction (fraction ++ rest) = (fraction, rest) := by
  rcases h with rfl | ⟨digits, hdigits, rfl⟩
  · rw [List.nil_append, readFraction.eq_def]
    split
    · exact absurd rfl hpoint
    · rfl
  · rw [List.cons_append, readFraction, takeWhile_digits hdigits hrest,
      dropWhile_digits hdigits hrest, if_neg hdigits.1]

theorem readSign_append {sign : List Char} (h : sign = [] ∨ sign = ['+'] ∨ sign = ['-'])
    (hdigits : IsDigits digits) : readSign (sign ++ (digits ++ rest)) = (sign, digits ++ rest) := by
  obtain ⟨c, tail, rfl, hc⟩ := hdigits.exists_cons
  rcases h with rfl | rfl | rfl
  · rw [List.nil_append, readSign.eq_def]
    split
    · rename_i htext
      rw [(List.cons.inj htext).1] at hc
      cases hc
    · rename_i htext
      rw [(List.cons.inj htext).1] at hc
      cases hc
    · rfl
  · rfl
  · rfl

theorem readExponent_append (h : IsExponent exponent) (hrest : NoDigit rest)
    (hmark : ∀ c ∈ rest.head?, ¬IsExponentMark c) :
    readExponent (exponent ++ rest) = (exponent, rest) := by
  rcases h with rfl | ⟨mark, sign, digits, hexp, hsign, hdigits, rfl⟩
  · cases rest with
    | nil => rfl
    | cons c rest =>
      rw [List.nil_append, readExponent]
      exact if_neg fun h => hmark c rfl h.1
  · rw [List.cons_append, List.cons_append, List.append_assoc, readExponent,
      readSign_append hsign hdigits]
    dsimp only
    rw [takeWhile_digits hdigits hrest, dropWhile_digits hdigits hrest, if_pos ⟨hexp, hdigits.1⟩]
    rfl

def EndsNumber (rest : List Char) : Prop :=
  ∀ c ∈ rest.head?, c.isDigit = false ∧ c ≠ '.' ∧ ¬IsExponentMark c

theorem IsExponent.ends (h : IsExponent exponent) (hrest : EndsNumber rest) :
    NoDigit (exponent ++ rest) ∧ (exponent ++ rest).head? ≠ some '.' := by
  rcases h with rfl | ⟨mark, sign, digits, rfl | rfl, -, -, rfl⟩
  · exact ⟨fun c hc => (hrest c hc).1, fun hc => (hrest '.' hc).2.1 rfl⟩
  · exact ⟨fun c hc => by cases hc; rfl, fun hc => by cases hc⟩
  · exact ⟨fun c hc => by cases hc; rfl, fun hc => by cases hc⟩

theorem IsFraction.ends (h : IsFraction fraction) (hrest : NoDigit rest) :
    NoDigit (fraction ++ rest) := by
  rcases h with rfl | ⟨digits, -, rfl⟩
  · exact hrest
  · exact fun c hc => by cases hc; rfl

theorem readNumber_append (texts : FloatTexts) (hinteger : IsInteger integer)
    (hfraction : IsFraction fraction) (hexponent : IsExponent exponent)
    (hrest : EndsNumber rest) :
    readNumber texts (integer ++ (fraction ++ (exponent ++ rest))) =
      if fraction = [] ∧ exponent = [] then some (.int (intOf integer), rest)
      else some (.float (texts.float (integer ++ fraction ++ exponent)), rest) := by
  obtain ⟨hdigit, hpoint⟩ := hexponent.ends hrest
  rw [readNumber, readInteger_append hinteger (hfraction.ends hdigit)]
  simp only [Option.bind_eq_bind, Option.bind_some, readFraction_append hfraction hdigit hpoint,
    readExponent_append hexponent (fun c hc => (hrest c hc).1) fun c hc => (hrest c hc).2.2]
  rfl

end

/-! ### Integers and floats -/

/-- What the language documents of the text of a float: digits with a point or an exponent, from
which the float is read back. -/
structure FloatTexts.ReadsBack (texts : FloatTexts) (x : ℚ) : Prop where
  shape : ∃ integer fraction exponent, texts.repr x = integer ++ fraction ++ exponent ∧
    IsInteger integer ∧ IsFraction fraction ∧ IsExponent exponent ∧
    ¬(fraction = [] ∧ exponent = [])
  float : texts.float (texts.repr x) = .finite x

theorem isDigits_toDigits (n : ℕ) : IsDigits (Nat.toDigits 10 n) :=
  ⟨Nat.toDigits_ne_nil, fun _ hc => Nat.isDigit_of_mem_toDigits (by decide) (by decide) hc⟩

theorem head?_toDigits (n : ℕ) (h : 0 < n) : (Nat.toDigits 10 n).head? ≠ some '0' := by
  induction n using Nat.strong_induction_on with
  | _ n ih =>
    by_cases hlt : n < 10
    · interval_cases n <;> decide
    · have hle : 10 ≤ n := Nat.not_lt.mp hlt
      have hpos : 0 < n / 10 := Nat.div_pos hle (by decide)
      rw [Nat.toDigits_of_base_le (by decide) hle, List.head?_append_of_ne_nil _ Nat.toDigits_ne_nil]
      exact ih (n / 10) (Nat.div_lt_self h (by decide)) hpos

theorem isWhole_toDigits (n : ℕ) : IsWhole (Nat.toDigits 10 n) := by
  rcases Nat.eq_zero_or_pos n with rfl | h
  · exact .inl (Nat.toDigits_zero 10)
  · exact .inr ⟨isDigits_toDigits n, head?_toDigits n h⟩

theorem isInteger_dumpsInt (z : ℤ) : IsInteger (dumpsInt z) := by
  unfold dumpsInt
  refine ⟨Nat.toDigits 10 z.natAbs, isWhole_toDigits _, ?_⟩
  split
  · exact .inr rfl
  · exact .inl rfl

theorem intOf_dumpsInt (z : ℤ) : intOf (dumpsInt z) = z := by
  have hvalue : Nat.ofDigitChars 10 (Nat.toDigits 10 z.natAbs) 0 = z.natAbs :=
    Nat.ofDigitChars_toDigits (by decide) (by decide)
  unfold dumpsInt
  split
  · rename_i hneg
    rw [intOf, hvalue]
    omega
  · rename_i hpos
    obtain ⟨c, tail, hc, hdigit⟩ := (isDigits_toDigits z.natAbs).exists_cons
    rw [intOf.eq_def]
    split
    · rename_i htext
      rw [hc] at htext
      rw [(List.cons.inj htext).1] at hdigit
      cases hdigit
    · rw [hvalue]
      omega

theorem IsInteger.starts {text : List Char} (h : IsInteger text) :
    ∃ c tail, text = c :: tail ∧
      (c.isDigit = true ∨ c = '-' ∧ ∃ d more, tail = d :: more ∧ d.isDigit = true) := by
  obtain ⟨digits, hwhole, rfl | rfl⟩ := h
  · obtain ⟨c, tail, rfl, hc⟩ := hwhole.isDigits.exists_cons
    exact ⟨c, tail, rfl, .inl hc⟩
  · exact ⟨'-', digits, rfl, .inr ⟨rfl, hwhole.isDigits.exists_cons⟩⟩

theorem afterWord_cons_of_ne {c c' : Char} (h : c ≠ c') (word text : List Char) :
    afterWord (c :: word) (c' :: text) = none := if_neg h

theorem ne_of_isDigit {c d : Char} (hd : d.isDigit = true) (hc : c.isDigit = false) : c ≠ d := by
  rintro rfl
  rw [hd] at hc
  cases hc

theorem afterWord_of_isInteger {integer : List Char} (h : IsInteger integer) (rest : List Char)
    {word : List Char × PyValue} (hword : word ∈ words) :
    afterWord word.1 (integer ++ rest) = none := by
  obtain ⟨c, tail, rfl, hstart⟩ := h.starts
  have hfirst : ∀ first more, first.isDigit = false → first ≠ '-' →
      afterWord (first :: more) (c :: tail ++ rest) = none := by
    intro first more hfirst hsign
    refine afterWord_cons_of_ne ?_ more (tail ++ rest)
    rcases hstart with hc | ⟨rfl, -⟩
    · exact ne_of_isDigit hc hfirst
    · exact hsign
  simp only [words, List.mem_cons, List.not_mem_nil, or_false] at hword
  rcases hword with rfl | rfl | rfl | rfl | rfl | rfl
  · exact hfirst _ _ rfl (by decide)
  · exact hfirst _ _ rfl (by decide)
  · exact hfirst _ _ rfl (by decide)
  · exact hfirst _ _ rfl (by decide)
  · exact hfirst _ _ rfl (by decide)
  -- `-Infinity` has the sign, but no digit behind it.
  · rcases hstart with hc | ⟨rfl, d, more, rfl, hd⟩
    · exact afterWord_cons_of_ne (ne_of_isDigit hc rfl) _ _
    · exact (if_pos rfl).trans (afterWord_cons_of_ne (ne_of_isDigit hd rfl) _ _)

theorem readAtom_of_isInteger (texts : FloatTexts) {integer : List Char} (h : IsInteger integer)
    (rest : List Char) : readAtom texts (integer ++ rest) = readNumber texts (integer ++ rest) := by
  have hnone : words.findSome? (fun word =>
      (afterWord word.1 (integer ++ rest)).map fun rest => (word.2, rest)) = none := by
    rw [List.findSome?_eq_none_iff]
    intro word hword
    rw [afterWord_of_isInteger h rest hword]
    rfl
  rw [readAtom, hnone]

/-! ### Whitespace -/

section

variable {space text rest : List Char} {c : Char}

def IsSpaces (space : List Char) : Prop := ∀ c ∈ space, isSpace c = true

theorem skipSpaces_append (h : IsSpaces space) (rest : List Char) :
    skipSpaces (space ++ rest) = skipSpaces rest :=
  List.dropWhile_append_of_pos h

theorem skipSpaces_cons (h : isSpace c = false) (rest : List Char) :
    skipSpaces (c :: rest) = c :: rest := by
  rw [skipSpaces, List.dropWhile_cons, h, if_neg Bool.false_ne_true]

/-- What may stand behind a value. -/
def Delimited (rest : List Char) : Prop :=
  ∀ c ∈ rest.head?, isSpace c = true ∨ c = ',' ∨ c = ']' ∨ c = '\x7d'

theorem Delimited.endsNumber (h : Delimited rest) : EndsNumber rest := by
  intro c hc
  unfold IsExponentMark
  rcases h c hc with hspace | rfl | rfl | rfl
  · simp only [isSpace, Bool.or_eq_true, decide_eq_true_eq] at hspace
    rcases hspace with ((rfl | rfl) | rfl) | rfl <;> decide
  · decide
  · decide
  · decide

theorem delimited_nil : Delimited [] := fun _ hc => by cases hc

theorem delimited_cons (h : isSpace c = true ∨ c = ',' ∨ c = ']' ∨ c = '\x7d')
    (rest : List Char) : Delimited (c :: rest) :=
  fun _ hc => by cases hc; exact h

theorem delimited_append (h : IsSpaces space) (hrest : Delimited rest) :
    Delimited (space ++ rest) := by
  cases space with
  | nil => exact hrest
  | cons c space => exact delimited_cons (.inl (h c List.mem_cons_self)) (space ++ rest)

end

/-! ### What a text denotes -/

/-- A text starts with no whitespace, and not as a list ends. -/
def Opens (text : List Char) : Prop :=
  ∃ c tail, text = c :: tail ∧ isSpace c = false ∧ c ≠ ']' ∧ c ≠ '\x7d'

/-- **A text denotes a value** where it is read as that value, whatever token follows. -/
structure Denotes (texts : FloatTexts) (text : List Char) (value : PyValue) : Prop where
  opens : Opens text
  reads : ∀ fuel rest, text.length ≤ fuel → Delimited rest →
    readValue texts fuel (text ++ rest) = some (value, rest)

section

variable {texts : FloatTexts}

theorem Opens.skipSpaces_append {text : List Char} (h : Opens text) (rest : List Char) :
    skipSpaces (text ++ rest) = text ++ rest := by
  obtain ⟨c, tail, rfl, hc, -⟩ := h
  exact skipSpaces_cons hc (tail ++ rest)

/-- **A text that denotes a value is read as it**, with whitespace around it. -/
theorem Denotes.loads_eq {text space space' : List Char} {value : PyValue}
    (h : Denotes texts text value) (hspace : IsSpaces space) (hspace' : IsSpaces space') :
    loads texts (space ++ (text ++ space')) = some value := by
  have hend : skipSpaces space' = [] := by
    have hskip := skipSpaces_append hspace' []
    rwa [List.append_nil] at hskip
  have hdelimited : Delimited space' := by
    have hdelimited := delimited_append hspace' delimited_nil
    rwa [List.append_nil] at hdelimited
  have hfuel : text.length ≤ (space ++ (text ++ space')).length := by
    rw [List.length_append, List.length_append]
    omega
  rw [loads, Json.skipSpaces_append hspace, h.opens.skipSpaces_append,
    h.reads _ space' hfuel hdelimited]
  exact if_pos hend

theorem exists_fuel {c : Char} {tail : List Char} {fuel : ℕ} (h : (c :: tail).length ≤ fuel) :
    ∃ left, fuel = left + 1 ∧ tail.length ≤ left := by
  obtain ⟨left, rfl⟩ := Nat.exists_eq_succ_of_ne_zero
    (Nat.ne_zero_of_lt (Nat.lt_of_lt_of_le (Nat.succ_pos tail.length) h))
  exact ⟨left, rfl, Nat.le_of_succ_le_succ h⟩

theorem readValue_atom {c : Char} (tail : List Char) (fuel : ℕ) (hquote : c ≠ '"')
    (hbrace : c ≠ '\x7b') (hbracket : c ≠ '[') :
    readValue texts (fuel + 1) (c :: tail) = readAtom texts (c :: tail) := by
  rw [readValue, if_neg hquote, if_neg hbrace, if_neg hbracket]

theorem denotes_str (s : String) : Denotes texts (dumpsStr s) (.str s) := by
  refine ⟨⟨'"', _, rfl, by decide, by decide, by decide⟩, ?_⟩
  intro fuel rest hfuel _
  obtain ⟨left, rfl, -⟩ := exists_fuel hfuel
  have hlength : s.toList.length < (s.toList.flatMap escapeChar ++ '"' :: rest).length := by
    rw [List.length_append, List.length_cons]
    have hle := length_le_flatMap_escapeChar s.toList
    omega
  have htext : dumpsStr s ++ rest = '"' :: (s.toList.flatMap escapeChar ++ '"' :: rest) := by
    simp [dumpsStr]
  rw [htext, readValue, if_pos rfl, readString_escaped s.toList rest hlength]
  simp

theorem denotes_word {word : List Char × PyValue} (hword : word ∈ words) :
    Denotes texts word.1 word.2 := by
  simp only [words, List.mem_cons, List.not_mem_nil, or_false] at hword
  rcases hword with rfl | rfl | rfl | rfl | rfl | rfl <;>
  · refine ⟨⟨_, _, rfl, by decide, by decide, by decide⟩, ?_⟩
    intro fuel rest hfuel _
    obtain ⟨left, rfl, -⟩ := exists_fuel hfuel
    rfl

theorem IsInteger.opens {integer : List Char} (h : IsInteger integer) :
    ∃ c tail, integer = c :: tail ∧ isSpace c = false ∧ c ∉ ['"', '\x7b', '[', ']', '\x7d'] := by
  obtain ⟨c, tail, rfl, hstart⟩ := h.starts
  refine ⟨c, tail, rfl, ?_⟩
  rcases hstart with hc | ⟨rfl, -⟩
  · have hne : ∀ d : Char, d.isDigit = false → c ≠ d := fun d hd => (ne_of_isDigit hc hd).symm
    constructor
    · simp [isSpace, hne ' ' rfl, hne '\t' rfl, hne '\n' rfl, hne '\r' rfl]
    · simp [hne '"' rfl, hne '\x7b' rfl, hne '[' rfl, hne ']' rfl, hne '\x7d' rfl]
  · decide

theorem denotes_number {integer fraction exponent : List Char} {value : PyValue}
    (hinteger : IsInteger integer) (hfraction : IsFraction fraction)
    (hexponent : IsExponent exponent)
    (hvalue : value = if fraction = [] ∧ exponent = [] then .int (intOf integer)
      else .float (texts.float (integer ++ fraction ++ exponent))) :
    Denotes texts (integer ++ fraction ++ exponent) value := by
  obtain ⟨c, tail, hc, hspace, hmarks⟩ := hinteger.opens
  simp only [List.mem_cons, List.not_mem_nil, or_false, not_or] at hmarks
  obtain ⟨hquote, hbrace, hbracket, hclose, hclose'⟩ := hmarks
  refine ⟨⟨c, tail ++ fraction ++ exponent, by rw [hc]; rfl, hspace, hclose, hclose'⟩, ?_⟩
  intro fuel rest hfuel hrest
  have hcons : integer ++ fraction ++ exponent = c :: (tail ++ fraction ++ exponent) := by
    rw [hc]
    rfl
  rw [hcons] at hfuel
  obtain ⟨left, rfl, -⟩ := exists_fuel hfuel
  rw [hcons, List.cons_append, readValue_atom _ left hquote hbrace hbracket, ← List.cons_append,
    ← hcons, List.append_assoc, List.append_assoc, readAtom_of_isInteger texts hinteger,
    readNumber_append texts hinteger hfraction hexponent hrest.endsNumber, hvalue]
  split_ifs <;> rfl

theorem denotes_dumpsInt (z : ℤ) : Denotes texts (dumpsInt z) (.int z) := by
  have hdenotes : Denotes texts (dumpsInt z ++ [] ++ []) (.int z) :=
    denotes_number (isInteger_dumpsInt z) (.inl rfl) (.inl rfl)
      (by rw [if_pos ⟨rfl, rfl⟩, intOf_dumpsInt])
  rwa [List.append_nil, List.append_nil] at hdenotes

theorem denotes_float {x : ℚ} (h : texts.ReadsBack x) :
    Denotes texts (texts.repr x) (.float (.finite x)) := by
  obtain ⟨integer, fraction, exponent, hrepr, hinteger, hfraction, hexponent, hfloat⟩ := h.shape
  rw [hrepr]
  refine denotes_number hinteger hfraction hexponent ?_
  rw [if_neg hfloat, ← hrepr, h.float]

def AtomReadsBack (texts : FloatTexts) : PyValue → Prop
  | .float (.finite x) => texts.ReadsBack x
  | _ => True

theorem denotes_dumpsAtom {value : PyValue} (hatom : IsAtom value = true)
    (h : AtomReadsBack texts value) : Denotes texts (dumpsAtom texts value) value := by
  have hword : ∀ word, word ∈ words → Denotes texts word.1 word.2 := fun _ => denotes_word
  cases value with
  | none => exact hword (_, .none) (by simp [words])
  | bool b =>
    cases b with
    | true => exact hword (_, .bool true) (by simp [words])
    | false => exact hword (_, .bool false) (by simp [words])
  | int z => exact denotes_dumpsInt z
  | float x =>
    cases x with
    | finite x => exact denotes_float h
    | posInf => exact hword (_, .float .posInf) (by simp [words])
    | negInf => exact hword (_, .float .negInf) (by simp [words])
    | nan => exact hword (_, .float .nan) (by simp [words])
  | str s => exact denotes_str s
  | list items => cases hatom
  | dict entries => cases hatom

/-! ### Lists and objects -/

/-- An item between commas, with the whitespace before it. -/
structure Item (α : Type) where
  space : List Char
  text : List Char
  value : α

variable {α : Type}

/-- Items with commas between them. -/
def itemsText : List (Item α) → List Char
  | [] => []
  | [item] => item.space ++ item.text
  | item :: next :: items => item.space ++ item.text ++ ',' :: itemsText (next :: items)

theorem itemsText_concat {items : List (Item α)} (h : items ≠ []) (item : Item α) :
    itemsText (items ++ [item]) = itemsText items ++ ',' :: (item.space ++ item.text) := by
  induction items with
  | nil => exact absurd rfl h
  | cons first items ih =>
    cases items with
    | nil => rfl
    | cons next items =>
      show first.space ++ first.text ++ ',' :: itemsText (next :: items ++ [item]) = _
      rw [ih (List.cons_ne_nil next items), itemsText]
      simp

/-- An item that is read up to where its text ends. -/
structure Item.Reads (read : List Char → Option (α × List Char)) (item : Item α) : Prop where
  space : IsSpaces item.space
  opens : Opens item.text
  reads : ∀ rest, Delimited rest → read (item.text ++ rest) = some (item.value, rest)

theorem Item.Reads.skipSpaces_eq {read : List Char → Option (α × List Char)} {item : Item α}
    (h : item.Reads read) (rest : List Char) :
    skipSpaces (item.space ++ item.text ++ rest) = item.text ++ rest := by
  rw [List.append_assoc, Json.skipSpaces_append h.space, h.opens.skipSpaces_append]

theorem readItems_itemsText {read : List Char → Option (α × List Char)} {close : Char}
    (hclose : close = ']' ∨ close = '\x7d') {items : List (Item α)} (hne : items ≠ [])
    (h : ∀ item ∈ items, item.Reads read) {space : List Char} (hspace : IsSpaces space)
    (rest : List Char) {fuel : ℕ} (hfuel : items.length ≤ fuel) :
    readItems read close fuel (skipSpaces (itemsText items ++ (space ++ close :: rest))) =
      some (items.map Item.value, rest) := by
  have hnospace : isSpace close = false := by rcases hclose with rfl | rfl <;> rfl
  have hcomma : close ≠ ',' := by rcases hclose with rfl | rfl <;> decide
  induction items generalizing fuel with
  | nil => exact absurd rfl hne
  | cons item items ih =>
    obtain ⟨hitem, hitems⟩ := List.forall_mem_cons.mp h
    obtain ⟨left, rfl⟩ := Nat.exists_eq_succ_of_ne_zero
      (Nat.ne_zero_of_lt (Nat.lt_of_lt_of_le (Nat.succ_pos items.length) hfuel))
    cases items with
    | nil =>
      have hdelimited : Delimited (space ++ close :: rest) :=
        delimited_append hspace (delimited_cons (.inr (.inr hclose)) rest)
      rw [itemsText, hitem.skipSpaces_eq, Nat.succ_eq_add_one, readItems, hitem.reads _ hdelimited]
      simp only [Option.bind_eq_bind, Option.bind_some, skipSpaces_append hspace,
        skipSpaces_cons hnospace, if_true]
      rfl
    | cons next items =>
      have hdelimited : ∀ more, Delimited (',' :: more) := delimited_cons (.inr (.inl rfl))
      have hrest := ih (List.cons_ne_nil next items) hitems (Nat.le_of_succ_le_succ hfuel)
      rw [itemsText, List.append_assoc (item.space ++ item.text), hitem.skipSpaces_eq,
        Nat.succ_eq_add_one, readItems, List.cons_append, hitem.reads _ (hdelimited _)]
      have hskip : ∀ more, skipSpaces (',' :: more) = ',' :: more := skipSpaces_cons rfl
      simp only [Option.bind_eq_bind, Option.bind_some, hskip, if_neg hcomma.symm, if_true, hrest]
      rfl

theorem skipSpaces_itemsText {read : List Char → Option (α × List Char)} {items : List (Item α)}
    (hne : items ≠ []) (h : ∀ item ∈ items, item.Reads read) (rest : List Char) :
    ∃ c tail, skipSpaces (itemsText items ++ rest) = c :: tail ∧ c ≠ ']' ∧ c ≠ '\x7d' := by
  cases items with
  | nil => exact absurd rfl hne
  | cons item items =>
    have hitem := h item List.mem_cons_self
    obtain ⟨c, tail, hc, -, hclose⟩ := hitem.opens
    cases items with
    | nil =>
      refine ⟨c, tail ++ rest, ?_, hclose⟩
      rw [itemsText, hitem.skipSpaces_eq, hc]
      rfl
    | cons next items =>
      refine ⟨c, tail ++ (',' :: itemsText (next :: items) ++ rest), ?_, hclose⟩
      rw [itemsText, List.append_assoc (item.space ++ item.text), hitem.skipSpaces_eq, hc]
      rfl

theorem length_le_itemsText {items : List (Item α)} :
    ∀ item ∈ items, item.text.length ≤ (itemsText items).length := by
  intro item hitem
  induction items with
  | nil => cases hitem
  | cons first items ih =>
    cases items with
    | nil =>
      rw [List.mem_singleton.mp hitem, itemsText, List.length_append]
      omega
    | cons next items =>
      rw [itemsText, List.length_append, List.length_append, List.length_cons]
      rcases List.mem_cons.mp hitem with rfl | hmem
      · omega
      · have hle := ih hmem
        omega

theorem Opens.length_pos {text : List Char} (h : Opens text) : 0 < text.length := by
  obtain ⟨c, tail, rfl, -⟩ := h
  exact Nat.succ_pos tail.length

theorem length_items_le {read : List Char → Option (α × List Char)} {items : List (Item α)}
    (h : ∀ item ∈ items, item.Reads read) : items.length ≤ (itemsText items).length := by
  induction items with
  | nil => exact Nat.le_refl 0
  | cons item items ih =>
    obtain ⟨hitem, hitems⟩ := List.forall_mem_cons.mp h
    have hpos := hitem.opens.length_pos
    cases items with
    | nil =>
      rw [itemsText, List.length_append, List.length_singleton]
      omega
    | cons next items =>
      have hle := ih hitems
      simp only [itemsText, List.length_append, List.length_cons] at hle ⊢
      omega

theorem readItems_bracketed {read : List Char → Option (α × List Char)} {close : Char}
    (hclose : close = ']' ∨ close = '\x7d') {items : List (Item α)} (hne : items ≠ [])
    (h : ∀ item ∈ items, item.Reads read) {space : List Char} (hspace : IsSpaces space)
    (rest : List Char) {fuel : ℕ}
    (hfuel : (itemsText items ++ (space ++ [close])).length ≤ fuel) :
    ∃ c tail, skipSpaces (itemsText items ++ (space ++ close :: rest)) = c :: tail ∧ c ≠ ']' ∧
      c ≠ '\x7d' ∧ readItems read close fuel (c :: tail) = some (items.map Item.value, rest) := by
  rw [List.length_append] at hfuel
  obtain ⟨c, tail, hskip, hlist, hobject⟩ := skipSpaces_itemsText hne h (space ++ close :: rest)
  refine ⟨c, tail, hskip, hlist, hobject, ?_⟩
  rw [← hskip]
  exact readItems_itemsText hclose hne h hspace rest
    (Nat.le_trans (length_items_le h) (Nat.le_trans (Nat.le_add_right _ _) hfuel))

theorem denotes_list {items : List (Item PyValue)} (hne : items ≠ [])
    (h : ∀ item ∈ items, IsSpaces item.space ∧ Denotes texts item.text item.value)
    {space : List Char} (hspace : IsSpaces space) :
    Denotes texts ('[' :: (itemsText items ++ (space ++ [']']))) (.list (items.map Item.value)) := by
  refine ⟨⟨'[', _, rfl, by decide, by decide, by decide⟩, ?_⟩
  intro fuel rest hfuel _
  obtain ⟨left, rfl, hleft⟩ := exists_fuel hfuel
  have hitems : ∀ item ∈ items, item.Reads (readValue texts left) := by
    intro item hitem
    obtain ⟨hitemSpace, hdenotes⟩ := h item hitem
    refine ⟨hitemSpace, hdenotes.opens, fun rest => hdenotes.reads left rest ?_⟩
    exact Nat.le_trans (length_le_itemsText item hitem)
      (Nat.le_trans (by rw [List.length_append]; exact Nat.le_add_right _ _) hleft)
  obtain ⟨c, tail, hskip, hclose, -, hread⟩ :=
    readItems_bracketed (.inl rfl) hne hitems hspace rest hleft
  have htext : '[' :: (itemsText items ++ (space ++ [']'])) ++ rest =
      '[' :: (itemsText items ++ (space ++ ']' :: rest)) := by simp
  rw [htext, readValue, if_neg (by decide), if_neg (by decide), if_pos rfl, hskip, readList.eq_def]
  split
  · rename_i hhead
    exact absurd (List.cons.inj hhead).1 hclose
  · rw [hread]
    rfl

theorem denotes_emptyList : Denotes texts ['[', ']'] (.list []) := by
  refine ⟨⟨'[', _, rfl, by decide, by decide, by decide⟩, ?_⟩
  intro fuel rest hfuel _
  obtain ⟨left, rfl, -⟩ := exists_fuel hfuel
  rfl

theorem readMember_memberText {read : List Char → Option (PyValue × List Char)} {key : String}
    {text rest : List Char} {value : PyValue} (hopens : Opens text)
    (hread : read (text ++ rest) = some (value, rest)) :
    readMember read (memberText key text ++ rest) = some ((key, value), rest) := by
  have htext : memberText key text ++ rest =
      '"' :: (key.toList.flatMap escapeChar ++ '"' :: (':' :: ' ' :: (text ++ rest))) := by
    simp [memberText, dumpsStr]
  have hlength : key.toList.length <
      (key.toList.flatMap escapeChar ++ '"' :: (':' :: ' ' :: (text ++ rest))).length := by
    rw [List.length_append, List.length_cons]
    have hle := length_le_flatMap_escapeChar key.toList
    omega
  have hcolon : skipSpaces (':' :: ' ' :: (text ++ rest)) = ':' :: ' ' :: (text ++ rest) :=
    skipSpaces_cons rfl _
  have hvalue : skipSpaces (' ' :: (text ++ rest)) = text ++ rest :=
    hopens.skipSpaces_append rest
  rw [htext, readMember, readString_escaped _ _ hlength]
  simp only [Option.bind_eq_bind, Option.bind_some, hcolon, hvalue, hread, String.ofList_toList]
  rfl

theorem opens_memberText (key : String) (text : List Char) : Opens (memberText key text) :=
  ⟨'"', _, rfl, by decide, by decide, by decide⟩

theorem denotes_dict {items : List (Item (String × PyValue))} (hne : items ≠ [])
    (h : ∀ item ∈ items, IsSpaces item.space ∧
      ∃ text, item.text = memberText item.value.1 text ∧ Denotes texts text item.value.2)
    {space : List Char} (hspace : IsSpaces space) :
    Denotes texts ('\x7b' :: (itemsText items ++ (space ++ ['\x7d'])))
      (.dict (dictOf (items.map Item.value))) := by
  refine ⟨⟨'\x7b', _, rfl, by decide, by decide, by decide⟩, ?_⟩
  intro fuel rest hfuel _
  obtain ⟨left, rfl, hleft⟩ := exists_fuel hfuel
  have hitems : ∀ item ∈ items, item.Reads (readMember (readValue texts left)) := by
    intro item hitem
    obtain ⟨hitemSpace, text, htext, hdenotes⟩ := h item hitem
    have hle : text.length ≤ left := by
      have hmember := length_le_itemsText item hitem
      rw [htext, memberText, List.length_append, List.length_cons, List.length_cons] at hmember
      rw [List.length_append] at hleft
      omega
    refine ⟨hitemSpace, htext ▸ opens_memberText _ text, fun rest hrest => ?_⟩
    rw [htext]
    exact readMember_memberText hdenotes.opens (hdenotes.reads left rest hle hrest)
  obtain ⟨c, tail, hskip, -, hclose, hread⟩ :=
    readItems_bracketed (.inr rfl) hne hitems hspace rest hleft
  have htext : '\x7b' :: (itemsText items ++ (space ++ ['\x7d'])) ++ rest =
      '\x7b' :: (itemsText items ++ (space ++ '\x7d' :: rest)) := by simp
  rw [htext, readValue, if_neg (by decide), if_pos rfl, hskip, readObject.eq_def]
  split
  · rename_i hhead
    exact absurd (List.cons.inj hhead).1 hclose
  · rw [hread]
    rfl

theorem denotes_emptyDict {space : List Char} (hspace : IsSpaces space) :
    Denotes texts ('\x7b' :: (space ++ ['\x7d'])) (.dict []) := by
  refine ⟨⟨'\x7b', _, rfl, by decide, by decide, by decide⟩, ?_⟩
  intro fuel rest hfuel _
  obtain ⟨left, rfl, -⟩ := exists_fuel hfuel
  have htext : '\x7b' :: (space ++ ['\x7d']) ++ rest = '\x7b' :: (space ++ '\x7d' :: rest) := by
    simp
  rw [htext, readValue, if_neg (by decide), if_pos rfl, skipSpaces_append hspace]
  rfl

/-! ### Repeated keys -/

theorem nodup_dictSet {entries : Entries} (h : (entries.map Prod.fst).Nodup) (key : String)
    (value : PyValue) : ((dictSet entries key value).map Prod.fst).Nodup := by
  cases hget : dictGet entries key with
  | none =>
    have hnew : key ∉ entries.map Prod.fst := by
      rw [← dictGet_isSome_iff, hget]
      exact Bool.false_ne_true
    rw [dictSet_of_notMem hget, List.map_append]
    refine List.nodup_append.mpr ⟨h, List.nodup_singleton key, ?_⟩
    rintro name hname name' hname' rfl
    obtain rfl : name = key := List.mem_singleton.mp hname'
    exact hnew hname
  | some old => rwa [keys_dictSet_of_mem (by rw [hget]; rfl)]

/-- **Pairs that agree where they repeat a key** set each of their keys to its value. -/
theorem dictGet_foldl_dictSet {entries pairs start : Entries}
    (h : ∀ pair ∈ pairs, dictGet entries pair.1 = some pair.2) (key : String) :
    dictGet (pairs.foldl (fun entries pair => dictSet entries pair.1 pair.2) start) key =
      if key ∈ pairs.map Prod.fst then dictGet entries key else dictGet start key := by
  induction pairs generalizing start with
  | nil => rfl
  | cons pair pairs ih =>
    obtain ⟨hpair, hpairs⟩ := List.forall_mem_cons.mp h
    rw [List.foldl_cons, ih hpairs, dictGet_dictSet, List.map_cons]
    by_cases hkey : key = pair.1
    · simp [hkey, hpair]
    · simp only [List.mem_cons, hkey, false_or, if_false]

theorem nodup_foldl_dictSet {pairs start : Entries} (h : (start.map Prod.fst).Nodup) :
    ((pairs.foldl (fun entries pair => dictSet entries pair.1 pair.2) start).map Prod.fst).Nodup := by
  induction pairs generalizing start with
  | nil => exact h
  | cons pair pairs ih => exact ih (nodup_dictSet h pair.1 pair.2)

/-- **The pairs of an object's own entries**, in any order and repeated or not, make the object. -/
theorem dictOf_spec {pairs entries : Entries} (hnodup : (entries.map Prod.fst).Nodup)
    (h : ∀ pair, pair ∈ pairs ↔ pair ∈ entries) :
    (entries.map Prod.fst).Perm ((dictOf pairs).map Prod.fst) ∧
      ∀ key, dictGet (dictOf pairs) key = dictGet entries key := by
  have hkeys : ∀ key, key ∈ pairs.map Prod.fst ↔ key ∈ entries.map Prod.fst := by
    intro key
    simp only [List.mem_map, h]
  have hget : ∀ key, dictGet (dictOf pairs) key = dictGet entries key := by
    intro key
    rw [dictOf, dictGet_foldl_dictSet fun pair hpair => dictGet_of_mem hnodup ((h pair).mp hpair)]
    by_cases hkey : key ∈ pairs.map Prod.fst
    · rw [if_pos hkey]
    · rw [if_neg hkey]
      rw [hkeys, ← dictGet_isSome_iff, Bool.not_eq_true, Option.isSome_eq_false_iff,
        Option.isNone_iff_eq_none] at hkey
      exact hkey.symm
  have hnodup' : ((dictOf pairs).map Prod.fst).Nodup :=
    nodup_foldl_dictSet (List.nodup_nil : (([] : Entries).map Prod.fst).Nodup)
  refine ⟨(List.perm_ext_iff_of_nodup hnodup hnodup').mpr fun key => ?_, hget⟩
  rw [← dictGet_isSome_iff, ← dictGet_isSome_iff]
  exact iff_of_eq (congrArg (·.isSome = true) (hget key).symm)

end

end SolarFlowEms.Json
