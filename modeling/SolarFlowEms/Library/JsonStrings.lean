import Mathlib.Tactic.IntervalCases
import SolarFlowEms.Library.PyValue

/-!
# Strings in JSON texts

`json.dumps` writes a string in ASCII: a quote, a backslash and five control characters have short
escapes, every other character that is no printable ASCII is written by its UTF-16 units.
`json.loads` reads the escapes back.  A unit of a pair that stands alone is no character here, and
is not read.
-/

namespace SolarFlowEms.Json

/-! ### Writing -/

def hex4 (n : ℕ) : List Char :=
  [Nat.digitChar (n / 4096 % 16), Nat.digitChar (n / 256 % 16), Nat.digitChar (n / 16 % 16),
    Nat.digitChar (n % 16)]

/-- The escapes of one letter: what is written, and the letter after the backslash. -/
def shortEscapes : List (Char × Char) :=
  [('"', '"'), ('\\', '\\'), ('\n', 'n'), ('\r', 'r'), ('\t', 't'), ('\x08', 'b'), ('\x0c', 'f')]

/-- The two units of a character beyond the first plane. -/
def highUnit (n : ℕ) : ℕ := 0xd800 + (n - 0x10000) / 1024

def lowUnit (n : ℕ) : ℕ := 0xdc00 + (n - 0x10000) % 1024

def unicodeEscape (n : ℕ) : List Char := '\\' :: 'u' :: hex4 n

/-- One character, as `ensure_ascii` writes it. -/
def escapeChar (c : Char) : List Char :=
  match shortEscapes.lookup c with
  | some letter => ['\\', letter]
  | none =>
    if 32 ≤ c.toNat ∧ c.toNat ≤ 126 then [c]
    else if c.toNat < 0x10000 then unicodeEscape c.toNat
    else unicodeEscape (highUnit c.toNat) ++ unicodeEscape (lowUnit c.toNat)

/-- `json.dumps(s)`. -/
def dumpsStr (s : String) : List Char := '"' :: s.toList.flatMap escapeChar ++ ['"']

/-! ### Reading -/

def hexValue? (c : Char) : Option ℕ :=
  if '0' ≤ c ∧ c ≤ '9' then some (c.toNat - 48)
  else if 'a' ≤ c ∧ c ≤ 'f' then some (c.toNat - 87)
  else if 'A' ≤ c ∧ c ≤ 'F' then some (c.toNat - 55)
  else none

def readHex4 : List Char → Option (ℕ × List Char)
  | a :: b :: c :: d :: rest => do
    return (4096 * (← hexValue? a) + 256 * (← hexValue? b) + 16 * (← hexValue? c) + (← hexValue? d),
      rest)
  | _ => none

def IsHigh (n : ℕ) : Prop := 0xd800 ≤ n ∧ n ≤ 0xdbff

def IsLow (n : ℕ) : Prop := 0xdc00 ≤ n ∧ n ≤ 0xdfff

instance (n : ℕ) : Decidable (IsHigh n) := inferInstanceAs (Decidable (_ ∧ _))

instance (n : ℕ) : Decidable (IsLow n) := inferInstanceAs (Decidable (_ ∧ _))

/-- The second unit of a pair, behind the first. -/
def readLow (high : ℕ) : List Char → Option (Char × List Char)
  | '\\' :: 'u' :: rest => do
    let (low, rest) ← readHex4 rest
    if IsLow low then
      some (Char.ofNat (0x10000 + (high - 0xd800) * 1024 + (low - 0xdc00)), rest)
    else none
  | _ => none

/-- The character behind `\u`. -/
def readUnicode (text : List Char) : Option (Char × List Char) := do
  let (n, rest) ← readHex4 text
  if IsHigh n then readLow n rest
  else if IsLow n then none
  else some (Char.ofNat n, rest)

/-- The character behind a backslash. -/
def readEscape : List Char → Option (Char × List Char)
  | 'u' :: rest => readUnicode rest
  | '/' :: rest => some ('/', rest)
  | letter :: rest => (shortEscapes.find? (·.2 = letter)).map fun escape => (escape.1, rest)
  | [] => none

def readChar : List Char → Option (Char × List Char)
  | '\\' :: rest => readEscape rest
  | c :: rest => if c.toNat < 32 then none else some (c, rest)
  | [] => none

/-- The characters behind the opening quote, up to the closing one. -/
def readString : ℕ → List Char → Option (List Char × List Char)
  | 0, _ => none
  | _ + 1, '"' :: rest => some ([], rest)
  | fuel + 1, text => do
    let (c, rest) ← readChar text
    let (cs, rest) ← readString fuel rest
    return (c :: cs, rest)

/-! ### Reading what is written -/

theorem hexValue?_digitChar {n : ℕ} (h : n < 16) : hexValue? (Nat.digitChar n) = some n := by
  interval_cases n <;> rfl

theorem readHex4_hex4 {n : ℕ} (h : n < 0x10000) (rest : List Char) :
    readHex4 (hex4 n ++ rest) = some (n, rest) := by
  have hdigit : ∀ m, hexValue? (Nat.digitChar (m % 16)) = some (m % 16) := fun m =>
    hexValue?_digitChar (Nat.mod_lt m (by omega))
  have hsum : 4096 * (n / 4096 % 16) + 256 * (n / 256 % 16) + 16 * (n / 16 % 16) + n % 16 = n := by
    omega
  show (do return (4096 * (← hexValue? (Nat.digitChar (n / 4096 % 16))) +
    256 * (← hexValue? (Nat.digitChar (n / 256 % 16))) +
    16 * (← hexValue? (Nat.digitChar (n / 16 % 16))) + (← hexValue? (Nat.digitChar (n % 16))),
    rest)) = _
  rw [hdigit, hdigit, hdigit, hdigit]
  exact congrArg (fun m => some (m, rest)) hsum

theorem not_unit (c : Char) : ¬IsHigh c.toNat ∧ ¬IsLow c.toNat := by
  have hvalid := c.valid
  unfold IsHigh IsLow Char.toNat
  unfold UInt32.isValidChar Nat.isValidChar at hvalid
  omega

theorem toNat_le (c : Char) : c.toNat ≤ 0x10ffff := by
  have hvalid := c.valid
  unfold Char.toNat
  unfold UInt32.isValidChar Nat.isValidChar at hvalid
  omega

theorem readUnicode_hex4 (c : Char) (h : c.toNat < 0x10000) (rest : List Char) :
    readUnicode (hex4 c.toNat ++ rest) = some (c, rest) := by
  obtain ⟨hhigh, hlow⟩ := not_unit c
  simp only [readUnicode, readHex4_hex4 h, Option.bind_eq_bind, Option.bind_some, if_neg hhigh,
    if_neg hlow, Char.ofNat_toNat]

theorem readLow_unicodeEscape {high low : ℕ} (h : IsLow low) (rest : List Char) :
    readLow high (unicodeEscape low ++ rest) =
      some (Char.ofNat (0x10000 + (high - 0xd800) * 1024 + (low - 0xdc00)), rest) := by
  have hlt : low < 0x10000 := Nat.lt_of_le_of_lt h.2 (by decide)
  simp only [readLow, unicodeEscape, List.cons_append, readHex4_hex4 hlt, Option.bind_eq_bind,
    Option.bind_some, if_pos h]

theorem readUnicode_units {high low n : ℕ} (hhigh : IsHigh high) (hlow : IsLow low)
    (hn : 0x10000 + (high - 0xd800) * 1024 + (low - 0xdc00) = n) (rest : List Char) :
    readUnicode (hex4 high ++ (unicodeEscape low ++ rest)) = some (Char.ofNat n, rest) := by
  have hlt : high < 0x10000 := Nat.lt_of_le_of_lt hhigh.2 (by decide)
  simp only [readUnicode, readHex4_hex4 hlt, Option.bind_eq_bind, Option.bind_some, if_pos hhigh,
    readLow_unicodeEscape hlow, hn]

theorem units_of_le {n : ℕ} (hge : 0x10000 ≤ n) (hle : n ≤ 0x10ffff) :
    IsHigh (highUnit n) ∧ IsLow (lowUnit n) ∧
      0x10000 + (highUnit n - 0xd800) * 1024 + (lowUnit n - 0xdc00) = n := by
  unfold IsHigh IsLow highUnit lowUnit
  omega

theorem readUnicode_pair (c : Char) (h : 0x10000 ≤ c.toNat) (rest : List Char) :
    readUnicode (hex4 (highUnit c.toNat) ++ (unicodeEscape (lowUnit c.toNat) ++ rest)) =
      some (c, rest) := by
  obtain ⟨hhigh, hlow, hvalue⟩ := units_of_le h (toNat_le c)
  rw [readUnicode_units hhigh hlow hvalue, Char.ofNat_toNat]

theorem readChar_shortEscape {c letter : Char} (h : shortEscapes.lookup c = some letter)
    (rest : List Char) : readChar ('\\' :: letter :: rest) = some (c, rest) := by
  obtain ⟨before, after, hsplit, -⟩ := List.lookup_eq_some_iff.mp h
  have hmem : (c, letter) ∈ shortEscapes := by
    rw [hsplit]
    exact List.mem_append_right before List.mem_cons_self
  simp only [shortEscapes, List.mem_cons, Prod.mk.injEq, List.not_mem_nil, or_false] at hmem
  rcases hmem with ⟨rfl, rfl⟩ | ⟨rfl, rfl⟩ | ⟨rfl, rfl⟩ | ⟨rfl, rfl⟩ | ⟨rfl, rfl⟩ | ⟨rfl, rfl⟩ |
    ⟨rfl, rfl⟩ <;> rfl

theorem readChar_plain {c : Char} (h : c ≠ '\\') (hge : 32 ≤ c.toNat) (rest : List Char) :
    readChar (c :: rest) = some (c, rest) := by
  rw [readChar.eq_def]
  split
  · rename_i htext
    exact absurd (List.cons.inj htext).1 h
  · rename_i htext
    obtain ⟨rfl, rfl⟩ := List.cons.inj htext
    exact if_neg (Nat.not_lt.mpr hge)
  · rename_i htext
    cases htext

/-- **A character that was written is read back.** -/
theorem readChar_escapeChar (c : Char) (rest : List Char) :
    readChar (escapeChar c ++ rest) = some (c, rest) := by
  unfold escapeChar
  cases hshort : shortEscapes.lookup c with
  | some letter => exact readChar_shortEscape hshort rest
  | none =>
    dsimp only
    split
    · rename_i hplain
      refine readChar_plain ?_ hplain.1 rest
      rintro rfl
      cases hshort
    · split
      · rename_i hplane
        exact readUnicode_hex4 c hplane rest
      · rename_i hplane
        rw [List.append_assoc]
        exact readUnicode_pair c (Nat.not_lt.mp hplane) rest

theorem escapeChar_head (c : Char) : ∃ head tail, escapeChar c = head :: tail ∧ head ≠ '"' := by
  unfold escapeChar
  cases hshort : shortEscapes.lookup c with
  | some letter => exact ⟨_, _, rfl, by decide⟩
  | none =>
    dsimp only
    split
    · refine ⟨c, [], rfl, ?_⟩
      rintro rfl
      cases hshort
    · split
      · exact ⟨_, _, rfl, by decide⟩
      · exact ⟨_, _, rfl, by decide⟩

theorem readString_cons {head : Char} {tail : List Char} (h : head ≠ '"') (fuel : ℕ) :
    readString (fuel + 1) (head :: tail) = (do
      let (c, rest) ← readChar (head :: tail)
      let (cs, rest) ← readString fuel rest
      return (c :: cs, rest)) := by
  rw [readString.eq_def]
  split
  · rename_i hfuel
    cases hfuel
  · rename_i htext
    exact absurd (List.cons.inj htext).1 h
  · rename_i hfuel htext
    obtain rfl := Nat.succ.inj hfuel
    rfl

theorem readString_escaped (cs rest : List Char) {fuel : ℕ} (h : cs.length < fuel) :
    readString fuel (cs.flatMap escapeChar ++ '"' :: rest) = some (cs, rest) := by
  induction cs generalizing fuel with
  | nil =>
    obtain ⟨fuel, rfl⟩ := Nat.exists_eq_succ_of_ne_zero (Nat.ne_zero_of_lt h)
    rfl
  | cons c cs ih =>
    obtain ⟨fuel, rfl⟩ := Nat.exists_eq_succ_of_ne_zero (Nat.ne_zero_of_lt h)
    obtain ⟨head, tail, hc, hhead⟩ := escapeChar_head c
    have hread := readChar_escapeChar c (cs.flatMap escapeChar ++ '"' :: rest)
    rw [List.flatMap_cons, List.append_assoc]
    rw [hc, List.cons_append] at hread ⊢
    rw [Nat.succ_eq_add_one, readString_cons hhead, hread]
    simp only [Option.bind_eq_bind, Option.bind_some, ih (Nat.lt_of_succ_lt_succ h)]
    rfl

theorem length_le_flatMap_escapeChar (cs : List Char) :
    cs.length ≤ (cs.flatMap escapeChar).length := by
  induction cs with
  | nil => exact Nat.le_refl 0
  | cons c cs ih =>
    obtain ⟨head, tail, hc, -⟩ := escapeChar_head c
    rw [List.flatMap_cons, hc, List.length_append, List.length_cons, List.length_cons]
    omega

end SolarFlowEms.Json
