import Mathlib.Data.List.Lex
import Mathlib.Data.Prod.Lex
import Mathlib.Data.List.TakeWhile
import Mathlib.Data.Char

/-!
# Debian's version order

An upstream version is read as parts, each a text without digits and the number after it, and two
versions are compared part by part. In a text a tilde ranks before the end, the end before a
letter, and a letter before every other character; numbers are compared by value.

The order is that of a key: the parts in turn, each text closed by the rank of its end, and the
end of the version after them.
-/

namespace SolarFlowEms.Debian

/-- The texts and the digits a version alternates between; one that starts with a digit has an
empty text before it. -/
def parts : List Char → List (List Char × List Char)
  | [] => []
  | c :: rest =>
    match parts rest with
    | [] => if c.isDigit then [([], [c])] else [([c], [])]
    | (word, digits) :: later =>
      if c.isDigit = false then (c :: word, digits) :: later
      else if word = [] then ([], c :: digits) :: later
      else ([], [c]) :: (word, digits) :: later

def number (digits : List Char) : ℕ := Nat.ofDigitChars 10 digits 0

def rank (c : Char) : ℕ :=
  if c = '~' then 0 else if c.isAlpha then c.toNat else c.toNat + 256

def wordKey (word : List Char) : List ℕ := word.map rank ++ [1]

/-- What a version that is not empty is compared by. -/
def key (version : List Char) : List (List ℕ ×ₗ ℕ) :=
  (parts version).map (fun part => toLex (wordKey part.1, number part.2)) ++
    [toLex (wordKey [], 0)]

theorem key_nil : key [] = [toLex (wordKey [], 0)] := rfl

/-! ### The first part -/

/-- A version is its first text, the digits after it and what follows them. -/
structure Reads (version word digits later : List Char) : Prop where
  eq : version = word ++ (digits ++ later)
  textual : ∀ c ∈ word, c.isDigit = false
  numeric : ∀ c ∈ digits, c.isDigit = true
  apart : ∀ c ∈ later.head?, c.isDigit = false
  closed : digits = [] → later = []

theorem exists_reads (version : List Char) :
    ∃ word digits later, Reads version word digits later := by
  let rest := version.dropWhile fun c => !c.isDigit
  have hrest : ∀ c ∈ rest.head?, c.isDigit = true := by
    intro c hc
    have hpass := List.head?_dropWhile_not (fun c : Char => !c.isDigit) version
    rw [show (version.dropWhile fun c => !c.isDigit).head? = some c from hc] at hpass
    simpa using hpass
  refine ⟨version.takeWhile fun c => !c.isDigit, rest.takeWhile Char.isDigit,
    rest.dropWhile Char.isDigit, ?_, ?_, ?_, ?_, ?_⟩
  · rw [List.takeWhile_append_dropWhile, List.takeWhile_append_dropWhile]
  · intro c hc
    simpa using List.mem_takeWhile_imp hc
  · intro c hc
    exact List.mem_takeWhile_imp hc
  · intro c hc
    have hpass := List.head?_dropWhile_not Char.isDigit rest
    rw [show (rest.dropWhile Char.isDigit).head? = some c from hc] at hpass
    simpa using hpass
  · intro hnone
    cases hchars : rest with
    | nil => rfl
    | cons c later =>
      rw [hchars, List.takeWhile_cons_of_pos (hrest c (by rw [hchars]; rfl))] at hnone
      exact absurd hnone (List.cons_ne_nil _ _)

theorem parts_cons_word {c : Char} (hc : c.isDigit = false) (rest : List Char) :
    ∃ word digits later, parts (c :: rest) = (c :: word, digits) :: later := by
  simp only [parts]
  split
  · exact ⟨[], [], [], by simp [hc]⟩
  · exact ⟨_, _, _, by rw [if_pos hc]⟩

theorem parts_digits {digits later : List Char} (hdigits : ∀ c ∈ digits, c.isDigit = true)
    (hlater : ∀ c ∈ later.head?, c.isDigit = false) (hne : digits ≠ []) :
    parts (digits ++ later) = ([], digits) :: parts later := by
  induction digits with
  | nil => exact absurd rfl hne
  | cons c rest ih =>
    have hc := hdigits c List.mem_cons_self
    by_cases hrest : rest = []
    · subst hrest
      cases hchars : later with
      | nil => simp [parts, hc]
      | cons d later' =>
        rw [hchars] at hlater
        obtain ⟨word, digits, rest', hparts⟩ := parts_cons_word (hlater d rfl) later'
        simp [parts.eq_2 c, hparts, hc]
    · simp [parts.eq_2 c, ih (fun d hd => hdigits d (List.mem_cons_of_mem c hd)) hrest, hc]

theorem parts_append_word {word rest word' digits : List Char} {later}
    (hword : ∀ c ∈ word, c.isDigit = false) (hrest : parts rest = (word', digits) :: later) :
    parts (word ++ rest) = (word ++ word', digits) :: later := by
  induction word with
  | nil => exact hrest
  | cons c rest' ih =>
    simp [parts.eq_2 c, ih fun d hd => hword d (List.mem_cons_of_mem c hd),
      hword c List.mem_cons_self]

theorem parts_word {word : List Char} (hword : ∀ c ∈ word, c.isDigit = false) (hne : word ≠ []) :
    parts word = [(word, [])] := by
  have hlast := hword _ (List.getLast_mem hne)
  have hone : parts [word.getLast hne] = [([word.getLast hne], [])] := by simp [parts, hlast]
  have := parts_append_word (fun c hc => hword c (List.dropLast_subset word hc)) hone
  rwa [List.dropLast_concat_getLast hne] at this

namespace Reads

variable {version word digits later : List Char}

section

variable (h : Reads version word digits later)
include h

theorem parts_eq (hne : version ≠ []) :
    parts version = (word, digits) :: parts later := by
  by_cases hdigits : digits = []
  · have hlater := h.closed hdigits
    have hversion : version = word := by rw [h.eq, hdigits, hlater]; simp
    rw [hversion] at hne ⊢
    rw [parts_word h.textual hne, hdigits, hlater, parts]
  · have := parts_append_word h.textual (parts_digits h.numeric h.apart hdigits)
    rwa [← h.eq, List.append_nil] at this

/-- **The key of a version is that of its first part before that of the rest.** -/
theorem key_eq (hne : version ≠ []) :
    key version = toLex (wordKey word, number digits) :: key later := by
  rw [key, h.parts_eq hne, List.map_cons, List.cons_append, key]

theorem append_word {text : List Char} (htext : ∀ c ∈ text, c.isDigit = false) :
    Reads (text ++ version) (text ++ word) digits later where
  eq := by rw [h.eq, List.append_assoc]
  textual c hc := (List.mem_append.mp hc).elim (htext c) (h.textual c)
  numeric := h.numeric
  apart := h.apart
  closed := h.closed

theorem mixed_iff (hne : version ≠ []) :
    1 < (parts version).length ↔ later ≠ [] := by
  rw [h.parts_eq hne]
  cases later with
  | nil => simp [parts]
  | cons c rest =>
    obtain ⟨_, _, _, hparts⟩ := parts_cons_word (h.apart c rfl) rest
    simp [hparts]

end

end Reads

/-! ### Comparing keys -/

theorem wordKey_append_lt {word left right : List Char} :
    wordKey (word ++ left) < wordKey (word ++ right) ↔ wordKey left < wordKey right := by
  induction word with
  | nil => rfl
  | cons c rest ih => simpa [wordKey, List.cons_lt_cons_iff] using ih

theorem lt_toNat_of_isAlpha {c : Char} (hc : c.isAlpha = true) : 64 < c.toNat ∧ c.toNat < 126 := by
  rcases (Bool.or_eq_true _ _).mp hc with hupper | hlower
  · obtain ⟨hge, hle⟩ := of_decide_eq_true hupper
    exact ⟨lt_of_lt_of_le (by decide : 64 < 65) hge, lt_of_le_of_lt hle (by decide : 90 < 126)⟩
  · obtain ⟨hge, hle⟩ := (Bool.and_eq_true _ _).mp hlower
    exact ⟨lt_of_lt_of_le (by decide : 64 < 97) (of_decide_eq_true hge),
      lt_of_le_of_lt (of_decide_eq_true hle) (by decide : 122 < 126)⟩

theorem rank_of_isAlpha {c : Char} (hc : c.isAlpha = true) : rank c = c.toNat := by
  have htilde : c ≠ '~' := by
    rintro rfl
    exact absurd hc (by decide)
  rw [rank, if_neg htilde, if_pos hc]

theorem one_lt_rank {c : Char} (htilde : c ≠ '~') : 1 < rank c := by
  by_cases hc : c.isAlpha = true
  · have := lt_toNat_of_isAlpha hc
    rw [rank_of_isAlpha hc]
    omega
  · rw [rank, if_neg htilde, if_neg hc]
    omega

/-- **Versions are compared by their first texts, then by the numbers after them, then by what
follows.** -/
theorem Reads.key_lt_iff {version word digits later version' word' digits' later' : List Char}
    (h : Reads version word digits later) (h' : Reads version' word' digits' later')
    (hne : version ≠ []) (hne' : version' ≠ []) :
    key version < key version' ↔ wordKey word < wordKey word' ∨ wordKey word = wordKey word' ∧
      (number digits < number digits' ∨ number digits = number digits' ∧
        key later < key later') := by
  rw [h.key_eq hne, h'.key_eq hne', List.cons_lt_cons_iff, Prod.Lex.toLex_lt_toLex,
    toLex_inj, Prod.mk.injEq]
  tauto

theorem key_append_lt_iff {text left right : List Char} (htext : ∀ c ∈ text, c.isDigit = false)
    (hleft : left ≠ []) (hright : right ≠ []) :
    key (text ++ left) < key (text ++ right) ↔ key left < key right := by
  obtain ⟨word, digits, later, h⟩ := exists_reads left
  obtain ⟨word', digits', later', h'⟩ := exists_reads right
  rw [(h.append_word htext).key_lt_iff (h'.append_word htext) (by simp [hleft]) (by simp [hright]),
    h.key_lt_iff h' hleft hright, wordKey_append_lt]
  simp [wordKey]

theorem key_tilde_lt (rest : List Char) : key ('~' :: rest) < key [] := by
  obtain ⟨word, digits, later, hparts⟩ := @parts_cons_word '~' (by decide) rest
  rw [key_nil, key, hparts, List.map_cons, List.cons_append, List.cons_lt_cons_iff,
    Prod.Lex.toLex_lt_toLex]
  exact .inl (.inl (List.cons_lt_cons_iff.mpr (.inl Nat.zero_lt_one)))

theorem key_nil_lt {c : Char} (hc : c.isDigit = false) (htilde : c ≠ '~') (rest : List Char) :
    key [] < key (c :: rest) := by
  obtain ⟨word, digits, later, hparts⟩ := parts_cons_word hc rest
  rw [key_nil, key, hparts, List.map_cons, List.cons_append, List.cons_lt_cons_iff,
    Prod.Lex.toLex_lt_toLex]
  refine .inl (.inl ?_)
  simp [wordKey, List.cons_lt_cons_iff, one_lt_rank htilde]

theorem wordKey_lt_of_lt {left right : List Char} (hleft : ∀ c ∈ left, c.isAlpha = true)
    (hright : ∀ c ∈ right, c.isAlpha = true) (hlt : left < right) :
    wordKey left < wordKey right := by
  induction right generalizing left with
  | nil => exact absurd hlt (List.not_lt_nil _)
  | cons r rest ih =>
    have hr := rank_of_isAlpha (hright r List.mem_cons_self)
    cases left with
    | nil =>
      have := lt_toNat_of_isAlpha (hright r List.mem_cons_self)
      simp [wordKey, List.cons_lt_cons_iff, hr]
      omega
    | cons l rest' =>
      rw [List.cons_lt_cons_iff] at hlt
      have hl := rank_of_isAlpha (hleft l List.mem_cons_self)
      simp only [wordKey, List.map_cons, List.cons_append, List.cons_lt_cons_iff, hl, hr]
      obtain hlr | ⟨rfl, hrest⟩ := hlt
      · exact .inl (UInt32.lt_iff_toNat_lt.mp hlr)
      · exact .inr ⟨rfl, ih (fun c hc => hleft c (List.mem_cons_of_mem l hc))
          (fun c hc => hright c (List.mem_cons_of_mem l hc)) hrest⟩

end SolarFlowEms.Debian
