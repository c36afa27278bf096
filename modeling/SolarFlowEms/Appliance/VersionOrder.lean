import SolarFlowEms.Appliance.Version
import SolarFlowEms.Library.DebianVersion

/-!
# Version direction and Debian's order

What a manifest may carry is the grammar that dpkg and the key of a version are meant to order
alike.  It lets any core carry a development build `~dev.<id>`, and only those of `0.0.0` are
kept out of the comparison.  An identifier in which a letter follows a digit is text to the key
and parts to dpkg, so builds of one core can be placed the wrong way round; nothing else can.
-/

namespace SolarFlowEms.Appliance.Version

open RegularExpression Debian Language
open SolarFlowEms.Admin.Pattern
open SolarFlowEms.Python (pyStrip_pyStrip)

/-! ### The grammar -/

variable {text version y : List Char} {characters : String}

theorem mem_char {c : Char} :
    text ∈ (RegularExpression.char c).matches' ↔ text = [c] := Iff.rfl

theorem mem_anyOf :
    text ∈ (anyOf characters).matches' ↔ ∃ c ∈ characters.toList, text = [c] := by
  rw [anyOf]
  induction characters.toList with
  | nil => simp [notMem_zero]
  | cons c rest ih =>
    rw [List.map_cons, List.foldr_cons, matches'_add, mem_add, ih, mem_char,
      List.exists_mem_cons_iff]

theorem mem_exactly {text : String} {chars : List Char} :
    chars ∈ (exactly text).matches' ↔ chars = text.toList := by
  rw [exactly]
  induction text.toList generalizing chars with
  | nil => simp [mem_one]
  | cons c rest ih =>
    simp only [List.map_cons, List.foldr_cons, matches'_mul, mem_mul, mem_char, ih,
      exists_eq_left, List.singleton_append]
    exact eq_comm

theorem mem_oneOrMore :
    text ∈ (oneOrMore (anyOf characters)).matches' →
      text ≠ [] ∧ ∀ c ∈ text, c ∈ characters.toList := by
  rw [oneOrMore, matches'_mul, matches'_star, mem_mul]
  rintro ⟨first, hfirst, rest, hrest, rfl⟩
  obtain ⟨c, hc, rfl⟩ := mem_anyOf.mp hfirst
  obtain ⟨pieces, rfl, hpieces⟩ := mem_kstar.mp hrest
  refine ⟨List.cons_ne_nil _ _, List.forall_mem_cons.mpr ⟨hc, fun d hd => ?_⟩⟩
  obtain ⟨piece, hpiece, hmem⟩ := List.mem_flatten.mp hd
  obtain ⟨e, he, rfl⟩ := mem_anyOf.mp (hpieces piece hpiece)
  rwa [List.mem_singleton.mp hmem]

def digitChars : List Char := "0123456789".toList

def wordChars : List Char := "abcdefghijklmnopqrstuvwxyz0123456789".toList

theorem mem_wordChars {c : Char} (hc : c ∈ digitChars) : c ∈ wordChars := by
  have hall : digitChars.all (fun c => c ∈ wordChars) = true := by decide
  simpa using List.all_eq_true.mp hall c hc

def Number (text : List Char) : Prop := text ≠ [] ∧ ∀ c ∈ text, c ∈ digitChars

theorem exists_of_threeNumbers (h : text ∈ threeNumbers.matches') :
    ∃ a b c, Number a ∧ Number b ∧ Number c ∧ text = a ++ '.' :: (b ++ '.' :: c) := by
  simp only [threeNumbers, matches'_mul, mem_exactly, mem_mul] at h
  obtain ⟨a, ha, _, ⟨_, rfl, _, ⟨b, hb, _, ⟨_, rfl, c, hc, rfl⟩, rfl⟩, rfl⟩, rfl⟩ := h
  exact ⟨a, b, c, mem_oneOrMore ha, mem_oneOrMore hb, mem_oneOrMore hc, rfl⟩

def tags : List (List Char) := ["alpha".toList, "beta".toList, "rc".toList, "dev".toList]

/-- What follows the core of a version the grammar accepts. -/
inductive Suffix : List Char → Prop
  | release : Suffix []
  | tagged {tag digits} : tag ∈ tags → (tag = "dev".toList → digits = []) →
      (∀ c ∈ digits, c ∈ digitChars) → Suffix ('~' :: (tag ++ digits))
  | build {id} : id ≠ [] → (∀ c ∈ id, c ∈ wordChars) →
      Suffix ('~' :: ("dev.".toList ++ id))

/-- A version the grammar accepts, in its pieces. -/
structure Accepted (version a b c suffix : List Char) : Prop where
  stripped : strip version = version
  eq : version = (a ++ '.' :: (b ++ '.' :: c)) ++ suffix
  major : Number a
  minor : Number b
  patch : Number c
  suffix : Suffix suffix

theorem accepted_of_manifestVersion (h : manifestVersion.rmatch version)
    (hstripped : strip version = version) : ∃ a b c s, Accepted version a b c s := by
  rw [rmatch_iff_matches', manifestVersion, matches'_mul, mem_mul] at h
  obtain ⟨text, htext, s, hs, rfl⟩ := h
  obtain ⟨a, b, c, ha, hb, hc, rfl⟩ := exists_of_threeNumbers htext
  refine ⟨a, b, c, s, hstripped, rfl, ha, hb, hc, ?_⟩
  simp only [maybe, matches'_add, matches'_mul, matches'_epsilon, mem_add,
    mem_mul, mem_one, mem_exactly] at hs
  obtain rfl | ⟨_, rfl, _, ⟨tag, htag, n, hn, rfl⟩, rfl⟩ |
    ⟨_, rfl, _, rfl | ⟨_, rfl, id, hid, rfl⟩, rfl⟩ := hs
  · exact .release
  · refine @Suffix.tagged tag n ?_ ?_ (mem_oneOrMore hn).2
    · simp only [tags, List.mem_cons]
      exact (or_assoc.mp htag).imp_right (.imp_right .inl)
    · rintro rfl
      exact absurd htag (by decide)
  · exact @Suffix.tagged "dev".toList [] (by simp [tags]) (fun _ => rfl) (by simp)
  · exact .build (mem_oneOrMore hid).1 (mem_oneOrMore hid).2

/-! ### Reading an accepted version -/

theorem wordChars_all : wordChars.all (fun c =>
    c.toLower = c && (c.isDigit || c.isAlpha) && !isMarker c && c ≠ '.' && c ≠ '+') = true := by
  decide

theorem digitChars_all : digitChars.all (fun c => c.isDigit && c ≠ 'v' && c ≠ 'V') = true := by
  decide

theorem isDigit_of_mem {c : Char} (hc : c ∈ digitChars) : c.isDigit = true := by
  have := List.all_eq_true.mp digitChars_all c hc
  simp only [Bool.and_eq_true] at this
  exact this.1.1

theorem Suffix.eq_nil_or_cons {s : List Char} (hs : Suffix s) :
    s = [] ∨ ∃ rest, s = '~' :: rest := by
  cases hs with
  | release => exact .inl rfl
  | tagged | build => exact .inr ⟨_, rfl⟩

namespace Accepted

variable {v a b c s : List Char}

section

variable (h : Accepted v a b c s)
include h

theorem exists_head : ∃ d rest, v = d :: rest ∧ d ∈ digitChars := by
  obtain ⟨d, rest, rfl⟩ := List.exists_cons_of_ne_nil h.major.1
  exact ⟨d, _, h.eq, h.major.2 d List.mem_cons_self⟩

theorem raw_eq : raw v = v := by
  obtain ⟨d, rest, hv, hd⟩ := h.exists_head
  have := List.all_eq_true.mp digitChars_all d hd
  rw [raw, h.stripped, hv]
  exact List.dropWhile_cons_of_neg (by simp_all)

theorem not_isMarker :
    ∀ d ∈ a ++ '.' :: (b ++ '.' :: c), (!isMarker d) = true := by
  have hnumber : ∀ {n : List Char}, Number n → ∀ d ∈ n, (!isMarker d) = true := by
    intro n hn d hd
    have := List.all_eq_true.mp wordChars_all d (mem_wordChars (hn.2 d hd))
    simp only [Bool.and_eq_true] at this
    exact this.1.1.2
  intro d hd
  simp only [List.mem_append, List.mem_cons] at hd
  obtain hd | rfl | hd | rfl | hd := hd
  · exact hnumber h.major d hd
  · rfl
  · exact hnumber h.minor d hd
  · rfl
  · exact hnumber h.patch d hd

theorem core_eq : core v = a ++ '.' :: (b ++ '.' :: c) := by
  rw [core, h.raw_eq, h.eq, List.takeWhile_append_of_pos h.not_isMarker]
  obtain rfl | ⟨rest, rfl⟩ := h.suffix.eq_nil_or_cons
  · rw [List.takeWhile_nil, List.append_nil]
  · rw [List.takeWhile_cons_of_neg (by decide), List.append_nil]

theorem prerelease_eq : prerelease v = s.drop 1 := by
  rw [prerelease, h.raw_eq, h.eq, List.dropWhile_append_of_pos h.not_isMarker]
  obtain rfl | ⟨rest, rfl⟩ := h.suffix.eq_nil_or_cons
  · rfl
  · rw [List.dropWhile_cons_of_neg (by decide)]

end

end Accepted

theorem Number.isDigits {n : List Char} (h : Number n) : isDigits n = true := by
  simp only [Version.isDigits, Bool.and_eq_true, decide_eq_true_eq, List.all_eq_true]
  exact ⟨h.1, fun d hd => isDigit_of_mem (h.2 d hd)⟩

theorem Number.notMem {n : List Char} (h : Number n) : '.' ∉ n := fun hmem =>
  absurd (isDigit_of_mem (h.2 _ hmem)) (by decide)

theorem Accepted.release_eq {v a b c s : List Char} (h : Accepted v a b c s) :
    release v = (int a, int b, int c) := by
  rw [release, h.core_eq, List.splitOn_append_cons_self_of_not_mem h.major.notMem,
    List.splitOn_append_cons_self_of_not_mem h.minor.notMem,
    List.splitOn_eq_singleton h.patch.notMem]
  simp [coreNumber, h.major.isDigits, h.minor.isDigits, h.patch.isDigits]

def suffixKey (s : List Char) : ℕ ×ₗ List Identifier :=
  if s.drop 1 = [] then toLex (1, []) else toLex (0, identifiers (s.drop 1))

theorem Accepted.versionKey_eq {v a b c s : List Char} (h : Accepted v a b c s) :
    versionKey v = toLex (int a, toLex (int b, toLex (int c, suffixKey s))) := by
  rw [versionKey, h.release_eq, h.prerelease_eq, suffixKey]

theorem Accepted.key_eq {v a b c s : List Char} (h : Accepted v a b c s) :
    key v = toLex (wordKey [], int a) :: toLex (wordKey ['.'], int b) ::
      toLex (wordKey ['.'], int c) :: key s := by
  have reads : ∀ word n later : List Char, (∀ d ∈ word, d.isDigit = false) → Number n →
      (∀ d ∈ later.head?, d.isDigit = false) →
      key (word ++ (n ++ later)) = toLex (wordKey word, int n) :: key later := by
    intro word n later hword hn hlater
    have hreads : Reads (word ++ (n ++ later)) word n later :=
      ⟨rfl, hword, fun d hd => isDigit_of_mem (hn.2 d hd), hlater, fun hnil => absurd hnil hn.1⟩
    exact hreads.key_eq (by simp [hn.1])
  have hs : ∀ d ∈ s.head?, d.isDigit = false := by
    obtain rfl | ⟨rest, rfl⟩ := h.suffix.eq_nil_or_cons
    · simp
    · simp
  have ha := reads [] a ('.' :: (b ++ '.' :: (c ++ s))) (by simp) h.major (by simp)
  have hb := reads ['.'] b ('.' :: (c ++ s)) (by simp) h.minor (by simp)
  have hc := reads ['.'] c s (by simp) h.patch hs
  rw [h.eq]
  simp only [List.append_assoc, List.cons_append, List.nil_append] at ha hb hc ⊢
  rw [ha, hb, hc]

/-! ### Identifiers of development builds -/

def Mixed (id : List Char) : Prop := 1 < (parts id).length

def firstPart (id : List Char) : List Char × List Char := (parts id).headD ([], [])

/-- The key places the first identifier below the second one, and dpkg does not: a plain
identifier stands below every mixed one with its letters, and two mixed ones stand as texts. -/
def Misplaced (x y : List Char) : Prop :=
  Mixed y ∧
    ((¬Mixed x ∧ (firstPart x).1 = (firstPart y).1 ∧
        int (firstPart y).2 < int (firstPart x).2) ∨
      (Mixed x ∧ x < y ∧ ¬key x < key y))

/-- What the grammar takes for the identifier of a build. -/
def Id (x : List Char) : Prop := x ≠ [] ∧ ∀ c ∈ x, c ∈ wordChars

theorem isAlpha_of_mem {c : Char} (hc : c ∈ wordChars) (h : c.isDigit = false) :
    c.isAlpha = true := by
  have := List.all_eq_true.mp wordChars_all c hc
  simp only [Bool.and_eq_true, Bool.or_eq_true, h] at this
  simpa using this.1.1.1.2

theorem Id.map_toLower {x : List Char} (h : Id x) : x.map Char.toLower = x := by
  refine (List.map_congr_left fun c hc => ?_).trans (List.map_id x)
  have := List.all_eq_true.mp wordChars_all c (h.2 c hc)
  simp only [Bool.and_eq_true, decide_eq_true_eq] at this
  exact this.1.1.1.1

theorem digit_lt_alpha {c d : Char} (hc : c.isAlpha = true) (hd : d.isDigit = true) : d < c := by
  have hc' := (lt_toNat_of_isAlpha hc).1
  simp only [Char.isDigit, Bool.and_eq_true, decide_eq_true_eq, UInt32.le_iff_toNat_le] at hd
  apply UInt32.lt_iff_toNat_lt.mpr
  simp at hd
  simp
  omega

/-- A text that goes on with a digit stands above letters only where its own letters do, or where
they are the same. -/
theorem lt_of_lt_append {u u' rest : List Char} {d : Char} (hu : ∀ c ∈ u, c.isAlpha = true)
    (hd : d.isDigit = true) (hlt : u < u' ++ d :: rest) : u < u' ∨ u = u' := by
  induction u' generalizing u with
  | nil =>
    cases u with
    | nil => exact .inr rfl
    | cons c _ =>
      have hcd := digit_lt_alpha (hu c List.mem_cons_self) hd
      rw [List.nil_append, List.cons_lt_cons_iff] at hlt
      obtain h | ⟨rfl, -⟩ := hlt
      · exact absurd h hcd.asymm
      · exact absurd hcd (lt_irrefl _)
  | cons c' _ ih =>
    cases u with
    | nil => exact .inl (List.nil_lt_cons _ _)
    | cons c _ =>
      rw [List.cons_append, List.cons_lt_cons_iff] at hlt
      obtain h | ⟨rfl, h⟩ := hlt
      · exact .inl (List.cons_lt_cons_iff.mpr (.inl h))
      · obtain h | rfl := ih (fun e he => hu e (List.mem_cons_of_mem _ he)) h
        · exact .inl (List.cons_lt_cons_iff.mpr (.inr ⟨rfl, h⟩))
        · exact .inr rfl

theorem lt_append {u more : List Char} (hmore : more ≠ []) : u < u ++ more := by
  induction u with
  | nil =>
    obtain ⟨c, rest, rfl⟩ := List.exists_cons_of_ne_nil hmore
    exact List.nil_lt_cons _ _
  | cons c _ ih => exact List.cons_lt_cons_iff.mpr (.inr ⟨rfl, ih⟩)

theorem lt_of_append_lt {u u' rest : List Char} (hlt : u' ++ rest < u) : u' < u := by
  induction u' generalizing u with
  | nil =>
    cases u with
    | nil => exact absurd hlt (List.not_lt_nil _)
    | cons _ _ => exact List.nil_lt_cons _ _
  | cons c' _ ih =>
    cases u with
    | nil => exact absurd hlt (List.not_lt_nil _)
    | cons c _ =>
      rw [List.cons_append, List.cons_lt_cons_iff] at hlt
      rw [List.cons_lt_cons_iff]
      exact hlt.imp_right fun h => ⟨h.1, ih h.2⟩

section Reads

open SolarFlowEms.Debian (Reads)

variable {x u d later : List Char}

theorem isDigits_iff (h : Reads x u d later) (hx : x ≠ []) :
    isDigits x = true ↔ u = [] ∧ later = [] := by
  simp only [isDigits, Bool.and_eq_true, decide_eq_true_eq, List.all_eq_true]
  constructor
  · rintro ⟨-, hall⟩
    rw [h.eq] at hall
    constructor
    · cases u with
      | nil => rfl
      | cons c _ => exact absurd (hall c (by simp)) (by simp [h.textual c])
    · cases later with
      | nil => rfl
      | cons c _ => exact absurd (hall c (by simp)) (by rw [h.apart c rfl]; exact Bool.false_ne_true)
  · rintro ⟨rfl, rfl⟩
    refine ⟨hx, fun c hc => h.numeric c ?_⟩
    rwa [h.eq, List.nil_append, List.append_nil] at hc

theorem span_eq (h : Reads x u d later) : (x.takeWhile fun c => !c.isDigit) = u ∧
    (x.dropWhile fun c => !c.isDigit) = d ++ later := by
  have hrest : ∀ c ∈ (d ++ later).head?, c.isDigit = true := by
    cases d with
    | nil => simp [h.closed rfl]
    | cons c _ => simpa using h.numeric c
  have hu : ∀ c ∈ u, (!c.isDigit) = true := fun c hc => by rw [h.textual c hc, Bool.not_false]
  rw [h.eq, List.takeWhile_append_of_pos hu, List.dropWhile_append_of_pos hu]
  cases hchars : d ++ later with
  | nil => exact ⟨List.append_nil u, rfl⟩
  | cons c rest =>
    have hc := hrest c (by rw [hchars]; rfl)
    rw [List.takeWhile_cons_of_neg (by simp [hc]), List.dropWhile_cons_of_neg (by simp [hc])]
    exact ⟨List.append_nil u, rfl⟩

theorem identifier_mixed (h : Reads x u d later) (hid : Id x) (hlater : later ≠ []) :
    identifier x = toLex (1, toLex (x, 0)) := by
  have htail : isDigits (d ++ later) = false := by
    obtain ⟨c, rest, rfl⟩ := List.exists_cons_of_ne_nil hlater
    simp [isDigits, h.apart c rfl]
  rw [identifier, if_neg fun hd => hlater ((isDigits_iff h hid.1).mp hd).2, trailingNumber,
    (span_eq h).2, htail, Bool.and_false, if_neg Bool.false_ne_true, hid.map_toLower]

/-- An identifier no letter of which follows a digit is its letters and its number, and its flag
only says whether there are letters. -/
theorem identifier_plain (h : Reads x u d []) (hid : Id x) :
    identifier x = toLex (if u = [] then 0 else 1, toLex (u, int d)) := by
  by_cases hu : u = []
  · subst hu
    rw [identifier, if_pos ((isDigits_iff h hid.1).mpr ⟨rfl, rfl⟩), h.eq, if_pos rfl]
    rw [List.nil_append, List.append_nil]
  · have hword : u.map Char.toLower = u := by
      have := hid.map_toLower
      rw [h.eq, List.map_append] at this
      exact (List.append_inj this (List.length_map _)).1
    rw [identifier, if_neg fun hd => hu ((isDigits_iff h hid.1).mp hd).1, trailingNumber,
      (span_eq h).1, (span_eq h).2, List.append_nil, if_neg hu]
    by_cases hd : d = []
    · have hx : x = u := by rw [h.eq, hd]; simp
      simp [hd, isDigits, hx, hword, int]
    · have : isDigits d = true := by
        simpa [isDigits, hd] using h.numeric
      simp [hu, this, hword]

theorem alpha_of_reads (h : Reads x u d later) (hid : Id x) : ∀ c ∈ u, c.isAlpha = true := by
  intro c hc
  refine isAlpha_of_mem (hid.2 c ?_) (h.textual c hc)
  rw [h.eq]
  exact List.mem_append_left _ hc

theorem key_nil_lt_later (h : Reads x u d later) (hid : Id x) (hlater : later ≠ []) :
    key [] < key later := by
  obtain ⟨c, rest, rfl⟩ := List.exists_cons_of_ne_nil hlater
  have hc := List.all_eq_true.mp wordChars_all c (hid.2 c (by rw [h.eq]; simp))
  refine key_nil_lt (h.apart c rfl) ?_ rest
  rintro rfl
  exact absurd hc (by decide)

theorem misplaced_iff {y u' d' later' : List Char} (h : Reads x u d later)
    (h' : Reads y u' d' later') (hx : x ≠ []) (hy : y ≠ []) :
    Misplaced x y ↔ later' ≠ [] ∧ ((later = [] ∧ u = u' ∧ int d' < int d) ∨
      (later ≠ [] ∧ x < y ∧ ¬key x < key y)) := by
  rw [Misplaced, Mixed, Mixed, h.mixed_iff hx, h'.mixed_iff hy, firstPart, firstPart,
    h.parts_eq hx, h'.parts_eq hy, not_not, List.headD_cons, List.headD_cons]

end Reads

/-- **An identifier that is not misplaced stands as dpkg places it.** -/
theorem key_lt_of_identifier_lt {x : List Char} (hx : Id x) (hy : Id y)
    (hlt : identifier x < identifier y) (hmis : ¬Misplaced x y) :
    key x < key y := by
  obtain ⟨u, d, later, hr⟩ := exists_reads x
  obtain ⟨u', d', later', hr'⟩ := exists_reads y
  have hu := alpha_of_reads hr hx
  have hu' := alpha_of_reads hr' hy
  rw [misplaced_iff hr hr' hx.1 hy.1] at hmis
  rw [hr.key_lt_iff hr' hx.1 hy.1]
  have hword : u < u' → wordKey u < wordKey u' := wordKey_lt_of_lt hu hu'
  by_cases hlater : later = []
  · subst hlater
    rw [identifier_plain hr hx] at hlt
    by_cases hlater' : later' = []
    · subst hlater'
      -- letters and numbers decide both orders
      rw [identifier_plain hr' hy, Prod.Lex.toLex_lt_toLex, Prod.Lex.toLex_lt_toLex] at hlt
      obtain h | ⟨-, h | ⟨rfl, h⟩⟩ := hlt
      · obtain rfl : u = [] := by
          by_contra hne
          rw [if_neg hne] at h
          split at h <;> omega
        refine .inl (hword ?_)
        cases u' with
        | nil => exact absurd h (lt_irrefl _)
        | cons c _ => exact List.nil_lt_cons _ _
      · exact .inl (hword h)
      · exact .inr ⟨rfl, .inl h⟩
    · -- the plain identifier is below, by its letters or by its number
      have hle : u < u' ∨ u = u' := by
        by_cases hne : u = []
        · subst hne
          cases u' with
          | nil => exact .inr rfl
          | cons c _ => exact .inl (List.nil_lt_cons _ _)
        · rw [identifier_mixed hr' hy hlater', if_neg hne, Prod.Lex.toLex_lt_toLex,
            Prod.Lex.toLex_lt_toLex] at hlt
          obtain ⟨c, rest, hd'⟩ := List.exists_cons_of_ne_nil fun hnil => hlater' (hr'.closed hnil)
          refine @lt_of_lt_append u u' (rest ++ later') c hu
            (hr'.numeric c (by rw [hd']; exact List.mem_cons_self)) ?_
          obtain h | ⟨-, h | ⟨-, h⟩⟩ := hlt
          · exact absurd h (lt_irrefl _)
          · rwa [hr'.eq, hd'] at h
          · exact absurd h (Nat.not_lt_zero _)
      obtain h | rfl := hle
      · exact .inl (hword h)
      · have hnumber : int d ≤ int d' := by
          by_contra hgt
          exact hmis ⟨hlater', .inl ⟨rfl, rfl, by omega⟩⟩
        refine .inr ⟨rfl, ?_⟩
        obtain h | h := Nat.lt_or_eq_of_le hnumber
        · exact .inl h
        · exact .inr ⟨h, key_nil_lt_later hr' hy hlater'⟩
  · rw [identifier_mixed hr hx hlater] at hlt
    by_cases hlater' : later' = []
    · subst hlater'
      have hd : d ≠ [] := fun hnil => hlater (hr.closed hnil)
      rw [identifier_plain hr' hy, Prod.Lex.toLex_lt_toLex, Prod.Lex.toLex_lt_toLex] at hlt
      refine .inl (hword ?_)
      obtain h | ⟨-, h | ⟨rfl, -⟩⟩ := hlt
      · split at h <;> omega
      · rw [hr.eq] at h
        exact lt_of_append_lt h
      · obtain ⟨c, rest, rfl⟩ := List.exists_cons_of_ne_nil hd
        have hc := hr'.textual c (by rw [hr.eq]; simp)
        rw [hr.numeric c List.mem_cons_self] at hc
        exact absurd hc (by decide)
    · rw [identifier_mixed hr' hy hlater', Prod.Lex.toLex_lt_toLex, Prod.Lex.toLex_lt_toLex] at hlt
      rw [← hr.key_lt_iff hr' hx.1 hy.1]
      by_contra hkey
      obtain h | ⟨-, h | ⟨-, h⟩⟩ := hlt
      · exact absurd h (lt_irrefl _)
      · exact hmis ⟨hlater', .inr ⟨hlater, h, hkey⟩⟩
      · exact absurd h (lt_irrefl _)

theorem identifier_lt_of_misplaced {x : List Char} (hx : Id x) (hy : Id y)
    (h : Misplaced x y) : identifier x < identifier y ∧ ¬key x < key y := by
  obtain ⟨u, d, later, hr⟩ := exists_reads x
  obtain ⟨u', d', later', hr'⟩ := exists_reads y
  obtain ⟨hlater', ⟨rfl, rfl, hnumber⟩ | ⟨hlater, hlt, hkey⟩⟩ :=
    (misplaced_iff hr hr' hx.1 hy.1).mp h
  · rw [identifier_plain hr hx, identifier_mixed hr' hy hlater', Prod.Lex.toLex_lt_toLex,
      Prod.Lex.toLex_lt_toLex]
    constructor
    · by_cases hu : u = []
      · rw [if_pos hu]
        exact .inl zero_lt_one
      · rw [if_neg hu]
        refine .inr ⟨rfl, .inl ?_⟩
        rw [hr'.eq]
        exact lt_append fun hnil => hlater' (List.append_eq_nil_iff.mp hnil).2
    · rw [hr.key_lt_iff hr' hx.1 hy.1]
      rintro (h | ⟨-, h | ⟨h, -⟩⟩)
      · exact absurd h (lt_irrefl _)
      · exact absurd h hnumber.asymm
      · exact absurd h hnumber.ne'
  · rw [identifier_mixed hr hx hlater, identifier_mixed hr' hy hlater', Prod.Lex.toLex_lt_toLex,
      Prod.Lex.toLex_lt_toLex]
    exact ⟨.inr ⟨rfl, .inl hlt⟩, hkey⟩

/-! ### Suffixes -/

theorem Id.map_plus {x : List Char} (h : Id x) :
    (x.map fun c => if c = '+' then '.' else c) = x := by
  refine (List.map_congr_left fun c hc => ?_).trans (List.map_id x)
  have := List.all_eq_true.mp wordChars_all c (h.2 c hc)
  simp only [Bool.and_eq_true, decide_eq_true_eq] at this
  exact if_neg this.2

theorem Id.notMem {x : List Char} (h : Id x) : '.' ∉ x := fun hmem =>
  absurd (List.all_eq_true.mp wordChars_all _ (h.2 _ hmem)) (by decide)

theorem identifiers_one {x : List Char} (h : Id x) : identifiers x = [identifier x] := by
  rw [identifiers, h.map_plus, List.splitOn_eq_singleton h.notMem, List.map_singleton]

def dev : Identifier := toLex (1, toLex ("dev".toList, 0))

theorem identifiers_build {x : List Char} (h : Id x) :
    identifiers ("dev.".toList ++ x) = [dev, identifier x] := by
  have hdev : ("dev.".toList.map fun c => if c = '+' then '.' else c) = "dev".toList ++ ['.'] := by
    decide
  rw [identifiers, List.map_append, h.map_plus, hdev, List.append_assoc, List.singleton_append,
    List.splitOn_append_cons_self_of_not_mem (by simp), List.splitOn_eq_singleton h.notMem]
  rfl

theorem tags_all : tags.all (fun tag => tag ≠ [] && tag.all fun c =>
    c.isAlpha && !c.isDigit && decide (c ∈ wordChars)) = true := by decide

theorem of_mem_tags {tag : List Char} (h : tag ∈ tags) : Id tag ∧ (∀ c ∈ tag, c.isAlpha = true) ∧
    ∀ c ∈ tag, c.isDigit = false := by
  have := List.all_eq_true.mp tags_all tag h
  simp only [Bool.and_eq_true, decide_eq_true_eq, List.all_eq_true, Bool.not_eq_true'] at this
  exact ⟨⟨this.1, fun c hc => (this.2 c hc).2⟩, fun c hc => (this.2 c hc).1.1,
    fun c hc => (this.2 c hc).1.2⟩

theorem suffixKey_build {x : List Char} (h : Id x) :
    suffixKey ('~' :: ("dev.".toList ++ x)) = toLex (0, [dev, identifier x]) := by
  rw [← identifiers_build h]
  rfl

section Tagged

variable {tag n : List Char} (htag : tag ∈ tags) (hn : ∀ c ∈ n, c ∈ digitChars)

include htag hn

theorem reads_tagged : Reads (tag ++ n) tag n [] :=
  ⟨by rw [List.append_nil], (of_mem_tags htag).2.2, fun c hc => isDigit_of_mem (hn c hc), by simp,
    fun _ => rfl⟩

theorem id_tagged : Id (tag ++ n) := by
  refine ⟨by simp [(of_mem_tags htag).1.1], fun c hc => ?_⟩
  obtain hc | hc := List.mem_append.mp hc
  · exact (of_mem_tags htag).1.2 c hc
  · exact mem_wordChars (hn c hc)

theorem identifiers_tagged : identifiers (tag ++ n) = [toLex (1, toLex (tag, int n))] := by
  have hid := id_tagged htag hn
  rw [identifiers_one hid, identifier_plain (reads_tagged htag hn) hid,
    if_neg (of_mem_tags htag).1.1]

theorem suffixKey_tagged :
    suffixKey ('~' :: (tag ++ n)) = toLex (0, [toLex (1, toLex (tag, int n))]) := by
  rw [suffixKey, List.drop_one, List.tail_cons, if_neg (id_tagged htag hn).1,
    identifiers_tagged htag hn]

end Tagged

theorem wordKey_tag_lt {tag : List Char} (htag : tag ∈ tags) (hdev : ¬"dev".toList < tag)
    (u : List Char) : wordKey tag < wordKey ("dev.".toList ++ u) := by
  simp only [tags, List.mem_cons, List.not_mem_nil, or_false] at htag
  obtain rfl | rfl | rfl | rfl := htag
  · exact List.cons_lt_cons_iff.mpr (.inl (by decide))
  · exact List.cons_lt_cons_iff.mpr (.inl (by decide))
  · exact absurd (by decide) hdev
  · exact (@wordKey_append_lt "dev".toList [] ('.' :: u)).mpr
      (List.cons_lt_cons_iff.mpr (.inl (by decide)))

theorem wordKey_lt_tag {tag : List Char} (htag : tag ∈ tags) (hdev : "dev".toList < tag)
    (u : List Char) : wordKey ("dev.".toList ++ u) < wordKey tag := by
  simp only [tags, List.mem_cons, List.not_mem_nil, or_false] at htag
  obtain rfl | rfl | rfl | rfl := htag
  · exact absurd hdev (by decide)
  · exact absurd hdev (by decide)
  · exact List.cons_lt_cons_iff.mpr (.inl (by decide))
  · exact absurd hdev (by decide)

/-- **Suffixes that are not misplaced builds stand as dpkg places them.** -/
theorem Suffix.key_lt {s s' : List Char} (hs : Suffix s) (hs' : Suffix s')
    (hlt : suffixKey s < suffixKey s')
    (hmis : ∀ x y, s = '~' :: ("dev.".toList ++ x) → s' = '~' :: ("dev.".toList ++ y) →
      ¬Misplaced x y) :
    key s < key s' := by
  have hrelease : suffixKey [] = toLex (1, []) := rfl
  have htilde : ∀ {l r : List Char}, l ≠ [] → r ≠ [] →
      (key ('~' :: l) < key ('~' :: r) ↔ key l < key r) :=
    fun hl hr => @key_append_lt_iff ['~'] _ _ (by simp) hl hr
  have hdot : ∀ x : List Char, "dev.".toList ++ x ≠ [] := by simp
  cases hs with
  | release =>
    rw [hrelease] at hlt
    cases hs' with
    | release => exact absurd hlt (lt_irrefl _)
    | tagged htag _ hn =>
      rw [suffixKey_tagged htag hn, Prod.Lex.toLex_lt_toLex] at hlt
      simp at hlt
    | build hne hid =>
      rw [suffixKey_build ⟨hne, hid⟩, Prod.Lex.toLex_lt_toLex] at hlt
      simp at hlt
  | @tagged tag n htag hdev hn =>
    rw [suffixKey_tagged htag hn] at hlt
    have hne : tag ++ n ≠ [] := by simp [(of_mem_tags htag).1.1]
    cases hs' with
    | release => exact key_tilde_lt _
    | @tagged tag' n' htag' hdev' hn' =>
      rw [suffixKey_tagged htag' hn'] at hlt
      have hne' : tag' ++ n' ≠ [] := by simp [(of_mem_tags htag').1.1]
      refine (htilde hne hne').mpr ?_
      rw [(reads_tagged htag hn).key_lt_iff (reads_tagged htag' hn') hne hne']
      simp only [Prod.Lex.toLex_lt_toLex, List.cons_lt_cons_iff, lt_irrefl, false_or, true_and,
        and_false, or_false] at hlt
      obtain h | ⟨rfl, h⟩ := hlt
      · exact .inl (wordKey_lt_of_lt (of_mem_tags htag).2.1 (of_mem_tags htag').2.1 h)
      · exact .inr ⟨rfl, .inl h⟩
    | @build x hne' hid =>
      rw [suffixKey_build ⟨hne', hid⟩] at hlt
      obtain ⟨u, d, later, hr⟩ := exists_reads x
      refine (htilde hne (hdot x)).mpr ?_
      have hreads := @Reads.append_word _ _ _ _ hr "dev.".toList (by simp)
      rw [(reads_tagged htag hn).key_lt_iff hreads hne (hdot x)]
      refine .inl (wordKey_tag_lt htag (fun hgt => ?_) u)
      simp only [dev, Prod.Lex.toLex_lt_toLex, List.cons_lt_cons_iff, lt_irrefl, false_or, true_and,
        Nat.not_lt_zero, and_false, or_false, toLex_inj, Prod.mk.injEq] at hlt
      obtain h | ⟨⟨h, -⟩, -⟩ := hlt
      · exact absurd hgt h.asymm
      · exact absurd hgt (by rw [h]; exact lt_irrefl _)
  | @build x hne hid =>
    rw [suffixKey_build ⟨hne, hid⟩] at hlt
    cases hs' with
    | release => exact key_tilde_lt _
    | @tagged tag n htag hdev hn =>
      rw [suffixKey_tagged htag hn] at hlt
      obtain ⟨u, d, later, hr⟩ := exists_reads x
      have hne' : tag ++ n ≠ [] := by simp [(of_mem_tags htag).1.1]
      refine (htilde (hdot x) hne').mpr ?_
      have hreads := @Reads.append_word _ _ _ _ hr "dev.".toList (by simp)
      rw [hreads.key_lt_iff (reads_tagged htag hn) (hdot x) hne']
      simp only [dev, Prod.Lex.toLex_lt_toLex, List.cons_lt_cons_iff, lt_irrefl, false_or, true_and,
        toLex_inj, Prod.mk.injEq, List.not_lt_nil, and_false, or_false] at hlt
      obtain h | ⟨h, h'⟩ := hlt
      · exact .inl (wordKey_lt_tag htag h u)
      · rw [hdev h.symm] at h'
        exact absurd h' (lt_irrefl _)
    | @build y hne' hid' =>
      rw [suffixKey_build ⟨hne', hid'⟩] at hlt
      rw [htilde (hdot x) (hdot y), key_append_lt_iff (by simp) hne hne']
      apply key_lt_of_identifier_lt ⟨hne, hid⟩ ⟨hne', hid'⟩ ?_ (hmis x y rfl rfl)
      simpa [Prod.Lex.toLex_lt_toLex, List.cons_lt_cons_iff] using hlt

/-! ### Agreement with dpkg -/

/-- Both are development builds of one core, and the identifier of the first is misplaced against
that of the second. -/
def PlacedWrong (lower upper : List Char) : Prop :=
  release lower = release upper ∧ ∃ x y, prerelease lower = "dev.".toList ++ x ∧
    prerelease upper = "dev.".toList ++ y ∧ Misplaced x y

/-- The pair is compared, and the key places one of the two wrong. -/
def OutOfOrder (offered installed : List Char) : Prop :=
  isComparable offered true = true ∧ isComparable installed true = true ∧
    (PlacedWrong offered installed ∨ PlacedWrong installed offered)

def Direction.reversed : Direction → Direction
  | .upgrade => .downgrade
  | .downgrade => .upgrade
  | .reinstall => .reinstall
  | .unknown => .unknown

/-- The direction of a package is that of Debian's order, and swapping the two reverses it. -/
structure AgreesWithDpkg (offered installed : List Char) : Prop where
  upgrade : direction offered installed true = .upgrade → key installed < key offered
  downgrade : direction offered installed true = .downgrade →
    key offered < key installed
  reinstall : direction offered installed true = .reinstall →
    key offered = key installed
  reversed : direction installed offered true = (direction offered installed true).reversed

theorem direction_eq (offered installed : List Char) (package : Bool) :
    direction offered installed package =
      if isComparable installed package && isComparable offered package then
        if sameVersion offered installed package then .reinstall
        else if versionKey installed < versionKey offered then .upgrade
        else if versionKey offered < versionKey installed then .downgrade
        else .unknown
      else .unknown := by
  rw [direction, compare]
  cases isComparable installed package
  · rfl
  · cases isComparable offered package
    · rfl
    · simp only [Bool.not_true, Bool.false_eq_true, if_false, Bool.and_self, if_true]
      split_ifs <;> rfl

theorem sameVersion_comm (left right : List Char) (package : Bool) :
    sameVersion left right package = sameVersion right left package := by
  unfold sameVersion
  split <;> simp only [eq_comm]

/-- **Swapping the versions reverses the direction.** -/
theorem direction_swap (offered installed : List Char) (package : Bool) :
    direction installed offered package = (direction offered installed package).reversed := by
  rw [direction_eq, direction_eq, sameVersion_comm, Bool.and_comm]
  split
  next =>
    split
    next => rfl
    next =>
      by_cases hlt : versionKey installed < versionKey offered
      · rw [if_neg hlt.asymm, if_pos hlt, if_pos hlt]
        rfl
      · rw [if_neg hlt, if_neg hlt]
        split <;> rfl
  next => rfl

namespace Accepted

variable {v w a b c s a' b' c' s' : List Char}

section

variable (h : Accepted v a b c s)
include h

theorem normalizeVersion_eq : normalizeVersion v = v := by
  obtain ⟨d, rest, hv, hd⟩ := h.exists_head
  have := List.all_eq_true.mp digitChars_all d hd
  rw [normalizeVersion, h.stripped, if_neg]
  rw [hv]
  simp_all

theorem sameVersion_iff (h' : Accepted w a' b' c' s') :
    sameVersion v w true = true ↔ v = w := by
  rw [sameVersion, if_pos rfl, h.normalizeVersion_eq, h'.normalizeVersion_eq, decide_eq_true_eq]

theorem prerelease_build {x : List Char}
    (hs : prerelease v = "dev.".toList ++ x) : s = '~' :: ("dev.".toList ++ x) ∧ Id x := by
  rw [h.prerelease_eq] at hs
  cases h.suffix with
  | release => exact absurd hs (by simp)
  | tagged htag _ hn =>
    have hdot := (id_tagged htag hn).notMem
    rw [show _ ++ _ = _ from hs] at hdot
    exact absurd (List.mem_append_left x (by decide)) hdot
  | build hne hid =>
    obtain rfl := List.append_cancel_left (show "dev.".toList ++ _ = _ from hs)
    exact ⟨rfl, hne, hid⟩

/-- **Versions that are not placed wrong stand as dpkg places them.** -/
theorem key_lt (h' : Accepted w a' b' c' s')
    (hlt : versionKey v < versionKey w) (hplaced : ¬PlacedWrong v w) :
    key v < key w := by
  rw [h.versionKey_eq, h'.versionKey_eq] at hlt
  simp only [Prod.Lex.toLex_lt_toLex] at hlt
  rw [h.key_eq, h'.key_eq]
  simp only [List.cons_lt_cons_iff, Prod.Lex.toLex_lt_toLex, lt_irrefl, false_or, true_and,
    toLex_inj, Prod.mk.injEq]
  obtain h1 | ⟨h1, h2 | ⟨h2, h3 | ⟨h3, h4⟩⟩⟩ := hlt
  · exact .inl h1
  · exact .inr ⟨h1, .inl h2⟩
  · exact .inr ⟨h1, .inr ⟨h2, .inl h3⟩⟩
  · refine .inr ⟨h1, .inr ⟨h2, .inr ⟨h3, h.suffix.key_lt h'.suffix h4 ?_⟩⟩⟩
    rintro x y rfl rfl hmis
    exact hplaced ⟨by rw [h.release_eq, h'.release_eq, h1, h2, h3], x, y, h.prerelease_eq,
      h'.prerelease_eq, hmis⟩

theorem versionKey_lt (h' : Accepted w a' b' c' s') (hplaced : PlacedWrong v w) :
    versionKey v < versionKey w ∧ ¬key v < key w := by
  obtain ⟨hrelease, x, y, hx, hy, hmis⟩ := hplaced
  obtain ⟨rfl, hidx⟩ := h.prerelease_build hx
  obtain ⟨rfl, hidy⟩ := h'.prerelease_build hy
  obtain ⟨hlt, hkey⟩ := identifier_lt_of_misplaced hidx hidy hmis
  rw [h.release_eq, h'.release_eq] at hrelease
  simp only [Prod.mk.injEq] at hrelease
  obtain ⟨h1, h2, h3⟩ := hrelease
  rw [h.versionKey_eq, h'.versionKey_eq, h.key_eq, h'.key_eq, h1, h2, h3]
  simp only [Prod.Lex.toLex_lt_toLex, List.cons_lt_cons_iff, lt_irrefl, false_or, true_and]
  rw [suffixKey_build hidx, suffixKey_build hidy]
  have hcancel : ∀ l r : List Char, l ≠ [] → r ≠ [] →
      (key ('~' :: "dev.".toList ++ l) < key ('~' :: "dev.".toList ++ r) ↔
        key l < key r) :=
    fun l r hl hr => key_append_lt_iff (by simp) hl hr
  refine ⟨?_, fun hlt' => hkey ((hcancel x y hidx.1 hidy.1).mp hlt')⟩
  simpa [Prod.Lex.toLex_lt_toLex, List.cons_lt_cons_iff] using hlt

end

end Accepted

theorem strip_strip (text : List Char) : strip (strip text) = strip text := by
  rw [strip, strip, String.ofList_toList, pyStrip_pyStrip]

theorem accepted_of_parse
    (h : parseManifestVersion text = some version) : ∃ a b c s, Accepted version a b c s := by
  unfold parseManifestVersion at h
  simp only at h
  split_ifs at h with _ _ hmatch
  rw [← Option.some.inj h]
  exact accepted_of_manifestVersion hmatch (strip_strip text)

/-- **The direction agrees with dpkg exactly where no build is placed wrong.** -/
theorem direction_agrees_iff {offeredText installedText offered installed : List Char}
    (ho : parseManifestVersion offeredText = some offered)
    (hi : parseManifestVersion installedText = some installed) :
    AgreesWithDpkg offered installed ↔ ¬OutOfOrder offered installed := by
  obtain ⟨a, b, c, s, hv⟩ := accepted_of_parse ho
  obtain ⟨a', b', c', s', hw⟩ := accepted_of_parse hi
  have hsame := hv.sameVersion_iff hw
  constructor
  · rintro hagrees ⟨hco, hci, hplaced | hplaced⟩
    · obtain ⟨hlt, hkey⟩ := hv.versionKey_lt hw hplaced
      refine hkey (hagrees.downgrade ?_)
      rw [direction_eq, hco, hci, Bool.and_self, if_pos rfl, if_neg, if_neg hlt.asymm, if_pos hlt]
      rw [hsame]
      rintro rfl
      exact lt_irrefl _ hlt
    · obtain ⟨hlt, hkey⟩ := hw.versionKey_lt hv hplaced
      refine hkey (hagrees.upgrade ?_)
      rw [direction_eq, hco, hci, Bool.and_self, if_pos rfl, if_neg, if_pos hlt]
      rw [hsame]
      rintro rfl
      exact lt_irrefl _ hlt
  · intro hplaced
    have hdirection := direction_eq offered installed true
    by_cases hcomparable : isComparable installed true && isComparable offered true
    · rw [if_pos hcomparable] at hdirection
      rw [Bool.and_eq_true] at hcomparable
      have hup : ¬PlacedWrong installed offered := fun h =>
        hplaced ⟨hcomparable.2, hcomparable.1, .inr h⟩
      have hdown : ¬PlacedWrong offered installed := fun h =>
        hplaced ⟨hcomparable.2, hcomparable.1, .inl h⟩
      refine ⟨fun h => ?_, fun h => ?_, fun h => ?_, direction_swap offered installed true⟩
      · rw [hdirection] at h
        split_ifs at h with _ hlt
        exact hw.key_lt hv hlt hup
      · rw [hdirection] at h
        split_ifs at h with _ _ hlt
        exact hv.key_lt hw hlt hdown
      · rw [hdirection] at h
        split_ifs at h with heq
        rw [hsame.mp heq]
    · rw [if_neg hcomparable] at hdirection
      have hreversed := direction_swap offered installed true
      constructor <;> simp [hdirection, hreversed]

/-- Of two candidates neither is a development build, so that they stand as dpkg places them. -/
theorem direction_agrees_iff_candidates :
    AgreesWithDpkg "1.2.3~rc10".toList "1.2.3~rc2".toList := by
  have hno {lower upper : List Char} (h : (prerelease lower).head? ≠ some 'd') :
      ¬PlacedWrong lower upper := fun ⟨_, _, _, hdev, _⟩ => h (congrArg List.head? hdev)
  refine (@direction_agrees_iff " 1.2.3~rc10".toList "1.2.3~rc2".toList "1.2.3~rc10".toList
    "1.2.3~rc2".toList (by decide) (by decide)).mpr fun hplaced => ?_
  exact hplaced.2.2.elim (hno (by decide)) (hno (by decide))

/-- **A downgrade is shown as an upgrade**: dpkg reads the build `5a` as 5 and then a letter, the
key reads it as text, which it places above every number. -/
theorem downgrade_shown_as_upgrade :
    ¬∀ offeredText installedText offered installed : List Char,
      parseManifestVersion offeredText = some offered →
      parseManifestVersion installedText = some installed → AgreesWithDpkg offered installed := by
  intro h
  have hagrees := h "1.2.3~dev.5a".toList "1.2.3~dev.10".toList "1.2.3~dev.5a".toList
    "1.2.3~dev.10".toList (by decide) (by decide)
  exact absurd (hagrees.upgrade (by decide)) (by decide)

end SolarFlowEms.Appliance.Version
