import Mathlib.Computability.RegularExpressions
import SolarFlowEms.Library.StrippedText

/-!
# System Build identifiers

An identifier names the pair of images of one System Build.  It has one of five shapes, given by
patterns; it is never stripped or folded, and it is at most 128 characters long.  All shapes but
that of the builds of the first releases carry the short revision.
-/

namespace SolarFlowEms.Admin

open Python

/-! ### Patterns -/

abbrev Pattern := RegularExpression Char

namespace Pattern

open RegularExpression

def anyOf (characters : String) : Pattern := (characters.toList.map char).foldr (· + ·) 0

def exactly (text : String) : Pattern := (text.toList.map char).foldr (· * ·) 1

def maybe (p : Pattern) : Pattern := 1 + p

def oneOrMore (p : Pattern) : Pattern := p * p.star

def atMost (p : Pattern) : ℕ → Pattern
  | 0 => 1
  | n + 1 => maybe (p * atMost p n)

/-- `pattern.fullmatch(text)`. -/
def fullmatch (p : Pattern) (text : String) : Bool := p.rmatch text.toList

end Pattern

namespace SystemBuildId

open Pattern

def maxSystemBuildIdLength : ℕ := 128

def digit : Pattern := anyOf "0123456789"

def lowerOrDigit : Pattern := anyOf "abcdefghijklmnopqrstuvwxyz0123456789"

def lowerDigitDotDash : Pattern := anyOf "abcdefghijklmnopqrstuvwxyz0123456789.-"

def hexDigit : Pattern := anyOf "0123456789abcdef"

def hexRevision : Pattern := hexDigit ^ 7 * atMost hexDigit 33

def positiveInteger : Pattern := anyOf "123456789" * digit.star

def stableOrRc : Pattern :=
  exactly "v" * oneOrMore digit * exactly "." * oneOrMore digit * exactly "." * oneOrMore digit *
    maybe (exactly "-RC" * digit.star) * exactly "-" * lowerOrDigit * lowerDigitDotDash.star

def latest : Pattern := exactly "latest-" * lowerOrDigit * lowerDigitDotDash.star

def development : Pattern :=
  exactly "dev-" * lowerOrDigit *
    maybe ((anyOf "abcdefghijklmnopqrstuvwxyz0123456789._-").star * lowerOrDigit) *
    exactly "-" * hexRevision * exactly "-" * positiveInteger * exactly "-" * positiveInteger

/-- `_LOCAL`. -/
def localBuild : Pattern := exactly "local-" * hexRevision * maybe (exactly "-dirty")

def legacyCi : Pattern := positiveInteger * exactly "-" * positiveInteger

end SystemBuildId

/-! ### Recognition -/

inductive SystemBuildIdKind where
  | modernRelease
  | modernLatest
  | development
  | localBuild
  | legacyCi
deriving DecidableEq

def kindPatterns : List (SystemBuildIdKind × Pattern) :=
  [(.modernRelease, SystemBuildId.stableOrRc), (.modernLatest, SystemBuildId.latest),
    (.development, SystemBuildId.development), (.localBuild, SystemBuildId.localBuild),
    (.legacyCi, SystemBuildId.legacyCi)]

/-- The kind of a value that is an identifier, or the message of its ValueError. -/
def systemBuildIdKind (value : String) : Except String SystemBuildIdKind :=
  if value = "" then .error "system build id is required"
  else if value ≠ pyStrip value then
    .error "system build id must not contain surrounding whitespace"
  else if SystemBuildId.maxSystemBuildIdLength < value.length then
    .error ("system build id exceeds " ++ toString SystemBuildId.maxSystemBuildIdLength ++
      " characters")
  else
    match kindPatterns.find? fun entry => entry.2.fullmatch value with
    | some entry => .ok entry.1
    | none => .error "system build id has an unsupported format"

/-- An identifier with its kind. -/
structure ParsedSystemBuildId where
  value : String
  kind : SystemBuildIdKind
  recognized : systemBuildIdKind value = .ok kind
deriving DecidableEq

namespace ParsedSystemBuildId

theorem ne_empty (id : ParsedSystemBuildId) : id.value ≠ "" := by
  intro h
  have hkind := id.recognized
  rw [h] at hkind
  cases hkind

theorem stripped (id : ParsedSystemBuildId) : pyStrip id.value = id.value := by
  by_contra hne
  have hkind := id.recognized
  rw [systemBuildIdKind, if_neg id.ne_empty, if_pos (Ne.symm hne)] at hkind
  cases hkind

def asText (id : ParsedSystemBuildId) : Text := ⟨id.value, id.stripped, id.ne_empty⟩

end ParsedSystemBuildId

def parseSystemBuildId : PyValue → Except String ParsedSystemBuildId
  | .str value =>
    match h : systemBuildIdKind value with
    | .ok kind => .ok ⟨value, kind, h⟩
    | .error message => .error message
  | _ => .error "system build id is required"

@[simp] theorem parseSystemBuildId_value (id : ParsedSystemBuildId) :
    parseSystemBuildId (.str id.value) = .ok id := by
  obtain ⟨value, kind, h⟩ := id
  rw [parseSystemBuildId]
  split
  · rename_i kind' h'
    obtain rfl : kind' = kind := Except.ok.inj (h'.symm.trans h)
    rfl
  · rename_i message h'
    cases h'.symm.trans h

/-- `_short_revision`: the first seven characters of a revision. -/
def shortRevision (revision : String) : String := String.ofList ((pyStrip revision).toList.take 7)

/-- Whether a text has another in it: `needle in text`. -/
def contains (text needle : String) : Bool :=
  text.toList.tails.any needle.toList.isPrefixOf

def buildIdEmbedsRevision (id : ParsedSystemBuildId) (revision : String) : Bool :=
  if id.kind = .legacyCi then true else contains id.value (shortRevision revision)

end SolarFlowEms.Admin
