import Mathlib.Data.Prod.Lex
import SolarFlowEms.Admin.SystemBuildId

/-!
# Versions of the Manager's package

Before a package is installed the Manager says which way the install moves: `compare` places the
offered version against the installed one by `version_key`.  What a manifest may carry as its
version is a grammar of its own.  Texts are lists of characters, and digits are ASCII digits.
-/

namespace SolarFlowEms.Appliance.Version

open SolarFlowEms.Admin (Pattern)
open SolarFlowEms.Admin.Pattern SolarFlowEms.Admin.SystemBuildId
open SolarFlowEms.Python (pyStrip)

/-! ### What a manifest may carry -/

/-- `[0-9]+\.[0-9]+\.[0-9]+`. -/
def threeNumbers : Pattern :=
  oneOrMore digit * (exactly "." * (oneOrMore digit * (exactly "." * oneOrMore digit)))

/-- `MANIFEST_VERSION`. -/
def manifestVersion : Pattern :=
  threeNumbers * maybe
    (exactly "~" * ((exactly "alpha" + exactly "beta" + exactly "rc") * oneOrMore digit) +
      exactly "~dev" * maybe (exactly "." * oneOrMore lowerOrDigit))

def alphanumeric : String := "0123456789ABCDEFGHIJKLMNOPQRSTUVWXYZabcdefghijklmnopqrstuvwxyz"

/-- `_READABLE_VERSION`. -/
def readableVersion : Pattern :=
  maybe (exactly "v") * (threeNumbers *
    maybe (anyOf "~-" * (anyOf alphanumeric * (anyOf (alphanumeric ++ ".~+-")).star)))

def strip (text : List Char) : List Char := (pyStrip (String.ofList text)).toList

/-- The version `parse_manifest` reads, where it does not refuse it. -/
def parseManifestVersion (text : List Char) : Option (List Char) :=
  let version := strip text
  if version = [] then none
  else if '-' ∈ version then none
  else if manifestVersion.rmatch version then some version
  else none

/-! ### The key of a version -/

def isDigits (chunk : List Char) : Bool := chunk ≠ [] && chunk.all Char.isDigit

def int (digits : List Char) : ℕ := Nat.ofDigitChars 10 digits 0

def coreNumber (chunk : List Char) : ℕ := if isDigits chunk then int chunk else 0

/-- `_TRAILING_NUMBER.match`. -/
def trailingNumber (chunk : List Char) : Option (List Char × List Char) :=
  let word := chunk.takeWhile fun c => !c.isDigit
  let digits := chunk.dropWhile fun c => !c.isDigit
  if word ≠ [] && isDigits digits then some (word, digits) else none

abbrev Identifier := ℕ ×ₗ List Char ×ₗ ℕ

def identifier (chunk : List Char) : Identifier :=
  if isDigits chunk then toLex (0, toLex ([], int chunk))
  else
    match trailingNumber chunk with
    | some (word, digits) => toLex (1, toLex (word.map Char.toLower, int digits))
    | none => toLex (1, toLex (chunk.map Char.toLower, 0))

/-- The text without its surrounding whitespace and its leading `v`s. -/
def raw (text : List Char) : List Char := (strip text).dropWhile fun c => c = 'v' || c = 'V'

def isMarker (c : Char) : Bool := c = '~' || c = '-'

def core (text : List Char) : List Char := (raw text).takeWhile fun c => !isMarker c

def prerelease (text : List Char) : List Char :=
  ((raw text).dropWhile fun c => !isMarker c).drop 1

def release (text : List Char) : ℕ × ℕ × ℕ :=
  let numbers := ((core text).splitOn '.').map coreNumber
  (numbers.getD 0 0, numbers.getD 1 0, numbers.getD 2 0)

def identifiers (prerelease : List Char) : List Identifier :=
  ((prerelease.map fun c => if c = '+' then '.' else c).splitOn '.').map identifier

abbrev Key := ℕ ×ₗ ℕ ×ₗ ℕ ×ₗ ℕ ×ₗ List Identifier

/-- `version_key`: tuples of Python are compared element by element, and so are its texts. -/
def versionKey (text : List Char) : Key :=
  let (major, minor, patch) := release text
  let rest : ℕ ×ₗ List Identifier :=
    if prerelease text = [] then toLex (1, []) else toLex (0, identifiers (prerelease text))
  toLex (major, toLex (minor, toLex (patch, rest)))

/-! ### The direction -/

inductive Direction where
  | upgrade
  | downgrade
  | reinstall
  | unknown
  deriving DecidableEq

def normalizeVersion (text : List Char) : List Char :=
  let stripped := strip text
  if stripped.head? = some 'v' then stripped.drop 1 else stripped

def isReadable (text : List Char) : Bool := readableVersion.rmatch (strip text)

/-- An untagged build: `DEVELOPMENT_VERSION_PREFIX` starts it. -/
def isDevelopment (text : List Char) : Bool :=
  "0.0.0~dev".toList.isPrefixOf (normalizeVersion text)

def isComparable (text : List Char) (package : Bool) : Bool :=
  if package && '-' ∈ text then false else isReadable text && !isDevelopment text

def sameVersion (left right : List Char) (package : Bool) : Bool :=
  if package then normalizeVersion left = normalizeVersion right
  else (normalizeVersion left).map Char.toLower = (normalizeVersion right).map Char.toLower

/-- `compare`: the direction and, where it is unknown, which side made it so. -/
def compare (offered installed : List Char) (package : Bool) : Direction × String :=
  if !isComparable installed package then (.unknown, "running")
  else if !isComparable offered package then (.unknown, "offered")
  else if sameVersion offered installed package then (.reinstall, "")
  else if versionKey installed < versionKey offered then (.upgrade, "")
  else if versionKey offered < versionKey installed then (.downgrade, "")
  else (.unknown, "tie")

def direction (offered installed : List Char) (package : Bool) : Direction :=
  (compare offered installed package).1

end SolarFlowEms.Appliance.Version
