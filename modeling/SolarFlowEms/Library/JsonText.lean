import SolarFlowEms.Library.Document
import SolarFlowEms.Library.JsonStrings

/-!
# JSON texts

The reader of JSON texts that `json.loads` is, and the rules by which a text denotes a value: a
value between other tokens is read as far as it goes, and a list or an object denotes what its
items do, whatever whitespace stands between them.  A writer of JSON is correct where its output
follows the rules.
-/

namespace SolarFlowEms.Json

open Python Documents

/-! ### Numbers -/

/-- The texts of floats, by the language: `float.__repr__` and `float`. -/
structure FloatTexts where
  repr : ℚ → List Char
  float : List Char → PyFloat

/-- `int.__repr__`. -/
def dumpsInt (z : ℤ) : List Char :=
  if z < 0 then '-' :: Nat.toDigits 10 z.natAbs else Nat.toDigits 10 z.natAbs

/-- The digits before the point: a single 0, or others that start with no 0. -/
def readDigits : List Char → Option (List Char × List Char)
  | '0' :: rest => some (['0'], rest)
  | text =>
    if text.takeWhile Char.isDigit = [] then none
    else some (text.takeWhile Char.isDigit, text.dropWhile Char.isDigit)

def readInteger : List Char → Option (List Char × List Char)
  | '-' :: rest => do
    let (digits, rest) ← readDigits rest
    return ('-' :: digits, rest)
  | text => readDigits text

/-- The point and its digits, where there are some. -/
def readFraction : List Char → List Char × List Char
  | '.' :: rest =>
    if rest.takeWhile Char.isDigit = [] then ([], '.' :: rest)
    else ('.' :: rest.takeWhile Char.isDigit, rest.dropWhile Char.isDigit)
  | text => ([], text)

/-- The sign of an exponent. -/
def readSign : List Char → List Char × List Char
  | '+' :: rest => (['+'], rest)
  | '-' :: rest => (['-'], rest)
  | text => ([], text)

def IsExponentMark (c : Char) : Prop := c = 'e' ∨ c = 'E'

instance (c : Char) : Decidable (IsExponentMark c) := inferInstanceAs (Decidable (_ ∨ _))

/-- The exponent, where there is one. -/
def readExponent : List Char → List Char × List Char
  | [] => ([], [])
  | mark :: rest =>
    let (sign, digits) := readSign rest
    if IsExponentMark mark ∧ digits.takeWhile Char.isDigit ≠ [] then
      (mark :: sign ++ digits.takeWhile Char.isDigit, digits.dropWhile Char.isDigit)
    else ([], mark :: rest)

/-- `int(text)` of the digits of an integer. -/
def intOf : List Char → ℤ
  | '-' :: digits => -(Nat.ofDigitChars 10 digits 0 : ℤ)
  | digits => Nat.ofDigitChars 10 digits 0

def readNumber (texts : FloatTexts) (text : List Char) : Option (PyValue × List Char) := do
  let (integer, rest) ← readInteger text
  let (fraction, rest) := readFraction rest
  let (exponent, rest) := readExponent rest
  if fraction = [] ∧ exponent = [] then return (.int (intOf integer), rest)
  else return (.float (texts.float (integer ++ fraction ++ exponent)), rest)

/-! ### Scalars -/

/-- `json.dumps(value)` of a value that holds no others. -/
def dumpsAtom (texts : FloatTexts) : PyValue → List Char
  | .none => ['n', 'u', 'l', 'l']
  | .bool true => ['t', 'r', 'u', 'e']
  | .bool false => ['f', 'a', 'l', 's', 'e']
  | .int z => dumpsInt z
  | .float (.finite x) => texts.repr x
  | .float .nan => ['N', 'a', 'N']
  | .float .posInf => ['I', 'n', 'f', 'i', 'n', 'i', 't', 'y']
  | .float .negInf => ['-', 'I', 'n', 'f', 'i', 'n', 'i', 't', 'y']
  | .str s => dumpsStr s
  | .list _ => []
  | .dict _ => []

/-- A key and the text of its value, as an object holds them. -/
def memberText (key : String) (text : List Char) : List Char := dumpsStr key ++ (':' :: ' ' :: text)

/-! ### Values -/

def isSpace (c : Char) : Bool := c = ' ' || c = '\t' || c = '\n' || c = '\r'

def skipSpaces (text : List Char) : List Char := text.dropWhile isSpace

/-- The words of a JSON text, with what each is. -/
def words : List (List Char × PyValue) :=
  [(['n', 'u', 'l', 'l'], .none), (['t', 'r', 'u', 'e'], .bool true),
    (['f', 'a', 'l', 's', 'e'], .bool false), (['N', 'a', 'N'], .float .nan),
    (['I', 'n', 'f', 'i', 'n', 'i', 't', 'y'], .float .posInf),
    (['-', 'I', 'n', 'f', 'i', 'n', 'i', 't', 'y'], .float .negInf)]

/-- What follows a word, where the text starts with it. -/
def afterWord : List Char → List Char → Option (List Char)
  | [], text => some text
  | c :: word, c' :: text => if c = c' then afterWord word text else none
  | _ :: _, [] => none

/-- A word or a number. -/
def readAtom (texts : FloatTexts) (text : List Char) : Option (PyValue × List Char) :=
  match words.findSome? fun word => (afterWord word.1 text).map fun rest => (word.2, rest) with
  | some read => some read
  | none => readNumber texts text

section

variable {α : Type}

/-- Items with commas between them, up to the closing bracket. -/
def readItems (read : List Char → Option (α × List Char)) (close : Char) :
    ℕ → List Char → Option (List α × List Char)
  | 0, _ => none
  | fuel + 1, text => do
    let (item, rest) ← read text
    match skipSpaces rest with
    | [] => none
    | c :: rest =>
      if c = close then some ([item], rest)
      else if c = ',' then do
        let (items, rest) ← readItems read close fuel (skipSpaces rest)
        return (item :: items, rest)
      else none

end

/-- A key and its value. -/
def readMember (read : List Char → Option (PyValue × List Char)) :
    List Char → Option ((String × PyValue) × List Char)
  | '"' :: text => do
    let (key, rest) ← readString text.length text
    match skipSpaces rest with
    | ':' :: rest => do
      let (value, rest) ← read (skipSpaces rest)
      return ((String.ofList key, value), rest)
    | _ => none
  | _ => none

/-- `dict(pairs)`: the later pair of a repeated key is kept. -/
def dictOf (pairs : Entries) : Entries :=
  pairs.foldl (fun entries pair => dictSet entries pair.1 pair.2) []

def readObject (read : List Char → Option (PyValue × List Char)) (fuel : ℕ) :
    List Char → Option (PyValue × List Char)
  | '\x7d' :: rest => some (.dict [], rest)
  | text => do
    let (pairs, rest) ← readItems (readMember read) '\x7d' fuel text
    return (.dict (dictOf pairs), rest)

def readList (read : List Char → Option (PyValue × List Char)) (fuel : ℕ) :
    List Char → Option (PyValue × List Char)
  | ']' :: rest => some (.list [], rest)
  | text => do
    let (items, rest) ← readItems read ']' fuel text
    return (.list items, rest)

/-- The value that a text starts with. -/
def readValue (texts : FloatTexts) : ℕ → List Char → Option (PyValue × List Char)
  | 0, _ => none
  | _ + 1, [] => none
  | fuel + 1, c :: rest =>
    if c = '"' then do
      let (s, rest) ← readString rest.length rest
      return (.str (String.ofList s), rest)
    else if c = '\x7b' then readObject (readValue texts fuel) fuel (skipSpaces rest)
    else if c = '[' then readList (readValue texts fuel) fuel (skipSpaces rest)
    else readAtom texts (c :: rest)

/-- `json.loads(text)`. -/
def loads (texts : FloatTexts) (text : List Char) : Option PyValue := do
  let (value, rest) ← readValue texts text.length (skipSpaces text)
  if skipSpaces rest = [] then return value else none

end SolarFlowEms.Json
