import Mathlib.Data.Rat.Defs
import Mathlib.Data.String.Basic

/-!
# Values of a JSON document as Python holds them

What `json.loads` returns, and the questions Python code asks about such a value: which
type it has, whether it is a number, whether it equals an integer.  `True` and `1.0`
equal 1 in Python but are no integers, and code that forgets this is what such a model is
for.
-/

namespace SolarFlowEms.Python

/-- A float: a rational, or one of the three that are no number.  `json.loads` reads the
words `Infinity`, `-Infinity` and `NaN`. -/
inductive PyFloat where
  | finite (value : ℚ)
  | posInf
  | negInf
  | nan
deriving DecidableEq

/-- The exceptions of the language that a computation on a document can raise. -/
inductive PyException where
  | typeError
  | valueError
  | overflowError
  | recursionError
deriving DecidableEq

/-- A value of a document.  The keys of a `dict` are distinct, the later entry of a
repeated key being the one that is kept. -/
inductive PyValue where
  | none
  | bool (b : Bool)
  | int (z : ℤ)
  | float (x : PyFloat)
  | str (s : String)
  | list (items : List PyValue)
  | dict (entries : List (String × PyValue))

namespace PyValue

/-- `value is None`. -/
def isNone : PyValue → Bool
  | .none => true
  | _ => false

/-- `isinstance(value, int)` and no bool. -/
def int? : PyValue → Option ℤ
  | .int z => some z
  | _ => Option.none

/-- `isinstance(value, (int, float))` and no bool, read as a float. -/
def number? : PyValue → Option PyFloat
  | .int z => some (.finite z)
  | .float x => some x
  | _ => Option.none

/-- `isinstance(value, str)`. -/
def str? : PyValue → Option String
  | .str s => some s
  | _ => Option.none

/-- `isinstance(value, dict)`. -/
def dict? : PyValue → Option (List (String × PyValue))
  | .dict entries => some entries
  | _ => Option.none

/-- `isinstance(value, list)`. -/
def list? : PyValue → Option (List PyValue)
  | .list items => some items
  | _ => Option.none

/-- `value == z`: a bool is 0 or 1, and a float equals the integer it holds. -/
def eqInt (value : PyValue) (z : ℤ) : Bool :=
  match value with
  | .bool b => (if b then 1 else 0) = z
  | .int x => x = z
  | .float (.finite x) => x = z
  | _ => false

/-- `value == s`. -/
def eqStr (value : PyValue) (s : String) : Bool :=
  match value with
  | .str t => t = s
  | _ => false

@[simp] theorem int?_int (z : ℤ) : (PyValue.int z).int? = some z := rfl

theorem str?_eq_some {value : PyValue} {s : String} (h : value.str? = some s) : value = .str s := by
  cases value with
  | str t => rw [Option.some.inj h]
  | none | bool b | int z | float x | list items | dict entries => cases h

theorem dict?_eq_some {value : PyValue} {entries : List (String × PyValue)}
    (h : value.dict? = some entries) : value = .dict entries := by
  cases value with
  | dict entries' => rw [Option.some.inj h]
  | none | bool b | int z | float x | str s | list items => cases h

end PyValue

/-- `entries.get(key)`. -/
def dictGet (entries : List (String × PyValue)) (key : String) : Option PyValue :=
  entries.lookup key

/-- `entries.get(key)`, which is None for a key that is missing. -/
def getValue (entries : List (String × PyValue)) (key : String) : PyValue :=
  (dictGet entries key).getD .none

/-- `entries[key] = value`, in the place of the key where it is there. -/
def dictSet {α : Type} (entries : List (String × α)) (key : String) (value : α) :
    List (String × α) :=
  if entries.any (·.1 = key) then
    entries.map fun entry => if entry.1 = key then (key, value) else entry
  else entries ++ [(key, value)]

/-- `sorted(set(entries) - set(known))`, as far as its first key. -/
def firstUnknown (known : List String) (entries : List (String × PyValue)) : Option String :=
  ((entries.map Prod.fst).filter (· ∉ known)).min?

/-- The code points `str.strip` removes. -/
def isPySpace (c : Char) : Bool :=
  let n := c.toNat
  (9 ≤ n && n ≤ 13) || (28 ≤ n && n ≤ 32) || n = 133 || n = 160 || n = 5760 ||
    (8192 ≤ n && n ≤ 8202) || n = 8232 || n = 8233 || n = 8239 || n = 8287 || n = 12288

/-- `s.strip()`. -/
def pyStrip (s : String) : String :=
  String.ofList ((s.toList.dropWhile isPySpace).reverse.dropWhile isPySpace).reverse

end SolarFlowEms.Python
