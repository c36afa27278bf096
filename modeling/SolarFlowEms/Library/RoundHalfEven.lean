import Mathlib.Algebra.Order.Floor.Ring
import Mathlib.Tactic.Ring

/-!
# Rounding to the nearest integer, ties to the even one

The rounding rule of `round(x)` in Python and of the default IEEE mode, over any
ordered field with a floor.  The three facts the callers use are that it is
monotone, that it fixes the integers, and that it moves a number by at most a half.
-/

namespace SolarFlowEms.RoundHalfEven

variable {K : Type*} [Field K] [LinearOrder K] [IsStrictOrderedRing K] [FloorRing K]

/-- The nearest integer; of two equally near ones the even one. -/
def roundHalfEven (x : K) : ℤ :=
  if Int.fract x < 1 / 2 then ⌊x⌋
  else if 1 / 2 < Int.fract x then ⌊x⌋ + 1
  else if ⌊x⌋ % 2 = 0 then ⌊x⌋ else ⌊x⌋ + 1

omit [IsStrictOrderedRing K] in
theorem floor_le_roundHalfEven (x : K) : ⌊x⌋ ≤ roundHalfEven x := by
  unfold roundHalfEven
  split_ifs <;> omega

omit [IsStrictOrderedRing K] in
theorem roundHalfEven_le_floor_add_one (x : K) : roundHalfEven x ≤ ⌊x⌋ + 1 := by
  unfold roundHalfEven
  split_ifs <;> omega

@[simp] theorem roundHalfEven_intCast (n : ℤ) : roundHalfEven (n : K) = n := by
  simp [roundHalfEven]

@[simp] theorem roundHalfEven_zero : roundHalfEven (0 : K) = 0 := by
  exact_mod_cast roundHalfEven_intCast (K := K) 0

/-- **Rounding moves a number by at most a half.** -/
theorem abs_roundHalfEven_sub_le (x : K) : |(roundHalfEven x : K) - x| ≤ 1 / 2 := by
  have hx : (⌊x⌋ : K) + Int.fract x = x := Int.floor_add_fract x
  have h0 : 0 ≤ Int.fract x := Int.fract_nonneg x
  have h1 : Int.fract x < 1 := Int.fract_lt_one x
  rw [abs_le]
  unfold roundHalfEven
  split_ifs <;> push_cast <;> constructor <;> linarith

theorem roundHalfEven_mono_of_floor_eq {x y : K} (hf : ⌊x⌋ = ⌊y⌋) (hxy : x ≤ y) :
    roundHalfEven x ≤ roundHalfEven y := by
  have hfr : Int.fract x ≤ Int.fract y := by
    rw [Int.fract, Int.fract, hf]
    linarith
  unfold roundHalfEven
  rw [hf]
  split_ifs <;> first | omega | (exfalso; linarith)

theorem roundHalfEven_mono {x y : K} (hxy : x ≤ y) : roundHalfEven x ≤ roundHalfEven y := by
  rcases (Int.floor_mono hxy).lt_or_eq with hlt | heq
  · have hx := roundHalfEven_le_floor_add_one x
    have hy := floor_le_roundHalfEven y
    omega
  · exact roundHalfEven_mono_of_floor_eq heq hxy

theorem roundHalfEven_le_of_le_intCast {x : K} {n : ℤ} (h : x ≤ n) : roundHalfEven x ≤ n := by
  simpa using roundHalfEven_mono h

theorem le_roundHalfEven_of_intCast_le {x : K} {n : ℤ} (h : (n : K) ≤ x) :
    n ≤ roundHalfEven x := by
  simpa using roundHalfEven_mono h

theorem roundHalfEven_nonneg {x : K} (h : 0 ≤ x) : 0 ≤ roundHalfEven x :=
  le_roundHalfEven_of_intCast_le (by exact_mod_cast h)

end SolarFlowEms.RoundHalfEven
