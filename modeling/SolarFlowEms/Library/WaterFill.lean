import Mathlib.Algebra.BigOperators.Field
import Mathlib.Algebra.Order.BigOperators.Group.Finset
import Mathlib.Algebra.Order.Field.Basic
import Mathlib.Tactic.Linarith
import Mathlib.Tactic.FieldSimp

/-!
# Water filling: sharing a total by weight under individual limits

Claimants with a weight and a limit share a total.  At a common *level* `l` claimant
`i` takes `min (limit i) (l * weight i)`; the level is raised until the total is spent
or every claimant with a weight is at its limit.  `IsWaterFill` says that shares are
the result of this, whatever computed them, and `IsWaterFill.unique` that the level
need not be known: two fills of one total agree claimant by claimant.

`level_mul_rest_le` is the step fact of the usual algorithm, which hands the saturated
claimants their limit and starts again with the rest: the level never falls.
-/

namespace SolarFlowEms.WaterFill

open Finset

variable {ι K : Type*} [Field K] [LinearOrder K] [IsStrictOrderedRing K]

/-- What claimant `i` takes when the common level is `level`. -/
def fill (weight limit : ι → K) (level : K) (i : ι) : K :=
  min (limit i) (level * weight i)

omit [IsStrictOrderedRing K] in
theorem fill_le_limit (weight limit : ι → K) (level : K) (i : ι) :
    fill weight limit level i ≤ limit i := min_le_left _ _

theorem fill_nonneg {weight limit : ι → K} {level : K} (hlevel : 0 ≤ level)
    (hw : ∀ i, 0 ≤ weight i) (hl : ∀ i, 0 ≤ limit i) (i : ι) : 0 ≤ fill weight limit level i :=
  le_min (hl i) (mul_nonneg hlevel (hw i))

theorem fill_mono {weight : ι → K} (hw : ∀ i, 0 ≤ weight i) (limit : ι → K)
    {level level' : K} (h : level ≤ level') (i : ι) :
    fill weight limit level i ≤ fill weight limit level' i :=
  min_le_min_left _ (mul_le_mul_of_nonneg_right h (hw i))

omit [IsStrictOrderedRing K] in
theorem fill_eq_limit {weight limit : ι → K} {level : K} {i : ι}
    (h : limit i ≤ level * weight i) : fill weight limit level i = limit i := min_eq_left h

theorem fill_eq_zero {weight limit : ι → K} {level : K} (hlevel : 0 ≤ level) {i : ι}
    (hw : 0 ≤ weight i) (hl : 0 ≤ limit i) (h : ¬(0 < limit i ∧ 0 < weight i)) :
    fill weight limit level i = 0 := by
  rcases hl.eq_or_lt with hz | hpos
  · rw [fill, ← hz]
    exact min_eq_left (mul_nonneg hlevel hw)
  · have hwz : weight i = 0 := le_antisymm (not_lt.mp fun hwp => h ⟨hpos, hwp⟩) hw
    rw [fill, hwz, mul_zero]
    exact min_eq_right hl

section Total

variable [Fintype ι]

/-- What the claimants that have a weight can take together. -/
def capacity (weight limit : ι → K) : K := ∑ i, if 0 < weight i then limit i else 0

/-- The shares are a fill at some level, and spend the total as far as the limits allow. -/
structure IsWaterFill (total : K) (weight limit share : ι → K) : Prop where
  level : ∃ level, 0 ≤ level ∧ share = fill weight limit level
  sum : ∑ i, share i = min total (capacity weight limit)

namespace IsWaterFill

variable {total : K} {weight limit share share' : ι → K}

theorem nonneg (h : IsWaterFill total weight limit share) (hw : ∀ i, 0 ≤ weight i)
    (hl : ∀ i, 0 ≤ limit i) (i : ι) : 0 ≤ share i := by
  obtain ⟨level, hlevel, rfl⟩ := h.level
  exact fill_nonneg hlevel hw hl i

omit [IsStrictOrderedRing K] in
theorem le_limit (h : IsWaterFill total weight limit share) (i : ι) : share i ≤ limit i := by
  obtain ⟨level, _, rfl⟩ := h.level
  exact fill_le_limit weight limit level i

omit [IsStrictOrderedRing K] in
theorem sum_le (h : IsWaterFill total weight limit share) : ∑ i, share i ≤ total := by
  rw [h.sum]
  exact min_le_left _ _

/-- **A larger total lowers nobody's share.**  Of two levels the lower one gives every claimant at
most what the higher one does, and equal sums leave no room in between. -/
theorem mono {total' : K} (hw : ∀ i, 0 ≤ weight i) (h : IsWaterFill total weight limit share)
    (h' : IsWaterFill total' weight limit share') (hle : total ≤ total') (i : ι) :
    share i ≤ share' i := by
  have hsum : ∑ i, share i ≤ ∑ i, share' i := by
    rw [h.sum, h'.sum]
    exact min_le_min_right _ hle
  obtain ⟨level, _, rfl⟩ := h.level
  obtain ⟨level', _, rfl⟩ := h'.level
  rcases le_total level level' with hlevel | hlevel
  · exact fill_mono hw limit hlevel i
  · have hother := fun (i : ι) (_ : i ∈ univ) => fill_mono hw limit hlevel i
    exact ((sum_eq_sum_iff_of_le hother).mp ((sum_le_sum hother).antisymm hsum) i
      (mem_univ i)).ge

/-- **A fill is determined by its total.** -/
theorem unique (hw : ∀ i, 0 ≤ weight i) (h : IsWaterFill total weight limit share)
    (h' : IsWaterFill total weight limit share') : share = share' :=
  funext fun i => (h.mono hw h' le_rfl i).antisymm (h'.mono hw h le_rfl i)

omit [IsStrictOrderedRing K] in
/-- The claimants may be listed in another order. -/
theorem comp {ι' : Type*} [Fintype ι'] (h : IsWaterFill total weight limit share) (e : ι' ≃ ι) :
    IsWaterFill total (weight ∘ e) (limit ∘ e) (share ∘ e) := by
  obtain ⟨level, hlevel, rfl⟩ := h.level
  refine ⟨⟨level, hlevel, rfl⟩, ?_⟩
  have hcapacity : capacity (weight ∘ e) (limit ∘ e) = capacity weight limit :=
    e.sum_comp fun i => if 0 < weight i then limit i else 0
  rw [hcapacity, ← h.sum]
  exact e.sum_comp _

theorem nonneg_capacity (hl : ∀ i, 0 ≤ limit i) : 0 ≤ capacity weight limit := by
  refine sum_nonneg fun i _ => ?_
  split_ifs with hw
  · exact hl i
  · exact le_rfl

omit [IsStrictOrderedRing K] in
theorem of_nothing (hl : ∀ i, 0 ≤ limit i) (h : min total (capacity weight limit) = 0) :
    IsWaterFill total weight limit fun _ => 0 := by
  refine ⟨⟨0, le_rfl, funext fun i => ?_⟩, by rw [h, sum_const_zero]⟩
  rw [fill, zero_mul, min_eq_right (hl i)]

end IsWaterFill

end Total

/-! ### One round of saturation -/

variable {weight limit : ι → K} {active : Finset ι} {remaining : K}

/-- **The level does not fall.**  After the claimants that reach their limit at the level
`remaining / ∑ weight` were served, the rest still has at least that level's worth left. -/
theorem level_mul_rest_le [DecidableEq ι] (hW : 0 < ∑ i ∈ active, weight i) {saturated : Finset ι}
    (hsub : saturated ⊆ active)
    (hsat : ∀ i ∈ saturated, limit i ≤ remaining / (∑ i ∈ active, weight i) * weight i) :
    remaining / (∑ i ∈ active, weight i) * ∑ i ∈ active \ saturated, weight i
      ≤ remaining - ∑ i ∈ saturated, limit i := by
  have hserved : ∑ i ∈ saturated, limit i
      ≤ remaining / (∑ i ∈ active, weight i) * ∑ i ∈ saturated, weight i := by
    rw [mul_sum]
    exact sum_le_sum hsat
  have hsplit : ∑ i ∈ active \ saturated, weight i + ∑ i ∈ saturated, weight i
      = ∑ i ∈ active, weight i := sum_sdiff hsub
  have hall : remaining / (∑ i ∈ active, weight i) * ∑ i ∈ active, weight i = remaining :=
    div_mul_cancel₀ _ hW.ne'
  rw [← hsplit, mul_add, hsplit] at hall
  linarith

end SolarFlowEms.WaterFill
