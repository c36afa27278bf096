import SolarFlowEms.Library.WaterFill
import Mathlib.Algebra.Order.BigOperators.Ring.Finset
import Mathlib.Data.Fintype.Fin

/-!
# The weighted, limited allocation loop

`weighted_limited_allocation` hands out a total by weight; a device that reaches its
limit gets the limit, and the loop starts again with the rest for the others.  Every
round but the last removes a device, so one round per device and one more is enough.

The loop computes a water fill.  Its invariant is a level that never falls: the
devices served in earlier rounds were full at a lower level, hence are full at the
level at which the loop ends.
-/

namespace SolarFlowEms.TargetControl

open Finset WaterFill

variable {n : ℕ}

/-- The `while active and remaining > 0` loop. -/
def weightedLimitedAllocationLoop (weights limits : Fin n → ℚ) :
    ℕ → (Fin n → ℚ) → Finset (Fin n) → ℚ → (Fin n → ℚ)
  | 0, allocation, _, _ => allocation
  | fuel + 1, allocation, active, remaining =>
    if active = ∅ ∨ remaining ≤ 0 then allocation
    else
      let weightTotal := ∑ i ∈ active, weights i
      if weightTotal ≤ 0 then allocation
      else
        let share i := remaining * weights i / weightTotal
        let headroom i := limits i - allocation i
        let saturated := active.filter fun i => headroom i ≤ share i
        if saturated = ∅ then
          fun i => if i ∈ active then allocation i + share i else allocation i
        else
          let allocation' i := if i ∈ saturated then allocation i + headroom i else allocation i
          weightedLimitedAllocationLoop weights limits fuel allocation'
            (active.filter fun i => i ∉ saturated ∧ allocation' i < limits i)
            (remaining - ∑ i ∈ saturated, headroom i)

def activeDevices (weights limits : Fin n → ℚ) : Finset (Fin n) :=
  univ.filter fun i => 0 < limits i ∧ 0 < weights i

def weightedLimitedAllocation (total : ℚ) (weights limits : Fin n → ℚ) : Fin n → ℚ :=
  weightedLimitedAllocationLoop weights limits (n + 1) (fun _ => 0)
    (activeDevices weights limits) total

/-! ### The loop computes a fill of the active devices -/

/-- What the loop leaves behind, relative to the `base` level at which it started. -/
structure LoopFills (weights limits allocation : Fin n → ℚ) (active : Finset (Fin n))
    (remaining base : ℚ) (result : Fin n → ℚ) : Prop where
  level : ∃ level, base ≤ level ∧ ∀ i ∈ active, result i = fill weights limits level i
  frame : ∀ i ∉ active, result i = allocation i
  sum : ∑ i ∈ active, result i = min remaining (∑ i ∈ active, limits i)

variable {weights limits allocation : Fin n → ℚ} {active : Finset (Fin n)}
  {remaining base : ℚ}

theorem loopFills_of_done (hpos : ∀ i ∈ active, 0 < limits i ∧ 0 < weights i)
    (hfresh : ∀ i ∈ active, allocation i = 0) (hbase : 0 ≤ base)
    (hroom : base * ∑ i ∈ active, weights i ≤ remaining) (hdone : active = ∅ ∨ remaining ≤ 0) :
    LoopFills weights limits allocation active remaining base allocation := by
  rcases active.eq_empty_or_nonempty with rfl | hne
  · simp only [sum_empty, mul_zero] at hroom
    exact ⟨⟨base, le_rfl, by simp⟩, fun _ _ => rfl, by simp [hroom]⟩
  · have hW : 0 < ∑ i ∈ active, weights i := sum_pos (fun i hi => (hpos i hi).2) hne
    have hL : 0 < ∑ i ∈ active, limits i := sum_pos (fun i hi => (hpos i hi).1) hne
    have hrem : remaining = 0 := by
      have hle := hdone.resolve_left hne.ne_empty
      have hge : 0 ≤ base * ∑ i ∈ active, weights i := mul_nonneg hbase hW.le
      linarith
    have hzero : base = 0 := by
      rcases hbase.eq_or_lt with h | h
      · exact h.symm
      · have := mul_pos h hW
        linarith
    refine ⟨⟨base, le_rfl, fun i hi => ?_⟩, fun _ _ => rfl, ?_⟩
    · rw [hfresh i hi, fill, hzero, zero_mul, min_eq_right (hpos i hi).1.le]
    · rw [sum_congr rfl hfresh, hrem, min_eq_left hL.le, sum_const_zero]

theorem loopFills_of_unsaturated (hfresh : ∀ i ∈ active, allocation i = 0)
    (hW : 0 < ∑ i ∈ active, weights i) (hroom : base * ∑ i ∈ active, weights i ≤ remaining)
    (hunsat : ∀ i ∈ active, remaining * weights i / (∑ i ∈ active, weights i) < limits i) :
    LoopFills weights limits allocation active remaining base fun i =>
      if i ∈ active then allocation i + remaining * weights i / (∑ i ∈ active, weights i)
      else allocation i := by
  set W := ∑ i ∈ active, weights i with hWdef
  have hvalue : ∀ i ∈ active, (if i ∈ active then allocation i + remaining * weights i / W
      else allocation i) = remaining * weights i / W := by
    intro i hi
    rw [if_pos hi, hfresh i hi, zero_add]
  have hsum : ∑ i ∈ active, remaining * weights i / W = remaining := by
    rw [← sum_div, ← mul_sum, ← hWdef, mul_div_cancel_right₀ _ hW.ne']
  refine ⟨⟨remaining / W, (le_div_iff₀ hW).mpr hroom, fun i hi => ?_⟩, fun i hi => if_neg hi, ?_⟩
  · show (if i ∈ active then _ else _) = _
    rw [hvalue i hi, fill, div_mul_eq_mul_div, min_eq_right (hunsat i hi).le]
  · show ∑ i ∈ active, (if i ∈ active then _ else _) = _
    rw [sum_congr rfl hvalue, hsum, min_eq_left]
    calc remaining = ∑ i ∈ active, remaining * weights i / W := hsum.symm
      _ ≤ ∑ i ∈ active, limits i := sum_le_sum fun i hi => (hunsat i hi).le

theorem LoopFills.of_saturated {saturated : Finset (Fin n)} {allocation' result : Fin n → ℚ}
    (hsub : saturated ⊆ active) (hbase : base ≤ remaining / ∑ i ∈ active, weights i)
    (hw : ∀ i ∈ active, 0 < weights i)
    (hsat : ∀ i ∈ saturated, limits i ≤ remaining / (∑ i ∈ active, weights i) * weights i)
    (hserved : ∀ i ∈ saturated, allocation' i = limits i)
    (hkept : ∀ i ∉ saturated, allocation' i = allocation i)
    (hrest : LoopFills weights limits allocation' (active \ saturated)
      (remaining - ∑ i ∈ saturated, limits i) (remaining / ∑ i ∈ active, weights i) result) :
    LoopFills weights limits allocation active remaining base result := by
  have hfull : ∀ i ∈ saturated, result i = limits i := by
    intro i hi
    rw [hrest.frame i (by simp [hi]), hserved i hi]
  obtain ⟨level, hle, hfill⟩ := hrest.level
  refine ⟨⟨level, hbase.trans hle, fun i hi => ?_⟩, fun i hi => ?_, ?_⟩
  · by_cases hs : i ∈ saturated
    · have hmono := mul_le_mul_of_nonneg_right hle (hw i hi).le
      rw [hfull i hs, fill_eq_limit ((hsat i hs).trans hmono)]
    · exact hfill i (mem_sdiff.mpr ⟨hi, hs⟩)
  · have hs : i ∉ saturated := fun h => hi (hsub h)
    rw [hrest.frame i fun h => hi (mem_sdiff.mp h).1, hkept i hs]
  · rw [← sum_sdiff hsub, hrest.sum, sum_congr rfl hfull, ← sum_sdiff hsub (f := limits),
      ← min_add_add_right, sub_add_cancel]

/-- **The loop fills the active devices**, whatever it started with, as long as nothing
was allocated to them yet and what remains carries them at the base level. -/
theorem weightedLimitedAllocationLoop_fills (fuel : ℕ)
    (hfuel : active.card < fuel) (hpos : ∀ i ∈ active, 0 < limits i ∧ 0 < weights i)
    (hfresh : ∀ i ∈ active, allocation i = 0) (hbase : 0 ≤ base)
    (hroom : base * ∑ i ∈ active, weights i ≤ remaining) :
    LoopFills weights limits allocation active remaining base
      (weightedLimitedAllocationLoop weights limits fuel allocation active remaining) := by
  induction fuel generalizing allocation active remaining base with
  | zero => exact absurd hfuel (Nat.not_lt_zero _)
  | succ fuel ih =>
    rw [weightedLimitedAllocationLoop]
    by_cases hdone : active = ∅ ∨ remaining ≤ 0
    · rw [if_pos hdone]
      exact loopFills_of_done hpos hfresh hbase hroom hdone
    rw [if_neg hdone]
    obtain ⟨hne, hrem⟩ := not_or.mp hdone
    rw [not_le] at hrem
    have hW : 0 < ∑ i ∈ active, weights i :=
      sum_pos (fun i hi => (hpos i hi).2) (nonempty_iff_ne_empty.mpr hne)
    simp only [if_neg hW.not_ge]
    set W := ∑ i ∈ active, weights i with hWdef
    set saturated := active.filter fun i => limits i - allocation i ≤ remaining * weights i / W
      with hsatdef
    have hsub : saturated ⊆ active := filter_subset _ _
    have hheadroom : ∀ i ∈ saturated, limits i - allocation i = limits i := by
      intro i hi
      rw [hfresh i (hsub hi), sub_zero]
    by_cases hempty : saturated = ∅
    · rw [if_pos hempty]
      refine loopFills_of_unsaturated hfresh hW hroom fun i hi => ?_
      have hnot : i ∉ saturated := by simp [hempty]
      rw [hsatdef, mem_filter, not_and, not_le, hfresh i hi, sub_zero] at hnot
      exact hnot hi
    rw [if_neg hempty]
    have hlevel : 0 ≤ remaining / W := div_nonneg hrem.le hW.le
    have hsat : ∀ i ∈ saturated, limits i ≤ remaining / W * weights i := by
      intro i hi
      have hle := (mem_filter.mp hi).2
      rwa [hheadroom i hi, ← div_mul_eq_mul_div] at hle
    -- a device that is not saturated got nothing yet, so it stays below its limit
    have hrest : (active.filter fun i => i ∉ saturated ∧
        (if i ∈ saturated then allocation i + (limits i - allocation i) else allocation i)
          < limits i) = active \ saturated := by
      ext i
      simp only [mem_filter, mem_sdiff]
      refine and_congr_right fun hi => and_iff_left_of_imp fun hs => ?_
      rw [if_neg hs, hfresh i hi]
      exact (hpos i hi).1
    rw [hrest, sum_congr rfl hheadroom]
    refine LoopFills.of_saturated hsub ((le_div_iff₀ hW).mpr hroom) (fun i hi => (hpos i hi).2) hsat
      (fun i hi => by simp [hi]) (fun i hi => by simp [hi]) (ih ?_ ?_ ?_ hlevel ?_)
    · have hcard := card_lt_card (sdiff_ssubset hsub (nonempty_iff_ne_empty.mpr hempty))
      omega
    · exact fun i hi => hpos i (mem_sdiff.mp hi).1
    · intro i hi
      rw [if_neg (mem_sdiff.mp hi).2, hfresh i (mem_sdiff.mp hi).1]
    · exact level_mul_rest_le hW hsub hsat

/-- **`weighted_limited_allocation` is a water fill**: one level for everybody, and the
total spent as far as the limits of the devices with a weight allow. -/
theorem weightedLimitedAllocation_isWaterFill {total : ℚ} (hw : ∀ i, 0 ≤ weights i)
    (hl : ∀ i, 0 ≤ limits i) (htotal : 0 ≤ total) :
    IsWaterFill total weights limits (weightedLimitedAllocation total weights limits) := by
  have hfills : LoopFills weights limits (fun _ => 0) (activeDevices weights limits) total 0
      (weightedLimitedAllocation total weights limits) := by
    refine weightedLimitedAllocationLoop_fills (n + 1) ?_ ?_ (fun _ _ => rfl) le_rfl (by simpa)
    · have hcard := card_le_univ (activeDevices weights limits)
      rw [Fintype.card_fin] at hcard
      omega
    · exact fun i hi => (mem_filter.mp hi).2
  have hinactive : ∀ i ∉ activeDevices weights limits, ¬(0 < limits i ∧ 0 < weights i) := by
    intro i hi h
    exact hi (mem_filter.mpr ⟨mem_univ i, h⟩)
  obtain ⟨level, hlevel, hfill⟩ := hfills.level
  refine ⟨⟨level, hlevel, funext fun i => ?_⟩, ?_⟩
  · by_cases hi : i ∈ activeDevices weights limits
    · exact hfill i hi
    · rw [hfills.frame i hi, fill_eq_zero hlevel (hw i) (hl i) (hinactive i hi)]
  · have hsum : ∑ i, weightedLimitedAllocation total weights limits i
        = ∑ i ∈ activeDevices weights limits, weightedLimitedAllocation total weights limits i :=
      (sum_subset (subset_univ _) fun i _ hi => hfills.frame i hi).symm
    have hcap : capacity weights limits = ∑ i ∈ activeDevices weights limits, limits i := by
      rw [capacity, activeDevices, sum_filter]
      refine sum_congr rfl fun i _ => ?_
      rcases (hl i).eq_or_lt with hz | hpos
      · simp [← hz]
      · simp [hpos]
    rw [hsum, hfills.sum, hcap]

end SolarFlowEms.TargetControl
