import SolarFlowEms.Library.Loop
import SolarFlowEms.TargetControl.Allocation
import SolarFlowEms.TargetControl.Constraints

/-!
# The allocation loops return, and what they return

Both loops are `while` loops over a state of their own: the one hands a total out by weight until no
device is saturated any more, the other hands out what a clamp cut off until nothing is left or every
device is full.  Each is given here as the step of a loop, and it returns what was computed for it.
-/

namespace SolarFlowEms.TargetControl

open Finset WaterFill RoundHalfEven Loop

variable {n : ℕ}

/-! ### Sharing by weight -/

/-- The variables of the `while active and remaining > 0` loop. -/
structure AllocationState (n : ℕ) where
  allocation : Fin n → ℚ
  active : Finset (Fin n)
  remaining : ℚ

/-- One turn of the loop: it breaks, or goes on without the devices that were saturated. -/
def allocationTurn (weights limits : Fin n → ℚ) (s : AllocationState n) :
    AllocationState n ⊕ (Fin n → ℚ) :=
  if s.active = ∅ ∨ s.remaining ≤ 0 then .inr s.allocation
  else
    let weightTotal := ∑ i ∈ s.active, weights i
    if weightTotal ≤ 0 then .inr s.allocation
    else
      let share i := s.remaining * weights i / weightTotal
      let headroom i := limits i - s.allocation i
      let saturated := s.active.filter fun i => headroom i ≤ share i
      if saturated = ∅ then
        .inr fun i => if i ∈ s.active then s.allocation i + share i else s.allocation i
      else
        let allocation' i := if i ∈ saturated then s.allocation i + headroom i else s.allocation i
        .inl ⟨allocation', s.active.filter fun i => i ∉ saturated ∧ allocation' i < limits i,
          s.remaining - ∑ i ∈ saturated, headroom i⟩

variable {weights limits : Fin n → ℚ}

theorem fuelled_allocation : Fuelled (allocationTurn weights limits) fun k s =>
    weightedLimitedAllocationLoop weights limits k s.allocation s.active s.remaining where
  done k s a h := by
    rw [allocationTurn] at h
    rw [weightedLimitedAllocationLoop]
    split at h
    · next hdone => rw [if_pos hdone, Sum.inr.inj h]
    · next hgo =>
      rw [if_neg hgo]
      dsimp only at h ⊢
      split at h
      · next hweight => rw [if_pos hweight, Sum.inr.inj h]
      · next hweight =>
        rw [if_neg hweight]
        split at h
        · next hnone => rw [if_pos hnone, Sum.inr.inj h]
        · cases h
  next k s s' h := by
    rw [allocationTurn] at h
    rw [weightedLimitedAllocationLoop]
    split at h
    · cases h
    · next hgo =>
      rw [if_neg hgo]
      dsimp only at h ⊢
      split at h
      · cases h
      · next hweight =>
        rw [if_neg hweight]
        split at h
        · cases h
        · next hsome => rw [if_neg hsome, ← Sum.inl.inj h]

theorem card_active_allocationTurn {s s' : AllocationState n}
    (h : allocationTurn weights limits s = .inl s') : s'.active.card < s.active.card := by
  rw [allocationTurn] at h
  split at h
  · cases h
  · dsimp only at h
    split at h
    · cases h
    · split at h
      · cases h
      · next hsome =>
        rw [← Sum.inl.inj h]
        obtain ⟨i, hi⟩ := nonempty_iff_ne_empty.mpr hsome
        refine card_lt_card ⟨filter_subset _ _, fun hsubset => ?_⟩
        have hmem := hsubset (mem_filter.mp hi).1
        exact (mem_filter.mp hmem).2.1 hi

theorem weightedLimitedAllocation_returns (total : ℚ) (weights limits : Fin n → ℚ) :
    Returns (allocationTurn weights limits)
      ⟨fun _ => 0, activeDevices weights limits, total⟩
      (weightedLimitedAllocation total weights limits) := by
  have hcard : (activeDevices weights limits).card ≤ n + 1 := by
    have h := card_le_univ (activeDevices weights limits)
    rw [Fintype.card_fin] at h
    omega
  have hstep : ∀ s s' : AllocationState n, True → allocationTurn weights limits s = .inl s' →
      True ∧ s'.active.card < s.active.card :=
    fun s s' _ h => ⟨trivial, card_active_allocationTurn h⟩
  have hend : ∀ s : AllocationState n, True → s.active.card = 0 → allocationTurn weights limits s =
      .inr (weightedLimitedAllocationLoop weights limits 0 s.allocation s.active s.remaining) := by
    intro s _ hempty
    rw [allocationTurn, if_pos (.inl (card_eq_zero.mp hempty))]
    rfl
  exact fuelled_allocation.returns hstep hend trivial hcard

theorem weightedLimitedAllocation_of_nonpos {total : ℚ} (h : total ≤ 0) :
    weightedLimitedAllocation total weights limits = fun _ => 0 := by
  rw [weightedLimitedAllocation, weightedLimitedAllocationLoop, if_pos (.inr h)]

theorem sum_limits_activeDevices (hl : ∀ i, 0 ≤ limits i) :
    ∑ i ∈ activeDevices weights limits, limits i = capacity weights limits := by
  rw [capacity, activeDevices, sum_filter]
  refine sum_congr rfl fun i _ => ?_
  rcases (hl i).eq_or_lt with hz | hpos
  · simp [← hz]
  · simp [hpos]

/-- **`weighted_limited_allocation` returns the shares at one level**: `min (limit, level · weight)` for
every device with a weight and a limit and nothing for the others, and together exactly what there is
to share as far as the limits allow. -/
theorem weightedLimitedAllocation_shares (total : ℚ) (weights limits : Fin n → ℚ)
    (hw : ∀ i, 0 ≤ weights i) (hl : ∀ i, 0 ≤ limits i) :
    ∃ shares, Returns (allocationTurn weights limits)
        ⟨fun _ => 0, activeDevices weights limits, total⟩ shares ∧
      (∃ level, ∀ i, shares i =
        if 0 < weights i ∧ 0 < limits i then min (limits i) (level * weights i) else 0) ∧
      ∑ i, shares i = min (max total 0) (∑ i ∈ activeDevices weights limits, limits i) := by
  refine ⟨_, weightedLimitedAllocation_returns total weights limits, ?_⟩
  have hcapacity : 0 ≤ capacity weights limits := IsWaterFill.nonneg_capacity hl
  have hfill : IsWaterFill (max total 0) weights limits
      (weightedLimitedAllocation total weights limits) := by
    rcases le_total total 0 with hneg | hpos
    · rw [weightedLimitedAllocation_of_nonpos hneg, max_eq_right hneg]
      exact IsWaterFill.of_nothing hl (min_eq_left hcapacity)
    · rw [max_eq_left hpos]
      exact weightedLimitedAllocation_isWaterFill hw hl hpos
  refine ⟨?_, ?_⟩
  · obtain ⟨level, hlevel, hshares⟩ := hfill.level
    refine ⟨level, fun i => ?_⟩
    rw [hshares]
    split
    · rfl
    · next hnot => exact fill_eq_zero hlevel (hw i) (hl i) fun h => hnot ⟨h.2, h.1⟩
  · rw [sum_limits_activeDevices hl]
    exact hfill.sum

theorem weightedLimitedAllocation_shares_two :
    ∃ shares : Fin 2 → ℚ, Returns (allocationTurn (fun _ => 1) fun _ => 1)
        ⟨fun _ => 0, activeDevices (fun _ => 1) fun _ => 1, 3⟩ shares ∧
      (∃ level : ℚ, ∀ i, shares i =
        if (0 : ℚ) < 1 ∧ (0 : ℚ) < 1 then min 1 (level * 1) else 0) ∧
      ∑ i, shares i =
        min (max 3 0) (∑ _i ∈ (activeDevices (fun _ => 1) fun _ => 1 : Finset (Fin 2)), (1 : ℚ)) :=
  weightedLimitedAllocation_shares 3 (fun _ => 1) (fun _ => 1) (fun _ => zero_le_one)
    fun _ => zero_le_one

theorem isWaterFill_max (total : ℚ) (hw : ∀ i, 0 ≤ weights i) (hl : ∀ i, 0 ≤ limits i) :
    IsWaterFill (max total 0) weights limits (weightedLimitedAllocation total weights limits) := by
  rcases le_total total 0 with hneg | hpos
  · rw [weightedLimitedAllocation_of_nonpos hneg, max_eq_right hneg]
    exact IsWaterFill.of_nothing hl (min_eq_left (IsWaterFill.nonneg_capacity hl))
  · rw [max_eq_left hpos]
    exact weightedLimitedAllocation_isWaterFill hw hl hpos

/-- **Shares do not depend on the order in which the devices are listed**, and more to share lowers
nobody's. -/
theorem allocation_fair (total total' : ℚ) (weights limits : Fin n → ℚ) (hw : ∀ i, 0 ≤ weights i)
    (hl : ∀ i, 0 ≤ limits i) :
    (∀ e : Equiv.Perm (Fin n), weightedLimitedAllocation total (weights ∘ e) (limits ∘ e) =
        weightedLimitedAllocation total weights limits ∘ e) ∧
      (total ≤ total' → ∀ i, weightedLimitedAllocation total weights limits i ≤
        weightedLimitedAllocation total' weights limits i) := by
  have hfill := isWaterFill_max total hw hl
  constructor
  · intro e
    exact (isWaterFill_max total (fun i => hw (e i)) fun i => hl (e i)).unique
      (fun i => hw (e i)) (hfill.comp e)
  · intro hle
    exact hfill.mono hw (isWaterFill_max total' hw hl) (max_le_max_right 0 hle)

theorem allocation_fair_two :
    (∀ e : Equiv.Perm (Fin 2), weightedLimitedAllocation 3 ((fun _ => 1) ∘ e) ((fun _ => 1) ∘ e) =
        weightedLimitedAllocation 3 (fun _ => 1) (fun _ => 1) ∘ e) ∧
      ((3 : ℚ) ≤ 4 → ∀ i : Fin 2, weightedLimitedAllocation 3 (fun _ => 1) (fun _ => 1) i ≤
        weightedLimitedAllocation 4 (fun _ => 1) (fun _ => 1) i) :=
  allocation_fair 3 4 (fun _ => 1) (fun _ => 1) (fun _ => zero_le_one) fun _ => zero_le_one

/-! ### Handing out what was cut off -/

/-- One turn of the `while excess > 0` loop. -/
def redistributionTurn (limits : Fin n → ℚ) (state : Redistribution n) :
    Redistribution n ⊕ Redistribution n :=
  if state.excess ≤ 0 then .inr state
  else
    let candidates := redistributionCandidates limits state.targets
    if candidates = [] then .inr state
    else
      let state' := redistributionPass limits
        (redistributionShare limits state.targets state.excess) candidates state
      if state.excess - state'.excess ≤ 0 then .inr state' else .inl state'

theorem fuelled_redistribution (limits : Fin n → ℚ) :
    Fuelled (redistributionTurn limits) (redistributionLoop limits) where
  done k s a h := by
    rw [redistributionTurn] at h
    rw [redistributionLoop]
    split at h
    · next hdone => rw [if_pos hdone, Sum.inr.inj h]
    · next hgo =>
      rw [if_neg hgo]
      dsimp only at h ⊢
      split at h
      · next hnone => rw [if_pos hnone, Sum.inr.inj h]
      · next hsome =>
        rw [if_neg hsome]
        split at h
        · next hstill => rw [if_pos hstill, Sum.inr.inj h]
        · cases h
  next k s s' h := by
    rw [redistributionTurn] at h
    rw [redistributionLoop]
    split at h
    · cases h
    · next hgo =>
      rw [if_neg hgo]
      dsimp only at h ⊢
      split at h
      · cases h
      · next hsome =>
        rw [if_neg hsome]
        split at h
        · cases h
        · next hmoved => rw [if_neg hmoved, Sum.inl.inj h]

/-- What a redistribution keeps from turn to turn. -/
def Within (limits : Fin n → ℚ) (state : Redistribution n) : Prop :=
  0 ≤ state.excess ∧ ∀ i, state.targets i ≤ limits i

/-- **A turn that goes on keeps the limits and lowers the measure.** -/
theorem redistributionTurn_next {limits : Fin n → ℚ} {s s' : Redistribution n}
    (hs : Within limits s) (h : redistributionTurn limits s = .inl s') :
    Within limits s' ∧ redistributionMeasure limits s' < redistributionMeasure limits s := by
  rw [redistributionTurn] at h
  split at h
  · cases h
  next hgo =>
  rw [not_le] at hgo
  dsimp only at h
  split at h
  · cases h
  next hsome =>
  split at h
  · cases h
  have hnext : s' = nextRedistribution limits s := (Sum.inl.inj h).symm
  have hpass : Redistributes limits s s' := hnext ▸ nextRedistribution_redistributes hs.1 hs.2
  refine ⟨⟨hpass.excess_nonneg, fun i => hpass.within i (hs.2 i)⟩, ?_⟩
  rcases hpass.excess_nonneg.eq_or_lt with hzero | hleft
  · -- nothing is left, and no device has lost watts
    have hsubset : (univ.filter fun i => s'.targets i < limits i)
        ⊆ univ.filter fun i => s.targets i < limits i := by
      intro i hi
      simp only [mem_filter, mem_univ, true_and] at hi ⊢
      exact (hpass.rises i).trans_lt hi
    have hcard := card_le_card hsubset
    have hceil : 0 < ⌈s.excess⌉₊ := Nat.ceil_pos.mpr hgo
    simp only [redistributionMeasure, length_redistributionCandidates]
    rw [← hzero, Nat.ceil_zero]
    omega
  · rw [hnext] at hleft ⊢
    exact redistributionMeasure_pass_lt hgo hs.2 hsome hleft

theorem redistributionLoop_returns {limits : Fin n → ℚ} {state : Redistribution n}
    (h : Within limits state) : Returns (redistributionTurn limits) state
      (redistributionLoop limits (redistributionFuel state) state) := by
  refine (fuelled_redistribution limits).returns (fun s s' => redistributionTurn_next)
    (fun s _ hzero => ?_) h (redistributionMeasure_lt_fuel limits state).le
  have hexcess : s.excess ≤ 0 := by
    rw [redistributionMeasure] at hzero
    exact Nat.ceil_eq_zero.mp (by omega)
  rw [redistributionTurn, if_pos hexcess]
  rfl

/-- What the constraint step returns: the clamped targets, or what the loop makes of them. -/
def ConstraintsReturn (redistribute : Bool) (limits targets : Fin n → ℚ)
    (result : Redistribution n) : Prop :=
  if !redistribute ∨ (clampTargets limits targets).excess ≤ 0 then
    result = clampTargets limits targets
  else Returns (redistributionTurn limits) (clampTargets limits targets) result

/-- **`apply_constraints_and_redistribute` returns targets within the limits and loses no watt**, and
with redistribution a watt is left over only where every device is at its limit. -/
theorem applyConstraints_returns (redistribute : Bool) (limits : Fin n → ℕ) (targets : Fin n → ℚ) :
    ∃ result, ConstraintsReturn redistribute (fun i => (limits i : ℚ)) targets result ∧
      (∀ i, 0 ≤ result.targets i ∧ result.targets i ≤ limits i) ∧
      ∑ i, result.targets i + result.excess = ∑ i, max 0 (roundHalfEven (targets i) : ℚ) ∧
      (redistribute = true → 0 < result.excess → ∀ i, result.targets i = limits i) := by
  have hlimits : ∀ i, (0 : ℚ) ≤ limits i := fun i => Nat.cast_nonneg _
  have hkept : Redistributes (fun i => (limits i : ℚ)) (clampTargets (fun i => (limits i : ℚ)) targets)
      (applyConstraintsAndRedistribute redistribute (fun i => (limits i : ℚ)) targets) :=
    applyConstraints_redistributes redistribute hlimits
  refine ⟨applyConstraintsAndRedistribute redistribute (fun i => (limits i : ℚ)) targets, ?_,
    fun i => ⟨applyConstraints_nonneg redistribute hlimits i,
      applyConstraints_le_limit redistribute hlimits i⟩, ?_, ?_⟩
  · rw [ConstraintsReturn]
    split
    · next hoff =>
      exact applyConstraints_of_no_redistribution (hoff.imp_left fun h => by simpa using h)
    · next hon =>
      obtain ⟨hon, hexcess⟩ := not_or.mp hon
      obtain rfl : redistribute = true := by simpa using hon
      rw [applyConstraints_of_redistribution (not_le.mp hexcess)]
      exact redistributionLoop_returns ⟨clampTargets_excess_nonneg, clampTargets_le hlimits⟩
  · exact hkept.conserves.trans sum_clampTargets_add_excess
  · intro hon hleft i
    subst hon
    have hexcess : 0 < (clampTargets (fun i => (limits i : ℚ)) targets).excess := by
      by_contra hnone
      rw [applyConstraints_of_no_redistribution (.inr (not_lt.mp hnone))] at hleft
      exact hnone hleft
    rw [applyConstraints_of_redistribution hexcess] at hleft ⊢
    rcases redistributionLoop_settles _ (redistributionMeasure_lt_fuel _ _) hexcess.le
        (clampTargets_le hlimits) with hzero | hfull
    · exact absurd hzero hleft.ne'
    · exact congrFun hfull i

end SolarFlowEms.TargetControl
