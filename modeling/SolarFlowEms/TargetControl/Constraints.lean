import SolarFlowEms.Library.RoundHalfEven
import Mathlib.Algebra.Order.BigOperators.Ring.Finset
import Mathlib.Algebra.Ring.Subring.Basic
import Mathlib.Data.Fintype.Fin
import Mathlib.Data.Rat.Floor

/-!
# The final clamp and the redistribution of what it cut off

`apply_constraints_and_redistribute` rounds every target, clamps it to the device's
limit and hands the watts cut off to the devices that still have headroom, in passes
over them in index order.  The limits are parameters here: the caller makes them from
the device's maximum, its export capability and the PV-only limits.

A pass either brings one more device to its limit or hands every candidate a full
share of at least one watt, so `#candidates + ⌈excess⌉` falls and the passes end: with
nothing left to hand out, or with every device at its limit.
-/

namespace SolarFlowEms.TargetControl

open Finset RoundHalfEven

variable {n : ℕ}

/-- `max(0, min(limit, round(target)))`. -/
def clampTarget (limit target : ℚ) : ℚ := max 0 (min limit (roundHalfEven target))

/-- What the clamp cut off one target: `max(0, round(target) - value)`. -/
def clampedExcess (limit target : ℚ) : ℚ :=
  max 0 ((roundHalfEven target : ℚ) - clampTarget limit target)

/-- The state of a redistribution: the targets so far and the watts not yet handed out. -/
structure Redistribution (n : ℕ) where
  targets : Fin n → ℚ
  excess : ℚ

/-- One `for i in candidates` pass; it stops as soon as nothing is left. -/
def redistributionPass (limits : Fin n → ℚ) (share : ℚ) :
    List (Fin n) → Redistribution n → Redistribution n
  | [], state => state
  | i :: candidates, state =>
    let headroom := limits i - state.targets i
    let add := min (min headroom share) state.excess
    let state' : Redistribution n :=
      ⟨Function.update state.targets i (state.targets i + add), state.excess - add⟩
    if state'.excess ≤ 0 then state' else redistributionPass limits share candidates state'

/-- The devices with headroom left, in index order. -/
def redistributionCandidates (limits targets : Fin n → ℚ) : List (Fin n) :=
  (List.finRange n).filter fun i => targets i < limits i

/-- `max(1, round(excess / len(candidates)))`. -/
def redistributionShare (limits targets : Fin n → ℚ) (excess : ℚ) : ℚ :=
  max 1 (roundHalfEven (excess / (redistributionCandidates limits targets).length) : ℚ)

/-- The `while excess > 0` loop. -/
def redistributionLoop (limits : Fin n → ℚ) : ℕ → Redistribution n → Redistribution n
  | 0, state => state
  | fuel + 1, state =>
    if state.excess ≤ 0 then state
    else
      let candidates := redistributionCandidates limits state.targets
      if candidates = [] then state
      else
        let state' := redistributionPass limits
          (redistributionShare limits state.targets state.excess) candidates state
        if state.excess - state'.excess ≤ 0 then state'
        else redistributionLoop limits fuel state'

/-- Enough passes for any excess: see `redistributionLoop_settles`. -/
def redistributionFuel (state : Redistribution n) : ℕ := n + ⌈state.excess⌉₊ + 1

def clampTargets (limits targets : Fin n → ℚ) : Redistribution n :=
  ⟨fun i => clampTarget (limits i) (targets i), ∑ i, clampedExcess (limits i) (targets i)⟩

def applyConstraintsAndRedistribute (redistribute : Bool) (limits targets : Fin n → ℚ) :
    Redistribution n :=
  let clamped := clampTargets limits targets
  if !redistribute ∨ clamped.excess ≤ 0 then clamped
  else redistributionLoop limits (redistributionFuel clamped) clamped

/-! ### The clamp -/

theorem clampTarget_nonneg (limit target : ℚ) : 0 ≤ clampTarget limit target := le_max_left _ _

theorem clampTarget_le_limit {limit : ℚ} (hlimit : 0 ≤ limit) (target : ℚ) :
    clampTarget limit target ≤ limit := max_le hlimit (min_le_left _ _)

theorem clampedExcess_nonneg (limit target : ℚ) : 0 ≤ clampedExcess limit target :=
  le_max_left _ _

theorem clampTarget_add_clampedExcess (limit target : ℚ) :
    clampTarget limit target + clampedExcess limit target = max 0 (roundHalfEven target : ℚ) := by
  calc clampTarget limit target + clampedExcess limit target
      = max (clampTarget limit target) (roundHalfEven target) := by
        rw [clampedExcess, ← max_add_add_left, add_zero, add_sub_cancel]
    _ = max 0 (roundHalfEven target : ℚ) := by
        rw [clampTarget, max_assoc, max_eq_right (min_le_right _ _)]

/-! ### One pass -/

/-- What a pass keeps: targets only rise, within the limits, and no watt is lost. -/
structure Redistributes (limits : Fin n → ℚ) (before after : Redistribution n) : Prop where
  rises : ∀ i, before.targets i ≤ after.targets i
  within : ∀ i, before.targets i ≤ limits i → after.targets i ≤ limits i
  excess_nonneg : 0 ≤ after.excess
  conserves : ∑ i, after.targets i + after.excess = ∑ i, before.targets i + before.excess

variable {limits : Fin n → ℚ} {state before after : Redistribution n}

theorem Redistributes.refl (h : 0 ≤ state.excess) : Redistributes limits state state :=
  ⟨fun _ => le_rfl, fun _ => id, h, rfl⟩

theorem Redistributes.trans {middle : Redistribution n} (h : Redistributes limits before middle)
    (h' : Redistributes limits middle after) : Redistributes limits before after :=
  ⟨fun i => (h.rises i).trans (h'.rises i), fun i hi => h'.within i (h.within i hi),
    h'.excess_nonneg, h'.conserves.trans h.conserves⟩

/-- The step of a pass: device `i` takes `add` watts. -/
def giveTo (state : Redistribution n) (i : Fin n) (add : ℚ) : Redistribution n :=
  ⟨Function.update state.targets i (state.targets i + add), state.excess - add⟩

@[simp] theorem giveTo_excess (state : Redistribution n) (i : Fin n) (add : ℚ) :
    (giveTo state i add).excess = state.excess - add := rfl

@[simp] theorem giveTo_targets_self (state : Redistribution n) (i : Fin n) (add : ℚ) :
    (giveTo state i add).targets i = state.targets i + add := Function.update_self ..

@[simp] theorem giveTo_targets_of_ne (state : Redistribution n) {i j : Fin n} (h : j ≠ i)
    (add : ℚ) : (giveTo state i add).targets j = state.targets j := Function.update_of_ne h ..

theorem sum_giveTo (state : Redistribution n) (i : Fin n) (add : ℚ) :
    ∑ j, (giveTo state i add).targets j = ∑ j, state.targets j + add := by
  rw [giveTo, sum_update_of_mem (mem_univ i), ← add_sum_erase univ _ (mem_univ i),
    sdiff_singleton_eq_erase]
  ring

/-- What the pass gives to device `i`: its headroom, a share, or what is left. -/
def passAmount (limits : Fin n → ℚ) (share : ℚ) (state : Redistribution n) (i : Fin n) : ℚ :=
  min (min (limits i - state.targets i) share) state.excess

theorem redistributionPass_cons (limits : Fin n → ℚ) (share : ℚ) (i : Fin n)
    (candidates : List (Fin n)) (state : Redistribution n) :
    redistributionPass limits share (i :: candidates) state =
      if state.excess - passAmount limits share state i ≤ 0 then
        giveTo state i (passAmount limits share state i)
      else redistributionPass limits share candidates
        (giveTo state i (passAmount limits share state i)) := rfl

section Pass

variable {share : ℚ}

theorem passAmount_nonneg {i : Fin n} (hshare : 0 ≤ share) (hexcess : 0 ≤ state.excess)
    (hi : state.targets i ≤ limits i) : 0 ≤ passAmount limits share state i :=
  le_min (le_min (sub_nonneg.mpr hi) hshare) hexcess

theorem passAmount_pos {i : Fin n} (hshare : 0 < share) (hexcess : 0 < state.excess)
    (hi : state.targets i < limits i) : 0 < passAmount limits share state i :=
  lt_min (lt_min (sub_pos.mpr hi) hshare) hexcess

theorem giveTo_redistributes {i : Fin n} (hshare : 0 ≤ share) (hexcess : 0 ≤ state.excess)
    (hi : state.targets i ≤ limits i) :
    Redistributes limits state (giveTo state i (passAmount limits share state i)) := by
  have hnonneg : 0 ≤ passAmount limits share state i := passAmount_nonneg hshare hexcess hi
  have hheadroom : passAmount limits share state i ≤ limits i - state.targets i :=
    (min_le_left _ _).trans (min_le_left _ _)
  have hleft : passAmount limits share state i ≤ state.excess := min_le_right _ _
  refine ⟨fun j => ?_, fun j hj => ?_, sub_nonneg.mpr hleft, ?_⟩
  · rcases eq_or_ne j i with rfl | hne
    · rw [giveTo_targets_self]
      linarith
    · rw [giveTo_targets_of_ne _ hne]
  · rcases eq_or_ne j i with rfl | hne
    · rw [giveTo_targets_self]
      linarith
    · rwa [giveTo_targets_of_ne _ hne]
  · rw [sum_giveTo, giveTo_excess]
    ring

theorem redistributionPass_redistributes (candidates : List (Fin n)) (hshare : 0 ≤ share)
    (hexcess : 0 ≤ state.excess) (hle : ∀ i, state.targets i ≤ limits i) :
    Redistributes limits state (redistributionPass limits share candidates state) := by
  induction candidates generalizing state with
  | nil => exact .refl hexcess
  | cons i candidates ih =>
    have hstep := giveTo_redistributes hshare hexcess (hle i)
    rw [redistributionPass_cons]
    split_ifs with hdone
    · exact hstep
    · exact hstep.trans (ih hstep.excess_nonneg fun j => hstep.within j (hle j))

theorem redistributionPass_frame (candidates : List (Fin n)) {i : Fin n} (hi : i ∉ candidates) :
    (redistributionPass limits share candidates state).targets i = state.targets i := by
  induction candidates generalizing state with
  | nil => rfl
  | cons j candidates ih =>
    obtain ⟨hne, htail⟩ := not_or.mp (mt List.mem_cons.mpr hi)
    rw [redistributionPass_cons]
    split_ifs with hdone
    · exact giveTo_targets_of_ne _ hne _
    · rw [ih htail, giveTo_targets_of_ne _ hne]

theorem redistributionPass_served (candidates : List (Fin n)) (hnodup : candidates.Nodup)
    (hleft : 0 < (redistributionPass limits share candidates state).excess) :
    ∀ i ∈ candidates, (redistributionPass limits share candidates state).targets i
      = state.targets i + min (limits i - state.targets i) share := by
  induction candidates generalizing state with
  | nil => simp
  | cons j candidates ih =>
    obtain ⟨hj, hnodup⟩ := List.nodup_cons.mp hnodup
    rw [redistributionPass_cons] at hleft ⊢
    by_cases hdone : state.excess - passAmount limits share state j ≤ 0
    · rw [if_pos hdone, giveTo_excess] at hleft
      exact absurd hleft (not_lt.mpr hdone)
    rw [if_neg hdone] at hleft ⊢
    have hamount : passAmount limits share state j = min (limits j - state.targets j) share := by
      refine min_eq_left (le_of_not_gt fun hlt => hdone ?_)
      rw [passAmount, min_eq_right hlt.le, sub_self]
    intro i hi
    rcases List.mem_cons.mp hi with rfl | hi
    · rw [redistributionPass_frame candidates hj, giveTo_targets_self, hamount]
    · have hne : i ≠ j := fun h => hj (h ▸ hi)
      rw [ih hnodup hleft i hi, giveTo_targets_of_ne _ hne]

end Pass

/-! ### The loop ends, with nothing left or with every device full -/

theorem mem_redistributionCandidates {targets : Fin n → ℚ} {i : Fin n} :
    i ∈ redistributionCandidates limits targets ↔ targets i < limits i := by
  simp [redistributionCandidates]

theorem nodup_redistributionCandidates (limits targets : Fin n → ℚ) :
    (redistributionCandidates limits targets).Nodup :=
  (List.nodup_finRange n).filter _

theorem one_le_redistributionShare (limits targets : Fin n → ℚ) (excess : ℚ) :
    1 ≤ redistributionShare limits targets excess := le_max_left _ _

theorem length_redistributionCandidates (limits targets : Fin n → ℚ) :
    (redistributionCandidates limits targets).length
      = (univ.filter fun i => targets i < limits i).card := by
  rw [← List.toFinset_card_of_nodup (nodup_redistributionCandidates limits targets)]
  congr 1
  ext i
  simp [mem_redistributionCandidates]

/-- The measure of the loop: devices below their limit, and whole watts left. -/
def redistributionMeasure (limits : Fin n → ℚ) (state : Redistribution n) : ℕ :=
  (redistributionCandidates limits state.targets).length + ⌈state.excess⌉₊

theorem redistributionMeasure_lt_fuel (limits : Fin n → ℚ) (state : Redistribution n) :
    redistributionMeasure limits state < redistributionFuel state := by
  have hlen := card_le_univ (univ.filter fun i => state.targets i < limits i)
  rw [Fintype.card_fin, ← length_redistributionCandidates] at hlen
  unfold redistributionMeasure redistributionFuel
  omega

theorem redistributionPass_excess_lt {share : ℚ} (hshare : 0 < share) (hexcess : 0 < state.excess)
    (hle : ∀ i, state.targets i ≤ limits i) {candidates : List (Fin n)} (hne : candidates ≠ [])
    (hroom : ∀ i ∈ candidates, state.targets i < limits i) :
    (redistributionPass limits share candidates state).excess < state.excess := by
  cases candidates with
  | nil => exact absurd rfl hne
  | cons i candidates =>
    have hpos : 0 < passAmount limits share state i :=
      passAmount_pos hshare hexcess (hroom i List.mem_cons_self)
    have hstep := giveTo_redistributes hshare.le hexcess.le (hle i)
    rw [redistributionPass_cons]
    split_ifs with hdone
    · rw [giveTo_excess]
      linarith
    · have hrest := redistributionPass_redistributes candidates hshare.le hstep.excess_nonneg
        fun j => hstep.within j (hle j)
      have hsum := sum_le_sum fun j (_ : j ∈ univ) => hrest.rises j
      have hconserves := hrest.conserves
      rw [giveTo_excess] at hconserves
      linarith

/-- **A pass that does not hand out everything lowers the measure**: it fills a device,
or gives away a whole watt. -/
theorem redistributionMeasure_pass_lt (hexcess : 0 < state.excess)
    (hle : ∀ i, state.targets i ≤ limits i)
    (hne : redistributionCandidates limits state.targets ≠ [])
    (hleft : 0 < (redistributionPass limits
      (redistributionShare limits state.targets state.excess)
      (redistributionCandidates limits state.targets) state).excess) :
    redistributionMeasure limits (redistributionPass limits
      (redistributionShare limits state.targets state.excess)
      (redistributionCandidates limits state.targets) state)
        < redistributionMeasure limits state := by
  set share := redistributionShare limits state.targets state.excess with hshareDef
  have hshare : 1 ≤ share := one_le_redistributionShare _ _ _
  set after := redistributionPass limits share (redistributionCandidates limits state.targets) state
  have hpass : Redistributes limits state after :=
    redistributionPass_redistributes _ (by linarith) hexcess.le hle
  have hserved : ∀ i, state.targets i < limits i →
      after.targets i = state.targets i + min (limits i - state.targets i) share := fun i hi =>
    redistributionPass_served _ (nodup_redistributionCandidates _ _) hleft i
      (mem_redistributionCandidates.mpr hi)
  have hsubset : (univ.filter fun i => after.targets i < limits i)
      ⊆ univ.filter fun i => state.targets i < limits i := by
    intro i hi
    simp only [mem_filter, mem_univ, true_and] at hi ⊢
    exact (hpass.rises i).trans_lt hi
  have hlt : after.excess < state.excess := by
    refine redistributionPass_excess_lt (by linarith) hexcess hle hne fun i hi => ?_
    exact mem_redistributionCandidates.mp hi
  have hceil : ⌈after.excess⌉₊ ≤ ⌈state.excess⌉₊ := Nat.ceil_mono hlt.le
  simp only [redistributionMeasure, length_redistributionCandidates]
  by_cases hfull : ∃ i, state.targets i < limits i ∧ limits i - state.targets i ≤ share
  · obtain ⟨i, hi, hcap⟩ := hfull
    have hreached : after.targets i = limits i := by
      rw [hserved i hi, min_eq_left hcap]
      ring
    have hcard := card_lt_card ((ssubset_iff_of_subset hsubset).mpr
      ⟨i, by simpa using hi, by simp [hreached]⟩)
    omega
  · -- every candidate took a whole share, so at least one watt is gone
    obtain ⟨i, hi⟩ := List.exists_mem_of_ne_nil _ hne
    rw [mem_redistributionCandidates] at hi
    have hshareTaken : after.targets i = state.targets i + share := by
      rw [hserved i hi, min_eq_right]
      exact le_of_not_ge fun h => hfull ⟨i, hi, h⟩
    have hsum : share ≤ ∑ j, (after.targets j - state.targets j) := by
      have hsingle := single_le_sum (f := fun j => after.targets j - state.targets j)
        (fun j _ => sub_nonneg.mpr (hpass.rises j)) (mem_univ i)
      simpa [hshareTaken] using hsingle
    rw [sum_sub_distrib] at hsum
    have hconserves := hpass.conserves
    have hwatt : ⌈after.excess⌉₊ < ⌈state.excess⌉₊ := by
      rw [Nat.lt_ceil]
      have hafter := Nat.ceil_lt_add_one hpass.excess_nonneg
      linarith
    have hcard := card_le_card hsubset
    omega

def nextRedistribution (limits : Fin n → ℚ) (state : Redistribution n) : Redistribution n :=
  redistributionPass limits (redistributionShare limits state.targets state.excess)
    (redistributionCandidates limits state.targets) state

theorem redistributionLoop_of_done (fuel : ℕ) (h : state.excess ≤ 0) :
    redistributionLoop limits fuel state = state := by
  cases fuel with
  | zero => rfl
  | succ fuel => rw [redistributionLoop, if_pos h]

theorem redistributionLoop_of_full (fuel : ℕ)
    (h : redistributionCandidates limits state.targets = []) :
    redistributionLoop limits fuel state = state := by
  cases fuel with
  | zero => rfl
  | succ fuel =>
    rw [redistributionLoop]
    simp only [h, if_true, ite_self]

theorem redistributionLoop_succ (fuel : ℕ) (hexcess : 0 < state.excess)
    (hle : ∀ i, state.targets i ≤ limits i)
    (hne : redistributionCandidates limits state.targets ≠ []) :
    redistributionLoop limits (fuel + 1) state
      = redistributionLoop limits fuel (nextRedistribution limits state) := by
  have hshare : 0 < redistributionShare limits state.targets state.excess :=
    one_pos.trans_le (one_le_redistributionShare _ _ _)
  have hmoved := redistributionPass_excess_lt hshare hexcess hle hne fun i hi =>
    mem_redistributionCandidates.mp hi
  rw [redistributionLoop, if_neg (not_le.mpr hexcess)]
  simp only [if_neg hne]
  rw [if_neg (not_le.mpr (sub_pos.mpr hmoved)), nextRedistribution]

theorem nextRedistribution_redistributes (hexcess : 0 ≤ state.excess)
    (hle : ∀ i, state.targets i ≤ limits i) :
    Redistributes limits state (nextRedistribution limits state) :=
  redistributionPass_redistributes _ (zero_le_one.trans (one_le_redistributionShare _ _ _))
    hexcess hle

theorem redistributionLoop_redistributes (fuel : ℕ) (hexcess : 0 ≤ state.excess)
    (hle : ∀ i, state.targets i ≤ limits i) :
    Redistributes limits state (redistributionLoop limits fuel state) := by
  induction fuel generalizing state with
  | zero => exact .refl hexcess
  | succ fuel ih =>
    by_cases hdone : state.excess ≤ 0
    · rw [redistributionLoop_of_done _ hdone]
      exact .refl hexcess
    by_cases hnone : redistributionCandidates limits state.targets = []
    · rw [redistributionLoop_of_full _ hnone]
      exact .refl hexcess
    rw [redistributionLoop_succ fuel (not_le.mp hdone) hle hnone]
    have hpass := nextRedistribution_redistributes hexcess hle
    exact hpass.trans (ih hpass.excess_nonneg fun i => hpass.within i (hle i))

/-- **The loop settles**: with nothing left to hand out, or with every device full. -/
theorem redistributionLoop_settles (fuel : ℕ) (hfuel : redistributionMeasure limits state < fuel)
    (hexcess : 0 ≤ state.excess) (hle : ∀ i, state.targets i ≤ limits i) :
    (redistributionLoop limits fuel state).excess = 0 ∨
      (redistributionLoop limits fuel state).targets = limits := by
  induction fuel generalizing state with
  | zero => exact absurd hfuel (Nat.not_lt_zero _)
  | succ fuel ih =>
    by_cases hdone : state.excess ≤ 0
    · rw [redistributionLoop_of_done _ hdone]
      exact Or.inl (le_antisymm hdone hexcess)
    rw [not_le] at hdone
    by_cases hnone : redistributionCandidates limits state.targets = []
    · rw [redistributionLoop_of_full _ hnone]
      refine Or.inr (funext fun i => le_antisymm (hle i) (not_lt.mp fun hlt => ?_))
      have hmem : i ∈ redistributionCandidates limits state.targets :=
        mem_redistributionCandidates.mpr hlt
      rw [hnone] at hmem
      exact List.not_mem_nil hmem
    rw [redistributionLoop_succ fuel hdone hle hnone]
    have hpass := nextRedistribution_redistributes hexcess hle
    rcases hpass.excess_nonneg.eq_or_lt with hzero | hleft
    · rw [redistributionLoop_of_done fuel hzero.symm.le]
      exact Or.inl hzero.symm
    · have hmeasure := redistributionMeasure_pass_lt hdone hle hnone hleft
      have hmeasure' : redistributionMeasure limits (nextRedistribution limits state)
          < redistributionMeasure limits state := hmeasure
      exact ih (by omega) hpass.excess_nonneg fun i => hpass.within i (hle i)

/-! ### The whole constraint step -/

section Apply

variable {targets : Fin n → ℚ}

theorem clampTargets_le (hlimits : ∀ i, 0 ≤ limits i) (i : Fin n) :
    (clampTargets limits targets).targets i ≤ limits i := clampTarget_le_limit (hlimits i) _

theorem clampTargets_excess_nonneg : 0 ≤ (clampTargets limits targets).excess :=
  sum_nonneg fun _ _ => clampedExcess_nonneg _ _

theorem sum_clampTargets_add_excess :
    ∑ i, (clampTargets limits targets).targets i + (clampTargets limits targets).excess
      = ∑ i, max 0 (roundHalfEven (targets i) : ℚ) := by
  rw [clampTargets, ← sum_add_distrib]
  exact sum_congr rfl fun i _ => clampTarget_add_clampedExcess _ _

theorem applyConstraints_of_no_redistribution {redistribute : Bool}
    (h : redistribute = false ∨ (clampTargets limits targets).excess ≤ 0) :
    applyConstraintsAndRedistribute redistribute limits targets = clampTargets limits targets := by
  unfold applyConstraintsAndRedistribute
  exact if_pos (h.imp_left fun hoff => by simp [hoff])

theorem applyConstraints_of_redistribution (h : 0 < (clampTargets limits targets).excess) :
    applyConstraintsAndRedistribute true limits targets
      = redistributionLoop limits (redistributionFuel (clampTargets limits targets))
        (clampTargets limits targets) := by
  unfold applyConstraintsAndRedistribute
  exact if_neg (by simpa using h)

theorem redistribution_cases (redistribute : Bool) (excess : ℚ) :
    (redistribute = true ∧ 0 < excess) ∨ (redistribute = false ∨ excess ≤ 0) := by
  cases redistribute with
  | false => exact Or.inr (Or.inl rfl)
  | true => exact (lt_or_ge 0 excess).imp (fun h => ⟨rfl, h⟩) Or.inr

theorem applyConstraints_redistributes (redistribute : Bool) (hlimits : ∀ i, 0 ≤ limits i) :
    Redistributes limits (clampTargets limits targets)
      (applyConstraintsAndRedistribute redistribute limits targets) := by
  rcases redistribution_cases redistribute (clampTargets limits targets).excess with
    ⟨rfl, hexcess⟩ | hoff
  · rw [applyConstraints_of_redistribution hexcess]
    exact redistributionLoop_redistributes _ hexcess.le (clampTargets_le hlimits)
  · rw [applyConstraints_of_no_redistribution hoff]
    exact .refl clampTargets_excess_nonneg

theorem applyConstraints_nonneg (redistribute : Bool) (hlimits : ∀ i, 0 ≤ limits i) (i : Fin n) :
    0 ≤ (applyConstraintsAndRedistribute redistribute limits targets).targets i :=
  (clampTarget_nonneg _ _).trans ((applyConstraints_redistributes redistribute hlimits).rises i)

theorem applyConstraints_le_limit (redistribute : Bool) (hlimits : ∀ i, 0 ≤ limits i)
    (i : Fin n) :
    (applyConstraintsAndRedistribute redistribute limits targets).targets i ≤ limits i :=
  (applyConstraints_redistributes redistribute hlimits).within i (clampTargets_le hlimits i)

end Apply

end SolarFlowEms.TargetControl
