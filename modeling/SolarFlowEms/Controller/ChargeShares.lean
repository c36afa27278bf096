import SolarFlowEms.Controller.Regulation
import SolarFlowEms.TargetControl.LoopsReturn

/-!
# How a charge is split

A charge is shared out by the energy each pack can still take.  Where a share is too small to be worth
taking, the smallest such share is dropped and the whole is shared out again, until every share is worth
taking or one device is left.  Dropping a device only takes its weight away, and one that is dropped
leaves another that had a share, so a charge that can be given is given.
-/

namespace SolarFlowEms.Controller

open Finset Models WaterFill RoundHalfEven TargetControl Loop

variable {n : ℕ}

/-! ### The source -/

/-- `charge_headroom_weight` behind the question whether the device can charge. -/
def absorbableWeight (state : FetchedReport) (config : DeviceConfig) : ℚ :=
  if state.packNum.getD 0 = 0 then 0
  else if state.maxSoc ≤ 0 then 0
  else
    let headroomPercent := max 0 (state.maxSoc - state.soc)
    if headroomPercent ≤ 0 then 0
    else max 0 (getDeviceBatteryKwh (some config) * headroomPercent / 100)

theorem chargeHeadroomWeight_eq (state : FetchedReport) (config : DeviceConfig)
    (capability : Capabilities) : chargeHeadroomWeight state config capability =
      if !capability.canCharge then 0 else absorbableWeight state config := rfl

/-- A device whose capability is not known is not refused for it. -/
def headroomWeight (state : FetchedReport) (config : DeviceConfig) : Option Capabilities → ℚ
  | none => absorbableWeight state config
  | some capability => chargeHeadroomWeight state config capability

/-- What `allocate_charge_targets` reads of its devices. -/
structure ChargeRequest (n : ℕ) where
  states : Fin n → FetchedReport
  configs : Fin n → DeviceConfig
  capabilities : List Capabilities
  chargeable : Fin n → Bool
  ceilings : Fin n → ℤ
  chargingNow : Option (List Bool)

namespace ChargeRequest

variable (request : ChargeRequest n)

def weight (i : Fin n) : ℚ :=
  if request.chargeable i then
    headroomWeight (request.states i) (request.configs i) request.capabilities[(i : ℕ)]?
  else 0

def limit (i : Fin n) : ℚ :=
  if request.chargeable i then ((max 0 (request.ceilings i) : ℤ) : ℚ) else 0

def charging (i : Fin n) : Bool := (request.chargingNow.getD []).getD i false

end ChargeRequest

def allocateChargeTargets (totalChargeW : ℚ) (request : ChargeRequest n) (i : Fin n) : ℤ :=
  -roundHalfEven
    (concentrate (max 0 totalChargeW) request.limit request.charging n request.weight i)

/-- One turn of the loop that drops the smallest share; its variable is the weights. -/
def concentrationTurn (total : ℚ) (limits : Fin n → ℚ) (chargingNow : Fin n → Bool)
    (weights : Fin n → ℚ) : (Fin n → ℚ) ⊕ (Fin n → ℚ) :=
  let allocation := weightedLimitedAllocation total weights limits
  if #{i | 0 < allocation i} ≤ 1 then .inr allocation
  else
    match smallestUnusable chargingNow allocation with
    | none => .inr allocation
    | some smallest => .inl (Function.update weights smallest 0)

/-! ### The smallest unusable share -/

variable {total : ℚ} {limits weights weights' shares : Fin n → ℚ} {chargingNow : Fin n → Bool}

variable {i : Fin n} {first : Fin n → ℚ}

theorem usable_of_none (h : smallestUnusable chargingNow shares = none)
    (hi : 0 < shares i) : minimumShareW (chargingNow i) ≤ shares i := by
  rw [smallestUnusable, List.argmin_eq_none] at h
  by_contra hlt
  have hmem : i ∈ (List.finRange n).filter fun i =>
      0 < shares i && shares i < minimumShareW (chargingNow i) := by
    simp [hi, not_le.mp hlt]
  rw [h] at hmem
  exact List.not_mem_nil hmem

theorem pos_of_smallestUnusable (h : smallestUnusable chargingNow shares = some i) :
    0 < shares i := by
  have hmem := List.argmin_mem h
  simp only [List.mem_filter, Bool.and_eq_true, decide_eq_true_eq] at hmem
  exact hmem.2.1

/-! ### The turns -/

theorem fuelled_concentrate : Fuelled (concentrationTurn total limits chargingNow)
    (concentrate total limits chargingNow) where
  done k weights a h := by
    rw [concentrationTurn] at h
    rw [concentrate]
    split at h
    · next hfew => rw [if_pos hfew, Sum.inr.inj h]
    · next hmany =>
      rw [if_neg hmany]
      cases hsmallest :
        smallestUnusable chargingNow (weightedLimitedAllocation total weights limits) with
      | none =>
        simp only [hsmallest] at h ⊢
        exact Sum.inr.inj h
      | some smallest =>
        simp only [hsmallest] at h
        cases h
  next k weights weights' h := by
    rw [concentrationTurn] at h
    rw [concentrate]
    split at h
    · cases h
    · next hmany =>
      rw [if_neg hmany]
      cases hsmallest :
        smallestUnusable chargingNow (weightedLimitedAllocation total weights limits) with
      | none =>
        simp only [hsmallest] at h
        cases h
      | some smallest =>
        simp only [hsmallest] at h ⊢
        rw [← Sum.inl.inj h]

/-- The weights that are left of those the loop began with. -/
def Left (first weights : Fin n → ℚ) : Prop := ∀ i, weights i = first i ∨ weights i = 0

theorem Left.nonneg (hfirst : ∀ i, 0 ≤ first i) (h : Left first weights)
    (i : Fin n) : 0 ≤ weights i := by
  rcases h i with heq | hzero
  · exact heq ▸ hfirst i
  · exact hzero.ge

theorem pos_of_share_pos (hw : ∀ i, 0 ≤ weights i) (hl : ∀ i, 0 ≤ limits i) (ht : 0 ≤ total)
    (h : 0 < weightedLimitedAllocation total weights limits i) :
    0 < limits i ∧ 0 < weights i := by
  obtain ⟨level, hlevel, hshares⟩ := (weightedLimitedAllocation_isWaterFill hw hl ht).level
  by_contra hnot
  rw [hshares, fill_eq_zero hlevel (hw i) (hl i) hnot] at h
  exact lt_irrefl 0 h

theorem concentrationTurn_next (hw : ∀ i, 0 ≤ weights i) (hl : ∀ i, 0 ≤ limits i) (ht : 0 ≤ total)
    (h : concentrationTurn total limits chargingNow weights = .inl weights') :
    ∃ dropped, weights' = Function.update weights dropped 0 ∧ 0 < weights dropped ∧
      ∃ other, other ≠ dropped ∧ 0 < weights other ∧ 0 < limits other := by
  rw [concentrationTurn] at h
  split at h
  · cases h
  next hmany =>
  split at h
  · cases h
  next dropped hdropped =>
  have hshare := pos_of_smallestUnusable hdropped
  obtain ⟨other, hother, hne⟩ := exists_mem_ne (not_le.mp hmany) dropped
  have hpos := pos_of_share_pos hw hl ht (mem_filter.mp hother).2
  exact ⟨dropped, (Sum.inl.inj h).symm, (pos_of_share_pos hw hl ht hshare).2, other, hne, hpos.2,
    hpos.1⟩

theorem Left.update (h : Left first weights) (dropped : Fin n) :
    Left first (Function.update weights dropped 0) := by
  intro i
  by_cases hi : i = dropped
  · subst hi
    exact .inr (Function.update_self ..)
  · rw [Function.update_of_ne hi]
    exact h i

/-- The measure of the loop: the devices that still have a weight. -/
def weighted (weights : Fin n → ℚ) : ℕ := #{i | 0 < weights i}

theorem weighted_update_lt {dropped : Fin n} (h : 0 < weights dropped) :
    weighted (Function.update weights dropped 0) < weighted weights := by
  refine card_lt_card ⟨fun i hi => ?_, fun hsubset => ?_⟩
  · have hpos := (mem_filter.mp hi).2
    by_cases hne : i = dropped
    · subst hne
      rw [Function.update_self] at hpos
      exact absurd hpos (lt_irrefl 0)
    · rw [Function.update_of_ne hne] at hpos
      exact mem_filter.mpr ⟨mem_univ i, hpos⟩
  · have hmem := hsubset (mem_filter.mpr ⟨mem_univ dropped, h⟩)
    have hpos := (mem_filter.mp hmem).2
    rw [Function.update_self] at hpos
    exact lt_irrefl 0 hpos

theorem weighted_le (weights : Fin n → ℚ) : weighted weights ≤ n := by
  have h := card_le_univ (univ.filter fun i => 0 < weights i)
  rwa [Fintype.card_fin] at h

theorem concentrate_returns (hfirst : ∀ i, 0 ≤ first i) (hl : ∀ i, 0 ≤ limits i) (ht : 0 ≤ total) :
    Returns (concentrationTurn total limits chargingNow) first
      (concentrate total limits chargingNow n first) := by
  have hstep : ∀ weights weights', Left first weights →
      concentrationTurn total limits chargingNow weights = .inl weights' →
      Left first weights' ∧ weighted weights' < weighted weights := by
    intro weights weights' hleft h
    obtain ⟨dropped, rfl, hpos, -⟩ := concentrationTurn_next (hleft.nonneg hfirst) hl ht h
    exact ⟨hleft.update dropped, weighted_update_lt hpos⟩
  refine fuelled_concentrate.returns hstep (fun weights hleft hnone => ?_)
    (fun i => .inl rfl) (weighted_le first)
  have hfew : #{i | 0 < weightedLimitedAllocation total weights limits i} ≤ 1 := by
    have hempty : (univ.filter fun i => 0 < weightedLimitedAllocation total weights limits i) = ∅ := by
      refine filter_eq_empty_iff.mpr fun i _ hi => ?_
      have hpos := pos_of_share_pos (hleft.nonneg hfirst) hl ht hi
      exact (filter_eq_empty_iff.mp (card_eq_zero.mp hnone)) (mem_univ i) hpos.2
    rw [hempty]
    exact Nat.zero_le 1
  rw [concentrationTurn]
  rw [if_pos hfew]
  rfl

/-! ### What the shares are -/

/-- What is kept from turn to turn: weights are only taken away, and one that counts is left. -/
def Feeds (first limits weights : Fin n → ℚ) : Prop :=
  Left first weights ∧
    ((∃ i, 0 < first i ∧ 0 < limits i) → ∃ i, 0 < weights i ∧ 0 < limits i)

theorem concentrationTurn_returns (h : concentrationTurn total limits chargingNow weights = .inr shares) :
    shares = weightedLimitedAllocation total weights limits ∧
      (#{i | 0 < shares i} ≤ 1 ∨ ∀ i, 0 < shares i → minimumShareW (chargingNow i) ≤ shares i) := by
  rw [concentrationTurn] at h
  split at h
  · next hfew =>
    rw [Sum.inr.inj h] at hfew
    exact ⟨(Sum.inr.inj h).symm, .inl hfew⟩
  · split at h
    · next hnone =>
      rw [Sum.inr.inj h] at hnone
      exact ⟨(Sum.inr.inj h).symm, .inr fun i hi => usable_of_none hnone hi⟩
    · cases h

theorem feeds_next (hfirst : ∀ i, 0 ≤ first i) (hl : ∀ i, 0 ≤ limits i)
    (ht : 0 ≤ total) (h : Feeds first limits weights)
    (hturn : concentrationTurn total limits chargingNow weights = .inl weights') :
    Feeds first limits weights' := by
  obtain ⟨dropped, rfl, -, other, hne, hweight, hlimit⟩ :=
    concentrationTurn_next (h.1.nonneg hfirst) hl ht hturn
  refine ⟨h.1.update dropped, fun _ => ⟨other, ?_, hlimit⟩⟩
  rw [Function.update_of_ne hne]
  exact hweight

/-- The shares of a split, before they are rounded. -/
structure Splits (total : ℚ) (first limits : Fin n → ℚ) (chargingNow : Fin n → Bool)
    (shares : Fin n → ℚ) : Prop where
  nonneg : ∀ i, 0 ≤ shares i
  le_limit : ∀ i, shares i ≤ limits i
  weightless : ∀ i, first i = 0 → shares i = 0
  worth : #{i | 0 < shares i} ≤ 1 ∨ ∀ i, 0 < shares i → minimumShareW (chargingNow i) ≤ shares i
  /-- What can be given is given: all of it, or the limit of a device. -/
  fed : (∃ i, 0 < first i ∧ 0 < limits i) →
    (∑ i, shares i = total ∨ ∃ i, 0 < limits i ∧ limits i ≤ ∑ j, shares j)
  sum_le : ∑ i, shares i ≤ total

theorem splits_of_returns (hfirst : ∀ i, 0 ≤ first i) (hl : ∀ i, 0 ≤ limits i)
    (ht : 0 ≤ total) (h : Returns (concentrationTurn total limits chargingNow) first shares) :
    Splits total first limits chargingNow shares := by
  obtain ⟨weights, ⟨hleft, hfeeds⟩, hlast⟩ :=
    @Returns.last _ _ _ _ _ h (Feeds first limits) ⟨fun i => .inl rfl, id⟩
      fun _ _ hw => feeds_next hfirst hl ht hw
  obtain ⟨hshares, hworth⟩ := concentrationTurn_returns hlast
  have hw : ∀ i, 0 ≤ weights i := hleft.nonneg hfirst
  have hfill : IsWaterFill total weights limits shares :=
    hshares ▸ weightedLimitedAllocation_isWaterFill hw hl ht
  refine ⟨hfill.nonneg hw hl, hfill.le_limit, fun i hi => ?_, hworth, fun hany => ?_, hfill.sum_le⟩
  · obtain ⟨level, hlevel, rfl⟩ := hfill.level
    refine fill_eq_zero hlevel (hw i) (hl i) fun hpos => ?_
    rcases hleft i with heq | hzero
    · exact hpos.2.ne' (heq.trans hi)
    · exact hpos.2.ne' hzero
  · obtain ⟨i, hweight, hlimit⟩ := hfeeds hany
    have hcapacity : limits i ≤ capacity weights limits := by
      have hsingle := single_le_sum (s := univ) (f := fun j => if 0 < weights j then limits j else 0)
        (fun j _ => by
          show (0 : ℚ) ≤ if 0 < weights j then limits j else 0
          split
          · exact hl j
          · exact le_rfl) (mem_univ i)
      rw [capacity]
      simpa only [hweight, if_true] using hsingle
    rw [hfill.sum]
    rcases le_total total (capacity weights limits) with hle | hle
    · exact .inl (min_eq_left hle)
    · exact .inr ⟨i, hlimit, by rwa [min_eq_right hle]⟩

/-! ### The targets -/

theorem absorbableWeight_nonneg (state : FetchedReport) (config : DeviceConfig) :
    0 ≤ absorbableWeight state config := by
  rw [absorbableWeight]
  split
  · exact le_rfl
  · split
    · exact le_rfl
    · dsimp only
      split
      · exact le_rfl
      · exact le_max_left _ _

theorem headroomWeight_nonneg (state : FetchedReport) (config : DeviceConfig)
    (capability : Option Capabilities) : 0 ≤ headroomWeight state config capability := by
  cases capability with
  | none => exact absorbableWeight_nonneg state config
  | some capability =>
    rw [headroomWeight, chargeHeadroomWeight_eq]
    split
    · exact le_rfl
    · exact absorbableWeight_nonneg state config

section Request

variable (request : ChargeRequest n)

theorem weight_nonneg (i : Fin n) : 0 ≤ request.weight i := by
  rw [ChargeRequest.weight]
  split
  · exact headroomWeight_nonneg _ _ _
  · exact le_rfl

theorem limit_nonneg (i : Fin n) : 0 ≤ request.limit i := by
  rw [ChargeRequest.limit]
  split
  · exact_mod_cast le_max_left 0 (request.ceilings i)
  · exact le_rfl

theorem limit_le (i : Fin n) : request.limit i ≤ ((max 0 (request.ceilings i) : ℤ) : ℚ) := by
  rw [ChargeRequest.limit]
  split
  · exact le_rfl
  · exact_mod_cast le_max_left 0 (request.ceilings i)

theorem one_le_limit {i : Fin n} (h : 0 < request.limit i) : 1 ≤ request.limit i := by
  rw [ChargeRequest.limit] at h ⊢
  split at h
  · next hchargeable =>
    rw [if_pos hchargeable]
    have hpos : 0 < max 0 (request.ceilings i) := by exact_mod_cast h
    exact_mod_cast hpos
  · exact absurd h (lt_irrefl 0)

theorem weight_of_cannotCharge {i : Fin n} (h : request.chargeable i = false ∨
    ∃ capability, request.capabilities[(i : ℕ)]? = some capability ∧ capability.canCharge = false) :
    request.weight i = 0 := by
  rw [ChargeRequest.weight]
  rcases h with hno | ⟨capability, hcapability, hno⟩
  · rw [hno]
    rfl
  · split
    · rw [hcapability, headroomWeight, chargeHeadroomWeight_eq, hno]
      rfl
    · rfl

end Request

theorem sum_round_le (hshares : ∀ i, 0 ≤ shares i) :
    ∑ i, (roundHalfEven (shares i) : ℚ) ≤
      ∑ i, shares i + (#{i | 0 < roundHalfEven (shares i)} : ℚ) / 2 := by
  have hterm : ∀ i, (roundHalfEven (shares i) : ℚ) ≤
      shares i + if 0 < roundHalfEven (shares i) then (1 : ℚ) / 2 else 0 := by
    intro i
    split
    · have h := (abs_le.mp (abs_roundHalfEven_sub_le (shares i))).2
      linarith
    · next hno =>
      have hzero : (roundHalfEven (shares i) : ℚ) ≤ 0 := by exact_mod_cast not_lt.mp hno
      have h := hshares i
      linarith
  calc ∑ i, (roundHalfEven (shares i) : ℚ)
      ≤ ∑ i, (shares i + if 0 < roundHalfEven (shares i) then (1 : ℚ) / 2 else 0) :=
        sum_le_sum fun i _ => hterm i
    _ = ∑ i, shares i + (#{i | 0 < roundHalfEven (shares i)} : ℚ) / 2 := by
        rw [sum_add_distrib, ← sum_filter, sum_const, nsmul_eq_mul]
        ring

theorem minimumShareW_le_round {charging : Bool} {share : ℚ} (h : minimumShareW charging ≤ share) :
    minimumShareW charging ≤ (roundHalfEven share : ℚ) := by
  have hwhole : ∀ watts : ℤ, minimumShareW charging = watts →
      minimumShareW charging ≤ (roundHalfEven share : ℚ) := by
    intro watts hwatts
    rw [hwatts] at h ⊢
    exact_mod_cast le_roundHalfEven_of_intCast_le h
  cases charging with
  | false => exact hwhole 50 (by norm_num [minimumShareW, minDeviceChargeW])
  | true => exact hwhole 25 (by norm_num [minimumShareW, minDeviceChargeW])

theorem one_le_minimumShareW (charging : Bool) : 1 ≤ minimumShareW charging := by
  cases charging <;> norm_num [minimumShareW, minDeviceChargeW]

theorem exists_one_le_share (hnonneg : ∀ i, 0 ≤ shares i)
    (hworth : #{i | 0 < shares i} ≤ 1 ∨ ∀ i, 0 < shares i → minimumShareW (chargingNow i) ≤ shares i)
    (hsum : 1 ≤ ∑ i, shares i) : ∃ i, 1 ≤ shares i := by
  have hany : ∃ i, 0 < shares i := by
    by_contra hnone
    have hzero : ∑ i, shares i ≤ 0 :=
      sum_nonpos fun i _ => not_lt.mp fun hi => hnone ⟨i, hi⟩
    linarith
  obtain ⟨i, hi⟩ := hany
  rcases hworth with hfew | hall
  · refine ⟨i, hsum.trans_eq (sum_eq_single i (fun j _ hj => ?_) fun h => absurd (mem_univ i) h)⟩
    by_contra hshare
    have hpos : 0 < shares j := lt_of_le_of_ne (hnonneg j) (Ne.symm hshare)
    exact hj (card_le_one.mp hfew j (by simp [hpos]) i (by simp [hi]))
  · exact ⟨i, (one_le_minimumShareW _).trans (hall i hi)⟩

/-- **How `allocate_charge_targets` splits a charge.**  Its loop returns, and each target lies between
the device's ceiling and nothing; a device that cannot charge or weighs nothing gets nothing; two
devices are given a charge only where every charge is worth taking; a charge that can be given is
given; and the targets exceed the total by no more than their rounding. -/
theorem allocateChargeTargets_splits (totalChargeW : ℚ) (request : ChargeRequest n) :
    ∃ shares, Returns (concentrationTurn (max 0 totalChargeW) request.limit request.charging)
        request.weight shares ∧
      (∀ i, allocateChargeTargets totalChargeW request i = -roundHalfEven (shares i)) ∧
      (∀ i, -max 0 (request.ceilings i) ≤ allocateChargeTargets totalChargeW request i ∧
        allocateChargeTargets totalChargeW request i ≤ 0) ∧
      (∀ i, (request.weight i = 0 ∨ request.chargeable i = false ∨
          ∃ capability, request.capabilities[(i : ℕ)]? = some capability ∧
            capability.canCharge = false) →
        allocateChargeTargets totalChargeW request i = 0) ∧
      (#{i | allocateChargeTargets totalChargeW request i < 0} ≤ 1 ∨
        ∀ i, allocateChargeTargets totalChargeW request i < 0 →
          minimumShareW (request.charging i) ≤ shares i ∧
          (allocateChargeTargets totalChargeW request i : ℚ) ≤ -minimumShareW (request.charging i)) ∧
      (1 ≤ totalChargeW → (∃ i, 0 < request.weight i ∧ 0 < request.ceilings i) →
        ∃ i, allocateChargeTargets totalChargeW request i < 0) ∧
      ∑ i, |(allocateChargeTargets totalChargeW request i : ℚ)| ≤ max 0 totalChargeW +
        (#{i | allocateChargeTargets totalChargeW request i < 0} : ℚ) / 2 := by
  have ht : (0 : ℚ) ≤ max 0 totalChargeW := le_max_left _ _
  have hreturns : Returns (concentrationTurn (max 0 totalChargeW) request.limit request.charging)
      request.weight
      (concentrate (max 0 totalChargeW) request.limit request.charging n request.weight) :=
    concentrate_returns (weight_nonneg request) (limit_nonneg request) ht
  have hsplits := splits_of_returns (weight_nonneg request) (limit_nonneg request) ht hreturns
  refine ⟨_, hreturns, fun i => rfl, ?_⟩
  have htarget : ∀ i, allocateChargeTargets totalChargeW request i = -roundHalfEven
      (concentrate (max 0 totalChargeW) request.limit request.charging n request.weight i) :=
    fun i => rfl
  generalize concentrate (max 0 totalChargeW) request.limit request.charging n request.weight =
    shares at hsplits htarget
  have hround : ∀ i, 0 ≤ roundHalfEven (shares i) := fun i => roundHalfEven_nonneg (hsplits.nonneg i)
  have hneg : ∀ i, allocateChargeTargets totalChargeW request i < 0 ↔
      0 < roundHalfEven (shares i) := by
    intro i
    rw [htarget]
    omega
  have hshare : ∀ i, 0 < roundHalfEven (shares i) → 0 < shares i := by
    intro i hi
    refine lt_of_le_of_ne (hsplits.nonneg i) fun hzero => ?_
    rw [← hzero, roundHalfEven_zero] at hi
    exact lt_irrefl 0 hi
  refine ⟨fun i => ?_, fun i hi => ?_, ?_, fun htotal hany => ?_, ?_⟩
  · have hle : roundHalfEven (shares i) ≤ max 0 (request.ceilings i) :=
      roundHalfEven_le_of_le_intCast ((hsplits.le_limit i).trans (limit_le request i))
    have hnonneg := hround i
    rw [htarget]
    omega
  · have hweight : request.weight i = 0 := hi.elim id (weight_of_cannotCharge request)
    rw [htarget, hsplits.weightless i hweight, roundHalfEven_zero]
    rfl
  · rcases hsplits.worth with hfew | hall
    · refine .inl ((card_le_card fun i hi => ?_).trans hfew)
      exact mem_filter.mpr ⟨mem_univ i, hshare i ((hneg i).mp (mem_filter.mp hi).2)⟩
    · refine .inr fun i hi => ?_
      have hmin := hall i (hshare i ((hneg i).mp hi))
      refine ⟨hmin, ?_⟩
      rw [htarget, Int.cast_neg, neg_le_neg_iff]
      exact minimumShareW_le_round hmin
  · obtain ⟨i, hweight, hceiling⟩ := hany
    have hlimit : 0 < request.limit i := by
      have hchargeable : request.chargeable i = true := by
        by_contra hno
        rw [weight_of_cannotCharge request (.inl (by simpa using hno))] at hweight
        exact lt_irrefl 0 hweight
      rw [ChargeRequest.limit, if_pos hchargeable]
      exact_mod_cast lt_max_of_lt_right hceiling
    have hsum : 1 ≤ ∑ j, shares j := by
      rcases hsplits.fed ⟨i, hweight, hlimit⟩ with heq | ⟨j, hj, hle⟩
      · rw [heq]
        exact htotal.trans (le_max_right _ _)
      · exact (one_le_limit request hj).trans hle
    obtain ⟨j, hj⟩ := exists_one_le_share hsplits.nonneg hsplits.worth hsum
    have hwatt : 1 ≤ roundHalfEven (shares j) :=
      le_roundHalfEven_of_intCast_le (by exact_mod_cast hj)
    exact ⟨j, (hneg j).mpr (by omega)⟩
  · have habs : ∀ i, |(allocateChargeTargets totalChargeW request i : ℚ)| =
        (roundHalfEven (shares i) : ℚ) := by
      intro i
      have hcast : (0 : ℚ) ≤ (roundHalfEven (shares i) : ℚ) := by exact_mod_cast hround i
      rw [htarget, Int.cast_neg, abs_neg, abs_of_nonneg hcast]
    have hcount : #{i | allocateChargeTargets totalChargeW request i < 0} =
        #{i | 0 < roundHalfEven (shares i)} := by
      congr 1
      exact filter_congr fun i _ => hneg i
    rw [sum_congr rfl fun i _ => habs i, hcount]
    have hle := sum_round_le hsplits.nonneg
    have htotal := hsplits.sum_le
    linarith

end SolarFlowEms.Controller
