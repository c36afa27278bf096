import Mathlib.Algebra.Order.Group.Defs
import Mathlib.Data.List.Chain

/-!
# Attempts in rounds

What is not taken is sent again: a round has a bounded number of attempts, a while apart, and the
next round waits much longer.  A record keeps the attempts of the round and the time of the last
one.  Then any two attempts are the shorter while apart, and one attempt more than a round has
spans the longer one.
-/

namespace SolarFlowEms.LimitedRetries

variable {τ : Type*} [AddCommGroup τ] [LinearOrder τ]

/-- The while between two attempts, the one between two rounds, and the attempts of a round. -/
structure Limits (τ : Type*) where
  resend : τ
  hold : τ
  most : ℕ

structure Attempts (τ : Type*) where
  count : ℕ
  last : τ

variable (limits : Limits τ)

/-- Whether another attempt is due, and the record, which starts a new round after the longer
while. -/
def due (now : τ) (record : Attempts τ) : Bool × Attempts τ :=
  if now - record.last < limits.resend then (false, record)
  else if record.count < limits.most then (true, record)
  else if now - record.last < limits.hold then (false, record)
  else (true, ⟨0, record.last⟩)

/-- The attempts, the latest first, are as far apart as the limits say, and the record tells where
the last longer while was. -/
structure Kept (now : τ) (record : Option (Attempts τ)) (sends : List τ) : Prop where
  sorted : (now :: sends).Pairwise (· ≥ ·)
  spaced : sends.IsChain fun later earlier => limits.resend ≤ later - earlier
  spans : ∀ i later earlier, sends[i]? = some later → sends[i + limits.most]? = some earlier →
    limits.hold ≤ later - earlier
  fresh : record = none → sends = []
  head : ∀ a, record = some a → ∀ t, sends.head? = some t → a.last = t
  count : ∀ a, record = some a → a.count ≤ limits.most
  pause : ∀ a, record = some a → ∀ later earlier, (now :: sends)[a.count]? = some later →
    (now :: sends)[a.count + 1]? = some earlier → limits.hold ≤ later - earlier

variable {limits} {now now' : τ} {record : Attempts τ} {sends : List τ}

theorem Kept.nil {found : Option (Attempts τ)} (h : ∀ a, found = some a → a.count ≤ limits.most) :
    Kept limits now found [] where
  sorted := List.pairwise_singleton _ _
  spaced := List.isChain_nil
  spans i later earlier hlater _ := by cases hlater
  fresh _ := rfl
  head a _ t ht := by cases ht
  count := h
  pause a _ later earlier _ hearlier := by cases hearlier

theorem Kept.wait [IsOrderedAddMonoid τ] {found : Option (Attempts τ)} (h : Kept limits now found sends)
    (hle : now ≤ now') : Kept limits now' found sends where
  sorted := by
    obtain ⟨hhead, htail⟩ := List.pairwise_cons.mp h.sorted
    exact List.pairwise_cons.mpr ⟨fun t ht => (hhead t ht).trans hle, htail⟩
  spaced := h.spaced
  spans := h.spans
  fresh := h.fresh
  head := h.head
  count := h.count
  pause a ha later earlier hlater hearlier := by
    cases hcount : a.count with
    | zero =>
      rw [hcount] at hlater hearlier
      obtain rfl : now' = later := Option.some_inj.mp hlater
      have hpause := h.pause a ha now earlier (by rw [hcount]; rfl) (by rw [hcount]; exact hearlier)
      exact hpause.trans (sub_le_sub_right hle earlier)
    | succ n =>
      rw [hcount] at hlater hearlier
      exact h.pause a ha later earlier (by rw [hcount]; exact hlater)
        (by rw [hcount]; exact hearlier)

theorem Kept.due (h : Kept limits now (some record) sends) :
    Kept limits now (some (due limits now record).2) sends := by
  unfold LimitedRetries.due
  split
  · exact h
  split
  · exact h
  split
  · exact h
  · rename_i hhold
    refine { h with fresh := fun hnone => ?_, head := ?_, count := ?_, pause := ?_ }
    · cases hnone
    · intro a ha t ht
      cases ha
      exact h.head record rfl t ht
    · intro a ha
      cases ha
      exact Nat.zero_le _
    · intro a ha later earlier hlater hearlier
      cases ha
      obtain rfl : now = later := Option.some_inj.mp hlater
      have hlast : record.last = earlier := h.head record rfl earlier (by
        rw [List.head?_eq_getElem?]
        exact hearlier)
      rw [← hlast]
      exact not_lt.mp hhold

theorem due_true (h : (due limits now record).1 = true) (hpos : 0 < limits.most) :
    limits.resend ≤ now - record.last ∧ (due limits now record).2.last = record.last ∧
      (due limits now record).2.count < limits.most := by
  unfold due at h ⊢
  by_cases hresend : now - record.last < limits.resend
  · rw [if_pos hresend] at h
    cases h
  rw [if_neg hresend] at h ⊢
  refine ⟨not_lt.mp hresend, ?_⟩
  by_cases hcount : record.count < limits.most
  · rw [if_pos hcount]
    exact ⟨rfl, hcount⟩
  rw [if_neg hcount] at h ⊢
  by_cases hhold : now - record.last < limits.hold
  · rw [if_pos hhold] at h
    cases h
  · rw [if_neg hhold]
    exact ⟨rfl, hpos⟩

theorem Kept.first (hpos : 0 < limits.most) : Kept limits now (some ⟨1, now⟩) [now] where
  sorted := by simp
  spaced := List.isChain_singleton _
  spans i later earlier hlater hearlier := by
    obtain ⟨hi, -⟩ := List.getElem?_eq_some_iff.mp hlater
    obtain ⟨hmost, -⟩ := List.getElem?_eq_some_iff.mp hearlier
    simp only [List.length_singleton] at hi hmost
    omega
  fresh hnone := by cases hnone
  head a ha t ht := by
    cases ha
    exact Option.some_inj.mp ht
  count a ha := by
    cases ha
    exact hpos
  pause a ha later earlier _ hearlier := by
    cases ha
    cases hearlier

theorem Kept.send [IsOrderedAddMonoid τ] (h : Kept limits now (some record) sends)
    (hresend : limits.resend ≤ now - record.last) (hcount : record.count < limits.most) :
    Kept limits now (some ⟨record.count + 1, now⟩) (now :: sends) where
  sorted := List.pairwise_cons.mpr ⟨fun t ht => by
    rcases List.mem_cons.mp ht with rfl | ht
    · exact le_refl t
    · exact (List.pairwise_cons.mp h.sorted).1 t ht, h.sorted⟩
  spaced := by
    cases sends with
    | nil => exact List.isChain_singleton _
    | cons last rest =>
      refine List.isChain_cons_cons.mpr ⟨?_, h.spaced⟩
      rw [← h.head record rfl last rfl]
      exact hresend
  spans i later earlier hlater hearlier := by
    cases i with
    | succ i =>
      refine h.spans i later earlier hlater ?_
      rw [Nat.add_right_comm] at hearlier
      exact hearlier
    | zero =>
      -- the longer while of the round lies between this attempt and the one a round before it
      obtain rfl : now = later := Option.some_inj.mp hlater
      rw [Nat.zero_add] at hearlier
      obtain ⟨hlength, hearlier⟩ := List.getElem?_eq_some_iff.mp hearlier
      have hbefore : record.count + 1 < (now :: sends).length := by omega
      have hpause := h.pause record rfl _ _
        (List.getElem?_eq_getElem (by omega)) (List.getElem?_eq_getElem hbefore)
      have hsorted (i j : ℕ) (hij : i ≤ j) (hj : j < (now :: sends).length) :
          (now :: sends)[j] ≤ (now :: sends)[i] := by
        rcases hij.eq_or_lt with rfl | hlt
        · exact le_refl _
        · exact List.pairwise_iff_getElem.mp h.sorted i j _ hj hlt
      have hfirst : (now :: sends)[record.count] ≤ now := hsorted 0 record.count (by omega) (by omega)
      have hlast := hsorted (record.count + 1) limits.most hcount hlength
      rw [hearlier] at hlast
      exact hpause.trans (sub_le_sub hfirst hlast)
  fresh hnone := by cases hnone
  head a ha t ht := by
    cases ha
    exact Option.some_inj.mp ht
  count a ha := by
    cases ha
    exact hcount
  pause a ha later earlier hlater hearlier := by
    cases ha
    exact h.pause record rfl later earlier hlater hearlier

end SolarFlowEms.LimitedRetries
