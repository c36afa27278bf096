import Mathlib.Algebra.Order.Group.Defs
import Mathlib.Data.List.DropRight
import Mathlib.Data.List.Count

/-!
# Counts over sliding windows

A rate limiter keeps the times of its events, drops those that are a span old, and admits a new
one only while fewer than its limit are kept.  Dropping loses nothing for later counts, and
then no window shorter than the span ever holds more events than the limit.

A window of the last `n` observations is kept by appending each and trimming to `n`.
-/

namespace SolarFlowEms.SlidingWindow

/-! ### Events within a span -/

section Rate

variable {τ : Type*} [AddCommGroup τ] [LinearOrder τ]

/-- The times less than a span before `now`. -/
def recent (span : τ) (times : List τ) (now : τ) : List τ := times.filter (now - · < span)

/-- Any two times of the window are less than a span apart. -/
def Narrow (span : τ) (window : τ → Bool) : Prop :=
  ∀ t u, window t = true → window u = true → u - t < span

/-- No window narrower than the span holds more than `limit` of the times. -/
def Bounded (span : τ) (limit : ℕ) (times : List τ) : Prop :=
  ∀ window, Narrow span window → (times.filter window).length ≤ limit

variable {span now now' : τ} {times : List τ} {limit : ℕ}

theorem bounded_nil (span : τ) (limit : ℕ) : Bounded span limit [] :=
  fun _ _ => Nat.zero_le limit

/-- **What was dropped is still too old later.** -/
theorem recent_recent [IsOrderedAddMonoid τ] (hle : now ≤ now') :
    recent span (recent span times now) now' = recent span times now' := by
  rw [recent, recent, recent, List.filter_filter]
  apply List.filter_congr
  intro t _
  have himp : now' - t < span → now - t < span :=
    fun hlt => (sub_le_sub_right hle t).trans_lt hlt
  by_cases hlt : now' - t < span
  · simp [hlt, himp hlt]
  · simp [hlt]

theorem recent_append (hpos : 0 < span) :
    recent span (times ++ [now]) now = recent span times now ++ [now] := by
  simp [recent, hpos]

/-- **One more event where fewer than the limit are recent.** -/
theorem Bounded.append (h : Bounded span limit times) (hlt : (recent span times now).length < limit) :
    Bounded span limit (times ++ [now]) := by
  intro window hnarrow
  rw [List.filter_append]
  cases hnow : window now with
  | false => simpa [hnow] using h window hnarrow
  | true =>
    have himp : window ≤ fun t => decide (now - t < span) :=
      fun t => Bool.le_iff_imp.mpr fun ht => decide_eq_true (hnarrow t now ht hnow)
    have hle : (times.filter window).length ≤ (recent span times now).length :=
      (List.monotone_filter_right times himp).length_le
    simp only [hnow, List.filter_cons_of_pos, List.filter_nil, List.length_append,
      List.length_singleton]
    omega

theorem narrow_Ico [IsOrderedAddMonoid τ] (span a : τ) :
    Narrow span fun t => decide (a ≤ t ∧ t < a + span) := by
  intro t u ht hu
  have ht' := of_decide_eq_true ht
  have hu' := of_decide_eq_true hu
  exact sub_lt_iff_lt_add'.mpr (hu'.2.trans_le (add_le_add_left ht'.1 span))

theorem narrow_Ioc [IsOrderedAddMonoid τ] (span a : τ) :
    Narrow span fun t => decide (a < t ∧ t ≤ a + span) := by
  intro t u ht hu
  have ht' := of_decide_eq_true ht
  have hu' := of_decide_eq_true hu
  exact sub_lt_iff_lt_add'.mpr (hu'.2.trans_lt (add_lt_add_left ht'.1 span))

end Rate

/-! ### The last observations -/

theorem rtake_append_rtake {α : Type*} (observed : List α) (x : α) {n : ℕ} (hn : 0 < n) :
    (observed.rtake n ++ [x]).rtake n = (observed ++ [x]).rtake n := by
  obtain ⟨m, rfl⟩ := Nat.exists_eq_succ_of_ne_zero hn.ne'
  rw [List.rtake_concat_succ, List.rtake_concat_succ]
  simp [List.rtake_eq_reverse_take_reverse, List.take_take]

end SolarFlowEms.SlidingWindow
