import Mathlib.Data.Nat.Notation

/-!
# Loops that return

A loop takes a step, and a step either goes on from another state or returns.  `Returns` holds of a
state and a value where the loop returns that value from there after finitely many steps; a loop that
never ends returns nothing.  A loop that is computed with fuel returns what it computes wherever the
fuel covers a measure that every step lowers.
-/

namespace SolarFlowEms.Loop

variable {σ α : Type*} {step : σ → σ ⊕ α}

/-- The loop returns the value from the state. -/
inductive Returns (step : σ → σ ⊕ α) : σ → α → Prop
  | done {s : σ} {a : α} (h : step s = .inr a) : Returns step s a
  | next {s s' : σ} {a : α} (h : step s = .inl s') (rest : Returns step s' a) : Returns step s a

/-- **What a loop returns, it returns from a state that its steps have led to.** -/
theorem Returns.last {s : σ} {a : α} (h : Returns step s a) {Inv : σ → Prop} (hs : Inv s)
    (hstep : ∀ s s', Inv s → step s = .inl s' → Inv s') : ∃ s', Inv s' ∧ step s' = .inr a := by
  induction h with
  | done h => exact ⟨_, hs, h⟩
  | next h _ ih => exact ih (hstep _ _ hs h)

/-- A loop computed with fuel, which takes a step for each unit of it. -/
structure Fuelled (step : σ → σ ⊕ α) (compute : ℕ → σ → α) : Prop where
  done : ∀ k s a, step s = .inr a → compute (k + 1) s = a
  next : ∀ k s s', step s = .inl s' → compute (k + 1) s = compute k s'

/-- **A loop returns what it computes**, where every step keeps an invariant and lowers a measure that
the fuel covers; at the measure's end the loop returns whatever the fuel. -/
theorem Fuelled.returns {compute : ℕ → σ → α} (hcompute : Fuelled step compute) {Inv : σ → Prop}
    {measure : σ → ℕ}
    (hstep : ∀ s s', Inv s → step s = .inl s' → Inv s' ∧ measure s' < measure s)
    (hend : ∀ s, Inv s → measure s = 0 → step s = .inr (compute 0 s))
    {k : ℕ} {s : σ} (hs : Inv s) (hk : measure s ≤ k) : Returns step s (compute k s) := by
  induction k generalizing s with
  | zero => exact .done (hend s hs (Nat.le_zero.mp hk))
  | succ k ih =>
    cases hs' : step s with
    | inr a =>
      rw [hcompute.done k s a hs']
      exact .done hs'
    | inl s' =>
      rw [hcompute.next k s s' hs']
      have hlower := hstep s s' hs hs'
      exact .next hs' (ih hlower.1 (by omega))

end SolarFlowEms.Loop
