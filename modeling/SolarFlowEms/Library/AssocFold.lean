import Mathlib.Data.List.AList
import SolarFlowEms.Library.Run

/-!
# Folds over a table that touch one key for each of its entries

A fold over the entries of a table whose step for an entry leaves every other key alone.  What it
leaves at a key is what the step for that key's entry makes of it, and what was there where the
table has no such key.
-/

namespace SolarFlowEms.AssocFold

open Run

variable {κ γ σ β : Type*} [DecidableEq κ] {visit : σ → κ → γ → σ} (obs : κ → σ → β)

def rows (table : AList (fun _ : κ => γ)) : List (κ × γ) := table.entries.map fun e => (e.1, e.2)

omit [DecidableEq κ] in
theorem keys_rows (table : AList (fun _ : κ => γ)) : (rows table).map Prod.fst = table.keys := by
  show (table.entries.map fun e => (e.1, e.2)).map Prod.fst = table.entries.map Sigma.fst
  rw [List.map_map]
  rfl

omit [DecidableEq κ] in
theorem foldl_eq_run (table : AList (fun _ : κ => γ)) (s : σ) :
    table.foldl visit s = run (fun s row => visit s row.1 row.2) s (rows table) := by
  show table.entries.foldl (fun s e => visit s e.1 e.2) s =
    (table.entries.map fun e => (e.1, e.2)).foldl (fun s row => visit s row.1 row.2) s
  rw [List.foldl_map]

variable {table : AList (fun _ : κ => γ)} {k : κ} {a : γ}

theorem mem_rows (h : table.lookup k = some a) :
    (k, a) ∈ rows table :=
  List.mem_map.mpr ⟨⟨k, a⟩, AList.mem_lookup_iff.mp h, rfl⟩

theorem obs_foldl_of_none (hother : ∀ s name a k, k ≠ name → obs k (visit s name a) = obs k s)
    (hk : table.lookup k = none) (s : σ) :
    obs k (table.foldl visit s) = obs k s := by
  rw [foldl_eq_run]
  refine obs_run_of_notMem obs (fun s row k => hother s row.1 row.2 k) s ?_
  rw [keys_rows]
  exact AList.lookup_eq_none.mp hk

/-- **What is seen at a key is what the step for its entry makes of it.** -/
theorem obs_foldl_of_some (hother : ∀ s name a k, k ≠ name → obs k (visit s name a) = obs k s)
    (hk : table.lookup k = some a) (s : σ) :
    ∃ s', obs k s' = obs k s ∧ obs k (table.foldl visit s) = obs k (visit s' k a) := by
  rw [foldl_eq_run]
  refine obs_run_of_mem obs (fun s row k => hother s row.1 row.2 k) s ?_ (mem_rows hk)
  rw [keys_rows]
  exact table.keys_nodup

end SolarFlowEms.AssocFold
