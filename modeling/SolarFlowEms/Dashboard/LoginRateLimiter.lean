import Mathlib.Algebra.Order.Group.Int
import Mathlib.Data.List.Sort
import SolarFlowEms.Library.Run
import SolarFlowEms.Library.SlidingWindow
import SolarFlowEms.Library.Table

/-!
# Login attempts within a window

The limiter counts the attempts of each key, the address a login comes from, and grants one only
while fewer than its maximum fall into the window.  The table of keys is capped: where it grows
beyond its size, the keys that were tried least recently are dropped, with attempts that still
count.  A key keeps its limit in every run in which it is never the one that has to go.
-/

namespace SolarFlowEms.Dashboard

open Run SlidingWindow Tables

/-- `LoginRateLimiter`, as it was made.  Its state is the table of the attempts under each key. -/
structure LoginRateLimiter (τ : Type*) where
  maxFailures : ℕ
  windowSeconds : τ
  maxEntries : ℕ

variable {κ τ : Type*} [DecidableEq κ] [AddCommGroup τ] [LinearOrder τ]

/-- `failures.get(key, [])`. -/
def attempts (failures : Table κ (List τ)) (key : κ) : List τ := (failures.lookup key).getD []

/-- `max(item[1]) if item[1] else 0`. -/
def lastAttempt (row : κ × List τ) : τ := row.2.max?.getD 0

namespace LoginRateLimiter

variable (limiter : LoginRateLimiter τ) (failures : Table κ (List τ))

/-- `prune`: `_active_attempts` of every key. -/
def prune (now : τ) : Table κ (List τ) :=
  (failures.view fun _ times => recent limiter.windowSeconds times now).keep (·.2 ≠ [])

/-- `is_limited`, of a table that was pruned. -/
def isLimited (key : κ) : Bool := limiter.maxFailures ≤ (attempts failures key).length

/-- The rows that are too many, those tried least recently. -/
def surplus : List (κ × List τ) :=
  (failures.rows.insertionSort (lastAttempt · ≤ lastAttempt ·)).take
    (failures.rows.length - limiter.maxEntries)

def capEntries : Table κ (List τ) :=
  if failures.rows.length ≤ limiter.maxEntries then failures
  else failures.keep (·.1 ∉ (limiter.surplus failures).map Prod.fst)

def recordFailure (key : κ) (now : τ) : Table κ (List τ) :=
  let pruned := limiter.prune failures now
  limiter.capEntries (pruned.upsert key (attempts pruned key ++ [now]))

/-- `try_attempt`, with its answer. -/
def tryAttempt (key : κ) (now : τ) : Bool × Table κ (List τ) :=
  let pruned := limiter.prune failures now
  if limiter.isLimited pruned key then (false, pruned)
  else (true, limiter.recordFailure pruned key now)

end LoginRateLimiter

/-! ### Runs -/

inductive LimiterCall (κ : Type*) where
  | tryAttempt (key : κ)
  | reset (key : κ)

/-- A limiter under observation: its table, its last call, and the attempts of one key that it
granted since the last reset of that key. -/
structure Observed (κ τ : Type*) where
  failures : Table κ (List τ)
  lastCall : τ
  granted : List τ

def Observed.initially (start : τ) : Observed κ τ := ⟨.empty, start, []⟩

namespace LoginRateLimiter

variable (limiter : LoginRateLimiter τ) (key : κ)

/-- One call at its time, seen by who counts the attempts of `key`. -/
def observe (s : Observed κ τ) (call : LimiterCall κ × τ) : Observed κ τ :=
  match call.1 with
  | .tryAttempt k =>
    let answer := limiter.tryAttempt s.failures k call.2
    ⟨answer.2, call.2, if answer.1 = true ∧ k = key then s.granted ++ [call.2] else s.granted⟩
  | .reset k => ⟨s.failures.erase k, call.2, if k = key then [] else s.granted⟩

def Orderly (s : Observed κ τ) (call : LimiterCall κ × τ) : Prop := s.lastCall ≤ call.2

instance decidableOrderly (s : Observed κ τ) (call : LimiterCall κ × τ) :
    Decidable (Orderly s call) := inferInstanceAs (Decidable (s.lastCall ≤ call.2))

/-- The call spares the key: where an attempt under a new key finds the table full, another key was
tried less recently than `key`. -/
def Spares (s : Observed κ τ) (call : LimiterCall κ × τ) : Prop :=
  ∀ k, call.1 = .tryAttempt k → k ≠ key →
    let live := limiter.prune s.failures call.2
    live.lookup k = none → limiter.maxEntries ≤ live.rows.length →
      ∀ times, live.lookup key = some times →
        ∃ row ∈ live.rows, lastAttempt row < lastAttempt (key, times)

variable {limiter key} {failures : Table κ (List τ)} {now : τ} {k : κ}

/-! ### Pruning -/

theorem lookup_prune : (limiter.prune failures now).lookup key =
    ((failures.lookup key).map (recent limiter.windowSeconds · now)).filter (· ≠ []) := by
  rw [prune, Table.lookup_keep, Table.lookup_view]

theorem attempts_prune : attempts (limiter.prune failures now) key =
    recent limiter.windowSeconds (attempts failures key) now := by
  rw [attempts, attempts, lookup_prune]
  cases failures.lookup key with
  | none => rfl
  | some times =>
    by_cases hempty : recent limiter.windowSeconds times now = []
    · simp [hempty, Option.filter]
    · simp [hempty, Option.filter]

variable {row : κ × List τ}

omit [DecidableEq κ] in
theorem mem_prune (h : row ∈ (limiter.prune failures now).rows) :
    row.2 ≠ [] ∧ ∃ times, (row.1, times) ∈ failures.rows ∧
      row.2 = recent limiter.windowSeconds times now := by
  obtain ⟨hmem, hne⟩ := List.mem_filter.mp h
  obtain ⟨before, hbefore, rfl⟩ := List.mem_map.mp hmem
  exact ⟨of_decide_eq_true hne, before.2, hbefore, rfl⟩

omit [DecidableEq κ] in
theorem length_prune_le : (limiter.prune failures now).rows.length ≤ failures.rows.length := by
  refine (List.length_filter_le _ _).trans ?_
  exact le_of_eq (List.length_map _)

omit [DecidableEq κ] in
theorem prune_prune [IsOrderedAddMonoid τ] :
    limiter.prune (limiter.prune failures now) now = limiter.prune failures now := by
  have hsame : ∀ row ∈ (limiter.prune failures now).rows,
      (row.1, recent limiter.windowSeconds row.2 now) = row := by
    intro row hrow
    obtain ⟨-, times, -, heq⟩ := mem_prune hrow
    rw [heq, recent_recent le_rfl, ← heq]
  apply Table.ext
  show ((limiter.prune failures now).rows.map fun row =>
    (row.1, recent limiter.windowSeconds row.2 now)).filter _ = _
  rw [List.map_congr_left hsame, List.map_id', List.filter_eq_self]
  intro row hrow
  exact decide_eq_true (mem_prune hrow).1

/-! ### The cap -/

theorem insertionSort_concat {α : Type*} (r : α → α → Prop) [DecidableRel r] {l : List α} {x : α}
    (h : ∀ y ∈ l, r y x) : (l ++ [x]).insertionSort r = l.insertionSort r ++ [x] := by
  have hordered : ∀ (y : α) (l : List α), r y x →
      (l ++ [x]).orderedInsert r y = l.orderedInsert r y ++ [x] := by
    intro y l hy
    induction l with
    | nil => simp [hy]
    | cons z l ih =>
      simp only [List.cons_append, List.orderedInsert_cons]
      split
      · rfl
      · rw [ih, List.cons_append]
  induction l with
  | nil => rfl
  | cons y l ih =>
    rw [List.cons_append, List.insertionSort_cons, List.insertionSort_cons,
      ih fun z hz => h z (List.mem_cons_of_mem y hz)]
    exact hordered y _ (h y List.mem_cons_self)

omit [DecidableEq κ] in
theorem notMem_take_one {rows : List (κ × List τ)} {row' : κ × List τ} (hrow' : row' ∈ rows)
    (hlt : lastAttempt row' < lastAttempt row) :
    row ∉ (rows.insertionSort (lastAttempt · ≤ lastAttempt ·)).take 1 := by
  have hsorted := List.pairwise_insertionSort
    (fun row row' : κ × List τ => lastAttempt row ≤ lastAttempt row') rows
  have hmem := (List.mem_insertionSort (fun row row' : κ × List τ => lastAttempt row ≤ lastAttempt row')).mpr
    hrow'
  cases hsort : rows.insertionSort (lastAttempt · ≤ lastAttempt ·) with
  | nil => simp
  | cons first rest =>
    rw [hsort] at hsorted hmem
    intro hfirst
    obtain rfl : row = first := by simpa using hfirst
    rcases List.mem_cons.mp hmem with rfl | hrest
    · exact lt_irrefl _ hlt
    · exact not_le_of_gt hlt ((List.pairwise_cons.mp hsorted).1 row' hrest)

omit [DecidableEq κ] in
theorem mem_of_mem_surplus (h : row ∈ limiter.surplus failures) :
    row ∈ failures.rows :=
  (List.mem_insertionSort _).mp (List.mem_of_mem_take h)

theorem lookup_capEntries (h : ∀ row ∈ limiter.surplus failures, row.1 ≠ key) :
    (limiter.capEntries failures).lookup key = failures.lookup key := by
  rw [capEntries]
  split
  · rfl
  · have hkeep : key ∉ (limiter.surplus failures).map Prod.fst := by
      intro hmem
      obtain ⟨row, hrow, heq⟩ := List.mem_map.mp hmem
      exact h row hrow heq
    rw [Table.lookup_keep]
    cases failures.lookup key with
    | none => rfl
    | some times => simp [Option.filter, hkeep]

/-- **No more keys than the table has room for are kept.** -/
theorem length_capEntries_le : (limiter.capEntries failures).rows.length ≤ limiter.maxEntries := by
  rw [capEntries]
  split
  · assumption
  · have hsurplus : (limiter.surplus failures).length =
        failures.rows.length - limiter.maxEntries := by
      rw [surplus, List.length_take, List.length_insertionSort]
      omega
    have hnodup : (limiter.surplus failures).Nodup :=
      (((List.perm_insertionSort _ _).nodup_iff).mpr failures.nodup.of_map).sublist
        (List.take_sublist _ _)
    have hgone : limiter.surplus failures ⊆ failures.rows.filter fun row =>
        !decide (row.1 ∉ (limiter.surplus failures).map Prod.fst) := by
      intro row hrow
      exact List.mem_filter.mpr ⟨mem_of_mem_surplus hrow, by
        simpa using ⟨row.2, hrow⟩⟩
    have hcount := (List.subperm_of_subset hnodup hgone).length_le
    have hsplit := List.length_eq_length_filter_add (l := failures.rows)
      fun row => decide (row.1 ∉ (limiter.surplus failures).map Prod.fst)
    show (failures.rows.filter _).length ≤ _
    omega

/-! ### Recording -/

omit [DecidableEq κ] in
theorem lastAttempt_le (hne : row.2 ≠ []) (h : ∀ t ∈ row.2, t ≤ now) :
    lastAttempt row ≤ now := by
  rw [lastAttempt]
  cases hmax : row.2.max? with
  | none => exact absurd (List.max?_eq_none_iff.mp hmax) hne
  | some t => exact h t (List.max?_mem hmax)

theorem surplus_upsert {times : List τ} (hsize : failures.rows.length ≤ limiter.maxEntries)
    (h : row ∈ limiter.surplus (failures.upsert k times)) :
    failures.lookup k = none ∧ limiter.maxEntries ≤ failures.rows.length ∧
      row ∈ ((failures.rows ++ [(k, times)]).insertionSort
        (lastAttempt · ≤ lastAttempt ·)).take 1 := by
  cases hk : failures.lookup k with
  | some before =>
    have hlength := length_upsertRow_of_lookup (a := times) hk
    simp only [surplus, Table.upsert, hlength, Nat.sub_eq_zero_of_le hsize, List.take_zero,
      List.not_mem_nil] at h
  | none =>
    have hrows : (failures.upsert k times).rows = failures.rows ++ [(k, times)] :=
      upsertRow_of_lookup_eq_none hk
    rw [surplus, hrows, List.length_append, List.length_singleton] at h
    by_cases hfull : limiter.maxEntries ≤ failures.rows.length
    · have hone : failures.rows.length + 1 - limiter.maxEntries = 1 := by omega
      rw [hone] at h
      exact ⟨rfl, hfull, h⟩
    · have hnone : failures.rows.length + 1 - limiter.maxEntries = 0 := by omega
      rw [hnone, List.take_zero] at h
      exact absurd h List.not_mem_nil

/-- **An attempt that is recorded stays in the table**, as the one tried last. -/
theorem lookup_recordFailure_self (hentries : 0 < limiter.maxEntries)
    (hsize : (limiter.prune failures now).rows.length ≤ limiter.maxEntries)
    (hle : ∀ row ∈ failures.rows, ∀ t ∈ row.2, t ≤ now) :
    (limiter.recordFailure failures key now).lookup key =
      some (attempts (limiter.prune failures now) key ++ [now]) := by
  rw [recordFailure, lookup_capEntries, Table.lookup_upsert_self]
  intro row hrow heq
  obtain ⟨hnone, hfull, hfirst⟩ := surplus_upsert hsize hrow
  have hnew : attempts (limiter.prune failures now) key = [] := by rw [attempts, hnone]; rfl
  have hlast : lastAttempt (key, [now]) = now := rfl
  rw [hnew, List.nil_append, insertionSort_concat, List.take_append_of_le_length] at hfirst
  · have hmem := (List.mem_insertionSort _).mp (List.mem_of_mem_take hfirst)
    rw [← Prod.mk.eta (p := row), heq, Table.mem_rows_iff, hnone] at hmem
    cases hmem
  · rw [List.length_insertionSort]
    exact hentries.trans_le hfull
  · intro before hbefore
    obtain ⟨hne, times, htimes, hrecent⟩ := mem_prune hbefore
    rw [hlast]
    refine lastAttempt_le hne fun t ht => ?_
    rw [hrecent] at ht
    exact hle _ htimes t (List.mem_of_mem_filter ht)

/-- **An attempt under another key** leaves those of a key that is spared. -/
theorem lookup_recordFailure_of_ne (hne : k ≠ key)
    (hsize : (limiter.prune failures now).rows.length ≤ limiter.maxEntries)
    (hspares : (limiter.prune failures now).lookup k = none →
      limiter.maxEntries ≤ (limiter.prune failures now).rows.length →
      ∀ times, (limiter.prune failures now).lookup key = some times →
        ∃ row ∈ (limiter.prune failures now).rows, lastAttempt row < lastAttempt (key, times)) :
    (limiter.recordFailure failures k now).lookup key = (limiter.prune failures now).lookup key := by
  have hother (times : List τ) : ((limiter.prune failures now).upsert k times).lookup key =
      (limiter.prune failures now).lookup key := Table.lookup_upsert_of_ne _ _ (Ne.symm hne)
  rw [recordFailure]
  cases hkey : (limiter.prune failures now).lookup key with
  | none =>
    rw [capEntries]
    split
    · rw [hother, hkey]
    · rw [Table.lookup_keep, hother, hkey]
      rfl
  | some times =>
    rw [lookup_capEntries, hother, hkey]
    intro row hrow heq
    obtain ⟨hnone, hfull, hfirst⟩ := surplus_upsert hsize hrow
    obtain ⟨less, hless, hlt⟩ := hspares hnone hfull times hkey
    have hrow' := mem_of_mem_surplus hrow
    rw [← Prod.mk.eta (p := row), heq, Table.mem_rows_iff, hother, hkey] at hrow'
    refine notMem_take_one (List.mem_append_left _ hless) ?_ hfirst
    rwa [← Prod.mk.eta (p := row), heq, ← Option.some.inj hrow']

theorem le_of_mem_recordFailure (hle : ∀ row ∈ failures.rows, ∀ t ∈ row.2, t ≤ now)
    (h : row ∈ (limiter.recordFailure failures k now).rows) {t : τ}
    (ht : t ∈ row.2) : t ≤ now := by
  have hpruned : ∀ row ∈ (limiter.prune failures now).rows, ∀ t ∈ row.2, t ≤ now := by
    intro row hrow t ht
    obtain ⟨-, times, htimes, hrecent⟩ := mem_prune hrow
    rw [hrecent] at ht
    exact hle _ htimes t (List.mem_of_mem_filter ht)
  have hattempts : ∀ t ∈ attempts (limiter.prune failures now) k, t ≤ now := by
    intro t ht
    rw [attempts] at ht
    cases hk : (limiter.prune failures now).lookup k with
    | none => simp [hk] at ht
    | some times => exact hpruned _ (Table.mem_rows_iff.mpr hk) t (by simpa [hk] using ht)
  have hmem : (row.1, row.2) ∈ upsertRow (limiter.prune failures now).rows k
      (attempts (limiter.prune failures now) k ++ [now]) := by
    rw [recordFailure, capEntries] at h
    split at h
    · exact h
    · exact List.mem_of_mem_filter h
  rcases mem_upsertRow hmem with ⟨-, heq⟩ | hbefore
  · rw [heq] at ht
    rcases List.mem_append.mp ht with hold | hnew
    · exact hattempts t hold
    · exact (List.mem_singleton.mp hnew).le
  · exact hpruned _ hbefore t ht

/-! ### Every run -/

/-- What holds between two calls: of `key`, the table knows all that still counts. -/
structure Tracked (limiter : LoginRateLimiter τ) (key : κ) (s : Observed κ τ) : Prop where
  size : s.failures.rows.length ≤ limiter.maxEntries
  le : ∀ row ∈ s.failures.rows, ∀ t ∈ row.2, t ≤ s.lastCall
  same : ∀ now, s.lastCall ≤ now → recent limiter.windowSeconds (attempts s.failures key) now =
    recent limiter.windowSeconds s.granted now
  bounded : Bounded limiter.windowSeconds limiter.maxFailures s.granted

variable {s : Observed κ τ} [IsOrderedAddMonoid τ]

theorem Tracked.prune (h : Tracked limiter key s) (hnow : s.lastCall ≤ now) :
    Tracked limiter key ⟨limiter.prune s.failures now, now, s.granted⟩ where
  size := length_prune_le.trans h.size
  le row hrow t ht := by
    obtain ⟨-, times, htimes, hrecent⟩ := mem_prune hrow
    rw [hrecent] at ht
    exact (h.le _ htimes t (List.mem_of_mem_filter ht)).trans hnow
  same now' hle := by
    show recent _ (attempts (limiter.prune s.failures now) key) now' = _
    rw [attempts_prune, recent_recent hle]
    exact h.same now' (hnow.trans hle)
  bounded := h.bounded

/-- **What an attempt leaves**, of the key or of another that spares it. -/
theorem Tracked.tryAttempt (hentries : 0 < limiter.maxEntries) (h : Tracked limiter key s)
    (hnow : s.lastCall ≤ now) (hspares : Spares limiter key s (.tryAttempt k, now)) :
    Tracked limiter key (limiter.observe key s (.tryAttempt k, now)) := by
  have hpruned := h.prune hnow
  have hfixed : limiter.prune (limiter.prune s.failures now) now = limiter.prune s.failures now :=
    prune_prune
  have hsize : (limiter.prune (limiter.prune s.failures now) now).rows.length ≤
      limiter.maxEntries := by
    rw [hfixed]
    exact hpruned.size
  by_cases hlimited : limiter.isLimited (limiter.prune s.failures now) k = true
  · have hstep : limiter.observe key s (.tryAttempt k, now) =
        ⟨limiter.prune s.failures now, now, s.granted⟩ := by
      simp [observe, LoginRateLimiter.tryAttempt, hlimited]
    rw [hstep]
    exact hpruned
  · have hstep : limiter.observe key s (.tryAttempt k, now) =
        ⟨limiter.recordFailure (limiter.prune s.failures now) k now, now,
          if k = key then s.granted ++ [now] else s.granted⟩ := by
      simp [observe, LoginRateLimiter.tryAttempt, hlimited]
    rw [hstep]
    have hle : ∀ row ∈ (limiter.recordFailure (limiter.prune s.failures now) k now).rows,
        ∀ t ∈ row.2, t ≤ now := fun row hrow t ht => le_of_mem_recordFailure hpruned.le hrow ht
    by_cases hkey : k = key
    · subst hkey
      have hattempts : attempts (limiter.recordFailure (limiter.prune s.failures now) k now) k =
          attempts (limiter.prune s.failures now) k ++ [now] := by
        rw [attempts, lookup_recordFailure_self hentries hsize hpruned.le, hfixed]
        rfl
      refine ⟨length_capEntries_le, hle, fun now' hle' => ?_, ?_⟩
      · have hsame := hpruned.same now' hle'
        simp only [recent, if_true, hattempts, List.filter_append] at hsame ⊢
        rw [hsame]
      · simp only [if_true]
        have hcounted : recent limiter.windowSeconds s.granted now =
            attempts (limiter.prune s.failures now) k := by
          rw [← hpruned.same now le_rfl]
          show recent _ (attempts (limiter.prune s.failures now) k) now = _
          rw [attempts_prune, recent_recent le_rfl]
        refine h.bounded.append ?_
        rw [hcounted]
        simpa [isLimited] using hlimited
    · have hattempts : attempts (limiter.recordFailure (limiter.prune s.failures now) k now) key =
          attempts (limiter.prune s.failures now) key := by
        rw [attempts, lookup_recordFailure_of_ne hkey hsize, hfixed]
        · rfl
        · rw [hfixed]
          exact hspares k rfl hkey
      refine ⟨length_capEntries_le, hle, fun now' hle' => ?_, ?_⟩
      · simp only [hkey, if_false, hattempts]
        exact hpruned.same now' hle'
      · simp only [hkey, if_false]
        exact h.bounded

omit [IsOrderedAddMonoid τ] in
theorem Tracked.reset (h : Tracked limiter key s) (hnow : s.lastCall ≤ now) :
    Tracked limiter key (limiter.observe key s (.reset k, now)) where
  size := (List.length_filter_le _ _).trans h.size
  le row hrow t ht := (h.le row (List.mem_of_mem_filter hrow) t ht).trans hnow
  same now' hle := by
    by_cases hkey : k = key
    · simp [observe, attempts, hkey]
    · simp only [observe, attempts, hkey, if_false, Table.lookup_erase_of_ne _ (Ne.symm hkey)]
      exact h.same now' (hnow.trans hle)
  bounded := by
    by_cases hkey : k = key
    · simpa [observe, hkey] using bounded_nil _ _
    · simpa [observe, hkey] using h.bounded

theorem Tracked.observe (hentries : 0 < limiter.maxEntries) (h : Tracked limiter key s)
    (call : LimiterCall κ × τ) (hcall : Orderly s call ∧ Spares limiter key s call) :
    Tracked limiter key (limiter.observe key s call) := by
  obtain ⟨call, now⟩ := call
  cases call with
  | tryAttempt k => exact h.tryAttempt hentries hcall.1 hcall.2
  | reset k => exact h.reset hcall.1

omit [IsOrderedAddMonoid τ] in
theorem length_observe_le (h : s.failures.rows.length ≤ limiter.maxEntries)
    (call : LimiterCall κ × τ) :
    (limiter.observe key s call).failures.rows.length ≤ limiter.maxEntries := by
  obtain ⟨call, now⟩ := call
  cases call with
  | tryAttempt k =>
    simp only [LoginRateLimiter.observe, LoginRateLimiter.tryAttempt]
    split
    · exact length_prune_le.trans h
    · exact length_capEntries_le
  | reset k => exact (List.length_filter_le _ _).trans h

/-- **The limit of a key holds in every window** of every run in which the key is spared, and never
are more keys kept than the table has room for. -/
theorem attempts_limited (limiter : LoginRateLimiter τ) (key : κ) (start : τ)
    (calls : List (LimiterCall κ × τ)) :
    (run (limiter.observe key) (.initially start) calls).failures.rows.length ≤
        limiter.maxEntries ∧
      (0 < limiter.maxEntries → EveryStep (limiter.observe key) Orderly (.initially start) calls →
        EveryStep (limiter.observe key) (Spares limiter key) (.initially start) calls →
        ∀ a,
          ((run (limiter.observe key) (.initially start) calls).granted.filter fun t =>
            a ≤ t ∧ t < a + limiter.windowSeconds).length ≤ limiter.maxFailures ∧
          ((run (limiter.observe key) (.initially start) calls).granted.filter fun t =>
            a < t ∧ t ≤ a + limiter.windowSeconds).length ≤ limiter.maxFailures) := by
  refine ⟨?_, fun hentries horderly hspares a => ?_⟩
  · have hempty : (Observed.initially start : Observed κ τ).failures.rows.length ≤
        limiter.maxEntries := Nat.zero_le _
    exact @run_invariant _ _ (limiter.observe key) _ _ calls
      (fun s => s.failures.rows.length ≤ limiter.maxEntries)
      (fun s call hs _ => length_observe_le hs call) hempty (everyStep_true _ _ _)
  · have hinitial : Tracked limiter key (.initially start) :=
      ⟨Nat.zero_le _, fun row hrow => absurd hrow List.not_mem_nil, fun _ _ => rfl, bounded_nil _ _⟩
    have htracked := @run_invariant _ _ (limiter.observe key) _ _ calls (Tracked limiter key)
      (fun s call hs hcall => hs.observe hentries call hcall) hinitial (horderly.and hspares)
    exact ⟨htracked.bounded _ (narrow_Ico _ a), htracked.bounded _ (narrow_Ioc _ a)⟩

/-- Two attempts of one address between those of two others, and a third that comes too soon. -/
def crowded : List (LimiterCall String × ℤ) :=
  [(.tryAttempt "b", 0), (.tryAttempt "a", 1), (.tryAttempt "a", 2), (.tryAttempt "c", 3),
    (.tryAttempt "a", 4)]

theorem attempts_limited_crowded :
    (run ((⟨2, 10, 2⟩ : LoginRateLimiter ℤ).observe "a") (.initially 0) crowded).granted = [1, 2] ∧
      ((run ((⟨2, 10, 2⟩ : LoginRateLimiter ℤ).observe "a") (.initially 0) crowded).granted.filter
        fun t => 0 ≤ t ∧ t < 0 + 10).length ≤ 2 := by
  have horderly : EveryStep ((⟨2, 10, 2⟩ : LoginRateLimiter ℤ).observe "a") Orderly
      (.initially 0) crowded := by decide
  have hspares : EveryStep ((⟨2, 10, 2⟩ : LoginRateLimiter ℤ).observe "a")
      (Spares ⟨2, 10, 2⟩ "a") (.initially 0) crowded := by
    refine ⟨fun k hcall hne => ?_, fun k hcall hne => ?_, fun k hcall hne => ?_,
      fun k hcall hne => ?_, fun k hcall hne => ?_, trivial⟩
    · intro live hnew hfull times htimes
      cases htimes
    · exact absurd (LimiterCall.tryAttempt.inj hcall).symm hne
    · exact absurd (LimiterCall.tryAttempt.inj hcall).symm hne
    · -- the third address finds the table full, and the second has waited longest
      intro live hnew hfull times htimes
      cases htimes
      exact ⟨("b", [0]), by decide, by decide⟩
    · exact absurd (LimiterCall.tryAttempt.inj hcall).symm hne
  exact ⟨by decide, ((attempts_limited ⟨2, 10, 2⟩ "a" 0 crowded).2 (by decide) horderly hspares 0).1⟩

/-- **A full table forgets.**  Two addresses that try once each push out the two attempts of a third,
which has two more in the same ten seconds. -/
theorem limit_forgotten :
    ((run ((⟨2, 10, 2⟩ : LoginRateLimiter ℤ).observe "a") (.initially 0)
        [(.tryAttempt "a", 0), (.tryAttempt "a", 0), (.tryAttempt "b", 1), (.tryAttempt "c", 1),
          (.tryAttempt "a", 2), (.tryAttempt "a", 2)]).granted.filter fun t =>
      0 ≤ t ∧ t < 0 + 10).length = 4 := by
  decide

end LoginRateLimiter

end SolarFlowEms.Dashboard
