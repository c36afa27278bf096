import Mathlib.Data.List.Basic
import Mathlib.Data.Nat.Basic
import Mathlib.Order.Basic

/-!
# Generators

What a Python generator does when it is drained: it yields its values one after the other,
and then it returns or raises.  A consumer that stops early never learns how the rest ends.

A *pager* is a generator that goes through numbered pages of values, which may be empty.  It
returns after too long a run of empty pages or at a value that ends it, and it raises at a
page that cannot be built.
-/

namespace SolarFlowEms.Generator

variable {α ε : Type*}

/-- What a generator does when it is drained.  Behind a value the rest is computed when it is
asked for. -/
inductive Trace (α ε : Type*) where
  | done
  | raises (error : ε)
  | yield (value : α) (rest : Unit → Trace α ε)

namespace Trace

/-- The values of a drained generator. -/
def yields : Trace α ε → List α
  | .done => []
  | .raises _ => []
  | .yield value rest => value :: (rest ()).yields

/-- The exception a drained generator ends with. -/
def raised? : Trace α ε → Option ε
  | .done => none
  | .raises error => some error
  | .yield _ rest => (rest ()).raised?

@[simp] theorem yields_done : (done : Trace α ε).yields = [] := rfl

@[simp] theorem yields_raises (error : ε) : (raises error : Trace α ε).yields = [] := rfl

@[simp] theorem yields_yield (value : α) (rest : Unit → Trace α ε) :
    (yield value rest).yields = value :: (rest ()).yields := rfl

@[simp] theorem raised?_yield (value : α) (rest : Unit → Trace α ε) :
    (yield value rest).raised? = (rest ()).raised? := rfl

/-- The values of a drained generator, or the exception it ends with. -/
def drained (trace : Trace α ε) : Except ε (List α) :=
  match trace.raised? with
  | none => .ok trace.yields
  | some error => .error error

def yieldAll (values : List α) (rest : Trace α ε) : Trace α ε :=
  values.foldr (fun value rest => yield value fun _ => rest) rest

@[simp] theorem yieldAll_nil (rest : Trace α ε) : yieldAll [] rest = rest := rfl

@[simp] theorem yieldAll_cons (value : α) (values : List α) (rest : Trace α ε) :
    yieldAll (value :: values) rest = yield value fun _ => yieldAll values rest := rfl

theorem yieldAll_append (values values' : List α) (rest : Trace α ε) :
    yieldAll (values ++ values') rest = yieldAll values (yieldAll values' rest) :=
  List.foldr_append

@[simp] theorem yields_yieldAll (values : List α) (rest : Trace α ε) :
    (yieldAll values rest).yields = values ++ rest.yields := by
  induction values with
  | nil => rfl
  | cons value values ih => rw [yieldAll_cons, yields_yield, ih, List.cons_append]

@[simp] theorem raised?_yieldAll (values : List α) (rest : Trace α ε) :
    (yieldAll values rest).raised? = rest.raised? := by
  induction values with
  | nil => rfl
  | cons value values ih => rw [yieldAll_cons, raised?_yield, ih]

theorem eq_yieldAll_of_returns {trace : Trace α ε} (h : trace.raised? = none) :
    trace = yieldAll trace.yields .done := by
  induction trace with
  | done => rfl
  | raises error => cases h
  | yield value rest ih =>
    rw [yields_yield, yieldAll_cons, ← ih () h]

end Trace

/-! ### Pagers -/

/-- A generator over pages: its pages, how many may be empty in a row, and whether it returns
at a value that would be its `produced`-th. -/
structure Pager (α ε : Type*) where
  page : ℕ → Except ε (List α)
  maxEmpty : ℕ
  ends : (produced : ℕ) → (value : α) → Bool

namespace Pager

variable (p : Pager α ε)

/-- The values of one page, and then what `next` does with the number produced by then. -/
def emit (next : ℕ → Trace α ε) : ℕ → List α → Trace α ε
  | produced, [] => next produced
  | produced, value :: rest =>
    if p.ends (produced + 1) value then .done
    else .yield value fun _ => emit next (produced + 1) rest

/-- The loop over the pages from page `k` on. -/
def walk : (fuel k empty produced : ℕ) → Trace α ε
  | 0, _, _, _ => .done
  | fuel + 1, k, empty, produced =>
    match p.page k with
    | .error error => .raises error
    | .ok values =>
      let empty := if values = [] then empty + 1 else 0
      if p.maxEmpty < empty then .done
      else p.emit (fun produced => walk fuel (k + 1) empty produced) produced values

/-- The values of the pages before page `n`. -/
def items : ℕ → List α
  | 0 => []
  | n + 1 => items n ++ ((p.page n).toOption.getD [])

/-- The empty pages in a row just before page `n`. -/
def emptyRun : ℕ → ℕ
  | 0 => 0
  | n + 1 => if (p.page n).toOption.getD [] = [] then emptyRun n + 1 else 0

/-- **The pager reaches page `n`**: it can build every page before it, meets no run of empty
pages that is too long, and no value that ends it. -/
structure Reaches (n : ℕ) : Prop where
  built : ∀ k < n, ∃ values, p.page k = .ok values
  run_le : ∀ k ≤ n, p.emptyRun k ≤ p.maxEmpty
  goesOn : ∀ i value, (p.items n)[i]? = some value → p.ends (i + 1) value = false

variable {p}

variable {k n m produced fuel empty : ℕ} {values : List α} {next : ℕ → Trace α ε} {value x : α}
  {error : ε}

theorem items_succ (h : p.page k = .ok values) :
    p.items (k + 1) = p.items k ++ values := by
  rw [items, h]
  rfl

theorem emptyRun_succ (h : p.page k = .ok values) :
    p.emptyRun (k + 1) = if values = [] then p.emptyRun k + 1 else 0 := by
  rw [emptyRun, h]
  rfl

theorem reaches_zero (p : Pager α ε) : p.Reaches 0 where
  built := fun _ hk => absurd hk (Nat.not_lt_zero _)
  run_le := by
    intro k hk
    rw [Nat.le_zero.mp hk]
    exact Nat.zero_le _
  goesOn := nofun

theorem Reaches.of_succ (h : p.Reaches (n + 1)) : p.Reaches n where
  built := fun k hk => h.built k (Nat.lt_succ_of_lt hk)
  run_le := fun k hk => h.run_le k (Nat.le_succ_of_le hk)
  goesOn := by
    intro i value hi
    apply h.goesOn i value
    obtain ⟨hlt, hget⟩ := List.getElem?_eq_some_iff.mp hi
    rw [items, List.getElem?_append_left hlt]
    exact hi

theorem Reaches.of_le (h : p.Reaches n) (hmn : m ≤ n) : p.Reaches m := by
  induction n, hmn using Nat.le_induction with
  | base => exact h
  | succ n _ ih => exact ih h.of_succ

theorem Reaches.succ (h : p.Reaches n) (hpage : p.page n = .ok values)
    (hrun : p.emptyRun (n + 1) ≤ p.maxEmpty)
    (hgo : ∀ i value, values[i]? = some value → p.ends ((p.items n).length + i + 1) value = false) :
    p.Reaches (n + 1) where
  built := by
    intro k hk
    rcases Nat.lt_succ_iff_lt_or_eq.mp hk with hlt | rfl
    · exact h.built k hlt
    · exact ⟨values, hpage⟩
  run_le := by
    intro k hk
    rcases Nat.le_succ_iff.mp hk with hle | rfl
    · exact h.run_le k hle
    · exact hrun
  goesOn := by
    intro i value hi
    rw [items_succ hpage, List.getElem?_append] at hi
    split at hi
    · exact h.goesOn i value hi
    · next hge =>
      have hend := hgo (i - (p.items n).length) value hi
      rwa [show (p.items n).length + (i - (p.items n).length) + 1 = i + 1 by omega] at hend

/-! ### The loop -/

theorem emit_of_goesOn
    (h : ∀ i value, values[i]? = some value → p.ends (produced + i + 1) value = false) :
    p.emit next produced values = .yieldAll values (next (produced + values.length)) := by
  induction values generalizing produced with
  | nil => rfl
  | cons value values ih =>
    have hfirst : p.ends (produced + 1) value = false := h 0 value rfl
    rw [emit, if_neg (by rw [hfirst]; decide), ih, Trace.yieldAll_cons, List.length_cons,
      Nat.add_right_comm, Nat.add_assoc produced]
    intro i v hi
    rw [Nat.add_right_comm produced 1 i]
    exact h (i + 1) v hi

theorem raised?_emit_of_ends {i : ℕ}
    (hget : values[i]? = some value) (hends : p.ends (produced + i + 1) value = true) :
    (p.emit next produced values).raised? = none := by
  induction values generalizing produced i with
  | nil => cases hget
  | cons v values ih =>
    rw [emit]
    split
    · rfl
    · next hv =>
      cases i with
      | zero =>
        cases hget
        exact absurd hends hv
      | succ i =>
        rw [Trace.raised?_yield]
        exact ih hget (by rwa [Nat.add_assoc produced 1 i, Nat.add_comm 1 i])

def walkAt (p : Pager α ε) (fuel k : ℕ) : Trace α ε :=
  p.walk fuel k (p.emptyRun k) (p.items k).length

/-- **One page of the loop.**  Where the next page is reached, this one is yielded whole. -/
theorem walkAt_succ (hpage : p.page k = .ok values) (h : p.Reaches (k + 1)) :
    p.walkAt (fuel + 1) k = .yieldAll values (p.walkAt fuel (k + 1)) := by
  have hrun := h.run_le (k + 1) le_rfl
  rw [walkAt, walk, hpage]
  dsimp only
  rw [← emptyRun_succ hpage, if_neg (Nat.not_lt.mpr hrun), emit_of_goesOn, walkAt,
    items_succ hpage, List.length_append]
  intro i value hi
  apply h.goesOn
  rw [items_succ hpage, List.getElem?_append_right (Nat.le_add_right _ _), Nat.add_sub_cancel_left]
  exact hi

/-- **The pages a pager reaches are yielded first.** -/
theorem walkAt_of_reaches (h : p.Reaches (k + n)) :
    ∃ values, p.items (k + n) = p.items k ++ values ∧
      p.walkAt (n + fuel) k = .yieldAll values (p.walkAt fuel (k + n)) := by
  induction n generalizing k with
  | zero => exact ⟨[], (List.append_nil _).symm, by rw [Nat.zero_add]; rfl⟩
  | succ n ih =>
    have hnext : k + (n + 1) = k + 1 + n := by omega
    rw [hnext] at h ⊢
    obtain ⟨first, hpage⟩ := h.built k (by omega)
    obtain ⟨values, hitems, hwalk⟩ := ih h
    refine ⟨first ++ values, ?_, ?_⟩
    · rw [hitems, items_succ hpage, List.append_assoc]
    · rw [show n + 1 + fuel = n + fuel + 1 by omega,
        walkAt_succ hpage (h.of_le (Nat.le_add_right _ _)), hwalk, Trace.yieldAll_append]

theorem walkAt_error (h : p.page k = .error error) :
    p.walkAt (fuel + 1) k = .raises error := by
  rw [walkAt, walk, h]

/-- **A pager raises exactly at a page it reaches and cannot build**, having yielded every
value of the pages before. -/
theorem walkAt_zero_raises (hn : n < fuel) (h : p.Reaches n) (hpage : p.page n = .error error) :
    p.walkAt fuel 0 = .yieldAll (p.items n) (.raises error) := by
  obtain ⟨rest, rfl⟩ : ∃ rest, fuel = n + (rest + 1) := ⟨fuel - n - 1, by omega⟩
  have hreached : ∃ values, p.items (0 + n) = p.items 0 ++ values ∧
      p.walkAt (n + (rest + 1)) 0 = .yieldAll values (p.walkAt (rest + 1) (0 + n)) := by
    apply walkAt_of_reaches
    rwa [Nat.zero_add]
  obtain ⟨values, hitems, hwalk⟩ := hreached
  rw [Nat.zero_add] at hitems hwalk
  rw [hwalk, walkAt_error hpage, hitems]
  rfl

theorem walk_fuel_add (hkn : k ≤ n) (hn : n < k + fuel)
    (hpage : p.page n = .error error) (extra empty produced : ℕ) :
    p.walk (fuel + extra) k empty produced = p.walk fuel k empty produced := by
  induction fuel generalizing k empty produced with
  | zero => omega
  | succ fuel ih =>
    rw [Nat.add_right_comm, walk, walk]
    cases hk : p.page k with
    | error _ => rfl
    | ok values =>
      have hne : k ≠ n := by
        rintro rfl
        rw [hk] at hpage
        cases hpage
      have hrest : ∀ empty produced,
          p.walk (fuel + extra) (k + 1) empty produced = p.walk fuel (k + 1) empty produced :=
        fun empty produced => ih (by omega) (by omega) empty produced
      simp only [hrest]

theorem reaches_of_raised? (h : p.Reaches k) (hraised : (p.walkAt fuel k).raised? = some error) :
    ∃ n, k ≤ n ∧ n < k + fuel ∧ p.Reaches n ∧ p.page n = .error error := by
  induction fuel generalizing k with
  | zero => cases hraised
  | succ fuel ih =>
    cases hpage : p.page k with
    | error error' =>
      rw [walkAt_error hpage] at hraised
      cases hraised
      exact ⟨k, le_rfl, by omega, h, hpage⟩
    | ok values =>
      by_cases hrun : p.emptyRun (k + 1) ≤ p.maxEmpty
      · by_cases hgo : ∀ i value, values[i]? = some value →
            p.ends ((p.items k).length + i + 1) value = false
        · have hnext := h.succ hpage hrun hgo
          rw [walkAt_succ hpage hnext, Trace.raised?_yieldAll] at hraised
          obtain ⟨n, hkn, hlt, hn, herror⟩ := ih hnext hraised
          exact ⟨n, by omega, by omega, hn, herror⟩
        · simp only [not_forall, Bool.not_eq_false] at hgo
          obtain ⟨i, value, hget, hends⟩ := hgo
          rw [walkAt, walk, hpage] at hraised
          dsimp only at hraised
          rw [← emptyRun_succ hpage, if_neg (Nat.not_lt.mpr hrun),
            raised?_emit_of_ends hget hends] at hraised
          cases hraised
      · rw [walkAt, walk, hpage] at hraised
        dsimp only at hraised
        rw [← emptyRun_succ hpage, if_pos (Nat.lt_of_not_le hrun)] at hraised
        cases hraised

theorem mem_yields_emit (h : value ∈ (p.emit next produced values).yields) :
    value ∈ values ∨ ∃ n, value ∈ (next n).yields := by
  induction values generalizing produced with
  | nil => exact .inr ⟨produced, h⟩
  | cons v values ih =>
    rw [emit] at h
    split at h
    · cases h
    · rcases List.mem_cons.mp h with rfl | hrest
      · exact .inl List.mem_cons_self
      · exact (ih hrest).imp_left (List.mem_cons_of_mem v)

theorem mem_yields_walk (h : value ∈ (p.walk fuel k empty produced).yields) :
    ∃ n values, p.page n = .ok values ∧ value ∈ values := by
  induction fuel generalizing k empty produced with
  | zero => cases h
  | succ fuel ih =>
    rw [walk] at h
    split at h
    · cases h
    · next values hpage =>
      dsimp only at h
      generalize (if values = [] then empty + 1 else 0) = empty' at h
      split at h
      · cases h
      · rcases mem_yields_emit h with hmem | ⟨n, hrest⟩
        · exact ⟨k, values, hpage, hmem⟩
        · exact ih hrest

/-! ### What is yielded -/

theorem mem_items :
    value ∈ p.items n ↔ ∃ k < n, ∃ values, p.page k = .ok values ∧ value ∈ values := by
  induction n with
  | zero => simp [items]
  | succ n ih =>
    rw [items, List.mem_append, ih]
    constructor
    · rintro (⟨k, hk, values, hpage, hmem⟩ | hmem)
      · exact ⟨k, by omega, values, hpage, hmem⟩
      · cases hpage : p.page n with
        | error e =>
          rw [hpage] at hmem
          cases hmem
        | ok values =>
          rw [hpage] at hmem
          exact ⟨n, by omega, values, hpage, hmem⟩
    · rintro ⟨k, hk, values, hpage, hmem⟩
      rcases Nat.lt_succ_iff_lt_or_eq.mp hk with hlt | rfl
      · exact .inl ⟨k, hlt, values, hpage, hmem⟩
      · right
        rw [hpage]
        exact hmem

/-- A run of empty pages is longer than `m` when the last `m + 1` pages are empty. -/
theorem lt_emptyRun_iff : m < p.emptyRun n ↔
    m < n ∧ ∀ i, n ≤ i + m + 1 → i < n → (p.page i).toOption.getD [] = [] := by
  induction n generalizing m with
  | zero => simp [emptyRun]
  | succ n ih =>
    rw [emptyRun]
    split
    · next hempty =>
      cases m with
      | zero =>
        refine ⟨fun _ => ⟨by omega, fun i hle hlt => ?_⟩, fun _ => by omega⟩
        rwa [show i = n by omega]
      | succ m =>
        rw [Nat.add_lt_add_iff_right, Nat.add_lt_add_iff_right, ih]
        refine and_congr_right fun _ => ⟨fun h i hle hlt => ?_, fun h i hle hlt => ?_⟩
        · rcases Nat.lt_succ_iff_lt_or_eq.mp hlt with hlt | rfl
          · exact h i (by omega) hlt
          · exact hempty
        · exact h i (by omega) (by omega)
    · next hfull =>
      refine ⟨fun h => absurd h (Nat.not_lt_zero m), fun h => absurd (h.2 n ?_ ?_) hfull⟩
      · omega
      · omega

/-- **No run of empty pages is too long** where behind every page comes one that is not empty. -/
theorem emptyRun_le_iff : (∀ m ≤ n, p.emptyRun m ≤ p.maxEmpty) ↔
    ∀ s, s + p.maxEmpty < n →
      ∃ i, s ≤ i ∧ i ≤ s + p.maxEmpty ∧ (p.page i).toOption.getD [] ≠ [] := by
  constructor
  · intro hrun s hs
    have hnot := mt lt_emptyRun_iff.mpr (Nat.not_lt.mpr (hrun (s + p.maxEmpty + 1) hs))
    by_contra hall
    refine hnot ⟨by omega, fun i hle hlt => ?_⟩
    by_contra hne
    exact hall ⟨i, by omega, by omega, hne⟩
  · intro hfull m hm
    by_contra hlong
    obtain ⟨hlt, hempty⟩ := lt_emptyRun_iff.mp (Nat.lt_of_not_le hlong)
    obtain ⟨i, hsi, his, hne⟩ := hfull (m - (p.maxEmpty + 1)) (by omega)
    exact hne (hempty i (by omega) (by omega))

theorem mem_yields_emit_iff :
    value ∈ (p.emit next produced values).yields ↔
      (∃ before after, values = before ++ value :: after ∧
        ∀ i v, (before ++ [value])[i]? = some v → p.ends (produced + i + 1) v = false) ∨
      ((∀ i v, values[i]? = some v → p.ends (produced + i + 1) v = false) ∧
        value ∈ (next (produced + values.length)).yields) := by
  induction values generalizing produced with
  | nil => simp [emit]
  | cons first values ih =>
    rw [emit]
    by_cases hends : p.ends (produced + 1) first = true
    · rw [if_pos hends]
      constructor
      · intro h
        cases h
      · rintro (⟨before, after, heq, hgo⟩ | ⟨hgo, -⟩)
        · cases before with
          | nil =>
            obtain ⟨rfl, -⟩ := List.cons.inj heq
            exact absurd hends (Bool.eq_false_iff.mp (hgo 0 first rfl))
          | cons b before =>
            obtain ⟨rfl, -⟩ := List.cons.inj heq
            exact absurd hends (Bool.eq_false_iff.mp (hgo 0 first rfl))
        · exact absurd hends (Bool.eq_false_iff.mp (hgo 0 first rfl))
    · have hfirst : p.ends (produced + 1) first = false := Bool.eq_false_iff.mpr hends
      have hshift : ∀ i, produced + 1 + i + 1 = produced + (i + 1) + 1 := by omega
      rw [if_neg hends, Trace.yields_yield, List.mem_cons, ih]
      simp only [hshift]
      constructor
      · rintro (rfl | ⟨before, after, rfl, hgo⟩ | ⟨hgo, hmem⟩)
        · refine .inl ⟨[], values, rfl, fun i v hv => ?_⟩
          cases i with
          | zero =>
            cases hv
            exact hfirst
          | succ i => cases hv
        · refine .inl ⟨first :: before, after, rfl, fun i v hv => ?_⟩
          cases i with
          | zero =>
            cases hv
            exact hfirst
          | succ i => exact hgo i v hv
        · refine .inr ⟨fun i v hv => ?_, ?_⟩
          · cases i with
            | zero =>
              cases hv
              exact hfirst
            | succ i => exact hgo i v hv
          · rwa [List.length_cons, Nat.add_comm values.length, ← Nat.add_assoc]
      · rintro (⟨before, after, heq, hgo⟩ | ⟨hgo, hmem⟩)
        · cases before with
          | nil =>
            obtain ⟨rfl, -⟩ := List.cons.inj heq
            exact .inl rfl
          | cons b before =>
            obtain ⟨rfl, rfl⟩ := List.cons.inj heq
            exact .inr (.inl ⟨before, after, rfl, fun i v hv => hgo (i + 1) v hv⟩)
        · refine .inr (.inr ⟨fun i v hv => hgo (i + 1) v hv, ?_⟩)
          rwa [List.length_cons, Nat.add_comm values.length, ← Nat.add_assoc] at hmem

/-- **The pager gets to a value** of page `k`, behind others of it: it reaches the page, and
no value up to this one ends it. -/
structure GetsTo (p : Pager α ε) (k : ℕ) (before : List α) (value : α) : Prop where
  page : ∃ after, p.page k = .ok (before ++ value :: after)
  reaches : p.Reaches k
  goesOn : ∀ i v, (before ++ [value])[i]? = some v →
    p.ends ((p.items k).length + i + 1) v = false

theorem walkAt_of_run_le (hpage : p.page k = .ok values) (hrun : p.emptyRun (k + 1) ≤ p.maxEmpty) :
    p.walkAt (fuel + 1) k = p.emit
      (fun produced => p.walk fuel (k + 1) (p.emptyRun (k + 1)) produced) (p.items k).length values := by
  rw [walkAt, walk, hpage]
  dsimp only
  rw [← emptyRun_succ hpage, if_neg (Nat.not_lt.mpr hrun)]

/-- **A drained pager yields exactly the values it gets to.** -/
theorem mem_yields_walkAt_iff (h : p.Reaches k) :
    value ∈ (p.walkAt fuel k).yields ↔
      ∃ n, k ≤ n ∧ n < k + fuel ∧ ∃ before, p.GetsTo n before value := by
  induction fuel generalizing k with
  | zero =>
    constructor
    · intro hmem
      cases hmem
    · rintro ⟨n, hle, hlt, -⟩
      omega
  | succ fuel ih =>
    cases hpage : p.page k with
    | error e =>
      rw [walkAt_error hpage]
      constructor
      · intro hmem
        cases hmem
      · rintro ⟨n, hle, -, before, ⟨after, hafter⟩, hreaches, -⟩
        rcases Nat.eq_or_lt_of_le hle with rfl | hlt
        · rw [hpage] at hafter
          cases hafter
        · obtain ⟨values, hvalues⟩ := hreaches.built k hlt
          rw [hpage] at hvalues
          cases hvalues
    | ok values =>
      by_cases hrun : p.emptyRun (k + 1) ≤ p.maxEmpty
      · rw [walkAt_of_run_le hpage hrun, mem_yields_emit_iff]
        constructor
        · rintro (⟨before, after, rfl, hgo⟩ | ⟨hgo, hmem⟩)
          · exact ⟨k, le_rfl, by omega, before, ⟨after, hpage⟩, h, hgo⟩
          · have hnext := h.succ hpage hrun hgo
            rw [← List.length_append, ← items_succ hpage] at hmem
            obtain ⟨n, hle, hlt, hn⟩ := (ih hnext).mp hmem
            exact ⟨n, by omega, by omega, hn⟩
        · rintro ⟨n, hle, hlt, before, hgets⟩
          rcases Nat.eq_or_lt_of_le hle with rfl | hless
          · obtain ⟨after, hafter⟩ := hgets.page
            rw [hpage] at hafter
            cases hafter
            exact .inl ⟨before, after, rfl, hgets.goesOn⟩
          · have hnext := hgets.reaches.of_le (show k + 1 ≤ n from hless)
            have hgo : ∀ i v, values[i]? = some v →
                p.ends ((p.items k).length + i + 1) v = false := by
              intro i v hv
              apply hnext.goesOn
              rw [items_succ hpage, List.getElem?_append_right (Nat.le_add_right _ _),
                Nat.add_sub_cancel_left]
              exact hv
            refine .inr ⟨hgo, ?_⟩
            rw [← List.length_append, ← items_succ hpage]
            exact (ih hnext).mpr ⟨n, hless, by omega, before, hgets⟩
      · have hdone : p.walkAt (fuel + 1) k = .done := by
          rw [walkAt, walk, hpage]
          dsimp only
          rw [← emptyRun_succ hpage, if_pos (Nat.lt_of_not_le hrun)]
        rw [hdone]
        constructor
        · intro hmem
          cases hmem
        · rintro ⟨n, hle, -, before, hgets⟩
          rcases Nat.eq_or_lt_of_le hle with rfl | hless
          · obtain ⟨after, hafter⟩ := hgets.page
            rw [emptyRun_succ hafter, if_neg (by simp)] at hrun
            exact absurd (Nat.zero_le _) hrun
          · exact absurd (hgets.reaches.run_le (k + 1) hless) hrun

theorem prefix_or_of_yields_emit {next : ℕ → Trace α ε} {values : List α} {produced : ℕ} :
    (p.emit next produced values).yields <+: values ∨
      (p.emit next produced values).yields = values ++ (next (produced + values.length)).yields := by
  induction values generalizing produced with
  | nil => exact .inr rfl
  | cons value values ih =>
    rw [emit]
    split
    · exact .inl List.nil_prefix
    · rw [Trace.yields_yield, List.length_cons, Nat.add_comm values.length, ← Nat.add_assoc]
      rcases @ih (produced + 1) with hprefix | heq
      · exact .inl (List.cons_prefix_cons.mpr ⟨rfl, hprefix⟩)
      · exact .inr (by rw [heq, List.cons_append])

/-- **A pager yields the values of its pages in their order.** -/
theorem exists_prefix_items (p : Pager α ε) (fuel k empty : ℕ) :
    ∃ n, p.items k ++ (p.walk fuel k empty (p.items k).length).yields <+: p.items n := by
  induction fuel generalizing k empty with
  | zero =>
    refine ⟨k, ?_⟩
    simp only [walk, Trace.yields_done, List.append_nil, List.prefix_rfl]
  | succ fuel ih =>
    cases hpage : p.page k with
    | error e =>
      refine ⟨k, ?_⟩
      simp only [walk, hpage, Trace.yields_raises, List.append_nil, List.prefix_rfl]
    | ok values =>
      rw [walk, hpage]
      dsimp only
      generalize (if values = [] then empty + 1 else 0) = empty'
      split
      · refine ⟨k, ?_⟩
        simp only [Trace.yields_done, List.append_nil, List.prefix_rfl]
      · rcases @prefix_or_of_yields_emit α ε p (fun produced => p.walk fuel (k + 1) empty' produced)
          values (p.items k).length with hprefix | heq
        · refine ⟨k + 1, ?_⟩
          rw [items_succ hpage]
          exact (List.prefix_append_right_inj _).mpr hprefix
        · rw [heq, ← List.length_append, ← List.append_assoc, ← items_succ hpage]
          exact ih (k + 1) empty'

theorem GetsTo.of_mem {before : List α} (h : p.GetsTo n before value)
    (hx : x ∈ before) : ∃ before', p.GetsTo n before' x := by
  obtain ⟨first, second, rfl⟩ := List.append_of_mem hx
  obtain ⟨after, hafter⟩ := h.page
  refine ⟨first, ⟨second ++ value :: after, ?_⟩, h.reaches, fun i v hi => h.goesOn i v ?_⟩
  · rw [hafter, List.append_assoc, List.cons_append]
  · obtain ⟨hlt, -⟩ := List.getElem?_eq_some_iff.mp hi
    have hsplit : first ++ x :: second ++ [value] = first ++ [x] ++ (second ++ [value]) := by simp
    rw [← hi, hsplit, List.getElem?_append_left hlt]

theorem Reaches.getsTo (h : p.Reaches n) (hk : k < n)
    (hpage : p.page k = .ok values) (hx : x ∈ values) : ∃ before, p.GetsTo k before x := by
  obtain ⟨before, after, rfl⟩ := List.append_of_mem hx
  have hnext := h.of_le (show k + 1 ≤ n from hk)
  refine ⟨before, ⟨after, hpage⟩, h.of_le hk.le, fun i v hi => hnext.goesOn _ v ?_⟩
  obtain ⟨hlt, -⟩ := List.getElem?_eq_some_iff.mp hi
  rw [items_succ hpage, List.getElem?_append_right (Nat.le_add_right _ _), Nat.add_sub_cancel_left,
    List.append_cons, List.getElem?_append_left hlt]
  exact hi

/-! ### Starting at a later page -/

/-- The pager from page `m` on. -/
def later (p : Pager α ε) (m : ℕ) : Pager α ε := { p with page := fun k => p.page (m + k) }

theorem emit_later (p : Pager α ε) (m : ℕ) (next : ℕ → Trace α ε) (produced : ℕ)
    (values : List α) : (p.later m).emit next produced values = p.emit next produced values := by
  induction values generalizing produced with
  | nil => rfl
  | cons value values ih =>
    rw [emit, emit, ih]
    rfl

theorem walk_later (p : Pager α ε) (m fuel k empty produced : ℕ) :
    (p.later m).walk fuel k empty produced = p.walk fuel (m + k) empty produced := by
  induction fuel generalizing k empty produced with
  | zero => rfl
  | succ fuel ih =>
    have hpage : (p.later m).page k = p.page (m + k) := rfl
    have hmax : (p.later m).maxEmpty = p.maxEmpty := rfl
    rw [walk, walk, hpage, hmax]
    simp only [emit_later, ih, Nat.add_assoc]

theorem emit_congr (hends : ∀ n n' value, p.ends n value = p.ends n' value)
    {next' : ℕ → Trace α ε} (hnext : ∀ n n', next n = next' n') (values : List α)
    (produced produced' : ℕ) : p.emit next produced values = p.emit next' produced' values := by
  induction values generalizing produced produced' with
  | nil => exact hnext produced produced'
  | cons value values ih =>
    rw [emit, emit, hends (produced + 1) (produced' + 1) value, ih (produced + 1) (produced' + 1)]

/-- **A loop that never meets too long a run** goes on from a page whatever it has produced and
whatever smaller number of empty pages it has counted. -/
theorem walk_eq_of_le (hends : ∀ n n' value, p.ends n value = p.ends n' value)
    (hrun : ∀ n, (∀ j, k ≤ j → j < n → ∃ values, p.page j = .ok values) →
      p.emptyRun n ≤ p.maxEmpty) (hempty : empty ≤ p.emptyRun k)
    (produced produced' : ℕ) :
    p.walk fuel k empty produced = p.walk fuel k (p.emptyRun k) produced' := by
  induction fuel generalizing k empty produced produced' with
  | zero => rfl
  | succ fuel ih =>
    rw [walk, walk]
    cases hpage : p.page k with
    | error e => rfl
    | ok values =>
      have hnext : p.emptyRun (k + 1) ≤ p.maxEmpty := by
        apply hrun
        intro j hj hlt
        rw [show j = k by omega]
        exact ⟨values, hpage⟩
      have hrun' : ∀ n, (∀ j, k + 1 ≤ j → j < n → ∃ values, p.page j = .ok values) →
          p.emptyRun n ≤ p.maxEmpty := by
        intro n hn
        apply hrun
        intro j hj hlt
        rcases Nat.eq_or_lt_of_le hj with rfl | hlt'
        · exact ⟨values, hpage⟩
        · exact hn j hlt' hlt
      have hle : (if values = [] then empty + 1 else 0) ≤ p.emptyRun (k + 1) := by
        rw [emptyRun_succ hpage]
        split <;> omega
      dsimp only
      rw [← emptyRun_succ hpage, if_neg (Nat.not_lt.mpr hnext),
        if_neg (Nat.not_lt.mpr (hle.trans hnext))]
      exact emit_congr hends (fun n n' => ih hrun' hle n n') values produced produced'

end Pager

end SolarFlowEms.Generator
