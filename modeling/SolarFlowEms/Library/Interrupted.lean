import Mathlib.Data.List.Basic

/-!
# Computations that may stop after any of their steps

A computation is given by the states that its steps leave, one after the other, each computation
choosing what to do by the state that it starts from.  It may be interrupted after any number of
its steps.  An invariant that single steps keep is kept by what is put together from them, and
holds wherever the computation stops.  One that only whole parts of a computation keep holds at
its end, and what their steps pass through holds wherever it stops.
-/

namespace SolarFlowEms.Interrupted

variable {σ α : Type*}

/-- A computation by its steps: the states after each of them. -/
abbrev Steps (σ : Type*) := σ → List σ

namespace Steps

def final (f : Steps σ) (s : σ) : σ := (f s).getLastD s

/-- The state where the computation stops after a number of steps. -/
def interrupted (f : Steps σ) (count : ℕ) (s : σ) : σ := ((f s).take count).getLastD s

def skip : Steps σ := fun _ => []

def once (f : σ → σ) : Steps σ := fun s => [f s]

def andThen (f g : Steps σ) : Steps σ := fun s => f s ++ g (f.final s)

def forEach (f : α → Steps σ) : List α → Steps σ
  | [] => skip
  | a :: items => (f a).andThen (forEach f items)

/-- Every state after a step has the invariant, from a state that has it. -/
def Keeps (Inv : σ → Prop) (f : Steps σ) : Prop := ∀ s, Inv s → ∀ s' ∈ f s, Inv s'

/-- From a state that has the invariant, every step passes through states as described, and the
last of them has the invariant again. -/
def Passes (Inv Mid : σ → Prop) (f : Steps σ) : Prop :=
  ∀ s, Inv s → (∀ s' ∈ f s, Mid s') ∧ Inv (f.final s)

variable {Inv Mid : σ → Prop} {f g : Steps σ}

@[simp] theorem final_once (step : σ → σ) (s : σ) : (once step).final s = step s := rfl

@[simp] theorem final_andThen (f g : Steps σ) (s : σ) :
    (f.andThen g).final s = g.final (f.final s) := by
  show (f s ++ g (f.final s)).getLastD s = (g (f.final s)).getLastD (f.final s)
  by_cases h : g (f.final s) = []
  · rw [h, List.append_nil]
    rfl
  · rw [List.getLastD_eq_getLast?, List.getLastD_eq_getLast?, List.getLast?_append_of_ne_nil _ h,
      List.getLast?_eq_getLast_of_ne_nil h]
    rfl

theorem getLastD_mem_or (states : List σ) (s : σ) :
    states.getLastD s ∈ states ∨ states.getLastD s = s := by
  cases states with
  | nil => exact .inr rfl
  | cons s' states =>
    left
    rw [List.getLastD_cons]
    exact List.getLastD_mem_cons

theorem final_of_forall {P : σ → Prop} {s : σ} (hs : P s) (h : ∀ s' ∈ f s, P s') :
    P (f.final s) := by
  rcases getLastD_mem_or (f s) s with hmem | hnone
  · exact h _ hmem
  · show P ((f s).getLastD s)
    rw [hnone]
    exact hs

/-! ### What every step keeps -/

theorem keeps_skip : Keeps Inv (skip : Steps σ) := fun _ _ _ h => nomatch h

theorem keeps_once {step : σ → σ} (h : ∀ s, Inv s → Inv (step s)) : Keeps Inv (once step) := by
  intro s hs s' hs'
  obtain rfl := List.mem_singleton.mp hs'
  exact h s hs

/-- **A computation that keeps an invariant ends in a state that has it**, also where it is
interrupted. -/
theorem Keeps.interrupted (h : Keeps Inv f) {s : σ} (hs : Inv s) (count : ℕ) :
    Inv (f.interrupted count s) := by
  rcases getLastD_mem_or ((f s).take count) s with hmem | hnone
  · exact h s hs _ (List.mem_of_mem_take hmem)
  · show Inv (((f s).take count).getLastD s)
    rw [hnone]
    exact hs

theorem Keeps.final (h : Keeps Inv f) {s : σ} (hs : Inv s) : Inv (f.final s) := by
  rcases getLastD_mem_or (f s) s with hmem | hnone
  · exact h s hs _ hmem
  · show Inv ((f s).getLastD s)
    rw [hnone]
    exact hs

theorem Keeps.andThen (hf : Keeps Inv f) (hg : Keeps Inv g) : Keeps Inv (f.andThen g) := by
  intro s hs s' hs'
  rcases List.mem_append.mp hs' with h | h
  · exact hf s hs s' h
  · exact hg _ (hf.final hs) s' h

theorem Keeps.forEach {f : α → Steps σ} (h : ∀ a, Keeps Inv (f a)) (items : List α) :
    Keeps Inv (forEach f items) := by
  induction items with
  | nil => exact keeps_skip
  | cons a items ih => exact (h a).andThen ih

theorem Keeps.then_reaches {Reached : σ → Prop} (hf : Keeps Inv f) (h : ∀ s, Inv s → Reached s)
    (hg : ∀ s, Inv s → ∀ s' ∈ g s, Reached s') :
    ∀ s, Inv s → ∀ s' ∈ f.andThen g s, Reached s' := by
  intro s hs s' hs'
  rcases List.mem_append.mp hs' with hfirst | hnext
  · exact h s' (hf s hs s' hfirst)
  · exact hg _ (hf.final hs) s' hnext

/-! ### What only whole parts keep -/

theorem Keeps.passes (h : Keeps Inv f) (hmid : ∀ s, Inv s → Mid s) : Passes Inv Mid f := by
  intro s hs
  constructor
  · intro s' hs'
    exact hmid s' (h s hs s' hs')
  · exact h.final hs

theorem passes_skip : Passes Inv Mid (skip : Steps σ) := fun _ hs => ⟨nofun, hs⟩

theorem Passes.andThen (hf : Passes Inv Mid f) (hg : Passes Inv Mid g) :
    Passes Inv Mid (f.andThen g) := by
  intro s hs
  obtain ⟨hpassed, hmiddle⟩ := hf s hs
  obtain ⟨hpassed', hlast⟩ := hg _ hmiddle
  constructor
  · intro s' hs'
    rcases List.mem_append.mp hs' with h | h
    · exact hpassed s' h
    · exact hpassed' s' h
  · rw [final_andThen]
    exact hlast

theorem Passes.forEach {f : α → Steps σ} (h : ∀ a, Passes Inv Mid (f a)) (items : List α) :
    Passes Inv Mid (forEach f items) := by
  induction items with
  | nil => exact passes_skip
  | cons a items ih => exact (h a).andThen ih

/-- **Wherever a computation stops**, it stops in a state that its steps pass through. -/
theorem Passes.interrupted (h : Passes Inv Mid f) (hmid : ∀ s, Inv s → Mid s) {s : σ} (hs : Inv s)
    (count : ℕ) : Mid (f.interrupted count s) := by
  rcases getLastD_mem_or ((f s).take count) s with hmem | hnone
  · exact (h s hs).1 _ (List.mem_of_mem_take hmem)
  · show Mid (((f s).take count).getLastD s)
    rw [hnone]
    exact hmid s hs

end Steps

end SolarFlowEms.Interrupted
