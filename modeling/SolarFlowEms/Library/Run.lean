import Mathlib.Init

/-!
# Runs of a deterministic step function

A system takes one input at a time; a run is the list of its inputs.  `EveryStep` says
that a property of a state and the input it meets holds all along a run.  An invariant
that every step preserves under an assumption about the step holds at the end of every
run whose steps meet the assumption, and before each of its steps.
-/

namespace SolarFlowEms.Run

variable {σ α : Type*} (step : σ → α → σ)

def run (s : σ) (inputs : List α) : σ := inputs.foldl step s

@[simp] theorem run_nil (s : σ) : run step s [] = s := rfl

@[simp] theorem run_cons (s : σ) (a : α) (inputs : List α) :
    run step s (a :: inputs) = run step (step s a) inputs := rfl

theorem run_append (s : σ) (inputs inputs' : List α) :
    run step s (inputs ++ inputs') = run step (run step s inputs) inputs' :=
  List.foldl_append

/-- `P` holds of every state of the run together with the input taken there. -/
def EveryStep (P : σ → α → Prop) : σ → List α → Prop
  | _, [] => True
  | s, a :: inputs => P s a ∧ EveryStep P (step s a) inputs

/-- A property that can be checked at a step can be checked along a run. -/
instance decidableEveryStep (P : σ → α → Prop) [∀ s a, Decidable (P s a)] :
    ∀ s inputs, Decidable (EveryStep step P s inputs)
  | _, [] => isTrue trivial
  | s, a :: inputs =>
    have := decidableEveryStep P (step s a) inputs
    inferInstanceAs (Decidable (P s a ∧ EveryStep step P (step s a) inputs))

variable {step} {P Q : σ → α → Prop} {s : σ} {inputs inputs' : List α}

theorem EveryStep.mono (hPQ : ∀ s a, P s a → Q s a) (h : EveryStep step P s inputs) :
    EveryStep step Q s inputs := by
  induction inputs generalizing s with
  | nil => trivial
  | cons a inputs ih => exact ⟨hPQ s a h.1, ih h.2⟩

theorem EveryStep.and (h : EveryStep step P s inputs) (h' : EveryStep step Q s inputs) :
    EveryStep step (fun s a => P s a ∧ Q s a) s inputs := by
  induction inputs generalizing s with
  | nil => trivial
  | cons a inputs ih => exact ⟨⟨h.1, h'.1⟩, ih h.2 h'.2⟩

theorem everyStep_append :
    EveryStep step P s (inputs ++ inputs') ↔
      EveryStep step P s inputs ∧ EveryStep step P (run step s inputs) inputs' := by
  induction inputs generalizing s with
  | nil => simp [EveryStep]
  | cons a inputs ih => simp [EveryStep, ih, and_assoc]

theorem everyStep_true (step : σ → α → σ) (s : σ) (inputs : List α) :
    EveryStep step (fun _ _ => True) s inputs := by
  induction inputs generalizing s with
  | nil => trivial
  | cons a inputs ih => exact ⟨trivial, ih (step s a)⟩

theorem everyStep_of_forall (h : ∀ a ∈ inputs, ∀ s, P s a) (s : σ) : EveryStep step P s inputs := by
  induction inputs generalizing s with
  | nil => trivial
  | cons a inputs ih =>
    refine ⟨h a List.mem_cons_self s, ih (fun a' ha' => ?_) (step s a)⟩
    exact h a' (List.mem_cons_of_mem a ha')

/-- **An invariant holds at the end of every run that meets the assumption.** -/
theorem run_invariant {Inv : σ → Prop} (hstep : ∀ s a, Inv s → P s a → Inv (step s a))
    (hs : Inv s) (h : EveryStep step P s inputs) : Inv (run step s inputs) := by
  induction inputs generalizing s with
  | nil => exact hs
  | cons a inputs ih => exact ih (hstep s a hs h.1) h.2

/-- **An invariant every step preserves holds at the end of every run**, and so does what the
steps relate, where relations of successive states compose. -/
theorem run_related {Inv : σ → Prop} {R : σ → σ → Prop} (hrefl : ∀ s, R s s)
    (htrans : ∀ s s' s'', R s s' → R s' s'' → R s s'')
    (hstep : ∀ s a, Inv s → Inv (step s a) ∧ R s (step s a)) (hs : Inv s) (inputs : List α) :
    Inv (run step s inputs) ∧ R s (run step s inputs) := by
  induction inputs generalizing s with
  | nil => exact ⟨hs, hrefl s⟩
  | cons a inputs ih =>
    obtain ⟨hinv, hrel⟩ := hstep s a hs
    obtain ⟨hinv', hrel'⟩ := ih hinv
    exact ⟨hinv', htrans _ _ _ hrel hrel'⟩

/-- **What an invariant gives for one step, it gives for every step of a run.** -/
theorem EveryStep.of_invariant {Inv : σ → Prop} (hstep : ∀ s a, Inv s → P s a → Inv (step s a))
    (hgood : ∀ s a, Inv s → P s a → Q s a) (hs : Inv s) (h : EveryStep step P s inputs) :
    EveryStep step Q s inputs := by
  induction inputs generalizing s with
  | nil => trivial
  | cons a inputs ih => exact ⟨hgood s a hs h.1, ih (hstep s a hs h.1) h.2⟩

/-- **A property that only one kind of step ends holds at the end of a run**, or there is a first
such step in it. -/
theorem holds_or_exists_event {A : σ → Prop} {E : σ → α → Prop}
    (hstep : ∀ s a, A s → P s a → A (step s a) ∨ E s a) (hs : A s)
    (h : EveryStep step P s inputs) :
    A (run step s inputs) ∨ ∃ before a after, inputs = before ++ a :: after ∧
      A (run step s before) ∧ P (run step s before) a ∧ E (run step s before) a ∧
      EveryStep step P (step (run step s before) a) after := by
  induction inputs generalizing s with
  | nil => exact .inl hs
  | cons a inputs ih =>
    rcases hstep s a hs h.1 with hkept | hevent
    · rcases ih hkept h.2 with hend | ⟨before, b, after, rfl, hbefore, hb, hevent, hafter⟩
      · exact .inl hend
      · exact .inr ⟨a :: before, b, after, rfl, hbefore, hb, hevent, hafter⟩
    · exact .inr ⟨[], a, inputs, rfl, hs, h.1, hevent, h.2⟩

/-! ### Steps that touch one key each -/

section

variable {κ γ β : Type*} {visit : σ → κ × γ → σ} (obs : κ → σ → β) {rows : List (κ × γ)} {k : κ}

theorem obs_run_of_notMem (hother : ∀ s row k, k ≠ row.1 → obs k (visit s row) = obs k s) (s : σ)
    (hk : k ∉ rows.map Prod.fst) : obs k (run visit s rows) = obs k s := by
  induction rows generalizing s with
  | nil => rfl
  | cons row rows ih =>
    rw [List.map_cons, List.mem_cons, not_or] at hk
    exact (ih (visit s row) hk.2).trans (hother s row k hk.1)

/-- **What is seen at a key is what the step for its row makes of it**, where each row has a key
of its own. -/
theorem obs_run_of_mem (hother : ∀ s row k, k ≠ row.1 → obs k (visit s row) = obs k s) {a : γ}
    (s : σ) (hrows : (rows.map Prod.fst).Nodup) (hmem : (k, a) ∈ rows) :
    ∃ s', obs k s' = obs k s ∧ obs k (run visit s rows) = obs k (visit s' (k, a)) := by
  induction rows generalizing s with
  | nil => cases hmem
  | cons row rows ih =>
    rw [List.map_cons, List.nodup_cons] at hrows
    rcases List.mem_cons.mp hmem with hhead | hrest
    · subst hhead
      exact ⟨s, rfl, obs_run_of_notMem obs hother _ hrows.1⟩
    · have hne : k ≠ row.1 := fun heq => hrows.1 (heq ▸ List.mem_map_of_mem hrest)
      obtain ⟨s', hs', hrun⟩ := ih (visit s row) hrows.2 hrest
      exact ⟨s', hs'.trans (hother s row k hne), hrun⟩

end

end SolarFlowEms.Run
