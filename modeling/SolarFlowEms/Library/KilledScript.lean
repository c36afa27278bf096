import SolarFlowEms.Library.Run
import Mathlib.Data.List.Basic

/-!
# Scripts that may be killed between two of their commands

A script is the list of its commands, each of which changes a state.  It may be killed after any
number of them: then the commands in front have run and the others have not.  What is shown of
every command, in the state that it meets, holds of the commands that have run; and where a kill
does not part a command from a later one, the later one has run if the first has.
-/

namespace SolarFlowEms.KilledScript

open Run

variable {σ C : Type*} {perform : σ → C → σ}

/-- The commands that have run when the script ends or is killed after some of them. -/
def ran (script : List C) : Option ℕ → List C
  | none => script
  | some count => script.take count

def left (script : List C) : Option ℕ → List C
  | none => []
  | some count => script.drop count

/-- The kill falls between a command of the first kind and one of the second. -/
def cutBetween (first second : C → Bool) (script : List C) (kill : Option ℕ) : Bool :=
  (ran script kill).any first && (left script kill).any second

theorem ran_append_left (script : List C) (kill : Option ℕ) :
    ran script kill ++ left script kill = script := by
  cases kill with
  | none => exact List.append_nil script
  | some count => exact List.take_append_drop count script

variable {script : List C} {kill : Option ℕ} {c : C} {s : σ} {P : σ → Prop}

theorem mem_of_mem_ran (h : c ∈ ran script kill) :
    c ∈ script := by
  rw [← ran_append_left script kill]
  exact List.mem_append_left _ h

/-- **Where a kill does not part two commands, the second has run if the first has.** -/
theorem mem_ran_of_not_cut {first second : C → Bool} {c' : C}
    (hcut : cutBetween first second script kill = false) (hc : c ∈ ran script kill)
    (hfirst : first c = true) (hc' : c' ∈ script) (hsecond : second c' = true) :
    c' ∈ ran script kill := by
  rw [← ran_append_left script kill] at hc'
  rcases List.mem_append.mp hc' with hran | hleft
  · exact hran
  · have hcut' : cutBetween first second script kill = true := by
      rw [cutBetween, Bool.and_eq_true, List.any_eq_true, List.any_eq_true]
      exact ⟨⟨c, hc, hfirst⟩, c', hleft, hsecond⟩
    rw [hcut] at hcut'
    cases hcut'

theorem everyStep_ran {P : σ → C → Prop} (h : EveryStep perform P s script) (kill : Option ℕ) :
    EveryStep perform P s (ran script kill) := by
  rw [← ran_append_left script kill, everyStep_append] at h
  exact h.1

/-- **An invariant that every command keeps when it is due holds wherever the script is
killed.** -/
theorem invariant_ran {Inv : σ → Prop} {Due : σ → C → Prop}
    (hstep : ∀ s c, Inv s → Due s c → Inv (perform s c)) (hs : Inv s)
    (h : EveryStep perform Due s script) (kill : Option ℕ) :
    Inv (run perform s (ran script kill)) :=
  run_invariant hstep hs (everyStep_ran h kill)

theorem run_kept (hkept : ∀ c ∈ script, ∀ s, P s → P (perform s c)) (hs : P s) :
    P (run perform s script) :=
  run_invariant (P := fun _ c => c ∈ script) (fun s' c hs' hc => hkept c hc s' hs') hs
    (everyStep_of_forall (fun _ hc _ => hc) s)

/-- **What one command brings about and none undoes holds after a script that has run it.** -/
theorem run_of_mem (hc : c ∈ script)
    (hdone : ∀ s, P (perform s c)) (hkept : ∀ c' ∈ script, ∀ s, P s → P (perform s c')) (s : σ) :
    P (run perform s script) := by
  obtain ⟨before, after, rfl⟩ := List.append_of_mem hc
  rw [run_append, run_cons]
  refine run_kept (fun c' hc' => ?_) (hdone _)
  exact hkept c' (List.mem_append_right _ (List.mem_cons_of_mem c hc'))

end SolarFlowEms.KilledScript
