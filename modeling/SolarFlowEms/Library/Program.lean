import Mathlib.Init

/-!
# Programs that change a state and may raise

A program returns a value or raises, and either way leaves a state behind: an exception does not
take back what was done before it.  `Ends` is the pair of postconditions of a run, one for the
value it returns and one for what it raises, and it is computed through a program by one rule for
each way programs are put together.
-/

namespace SolarFlowEms

/-- A program over the states `σ` that raises in `ε`. -/
def Program (σ ε α : Type) : Type := σ → Except ε α × σ

namespace Program

variable {σ ε ε' α β : Type}

/-- What follows a program that returned, from the state it left. -/
def andThen (x : Program σ ε α) (f : α → Program σ ε β) : Program σ ε β := fun s =>
  match x s with
  | (.ok a, s) => f a s
  | (.error e, s) => (.error e, s)

instance : Monad (Program σ ε) where
  pure a := fun s => (.ok a, s)
  bind := andThen

def raise (e : ε) : Program σ ε α := fun s => (.error e, s)

/-- A computation that neither reads nor changes the state. -/
def ofExcept (x : Except ε α) : Program σ ε α := fun s => (x, s)

/-- `try: x except: handle`. -/
def catching (x : Program σ ε α) (handle : ε → Program σ ε α) : Program σ ε α := fun s =>
  match x s with
  | (.ok a, s) => (.ok a, s)
  | (.error e, s) => handle e s

/-- How a program ends, as a value: what it raises is not raised any further. -/
def attempting (x : Program σ ε α) : Program σ ε (Except ε α) := fun s => (.ok (x s).1, (x s).2)

def translating (f : ε → ε') (x : Program σ ε α) : Program σ ε' α := fun s =>
  ((x s).1.mapError f, (x s).2)

/-- `Q` holds of what a program returns from a state, `E` of what it raises. -/
def Ends (x : Program σ ε α) (s : σ) (Q : α → σ → Prop) (E : ε → σ → Prop) : Prop :=
  match x s with
  | (.ok a, s) => Q a s
  | (.error e, s) => E e s

variable {Q Q' : α → σ → Prop} {E E' : ε → σ → Prop} {s : σ}

@[simp] theorem ends_pure (a : α) : Ends (pure a : Program σ ε α) s Q E ↔ Q a s := Iff.rfl

@[simp] theorem ends_raise (e : ε) : Ends (raise e : Program σ ε α) s Q E ↔ E e s := Iff.rfl

variable {x : Program σ ε α} {a : α} {s' : σ} {f : α → Program σ ε β}

theorem ends_of_eq_ok (h : x s = (.ok a, s')) :
    Ends x s Q E ↔ Q a s' := by
  rw [Ends, h]

theorem ends_of_eq_error {e : ε} (h : x s = (.error e, s')) :
    Ends x s Q E ↔ E e s' := by
  rw [Ends, h]

/-- **A sequence ends as its second part does behind its first**, or as its first raises. -/
@[simp] theorem ends_bind {Q : β → σ → Prop} :
    Ends (x >>= f) s Q E ↔ Ends x s (fun a s => Ends (f a) s Q E) E := by
  have hbind : (x >>= f) s =
      match x s with
      | (.ok a, s) => f a s
      | (.error e, s) => (.error e, s) := rfl
  rw [Ends, Ends, hbind]
  cases x s with
  | mk outcome s' => cases outcome <;> rfl

@[simp] theorem ends_catching {handle : ε → Program σ ε α} :
    Ends (catching x handle) s Q E ↔ Ends x s Q (fun e s => Ends (handle e) s Q E) := by
  rw [Ends, Ends, catching]
  cases x s with
  | mk outcome s' => cases outcome <;> rfl

@[simp] theorem ends_attempting {Q : Except ε α → σ → Prop} :
    Ends (attempting x) s Q E ↔ Ends x s (fun a s => Q (.ok a) s) (fun e s => Q (.error e) s) := by
  rw [Ends, Ends, attempting]
  cases x s with
  | mk outcome s' => cases outcome <;> rfl

@[simp] theorem ends_translating {f : ε' → ε} {x : Program σ ε' α} :
    Ends (translating f x) s Q E ↔ Ends x s Q (fun e s => E (f e) s) := by
  rw [Ends, Ends, translating]
  cases x s with
  | mk outcome s' => cases outcome <;> rfl

theorem Ends.mono {x : Program σ ε α} (h : Ends x s Q E) (hQ : ∀ a s, Q a s → Q' a s)
    (hE : ∀ e s, E e s → E' e s) : Ends x s Q' E' := by
  rw [Ends] at h ⊢
  cases hx : x s with
  | mk outcome s' =>
    rw [hx] at h
    cases outcome with
    | ok a => exact hQ a s' h
    | error e => exact hE e s' h

theorem Ends.state {P : σ → Prop} (h : Ends x s (fun _ => P) (fun _ => P)) :
    P (x s).2 := by
  rw [Ends] at h
  cases hx : x s with
  | mk outcome s' =>
    rw [hx] at h
    cases outcome <;> exact h

theorem Ends.of_ok (h : Ends x s Q E) (hx : x s = (.ok a, s')) : Q a s' := by
  rw [Ends, hx] at h
  exact h

/-! ### Programs that only read -/

/-- A program that leaves every state as it is, whether it returns or raises. -/
def Reads (x : Program σ ε α) : Prop := ∀ s, (x s).2 = s

theorem reads_pure (a : α) : Reads (pure a : Program σ ε α) := fun _ => rfl

theorem reads_raise (e : ε) : Reads (raise e : Program σ ε α) := fun _ => rfl

theorem reads_ofExcept (x : Except ε α) : Reads (ofExcept x : Program σ ε α) := fun _ => rfl

theorem Reads.bind (hx : Reads x) (hf : ∀ a, Reads (f a)) : Reads (x >>= f) := by
  intro s
  have hbind : (x >>= f) s =
      match x s with
      | (.ok a, s) => f a s
      | (.error e, s) => (.error e, s) := rfl
  have hstate := hx s
  rw [hbind]
  cases hrun : x s with
  | mk outcome s' =>
    obtain rfl : s' = s := by rw [hrun] at hstate; exact hstate
    cases outcome with
    | ok a => exact hf a s'
    | error e => rfl

/-- **What a program that only reads ends in is told from its outcome.** -/
theorem ends_of_reads (h : Reads x) :
    Ends x s Q E ↔ (∀ a, (x s).1 = .ok a → Q a s) ∧ ∀ e, (x s).1 = .error e → E e s := by
  have hstate := h s
  rw [Ends]
  cases hrun : x s with
  | mk outcome s' =>
    obtain rfl : s' = s := by rw [hrun] at hstate; exact hstate
    cases outcome with
    | ok a =>
      constructor
      · intro hQ
        exact ⟨fun a' ha' => Except.ok.inj ha' ▸ hQ, fun e he => (by cases he)⟩
      · intro hboth
        exact hboth.1 a rfl
    | error e =>
      constructor
      · intro hE
        exact ⟨fun a ha => (by cases ha), fun e' he' => Except.error.inj he' ▸ hE⟩
      · intro hboth
        exact hboth.2 e rfl

@[simp] theorem ends_ofExcept {x : Except ε α} :
    Ends (ofExcept x : Program σ ε α) s Q E ↔
      (∀ a, x = .ok a → Q a s) ∧ ∀ e, x = .error e → E e s := ends_of_reads (reads_ofExcept x)

attribute [irreducible] Ends andThen

end Program

end SolarFlowEms
