import Mathlib.Data.List.Forall2

/-!
# Computations that return or fail

How a failure comes out of a computation in `Except` that is put together from others: out of
a sequence, it comes from the first part or from what follows on its result, and out of a
traversal, it comes from one of the items.
-/

namespace SolarFlowEms.Fallible

universe u v

variable {α β : Type u} {ε ε' : Type v}

variable {x : Except ε α} {f : α → Except ε β} {b : β} {e : ε} {a : α} {items : List α}
  {results : List β}

theorem bind_eq_ok :
    (x >>= f) = .ok b ↔ ∃ a, x = .ok a ∧ f a = .ok b := by
  cases x with
  | error e =>
    constructor
    · intro h
      cases h
    · rintro ⟨a, h, -⟩
      cases h
  | ok a =>
    constructor
    · intro h
      exact ⟨a, rfl, h⟩
    · rintro ⟨a', h, hf⟩
      cases h
      exact hf

theorem bind_eq_error :
    (x >>= f) = .error e ↔ x = .error e ∨ ∃ a, x = .ok a ∧ f a = .error e := by
  cases x with
  | error e' =>
    constructor
    · intro h
      cases h
      exact .inl rfl
    · rintro (h | ⟨a, h, -⟩)
      · cases h
        rfl
      · cases h
  | ok a =>
    constructor
    · intro h
      exact .inr ⟨a, rfl, h⟩
    · rintro (h | ⟨a', h, hf⟩)
      · cases h
      · cases h
        exact hf

theorem map_eq_ok {f : α → β} :
    (f <$> x) = .ok b ↔ ∃ a, x = .ok a ∧ f a = b := by
  cases x with
  | error e =>
    constructor
    · intro h
      cases h
    · rintro ⟨a, h, -⟩
      cases h
  | ok a =>
    constructor
    · intro h
      exact ⟨a, rfl, Except.ok.inj h⟩
    · rintro ⟨a', h, rfl⟩
      cases h
      rfl

theorem map_eq_error {f : α → β} :
    (f <$> x) = .error e ↔ x = .error e := by
  cases x with
  | error e' => exact ⟨fun h => by cases h; rfl, fun h => by cases h; rfl⟩
  | ok a => exact ⟨nofun, nofun⟩

theorem mapError_eq_error {f : ε → ε'} {e : ε'} :
    x.mapError f = .error e ↔ ∃ e', x = .error e' ∧ f e' = e := by
  cases x with
  | error e' =>
    constructor
    · intro h
      cases h
      exact ⟨e', rfl, rfl⟩
    · rintro ⟨e'', h, hf⟩
      cases h
      rw [← hf]
      rfl
  | ok a =>
    constructor
    · intro h
      cases h
    · rintro ⟨e'', h, -⟩
      cases h

theorem mapError_eq_ok {f : ε → ε'} :
    x.mapError f = .ok a ↔ x = .ok a := by
  cases x with
  | error e => exact ⟨nofun, nofun⟩
  | ok a' => exact ⟨fun h => by cases h; rfl, fun h => by cases h; rfl⟩

/-- **A traversal returns one result for each item**, in order. -/
theorem mapM_eq_ok :
    items.mapM f = .ok results ↔ List.Forall₂ (fun a b => f a = .ok b) items results := by
  induction items generalizing results with
  | nil =>
    rw [List.mapM_nil, List.forall₂_nil_left_iff]
    exact ⟨fun h => by cases h; rfl, fun h => by cases h; rfl⟩
  | cons a items ih =>
    rw [List.mapM_cons, bind_eq_ok, List.forall₂_cons_left_iff]
    constructor
    · rintro ⟨b, hb, h⟩
      obtain ⟨rest, hrest, h⟩ := bind_eq_ok.mp h
      cases h
      exact ⟨b, rest, hb, ih.mp hrest, rfl⟩
    · rintro ⟨b, rest, hb, hrest, rfl⟩
      exact ⟨b, hb, bind_eq_ok.mpr ⟨rest, ih.mpr hrest, rfl⟩⟩

theorem exists_mem_of_mapM_eq_ok
    (h : items.mapM f = .ok results) (ha : a ∈ items) : ∃ b ∈ results, f a = .ok b := by
  induction mapM_eq_ok.mp h with
  | nil => cases ha
  | cons hab hrest ih =>
    rcases List.mem_cons.mp ha with rfl | hmem
    · exact ⟨_, List.mem_cons_self, hab⟩
    · obtain ⟨b, hb, hf⟩ := ih (mapM_eq_ok.mpr hrest) hmem
      exact ⟨b, List.mem_cons_of_mem _ hb, hf⟩

theorem exists_item_of_mapM_eq_ok
    (h : items.mapM f = .ok results) (hb : b ∈ results) : ∃ a ∈ items, f a = .ok b := by
  induction mapM_eq_ok.mp h with
  | nil => cases hb
  | cons hab hrest ih =>
    rcases List.mem_cons.mp hb with rfl | hmem
    · exact ⟨_, List.mem_cons_self, hab⟩
    · obtain ⟨a, ha, hf⟩ := ih (mapM_eq_ok.mpr hrest) hmem
      exact ⟨a, List.mem_cons_of_mem _ ha, hf⟩

/-- A traversal of items in an order has its results in the order that `f` makes of it. -/
theorem pairwise_of_mapM_eq_ok {R : α → α → Prop} {S : β → β → Prop}
    (h : items.mapM f = .ok results)
    (hitems : items.Pairwise R)
    (himp : ∀ a ∈ items, ∀ a' ∈ items, R a a' → ∀ b b', f a = .ok b → f a' = .ok b' → S b b') :
    results.Pairwise S := by
  induction mapM_eq_ok.mp h with
  | nil => exact List.Pairwise.nil
  | @cons a b items results hab hrest ih =>
    obtain ⟨hfirst, htail⟩ := List.pairwise_cons.mp hitems
    refine List.pairwise_cons.mpr ⟨fun b' hb' => ?_, ih (mapM_eq_ok.mpr hrest) htail ?_⟩
    · obtain ⟨a', ha', hf⟩ := exists_item_of_mapM_eq_ok (mapM_eq_ok.mpr hrest) hb'
      exact himp a List.mem_cons_self a' (List.mem_cons_of_mem a ha') (hfirst a' ha') b b' hab hf
    · intro a₁ h₁ a₂ h₂
      exact himp a₁ (List.mem_cons_of_mem a h₁) a₂ (List.mem_cons_of_mem a h₂)

theorem exists_of_mapM_eq_error (h : items.mapM f = .error e) : ∃ a ∈ items, f a = .error e := by
  induction items with
  | nil => cases h
  | cons a items ih =>
    rw [List.mapM_cons, bind_eq_error] at h
    rcases h with h | ⟨b, -, h⟩
    · exact ⟨a, List.mem_cons_self, h⟩
    · rcases bind_eq_error.mp h with h | ⟨_, _, h⟩
      · obtain ⟨a', ha', h'⟩ := ih h
        exact ⟨a', List.mem_cons_of_mem a ha', h'⟩
      · cases h

/-- **A traversal fails exactly when one of its items does.** -/
theorem exists_mapM_eq_error_iff :
    (∃ e, items.mapM f = .error e) ↔ ∃ a ∈ items, ∃ e, f a = .error e := by
  constructor
  · rintro ⟨e, h⟩
    obtain ⟨a, ha, he⟩ := exists_of_mapM_eq_error h
    exact ⟨a, ha, e, he⟩
  · rintro ⟨a, ha, e, he⟩
    induction items with
    | nil => cases ha
    | cons a' items ih =>
      rw [List.mapM_cons]
      cases hfirst : f a' with
      | error e' => exact ⟨e', rfl⟩
      | ok b =>
        rcases List.mem_cons.mp ha with rfl | hrest
        · rw [he] at hfirst
          cases hfirst
        · obtain ⟨e', he'⟩ := ih hrest
          exact ⟨e', bind_eq_error.mpr (.inr ⟨b, rfl, bind_eq_error.mpr (.inl he')⟩)⟩

/-- **Two loops agree** where they take each item alike that they come to. -/
theorem foldlM_congr_until {f g : β → α → Except ε β} (passed : α → Prop)
    (hpassed : ∀ a b b', g b a = .ok b' → passed a)
    (h : ∀ earlier a later, items = earlier ++ a :: later → (∀ e ∈ earlier, passed e) →
      ∀ b, f b a = g b a) (b : β) : items.foldlM f b = items.foldlM g b := by
  induction items generalizing b with
  | nil => rfl
  | cons a items ih =>
    rw [List.foldlM_cons, List.foldlM_cons, h [] a items rfl (fun e he => absurd he List.not_mem_nil)]
    cases hb : g b a with
    | error e => rfl
    | ok b' =>
      apply ih
      intro earlier a' later heq hearlier
      refine h (a :: earlier) a' later (by rw [heq]; rfl) fun e he => ?_
      rcases List.mem_cons.mp he with rfl | he
      · exact hpassed e b b' hb
      · exact hearlier e he

end SolarFlowEms.Fallible
