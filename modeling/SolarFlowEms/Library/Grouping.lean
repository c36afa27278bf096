import Mathlib.Data.List.Flatten
import Mathlib.Data.List.Perm.Basic

/-!
# Groups collected under keys

Items are placed one after another: into the group of their key where there is one, else into a new
group at the end, which takes its mark from the placement that opened it.  `Tally` says what such a
run leaves: no key twice, and under each key its items in the order in which they were placed.
-/

namespace SolarFlowEms.Grouping

/-- The items under one key, and what the group is marked with. -/
structure Group (κ α μ : Type*) where
  key : κ
  members : List α
  mark : Option μ
deriving DecidableEq

/-- One placement: the key, the mark a new group takes, and the item. -/
abbrev Placement (κ α μ : Type*) := κ × Option μ × α

variable {κ α μ : Type*} [DecidableEq κ]

/-- Adds to the group of the key, or opens one at the end. -/
def place (p : Placement κ α μ) : List (Group κ α μ) → List (Group κ α μ)
  | [] => [⟨p.1, [p.2.2], p.2.1⟩]
  | g :: gs =>
      if g.key = p.1 then { g with members := g.members ++ [p.2.2] } :: gs
      else g :: place p gs

def placeAll (ps : List (Placement κ α μ)) (gs : List (Group κ α μ)) : List (Group κ α μ) :=
  ps.foldl (fun gs p => place p gs) gs

/-- The items placed under a key, in order. -/
def under (k : κ) (ps : List (Placement κ α μ)) : List α :=
  (ps.filter fun p => decide (p.1 = k)).map fun p => p.2.2

theorem under_append (k : κ) (ps qs : List (Placement κ α μ)) :
    under k (ps ++ qs) = under k ps ++ under k qs := by
  simp [under]

variable {β : Type*} {ps qs : List (Placement κ α μ)} {p : Placement κ α μ}
  {gs : List (Group κ α μ)} {g : Group κ α μ} {f : κ → Option μ}

theorem mem_under {k : κ} {a : α} :
    a ∈ under k ps ↔ ∃ m, (k, m, a) ∈ ps := by
  simp [under]

theorem under_perm (k : κ) (h : ps.Perm qs) :
    (under k ps).Perm (under k qs) :=
  (h.filter _).map _

/-- What a run of placements leaves. -/
structure Tally (ps : List (Placement κ α μ)) (gs : List (Group κ α μ)) : Prop where
  nodup : (gs.map Group.key).Nodup
  members : ∀ g ∈ gs, g.members = under g.key ps
  filled : ∀ g ∈ gs, g.members ≠ []
  covers : ∀ p ∈ ps, p.1 ∈ gs.map Group.key

theorem Tally.nil : Tally ([] : List (Placement κ α μ)) [] where
  nodup := List.nodup_nil
  members := by simp
  filled := by simp
  covers := by simp

/-! ### One placement -/

theorem keys_place (p : Placement κ α μ) (gs : List (Group κ α μ)) :
    (place p gs).map Group.key =
      if p.1 ∈ gs.map Group.key then gs.map Group.key else gs.map Group.key ++ [p.1] := by
  induction gs with
  | nil => simp [place]
  | cons g gs ih =>
    by_cases hg : g.key = p.1
    · simp [place, hg]
    · have hne : p.1 ≠ g.key := fun h => hg h.symm
      simp only [place, hg, if_false, List.map_cons, ih, List.mem_cons, hne, false_or]
      split <;> simp

theorem mem_place_of_ne (h : g ∈ place p gs) (hk : g.key ≠ p.1) : g ∈ gs := by
  induction gs with
  | nil =>
    rw [place, List.mem_singleton] at h
    exact absurd (by rw [h]) hk
  | cons g' gs ih =>
    rw [place] at h
    split at h
    · next hg =>
      rcases List.mem_cons.mp h with h | h
      · exact absurd (by rw [h]; exact hg) hk
      · exact List.mem_cons_of_mem _ h
    · rcases List.mem_cons.mp h with h | h
      · exact h ▸ List.mem_cons_self
      · exact List.mem_cons_of_mem _ (ih h)

theorem mem_place_self (hnd : (gs.map Group.key).Nodup) (h : g ∈ place p gs) (hk : g.key = p.1) :
    (∃ g' ∈ gs, g'.key = p.1 ∧ g = { g' with members := g'.members ++ [p.2.2] }) ∨
      p.1 ∉ gs.map Group.key ∧ g = ⟨p.1, [p.2.2], p.2.1⟩ := by
  induction gs with
  | nil =>
    rw [place, List.mem_singleton] at h
    exact .inr ⟨by simp, h⟩
  | cons g' gs ih =>
    rw [List.map_cons, List.nodup_cons] at hnd
    rw [place] at h
    split at h
    · next hg =>
      rcases List.mem_cons.mp h with h | h
      · exact .inl ⟨g', List.mem_cons_self, hg, h⟩
      · exact absurd (List.mem_map.mpr ⟨g, h, hk.trans hg.symm⟩) hnd.1
    · next hg =>
      rcases List.mem_cons.mp h with h | h
      · exact absurd (h ▸ hk) hg
      · rcases ih hnd.2 h with ⟨g₀, hmem, hkey, heq⟩ | ⟨hnot, heq⟩
        · exact .inl ⟨g₀, List.mem_cons_of_mem _ hmem, hkey, heq⟩
        · refine .inr ⟨?_, heq⟩
          rw [List.map_cons, List.mem_cons, not_or]
          exact ⟨fun hp => hg hp.symm, hnot⟩

theorem flatMap_place (f : κ → α → β) (p : Placement κ α μ) (gs : List (Group κ α μ)) :
    ((place p gs).flatMap fun g => g.members.map (f g.key)).Perm
      ((gs.flatMap fun g => g.members.map (f g.key)) ++ [f p.1 p.2.2]) := by
  induction gs with
  | nil => simp [place]
  | cons g gs ih =>
    by_cases hg : g.key = p.1
    · simp only [place, hg, if_true, List.flatMap_cons, List.map_append, List.append_assoc]
      exact List.Perm.append_left _ List.perm_append_comm
    · simp only [place, hg, if_false, List.flatMap_cons, List.append_assoc]
      exact List.Perm.append_left _ ih

theorem Tally.place (h : Tally ps gs) (p : Placement κ α μ) : Tally (ps ++ [p]) (place p gs) := by
  have hkey : ∀ k, k ∈ (Grouping.place p gs).map Group.key ↔ k ∈ gs.map Group.key ∨ k = p.1 := by
    intro k
    rw [keys_place]
    split
    · next hmem => exact ⟨.inl, fun hk => hk.elim id (fun hk => hk ▸ hmem)⟩
    · rw [List.mem_append, List.mem_singleton]
  have hsplit : ∀ g ∈ Grouping.place p gs,
      g.members = under g.key (ps ++ [p]) ∧ g.members ≠ [] := by
    intro g hg
    by_cases hk : g.key = p.1
    · have hone : under g.key [p] = [p.2.2] := by simp [under, hk]
      rw [under_append, hone]
      rcases mem_place_self h.nodup hg hk with ⟨g', hmem, hkey', rfl⟩ | ⟨hnot, rfl⟩
      · exact ⟨by rw [← h.members g' hmem], by simp⟩
      · have hnone : under p.1 ps = [] := by
          apply List.eq_nil_iff_forall_not_mem.mpr
          intro a ha
          obtain ⟨m, hm⟩ := mem_under.mp ha
          exact hnot (h.covers (p.1, m, a) hm)
        exact ⟨by rw [hnone]; rfl, by simp⟩
    · have hone : under g.key [p] = [] := by simp [under, Ne.symm hk]
      have hmem := mem_place_of_ne hg hk
      rw [under_append, hone, List.append_nil]
      exact ⟨h.members g hmem, h.filled g hmem⟩
  refine ⟨?_, fun g hg => (hsplit g hg).1, fun g hg => (hsplit g hg).2, ?_⟩
  · rw [keys_place]
    split
    · exact h.nodup
    · next hnot =>
      refine List.nodup_append.mpr ⟨h.nodup, by simp, ?_⟩
      intro a ha b hb hab
      rw [List.mem_singleton] at hb
      exact hnot (hb ▸ hab ▸ ha)
  · intro q hq
    rw [hkey]
    rcases List.mem_append.mp hq with hq | hq
    · exact .inl (h.covers q hq)
    · rw [List.mem_singleton] at hq
      exact .inr (congrArg Prod.fst hq)

/-! ### A run of placements -/

/-- **Under each key a run leaves what was placed there, in order.** -/
theorem Tally.placeAll (h : Tally ps gs)
    (qs : List (Placement κ α μ)) : Tally (ps ++ qs) (placeAll qs gs) := by
  induction qs generalizing ps gs with
  | nil => simpa [Grouping.placeAll] using h
  | cons q qs ih => simpa [Grouping.placeAll] using ih (h.place q)

/-- **Nothing placed is lost and nothing is held twice**: what the groups hold, each item with its
key, is what was placed. -/
theorem flatMap_placeAll (f : κ → α → β) (ps : List (Placement κ α μ)) (gs : List (Group κ α μ)) :
    ((placeAll ps gs).flatMap fun g => g.members.map (f g.key)).Perm
      ((gs.flatMap fun g => g.members.map (f g.key)) ++ ps.map fun p => f p.1 p.2.2) := by
  induction ps generalizing gs with
  | nil => simp [placeAll]
  | cons p ps ih =>
    have h := (ih (place p gs)).trans ((flatMap_place f p gs).append_right _)
    simpa [placeAll] using h

theorem under_flatMap_perm {keys : List κ} (hnd : keys.Nodup) (hcover : ∀ p ∈ ps, p.1 ∈ keys) :
    (keys.flatMap fun k => under k ps).Perm (ps.map fun p => p.2.2) := by
  induction keys generalizing ps with
  | nil =>
    have hps : ps = [] := List.eq_nil_iff_forall_not_mem.mpr fun p hp => by
      simpa using hcover p hp
    rw [hps]
    rfl
  | cons k keys ih =>
    rw [List.nodup_cons] at hnd
    let rest := ps.filter fun p => !decide (p.1 = k)
    have hrest : ∀ k' ∈ keys, under k' ps = under k' rest := by
      intro k' hk'
      have hne : k' ≠ k := fun h => hnd.1 (h ▸ hk')
      simp only [under, rest, List.filter_filter]
      refine congrArg (List.map _) (List.filter_congr fun p _ => ?_)
      by_cases hp : p.1 = k'
      · simp [hp, hne]
      · simp [hp]
    have hcover' : ∀ p ∈ rest, p.1 ∈ keys := by
      intro p hp
      have hmem := List.mem_filter.mp hp
      have hne : p.1 ≠ k := by simpa using hmem.2
      exact (List.mem_cons.mp (hcover p hmem.1)).resolve_left hne
    have htail := ih hnd.2 hcover'
    rw [List.flatMap_cons, List.flatMap_congr hrest]
    have hsplit := (List.filter_append_perm (fun p => decide (p.1 = k)) ps).map fun p => p.2.2
    rw [List.map_append] at hsplit
    exact (htail.append_left _).trans hsplit

/-- **Every item placed stands in exactly one group.** -/
theorem Tally.flatMap_perm
    (h : Tally ps gs) : (gs.flatMap Group.members).Perm (ps.map fun p => p.2.2) := by
  have hunder := under_flatMap_perm h.nodup h.covers
  rw [List.flatMap_map] at hunder
  rw [List.flatMap_congr h.members]
  exact hunder

theorem Tally.mapMark (h : Tally ps gs)
    (f : Group κ α μ → Option μ) : Tally ps (gs.map fun g => { g with mark := f g }) where
  nodup := by
    rw [List.map_map]
    exact h.nodup
  members := by
    intro g hg
    obtain ⟨g', hmem, rfl⟩ := List.mem_map.mp hg
    exact h.members g' hmem
  filled := by
    intro g hg
    obtain ⟨g', hmem, rfl⟩ := List.mem_map.mp hg
    exact h.filled g' hmem
  covers := by
    rw [List.map_map]
    exact h.covers

/-! ### Marks that follow from the keys -/

def Marked (f : κ → Option μ) (gs : List (Group κ α μ)) : Prop := ∀ g ∈ gs, g.mark = f g.key

theorem Marked.place (h : Marked f gs) (hnd : (gs.map Group.key).Nodup)
    (hp : p.2.1 = f p.1 ∨ p.1 ∈ gs.map Group.key) : Marked f (place p gs) := by
  intro g hg
  by_cases hk : g.key = p.1
  · rcases mem_place_self hnd hg hk with ⟨g', hmem, -, rfl⟩ | ⟨hnot, rfl⟩
    · exact h g' hmem
    · exact hp.resolve_right hnot
  · exact h g (mem_place_of_ne hg hk)

theorem Marked.placeAll (h : Marked f gs) (ht : Tally ps gs)
    (hq : ∀ q ∈ qs, q.2.1 = f q.1 ∨ q.1 ∈ gs.map Group.key) : Marked f (placeAll qs gs) := by
  induction qs generalizing ps gs with
  | nil => exact h
  | cons q qs ih =>
    refine ih (h.place ht.nodup (hq q List.mem_cons_self)) (ht.place q) ?_
    intro q' hq'
    rcases hq q' (List.mem_cons_of_mem _ hq') with hm | hm
    · exact .inl hm
    · refine .inr ?_
      rw [keys_place]
      split
      · exact hm
      · exact List.mem_append_left _ hm

/-! ### What a list gives to one of several passes -/

theorem filterMap_append_perm {f g h : α → Option β} (l : List α)
    (hor : ∀ a ∈ l, (f a = h a ∧ g a = none) ∨ (f a = none ∧ g a = h a)) :
    (l.filterMap f ++ l.filterMap g).Perm (l.filterMap h) := by
  induction l with
  | nil => simp
  | cons a l ih =>
    have ih := ih fun b hb => hor b (List.mem_cons_of_mem _ hb)
    rcases hor a List.mem_cons_self with ⟨hf, hg⟩ | ⟨hf, hg⟩
    · cases hh : h a with
      | none => simpa [List.filterMap_cons, hf, hg, hh] using ih
      | some b => simpa [List.filterMap_cons, hf, hg, hh] using ih.cons b
    · cases hh : h a with
      | none => simpa [List.filterMap_cons, hf, hg, hh] using ih
      | some b =>
        simp only [List.filterMap_cons, hf, hg, hh]
        exact List.perm_middle.trans (ih.cons b)

end SolarFlowEms.Grouping
